import ChipEight.Number.Binary64

/-!
# Binary64 numbers

A clock adds and subtracts on the binary64 grid, so that a long time swallows a short one. The
numbers of the grid are kept as integers, and every operation rounds the exact result once.

## Main definitions

- `Real64`: the numbers, with the two infinities and the undefined one.
- `Real64.ofFloat`, `Real64.toFloat`: a machine float taken apart and put together.
- `Real64.ofRatio`: the number nearest to a quotient of integers.
- `Real64.add`, `Real64.sub`: sum and difference.
- `Real64.hundredfold`, `Real64.div`: a multiple and the quotient.
- `Real64.atLeastOne`: the comparison with one.
-/

namespace ChipEight

/-- A binary64 number. -/
inductive Real64 where
  | nan
  | infinite (negative : Bool)
  /-- The number `mantissa * 2 ^ exponent`, with its sign. -/
  | finite (negative : Bool) (mantissa : Nat) (exponent : Int)
  deriving DecidableEq, Repr

namespace Real64

/-- Zero. -/
def zero : Real64 :=
  .finite false 0 0

/-- One. -/
def one : Real64 :=
  .finite false 1 0

/-- The parts of a float, from its sign bit, its eleven exponent bits and its 52 fraction bits. -/
def ofFloat (x : Float) : Real64 :=
  let bits := x.toBits.toNat
  let negative := decide (Nat.pow 2 63 ≤ bits)
  let biased : Nat := bits / Nat.pow 2 52 % Nat.pow 2 11
  let fraction : Nat := bits % Nat.pow 2 52
  if biased = 2047 then
    if fraction = 0 then .infinite negative else .nan
  else if biased = 0 then .finite negative fraction (-1074)
  else .finite negative (Nat.pow 2 52 + fraction) ((biased : Int) - 1075)

/-- The float with these parts, as rounding to the grid leaves them: a mantissa below `2 ^ 52` has
the least exponent, and one that a carry has brought to `2 ^ 53` is halved. -/
def toFloat (x : Real64) : Float :=
  let bits (negative : Bool) (n : Nat) : Float :=
    Float.ofBits (UInt64.ofNat (n + if negative then Nat.pow 2 63 else 0))
  match x with
  | .nan => bits false (2047 * Nat.pow 2 52 + Nat.pow 2 51)
  | .infinite negative => bits negative (2047 * Nat.pow 2 52)
  | .finite negative m e =>
    let (m, e) := if m = Nat.pow 2 53 then (Nat.pow 2 52, e + 1) else (m, e)
    if m < Nat.pow 2 52 then bits negative m
    else bits negative ((e + 1075).toNat * Nat.pow 2 52 + (m - Nat.pow 2 52))

/-- The number nearest to `n / d`; an infinity if that lies beyond all finite numbers. -/
def ofRatio (n : Int) (d : Nat) : Real64 :=
  let x := Dyadic.ofRatio n.natAbs d
  if x.overflows then .infinite (n < 0) else .finite (n < 0) x.mantissa x.exponent

/-- The number nearest to `n * 2 ^ e`. -/
def ofScaled (n : Int) (e : Int) : Real64 :=
  ofRatio (n * Int.pow 2 e.toNat) (Nat.pow 2 (-e).toNat)

/-- The mantissa of a number with its sign. -/
def signed (negative : Bool) (mantissa : Nat) : Int :=
  if negative then -(mantissa : Int) else mantissa

/-- The number with the other sign. -/
def neg : Real64 → Real64
  | .nan => .nan
  | .infinite negative => .infinite !negative
  | .finite negative m e => .finite (!negative) m e

/-- The sum. Infinities of both signs have none. -/
def add : Real64 → Real64 → Real64
  | .nan, _ => .nan
  | _, .nan => .nan
  | .infinite a, .infinite b => if a = b then .infinite a else .nan
  | .infinite a, .finite _ _ _ => .infinite a
  | .finite _ _ _, .infinite b => .infinite b
  | .finite s m e, .finite t n f =>
    let low := min e f
    ofScaled (signed s m * Int.pow 2 (e - low).toNat + signed t n * Int.pow 2 (f - low).toNat) low

/-- The difference. -/
def sub (x y : Real64) : Real64 :=
  x.add y.neg

/-- The number times a hundred. -/
def hundredfold : Real64 → Real64
  | .finite s m e => ofScaled (signed s (100 * m)) e
  | x => x

/-- The quotient by a number that is not zero. -/
def div : Real64 → Real64 → Real64
  | .nan, _ => .nan
  | _, .nan => .nan
  | .infinite _, .infinite _ => .nan
  | .infinite a, .finite t _ _ => .infinite (a != t)
  | .finite s _ _, .infinite b => .finite (s != b) 0 0
  | .finite s m e, .finite t n f =>
    ofRatio (signed (s != t) (m * Nat.pow 2 (e - f).toNat)) (n * Nat.pow 2 (f - e).toNat)

/-- Whether a number is zero. -/
def isZero : Real64 → Bool
  | .finite _ m _ => m == 0
  | _ => false

/-- Whether a number is one or more. -/
def atLeastOne : Real64 → Bool
  | .nan => false
  | .infinite negative => !negative
  | .finite negative m e =>
    !negative && decide (Nat.pow 2 (-e).toNat ≤ m * Nat.pow 2 e.toNat)

/-- The quotient of a count by a number that is one or more, with one decimal place. -/
def perUnit (count : Nat) : Real64 → String
  | .finite _ m e => (Dyadic.ofRatio (count * Nat.pow 2 (-e).toNat) (m * Nat.pow 2 e.toNat)).tenths
  | _ => "0.0"

end Real64

end ChipEight
