/-!
# Rounding and the binary64 grid

A quotient of integers is first rounded to the binary64 grid, as a floating-point division does, and
then to a whole number or to tenths. All of it is exact arithmetic on natural numbers.

## Main definitions

- `roundHalfEven a b`: the whole number nearest to `a / b`, of two equally near ones the even one.
- `Dyadic`: a number `mantissa * 2 ^ exponent`.
- `Dyadic.ofRatio`: the binary64 number nearest to a quotient.
- `Dyadic.roundTimes`: a multiple of a dyadic number rounded to a whole number.
-/

namespace ChipEight

/-- The whole number nearest to `a / b`; of two equally near ones the even one. -/
def roundHalfEven (a b : Nat) : Nat :=
  let q := a / b
  let r := a % b
  if 2 * r < b then q
  else if b < 2 * r then q + 1
  else if q % 2 = 0 then q
  else q + 1

/-- The number `mantissa * 2 ^ exponent`. -/
structure Dyadic where
  mantissa : Nat
  exponent : Int
  deriving DecidableEq, Repr

namespace Dyadic

/-- The fraction `a / b` divided by a power of two, as a numerator and a denominator. -/
def scaleDown (a b : Nat) (e : Int) : Nat × Nat :=
  if 0 ≤ e then (a, b * Nat.pow 2 e.toNat) else (a * Nat.pow 2 (-e).toNat, b)

/-- The exponent of the highest bit of `a / b`. -/
def leadingExponent (a b : Nat) : Int :=
  let k : Int := a.log2 - b.log2
  let (n, d) := scaleDown a b k
  if d ≤ n then k else k - 1

/-- The binary64 number nearest to `a / b`, ties to the even mantissa, without a largest exponent.
The mantissa has at most 53 bits, or is `2 ^ 53` where rounding carried. -/
def ofRatio (a b : Nat) : Dyadic :=
  let e := max (leadingExponent a b - 52) (-1074)
  let (n, d) := scaleDown a b e
  ⟨roundHalfEven n d, e⟩

/-- Whether a number lies beyond the largest finite binary64 number. -/
def overflows (x : Dyadic) : Bool :=
  decide (0 ≤ x.exponent) && decide (Nat.pow 2 1024 ≤ x.mantissa * Nat.pow 2 x.exponent.toNat)

/-- The number times `k`, rounded to a whole number, ties to even. -/
def roundTimes (k : Nat) (x : Dyadic) : Nat :=
  if 0 ≤ x.exponent then k * x.mantissa * Nat.pow 2 x.exponent.toNat
  else roundHalfEven (k * x.mantissa) (Nat.pow 2 (-x.exponent).toNat)

/-- The number rounded to a whole number, ties to even. -/
def round (x : Dyadic) : Nat :=
  x.roundTimes 1

/-- The number with one decimal place, exact ties to the even neighbour. -/
def tenths (x : Dyadic) : String :=
  let t := x.roundTimes 10
  toString (t / 10) ++ "." ++ toString (t % 10)

end Dyadic

end ChipEight
