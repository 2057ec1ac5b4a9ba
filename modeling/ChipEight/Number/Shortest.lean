/-!
# Shortest decimals

A binary64 number is written with the fewest decimal digits that read back as the same number, and
of those decimals the one nearest to it.

## Main definitions

- `Decimal`: a number `digits * 10 ^ exponent`.
- `RoundingInterval`: the reals that round to a binary64 number, with the number itself.
- `RoundingInterval.shortest`: the shortest decimal inside.
-/

namespace ChipEight

/-- The number `digits * 10 ^ exponent`. -/
structure Decimal where
  digits : Nat
  exponent : Int
  deriving DecidableEq, Repr

/-- The reals between `low / scale` and `high / scale`, which all round to `value / scale`. -/
structure RoundingInterval where
  low : Nat
  value : Nat
  high : Nat
  scale : Nat
  /-- Whether the two ends round to the value as well. -/
  closed : Bool

namespace RoundingInterval

/-- The interval of a positive number `m * 2 ^ e`; below the least mantissa of a binade the gap to
the next number is half as wide. -/
def ofMantissa (m : Nat) (e : Int) : RoundingInterval :=
  let below := if m = Nat.pow 2 52 ∧ -1074 < e then 1 else 2
  let up := Nat.pow 2 e.toNat
  { low := (4 * m - below) * up
    value := 4 * m * up
    high := (4 * m + 2) * up
    scale := 4 * Nat.pow 2 (-e).toNat
    closed := decide (m % 2 = 0) }

/-- A decimal `c * 10 ^ p` over the scale of the interval, and the power of ten that the interval
has to be multiplied by to compare with it. -/
def lift (i : RoundingInterval) (c : Nat) (p : Int) : Nat × Nat :=
  (c * Nat.pow 10 p.toNat * i.scale, Nat.pow 10 (-p).toNat)

/-- Whether a decimal lies in the interval. -/
def holds (i : RoundingInterval) (c : Nat) (p : Int) : Bool :=
  let (n, t) := i.lift c p
  if i.closed then decide (i.low * t ≤ n ∧ n ≤ i.high * t)
  else decide (i.low * t < n ∧ n < i.high * t)

/-- The least power of ten above the value, between `-330` and `309`. -/
def magnitude (i : RoundingInterval) : Int :=
  let powers := (List.range 640).map fun (k : Nat) => (k : Int) - 330
  (powers.find? fun p =>
    let (n, t) := i.lift 1 p
    decide (i.value * t < n)).getD 310

/-- The decimal of the grid `10 ^ p` that is nearest to the value and lies in the interval, if one
of the two neighbours of the value on that grid does. An exact tie goes to the even digits. -/
def onGrid? (i : RoundingInterval) (p : Int) : Option Decimal :=
  let (unit, t) := i.lift 1 p
  let down : Nat := i.value * t / unit
  let rest : Nat := i.value * t % unit
  match i.holds down p && decide (0 < down), i.holds (down + 1) p with
  | true, true =>
    if 2 * rest < unit ∨ (2 * rest = unit ∧ down % 2 = 0) then some ⟨down, p⟩
    else some ⟨down + 1, p⟩
  | true, false => some ⟨down, p⟩
  | false, true => some ⟨down + 1, p⟩
  | false, false => none

/-- The shortest decimal in the interval; seventeen digits always suffice. -/
def shortest (i : RoundingInterval) : Decimal :=
  let top := i.magnitude
  ((List.range 17).findSome? fun (k : Nat) => i.onGrid? (top - (k : Int) - 1)).getD
    ⟨i.value / i.scale, 0⟩

end RoundingInterval

end ChipEight
