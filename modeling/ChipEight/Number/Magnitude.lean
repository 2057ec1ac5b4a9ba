import ChipEight.Number.Real64

/-!
# Magnitudes

Numbers of different makes are compared by where they stand on the number line, exactly. The line
has two ends, and an undefined number stands nowhere on it: every comparison with it fails.

## Main definitions

- `Magnitude`: a place on the line.
- `Magnitude.lt`, `Magnitude.same`, `Magnitude.le`: the comparisons.
- `Magnitude.ceiling`: the least natural number that is not below a magnitude.
-/

namespace ChipEight

/-- A place on the number line. -/
inductive Magnitude where
  /-- The fraction `n / d`, for a positive `d`. -/
  | fraction (n : Int) (d : Nat)
  /-- An end of the line. -/
  | infinite (negative : Bool)
  /-- Nowhere on the line. -/
  | undefined
  deriving DecidableEq, Repr

namespace Magnitude

/-- The place of an integer. -/
def ofInt (k : Int) : Magnitude :=
  .fraction k 1

/-- The place of a binary64 number. -/
def ofReal : Real64 → Magnitude
  | .nan => .undefined
  | .infinite negative => .infinite negative
  | .finite s m e => .fraction (Real64.signed s m * Int.pow 2 e.toNat) (Nat.pow 2 (-e).toNat)

/-- Whether a place lies before another one. -/
def lt : Magnitude → Magnitude → Bool
  | .fraction m d, .fraction n e => decide (m * e < n * d)
  | .fraction _ _, .infinite negative => !negative
  | .infinite negative, .fraction _ _ => negative
  | .infinite a, .infinite b => a && !b
  | _, _ => false

/-- Whether two places are the same one. -/
def same : Magnitude → Magnitude → Bool
  | .fraction m d, .fraction n e => decide (m * e = n * d)
  | .infinite a, .infinite b => a == b
  | _, _ => false

/-- Whether a place does not lie behind another one. -/
def le (a b : Magnitude) : Bool :=
  a.lt b || a.same b

/-- The integer at a place, if one stands there. -/
def integer? : Magnitude → Option Int
  | .fraction n d => if n % d = 0 then some (n / d) else none
  | _ => none

/-- A number that no counting comes to. -/
def beyondCounting : Nat := Nat.pow 2 64

/-- The least natural number that is not below a magnitude. -/
def ceiling : Magnitude → Nat
  | .fraction n d => (-(-n / (d : Int))).toNat
  | .infinite negative => if negative then 0 else beyondCounting
  | .undefined => 0

end Magnitude

end ChipEight
