/-!
# Integers in a text

A text shows an integer in decimal digits. The host may set a limit to their number, and then an
integer with more digits is not written at all, nor is the text that was to show it. The sign does not
count as a digit.

## Main definitions

- `DigitLimit`: the limit, if there is one.
- `DigitLimit.allows`: whether an integer can be written.
- `DigitLimit.refusal`: the complaint about an integer that cannot.
-/

namespace ChipEight

/-- The greatest number of digits of an integer in a text, if there is one. -/
abbrev DigitLimit := Option Nat

namespace DigitLimit

/-- The limit unless the host sets another one or none. -/
def standard : DigitLimit :=
  some 4300

/-- Whether an integer has no more digits than the limit allows. -/
def allows (limit : DigitLimit) (k : Int) : Bool :=
  match limit with
  | none => true
  | some n => decide (k.natAbs < Nat.pow 10 n)

/-- The text of the complaint about an integer with too many digits. -/
def refusal (limit : DigitLimit) : String :=
  "Exceeds the limit (" ++ toString (limit.getD 0) ++ " digits) for integer string conversion; " ++
    "use sys.set_int_max_str_digits() to increase the limit"

theorem allows_iff {limit : DigitLimit} {k : Int} :
    limit.allows k = true ↔ ∀ n, limit = some n → k.natAbs < Nat.pow 10 n := by
  cases limit with
  | none => exact iff_of_true rfl nofun
  | some n => simp only [allows, decide_eq_true_eq, Option.some.injEq, forall_eq']

end DigitLimit

end ChipEight
