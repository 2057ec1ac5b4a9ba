import ChipEight.Text.Blank
import ChipEight.Text.DecimalDigit

/-!
# Reading integers

An integer is written as digits of any script, with at most one underscore between two of them,
behind an optional sign; blanks may surround it.

## Main definitions

- `digitRun?`: the values of a run of digits.
- `readInt?`: the integer of a text.
-/

namespace ChipEight

/-- The values of a run of digits, which a single underscore may separate. -/
def digitRun? : List Char → Option (List Nat)
  | [] => none
  | [c] => (Text.digitValue? c).map fun d => [d]
  | c :: '_' :: rest => do
    let d ← Text.digitValue? c
    let ds ← digitRun? rest
    return d :: ds
  | c :: rest => do
    let d ← Text.digitValue? c
    let ds ← digitRun? rest
    return d :: ds

/-- The number of a run of digits. -/
def readNat? (cs : List Char) : Option Nat :=
  (digitRun? cs).map fun ds => ds.foldl (fun n d => 10 * n + d) 0

/-- The integer of a text. -/
def readInt? (s : String) : Option Int :=
  match Text.stripBlanks s.toList with
  | '-' :: cs => (readNat? cs).map fun n => -(n : Int)
  | '+' :: cs => (readNat? cs).map Int.ofNat
  | cs => (readNat? cs).map Int.ofNat

end ChipEight
