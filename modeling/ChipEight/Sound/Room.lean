import ChipEight.FaultKind
import ChipEight.Number.Binary64

/-!
# Room for samples

Samples are held in arrays of two bytes a sample. The sides of an array and its bytes are counted in
63 bits, and there has to be memory for them. How much memory there is depends on the host, so that
the checks are told which numbers of bytes it allocates.

## Main definitions

- `RoomFault`: why there is no room for an array.
- `claimRoom`: the check that there is room for an array with given sides.
- `repeatRoom`: the same for an array whose rows are repeated.
- `sizeText`: a number of bytes in the largest unit that it fills.
-/

namespace ChipEight

/-- Why there is no room for an array. -/
inductive RoomFault where
  /-- A side is too long to be counted. -/
  | side
  /-- The bytes are too many to be counted. -/
  | bytes
  /-- A number of repetitions is too large to be counted. -/
  | repetitions
  /-- A side is negative. -/
  | negative
  /-- There is no memory for an array with these sides. -/
  | memory (sides : List Nat)
  deriving DecidableEq, Repr

/-- The least number that 63 bits do not count. -/
def countLimit : Nat := Nat.pow 2 63

/-- The number of bytes of a sample. -/
def sampleWidth : Nat := 2

/-- A positive number in three significant digits, with a point even behind the last of them, or,
from a thousand on, in all digits before the point. -/
def threeDigits (x : Dyadic) : String :=
  let hundredths := x.roundTimes 100
  let tenths := x.roundTimes 10
  if hundredths < 1000 then
    let rest := hundredths % 100
    toString (hundredths / 100) ++ "." ++ toString (rest / 10) ++ toString (rest % 10)
  else if tenths < 1000 then toString (tenths / 10) ++ "." ++ toString (tenths % 10)
  else toString x.round ++ "."

/-- The units of size, each 1024 times the one before. -/
def sizeUnits : List String :=
  ["bytes", "KiB", "MiB", "GiB", "TiB", "PiB", "EiB"]

/-- A number of bytes in the largest unit that it fills, after rounding. -/
def sizeText (bytes : Nat) : String :=
  let lower := max 1 bytes.log2 / 10
  let rounded := (Dyadic.ofRatio bytes (Nat.pow 1024 lower)).round
  let rank := if rounded = 1024 then lower + 1 else lower
  let x := Dyadic.ofRatio bytes (Nat.pow 1024 rank)
  (if rank = 0 then toString x.round else threeDigits x) ++ " " ++ sizeUnits.getD rank ""

/-- The sides of an array between parentheses. -/
def sidesText : List Nat → String
  | [n] => "(" ++ toString n ++ ",)"
  | sides => "(" ++ ", ".intercalate (sides.map toString) ++ ")"

/-- The text of the complaint. -/
def RoomFault.message : RoomFault → String
  | .side => "Maximum allowed dimension exceeded"
  | .bytes =>
    "array is too big; \x60arr.size * arr.dtype.itemsize\x60 is larger than the maximum " ++
      "possible size."
  | .repetitions => "Python int too large to convert to C long"
  | .negative => "negative dimensions are not allowed"
  | .memory sides =>
    "Unable to allocate " ++ sizeText (sides.foldl Nat.mul sampleWidth) ++
      " for an array with shape " ++ sidesText sides ++ " and data type int16"

/-- The kind of the complaint. -/
def RoomFault.kind : RoomFault → FaultKind
  | .repetitions => .large
  | .memory _ => .memory
  | _ => .senseless

instance : IsFault RoomFault := ⟨RoomFault.kind, RoomFault.message⟩

/-- The check that there is room for an array with given sides, where a host allocates some numbers
of bytes and others not. -/
def claimRoom (allocates : Nat → Bool) (sides : List Nat) : Except RoomFault Unit :=
  let bytes := sides.foldl Nat.mul sampleWidth
  if sides.any fun n => decide (countLimit ≤ n) then .error .side
  else if countLimit ≤ bytes then .error .bytes
  else if allocates bytes then .ok ()
  else .error (.memory sides)

/-- The check that a number of repetitions can be counted. -/
def countRepetitions (times : Int) : Except RoomFault Unit :=
  if (countLimit : Int) ≤ times ∨ times < -(countLimit : Int) then .error .repetitions
  else .ok ()

/-- An integer as a counter of 64 bits with a sign holds it. -/
def wrapCount (k : Int) : Int :=
  (k + countLimit) % (2 * countLimit) - countLimit

/-- The check that there is room for `length` samples, each one repeated. The length of the result
is a product that wraps around where it is too large to be counted. -/
def repeatRoom (allocates : Nat → Bool) (length : Nat) (times : Int) : Except RoomFault Unit := do
  countRepetitions times
  let total := wrapCount (length * times)
  if total < 0 then throw .negative
  claimRoom allocates [total.toNat]

end ChipEight
