import ChipEight.Datum.Operand
import ChipEight.Keypad
import ChipEight.Timers

/-!
# What a host leaves behind

A machine counts its timers and names its keys in integers. A host may put other values there: a
truth value, which is as good as an integer but shows as what it is, a real, or in a timer anything
at all. Such a value is left beside the machine, and the machine holds an integer in its place, one
that is above zero exactly when the value is.

## Main definitions

- `Leftovers`: what a host left in the timers and among the keys.
- `Leftovers.standIn`: the integer that stands for a value in a timer.
- `Leftovers.countDown`: one step of a timer that holds a value.
- `Leftovers.shown`: the keys of a set as they show.
- `Leftovers.press`, `Leftovers.lift`, `Leftovers.released?`: keys of any make.
-/

namespace ChipEight

/-- What a host left in a machine that is no integer. -/
structure Leftovers where
  /-- The value of the delay timer. -/
  delay : Option Datum := none
  /-- The value of the sound timer. -/
  sound : Option Datum := none
  /-- The held keys that are no integers. -/
  live : List Datum := []
  /-- The keys of the last snapshot that are no integers. -/
  last : List Datum := []

namespace Leftovers

/-- Whether nothing is left. -/
def isEmpty (l : Leftovers) : Bool :=
  l.delay.isNone && l.sound.isNone && l.live.isEmpty && l.last.isEmpty

/-! ### Timers -/

/-- What is left of a value that is put into a timer: nothing of an integer. -/
def ofTimer : Datum → Option Datum
  | .int _ => none
  | d => some d

/-- The integer that stands for a value in a timer. -/
def standIn (d : Datum) : Int :=
  d.integer?.getD (d.reaches.toOption.getD 0)

/-- One step of a countdown from a value, which stops at zero. -/
def countDown : Option Datum → Except OperandFault (Option Datum)
  | none => .ok none
  | some d => do
    if ← d.isAbove 0 then return ofTimer (← d.plus (-1))
    return some d

/-- What a timer shows. -/
def timer (left : Option Datum) (held : Int) : Datum :=
  left.getD (.int held)

/-! ### Keys -/

/-- Whether a key is among others, of whatever make they are. -/
def names (keys : List Datum) (d : Datum) : Bool :=
  keys.any d.sameNumber

/-- The integer code of a key. -/
def code? (d : Datum) : Option Int :=
  d.magnitude?.bind Magnitude.integer?

/-- Whether one key comes before another one or is the same. -/
def keyLe (a b : Datum) : Bool :=
  match a.magnitude?, b.magnitude? with
  | some m, some n => m.le n
  | _, _ => true

/-- The keys of a set in ascending order, those that are no integers as they were given. -/
def shown (held : KeySet) (left : List Datum) : List Datum :=
  let codes := held.toList.map fun k => Datum.int k.val
  (codes.filter (fun d => !names left d) ++ left).mergeSort keyLe

/-- What is left after a key was pressed: a key that is held already stays as it was given. -/
def press (keypad : Keypad) (d : Datum) (l : Leftovers) : Leftovers :=
  match d with
  | .int _ => l
  | d => if names (shown keypad.live l.live) d then l else { l with live := d :: l.live }

/-- What is left after a key was let go. -/
def lift (d : Datum) (l : Leftovers) : Leftovers :=
  { l with live := l.live.filter fun key => !d.sameNumber key }

/-- What is left after the held keys were remembered. -/
def snapshot (l : Leftovers) : Leftovers :=
  { l with last := l.live }

/-- The lowest key of the last snapshot that is held no longer. -/
def released? (keypad : Keypad) (l : Leftovers) : Option Datum :=
  ((shown keypad.last l.last).filter fun d => !names (shown keypad.live l.live) d).head?

/-- The check that every key has a hexadecimal digit. -/
def checkDigits (l : Leftovers) : Except OperandFault Unit :=
  match (l.live ++ l.last).find? fun d => d.integer?.isNone with
  | some d => .error (.noForm 'X' d.typeName)
  | none => .ok ()

end Leftovers

end ChipEight
