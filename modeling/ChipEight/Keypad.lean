import ChipEight.Text.Hex

/-!
# Keypad

Sixteen keys, named by the hexadecimal digits. The host presses and releases keys in the live set;
the machine copies the live set into the last set at the end of each cycle, and compares the two to
learn which keys were let go in between.

## Main definitions

- `Key`, `KeySet`: a key, and a set of keys.
- `Keypad`: the live and the last set.
- `Keypad.released?`: the lowest key of the last set that is no longer held.
- `Keypad.setKey`: pressing or releasing by an integer code, refused when there is no such key.
-/

namespace ChipEight

/-- A key of the keypad. -/
abbrev Key := Fin 16

/-- A set of keys, as one flag for each key. -/
@[ext] structure KeySet where
  flags : Vector Bool 16
  deriving DecidableEq

namespace KeySet

/-- The set without a key. -/
def empty : KeySet :=
  ⟨Vector.replicate 16 false⟩

/-- Whether a key is in the set. -/
def contains (s : KeySet) (k : Key) : Bool :=
  s.flags[k]

/-- The set with a key put in or taken out. -/
def put (s : KeySet) (k : Key) (b : Bool) : KeySet :=
  ⟨s.flags.set k.val b k.isLt⟩

/-- The keys of the set in ascending order. -/
def toList (s : KeySet) : List Key :=
  (List.finRange 16).filter s.contains

/-- The keys of the first set that are not in the second, in ascending order. -/
def missing (s t : KeySet) : List Key :=
  s.toList.filter fun k => !t.contains k

@[simp] theorem contains_empty (k : Key) : empty.contains k = false := by
  simp [contains, empty]

theorem contains_put (s : KeySet) (k j : Key) (b : Bool) :
    (s.put k b).contains j = if k = j then b else s.contains j := by
  simp only [contains, put, Fin.getElem_fin, Vector.getElem_set, Fin.val_inj]

@[simp] theorem mem_toList {s : KeySet} {k : Key} : k ∈ s.toList ↔ s.contains k = true := by
  simp [toList]

end KeySet

/-- The live set and the copy taken at the end of the last cycle. -/
@[ext] structure Keypad where
  live : KeySet
  last : KeySet
  deriving DecidableEq

/-- The complaint about a code that names no key. -/
structure NoSuchKey where
  code : Int
  deriving DecidableEq, Repr

/-- The text of the complaint. -/
def NoSuchKey.message (e : NoSuchKey) : String :=
  "key code " ++ toString e.code ++ " out of range [0, 16)"

/-- The key of an integer code. -/
def Key.ofInt (k : Int) : Except NoSuchKey Key :=
  if h : 0 ≤ k ∧ k < 16 then .ok ⟨k.toNat, by omega⟩ else .error ⟨k⟩

namespace Keypad

/-- The keypad at power-on: no key held, none held before. -/
def fresh : Keypad :=
  ⟨.empty, .empty⟩

/-- The keypad with a key pressed or released. -/
def put (p : Keypad) (k : Key) (down : Bool) : Keypad :=
  { p with live := p.live.put k down }

/-- Press or release the key of an integer code. -/
def setKey (p : Keypad) (code : Int) (down : Bool) : Except NoSuchKey Keypad :=
  (Key.ofInt code).map fun k => p.put k down

/-- The keypad with every key let go. -/
def releaseAll (p : Keypad) : Keypad :=
  { p with live := .empty }

/-- The keypad with the live set remembered as the last set. -/
def snapshot (p : Keypad) : Keypad :=
  { p with last := p.live }

/-- Whether the key of an integer code is held; codes beyond the keypad never are. -/
def isPressed (p : Keypad) (code : Int) : Bool :=
  match Key.ofInt code with
  | .ok k => p.live.contains k
  | .error _ => false

/-- The lowest key that was held at the last snapshot and is held no longer. -/
def released? (p : Keypad) : Option Key :=
  (p.last.missing p.live).head?

/-- The one-line account of a keypad. -/
def describe (p : Keypad) : String :=
  let names (s : KeySet) : String := ",".intercalate (s.toList.map fun k => Text.hex 1 k.val)
  "KeypadState(pressed=[" ++ names p.live ++ "], last=[" ++ names p.last ++ "])"

end Keypad

end ChipEight
