import ChipEight.Program.Offer

/-!
# Programs

What a host hands over as a program is an offer that it made itself, or a view of packed elements in
the very memory that the program is to be placed in. Such a view is not a copy. Its elements are
checked before anything is stored, and then each one is read again when its turn comes, so that an
element may be read where another one was stored before.

## Main definitions

- `Slice`: packed elements in the memory of a machine.
- `Slice.element`, `Slice.row`: one element, and all of them, as a memory holds them.
- `Memory.copy`: the elements of a slice stored one after another.
- `Program`: an offer or a slice.
- `Program.seen`: a program as it is seen when it is checked.
- `Program.store`: what it leaves in memory when it is accepted.
-/

namespace ChipEight

/-- Packed elements in the memory of a machine, at equal distances. -/
structure Slice where
  format : ElementFormat
  /-- The number of elements. -/
  count : Nat
  /-- The address of the first byte of the first element. -/
  start : Int
  /-- The number of cells from one element to the next; it may be negative. -/
  stride : Int
  isInside : ∀ k < count,
    0 ≤ start + stride * (k : Int) ∧ start + stride * (k : Int) + (format.width : Int) ≤ 4096
  isLegible : format ≠ .letter

namespace Slice

/-- The address of the first byte of an element. -/
def address (s : Slice) (k : Nat) : Int :=
  s.start + s.stride * (k : Int)

/-- The bytes of an element. -/
def cell (s : Slice) (m : Memory) (k : Nat) : List UInt8 :=
  m.readBlock (s.address k) s.format.width

/-- An element. -/
def element (s : Slice) (m : Memory) (k : Nat) : Datum :=
  s.format.read (s.cell m k)

/-- All elements. -/
def row (s : Slice) (m : Memory) : PackedRow where
  format := s.format
  cells := (List.range s.count).map (s.cell m)
  isWhole := by
    intro cell hcell
    obtain ⟨k, -, rfl⟩ := List.mem_map.1 hcell
    exact Memory.length_readBlock _ _ _

end Slice

/-- The memory after the first `n` elements of a slice were stored from the program base on, each one
in the lowest eight bits of its number. -/
def Memory.copy (m : Memory) (s : Slice) : Nat → Memory
  | 0 => m
  | n + 1 =>
    let before := m.copy s n
    before.write (programBase + n) (UInt8.ofInt ((s.element before n).integer?.getD 0))

/-- What a host hands over as a program. -/
inductive Program where
  /-- An offer of its own. -/
  | offer (o : Offer)
  /-- A view of the memory that the program is to be placed in. -/
  | own (s : Slice)

namespace Program

/-- A program as an offer, as it is while nothing has been stored. -/
def seen (m : Memory) : Program → Offer
  | .offer o => o
  | .own s => .packed (s.row m) s.isLegible

/-- The memory with a program stored that was accepted with some bytes. -/
def store (m : Memory) (bytes : List UInt8) : Program → Memory
  | .offer _ => m.writeBlock Memory.programBase bytes
  | .own s => m.copy s s.count

end Program

end ChipEight
