import ChipEight.Program.Basic
import ChipEight.Proofs.Machine.Blocks
import ChipEight.Proofs.Machine.Bytes

/-!
# Slices of the machine's own memory

The elements of a slice are stored in the memory that they are read from. Each cell is stored to once,
in ascending order, and each element is read right before it is stored. So an element whose first byte
lies among the cells stored to before comes out as what was stored there, and every other element as
it was at first: where the slice and the program overlap, a value may be repeated.

Of an integer the lowest eight bits are its first byte, so that nothing but the first byte of an
element is ever stored.

## Main definitions

- `Slice.IsLate`: an element is read after its first byte was stored to.

## Main results

- `ElementFormat.lowByte_read`: the lowest eight bits of an element.
- `Memory.read_copy_of_ne`: a copy is not seen outside the cells that it stores to.
- `Memory.read_copy`: what these cells hold.
-/

namespace ChipEight

/-! ### Elements -/

/-- **Of an integer the lowest eight bits are its first byte**, whether or not it has a sign. -/
theorem ElementFormat.lowByte_read (g : IntegerFormat) (b : UInt8) (bs : List UInt8) :
    UInt8.ofInt (((integer g).read (b :: bs)).integer?.getD 0) = b := by
  have hfirst : (natOfBytes (b :: bs) : Int) % 256 = b.toNat := by
    have hb := b.toNat_lt
    rw [natOfBytes]
    omega
  have hmodulus : Int.pow 2 (8 * g.width) % 256 = 0 := by
    cases g <;> decide
  apply byte_ofInt_eq
  simp only [read, Datum.integer?, Option.getD_some]
  split
  · rw [Int.sub_emod, hmodulus, hfirst]
    have hb := b.toNat_lt
    omega
  · exact hfirst

namespace Slice

variable {s : Slice}

theorem elements_row (s : Slice) (m : Memory) :
    (s.row m).elements = (List.range s.count).map (s.element m) :=
  List.map_map

theorem length_row (s : Slice) (m : Memory) : (s.row m).cells.length = s.count := by
  rw [row, List.length_map, List.length_range]

/-- An integer is stored by its first byte. -/
theorem lowByte_element {g : IntegerFormat} (hg : s.format = .integer g) (m : Memory) (k : Nat) :
    UInt8.ofInt ((s.element m k).integer?.getD 0) = m.read (s.address k) := by
  have hcell : ∃ bs, s.cell m k = m.read (s.address k) :: bs := by
    have hwidth : s.format.width = 1 + (g.width - 1) := by
      rw [hg]
      cases g <;> rfl
    refine ⟨m.readBlock (s.address k + 1) (g.width - 1 : Nat), ?_⟩
    rw [cell, hwidth, Memory.readBlock_add]
    simp [Memory.readBlock]
  obtain ⟨bs, hbs⟩ := hcell
  rw [element, hbs, hg, ElementFormat.lowByte_read]

/-- The first byte of an element lies in a cell that was stored to before the element is read. -/
def IsLate (s : Slice) (k : Nat) : Prop :=
  0x200 ≤ s.address k ∧ s.address k < 0x200 + k

instance (s : Slice) (k : Nat) : Decidable (s.IsLate k) :=
  inferInstanceAs (Decidable (_ ∧ _))

theorem address_mem {k : Nat} (hk : k < s.count) : 0 ≤ s.address k ∧ s.address k < 4096 := by
  obtain ⟨hlow, hhigh⟩ := s.isInside k hk
  have hwidth : 0 < s.format.width := by
    cases s.format with
    | integer g => cases g <;> decide
    | _ => decide
  rw [address]
  omega

end Slice

/-! ### Copies -/

namespace Memory

variable (m : Memory) {s : Slice}

/-- A copy is not seen outside the cells that it stores to. -/
theorem read_copy_of_ne {a : Int} {n : Nat}
    (h : ∀ k : Nat, k < n → a % 4096 ≠ (0x200 + k : Int) % 4096) : (m.copy s n).read a = m.read a := by
  induction n with
  | zero => rfl
  | succ n ih =>
    have hlast : ¬ ((programBase : Int) + n) % 4096 = a % 4096 :=
      fun heq => h n (Nat.lt_succ_self n) heq.symm
    rw [copy, read_write, if_neg hlast]
    exact ih fun k hk => h k (Nat.lt_succ_of_lt hk)

variable {g : IntegerFormat} {n k : Nat}

/-- Each cell holds what the first byte of its element was by then. -/
theorem read_copy_stored (hg : s.format = .integer g) (hn : n ≤ 3584) (hk : k < n) :
    (m.copy s n).read (0x200 + k) = (m.copy s k).read (s.address k) := by
  induction n with
  | zero => exact absurd hk (Nat.not_lt_zero k)
  | succ n ih =>
    rw [copy, read_write, Slice.lowByte_element hg]
    obtain hkn | rfl := Nat.lt_succ_iff_lt_or_eq.1 hk
    · have hplace : ¬ ((programBase : Int) + n) % 4096 = (0x200 + k : Int) % 4096 := by
        simp only [programBase]
        omega
      rw [if_neg hplace]
      exact ih (Nat.le_of_succ_le hn) hkn
    · exact if_pos rfl

/-- **What the cells of a copy hold.** An element that is read too late is a copy of what was stored in
its place, and any other one is as it was at first. -/
theorem read_copy (hg : s.format = .integer g) (hn : n ≤ 3584) (hk : k < n) (hks : k < s.count) :
    (m.copy s n).read (0x200 + k) =
      if s.IsLate k then (m.copy s n).read (s.address k) else m.read (s.address k) := by
  obtain ⟨hlow, hhigh⟩ := Slice.address_mem hks
  rw [read_copy_stored m hg hn hk]
  split
  next hlate =>
    obtain ⟨hbase, hbehind⟩ := hlate
    obtain ⟨j, hj⟩ : ∃ j : Nat, s.address k = 0x200 + j := ⟨(s.address k - 0x200).toNat, by omega⟩
    have hjk : j < k := by omega
    rw [hj, read_copy_stored m hg (by omega) hjk, read_copy_stored m hg hn (hjk.trans hk)]
  next htimely =>
    refine read_copy_of_ne m fun j hj heq => htimely ?_
    rw [Slice.IsLate]
    omega

end Memory

end ChipEight
