import ChipEight.Memory
import Mathlib.Tactic.ByContra

/-!
# Blocks of memory

An address matters only modulo the number of cells. A block that is written is found in its cells and
seen nowhere else.

## Main results

- `Memory.read_congr`, `Memory.writeBlock_congr`: two addresses of one cell do the same.
- `Memory.readBlock_add`, `Memory.writeBlock_append`: a block is moved in two parts.
- `Memory.read_writeBlock`: a block is found in the cells that it was written to.
- `Memory.read_writeBlock_of_ne`: it is not seen elsewhere.
- `Memory.writeBlock_of_read`: writing what is there already changes nothing.
-/

namespace ChipEight

namespace Memory

/-! ### Two addresses of one cell -/

theorem read_congr (m : Memory) {a b : Int} (h : a % 4096 = b % 4096) : m.read a = m.read b := by
  simp only [read, cell_eq_cell_iff.2 h]

theorem write_congr (m : Memory) {a b : Int} (h : a % 4096 = b % 4096) (byte : UInt8) :
    m.write a byte = m.write b byte := by
  simp only [write, cell_eq_cell_iff.2 h]

theorem readBlock_congr (m : Memory) {a b : Int} (h : a % 4096 = b % 4096) (n : Int) :
    m.readBlock a n = m.readBlock b n := by
  refine List.map_congr_left fun k _ => m.read_congr ?_
  omega

theorem writeBlock_congr (m : Memory) {a b : Int} (h : a % 4096 = b % 4096) (bytes : List UInt8) :
    m.writeBlock a bytes = m.writeBlock b bytes := by
  induction bytes generalizing m a b with
  | nil => rfl
  | cons byte bytes ih =>
    rw [writeBlock, writeBlock, m.write_congr h byte]
    exact ih _ (by omega)

/-! ### Reading a block -/

theorem getElem_readBlock (m : Memory) (a n : Int) {k : Nat} (hk : k < (m.readBlock a n).length) :
    (m.readBlock a n)[k] = m.read (a + k) := by
  simp only [readBlock, List.getElem_map, List.getElem_range]

/-- A block is read in two parts, one behind the other. -/
theorem readBlock_add (m : Memory) (a : Int) (j k : Nat) :
    m.readBlock a (j + k : Nat) = m.readBlock a j ++ m.readBlock (a + j) k := by
  simp only [readBlock, Int.toNat_natCast, List.range_add, List.map_append, List.map_map]
  refine congrArg _ (List.map_congr_left fun i _ => congrArg m.read ?_)
  push_cast
  omega

/-! ### Writing a block -/

/-- A block is written in two parts, one behind the other. -/
theorem writeBlock_append (m : Memory) (a : Int) (bs cs : List UInt8) :
    m.writeBlock a (bs ++ cs) = (m.writeBlock a bs).writeBlock (a + bs.length) cs := by
  induction bs generalizing m a with
  | nil => simp [writeBlock]
  | cons b bs ih =>
    have hplace : a + 1 + bs.length = a + (b :: bs).length := by
      rw [List.length_cons]
      omega
    rw [List.cons_append, writeBlock, writeBlock, ih, hplace]

/-- Writing what is there already changes nothing, not even around the memory. -/
theorem writeBlock_of_read (m : Memory) {a : Int} {bytes : List UInt8}
    (h : ∀ (k : Nat) (hk : k < bytes.length), bytes[k] = m.read (a + k)) :
    m.writeBlock a bytes = m := by
  induction bytes generalizing a with
  | nil => rfl
  | cons b bs ih =>
    have hfirst : b = m.read a := by simpa using h 0 (Nat.zero_lt_succ _)
    have hsame : m.write a b = m := by
      rw [hfirst, write, read, Fin.getElem_fin, Vector.set_getElem_self]
    rw [writeBlock, hsame]
    refine ih fun k hk => ?_
    have hnext := h (k + 1) (Nat.succ_lt_succ hk)
    rw [List.getElem_cons_succ] at hnext
    rw [hnext]
    congr 1
    omega

/-- A block that is written is not seen at an address that names none of its cells. -/
theorem read_writeBlock_of_ne (m : Memory) {a c : Int} {bytes : List UInt8}
    (h : ∀ k : Nat, k < bytes.length → c % 4096 ≠ (a + k) % 4096) :
    (m.writeBlock a bytes).read c = m.read c := by
  induction bytes generalizing m a with
  | nil => rfl
  | cons b bs ih =>
    have hfirst : a % 4096 ≠ c % 4096 := by
      have := h 0 (Nat.zero_lt_succ _)
      omega
    have hrest : ∀ k : Nat, k < bs.length → c % 4096 ≠ (a + 1 + k) % 4096 := by
      intro k hk
      have := h (k + 1) (Nat.succ_lt_succ hk)
      omega
    rw [writeBlock, ih _ hrest, read_write, if_neg hfirst]

/-- Where a block that is written shows, it names a cell of the block. -/
theorem exists_of_read_writeBlock_ne {m : Memory} {a c : Int} {bytes : List UInt8}
    (h : (m.writeBlock a bytes).read c ≠ m.read c) :
    ∃ k : Nat, k < bytes.length ∧ c % 4096 = (a + k) % 4096 := by
  by_contra hno
  exact h (m.read_writeBlock_of_ne fun k hk heq => hno ⟨k, hk, heq⟩)

/-- A block is found in the cells that it was written to, unless it runs around the memory. -/
theorem read_writeBlock (m : Memory) {a : Int} {bytes : List UInt8}
    (hfits : bytes.length ≤ 4096) {k : Nat} (hk : k < bytes.length) :
    (m.writeBlock a bytes).read (a + k) = bytes[k] := by
  induction bytes generalizing m a k with
  | nil => exact absurd hk (Nat.not_lt_zero k)
  | cons b bs ih =>
    rw [List.length_cons] at hfits hk
    cases k with
    | zero =>
      -- the bytes that follow do not come around to the first cell
      have hrest : ∀ j : Nat, j < bs.length → (a + (0 : Nat)) % 4096 ≠ (a + 1 + j) % 4096 := by
        intro j hj
        omega
      rw [writeBlock, read_writeBlock_of_ne _ hrest, read_write, if_pos (by simp)]
      rfl
    | succ k =>
      have hplace : a + (k + 1 : Nat) = a + 1 + k := by omega
      rw [writeBlock, hplace]
      exact ih _ (by omega) (by omega)

/-- A block that does not run around the memory is read back. -/
theorem readBlock_writeBlock (m : Memory) (a : Int) {bytes : List UInt8}
    (hfits : bytes.length ≤ 4096) : (m.writeBlock a bytes).readBlock a bytes.length = bytes := by
  refine List.ext_getElem (by simp) fun k hk hk' => ?_
  rw [getElem_readBlock, read_writeBlock m hfits hk']

end Memory

end ChipEight
