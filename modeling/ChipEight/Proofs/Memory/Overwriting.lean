import ChipEight.Proofs.Machine.Blocks
import ChipEight.Proofs.Machine.Bytes
import Mathlib.Data.Nat.SuccPred

/-!
# Blocks that overwrite themselves

A block may be longer than the memory. Then it runs around, as often as need be, and writes over its
own beginning. What a cell holds in the end is settled by the last place of the block that falls on
it: what is written before that is lost, and what is written after it goes elsewhere. So the block
is cut at that place, and no induction is needed here.

A cell on which no place falls keeps what it held. This gives the rest. A block that does not run
around is read back, and two blocks without a common cell may be written in either order.

## Main definitions

- `Memory.IsLastOn`: the last place of a block that falls on a cell.

## Main results

- `Memory.cells_writeBlock_of_last`: what a block leaves in a cell.
- `Memory.cells_writeBlock_cases`: each cell is told by its last place, or else is unchanged.
- `Memory.writeBlock_comm`: blocks without a common cell.
- `Memory.last_write_wins`: all of this for integers written as bytes.
-/

namespace ChipEight

namespace Memory

/-- Of `n` places from the address `a` on, the last one that falls on a cell. -/
def IsLastOn (a : Int) (n : Nat) (c : Fin 4096) (k : Nat) : Prop :=
  IsGreatest {j : Nat | j < n ∧ (a + j) % 4096 = c.val} k

/-! ### Cells and their addresses -/

/-- The number of a cell is one of its addresses. -/
theorem read_val (m : Memory) (c : Fin 4096) : m.read c.val = m.cells[c] := by
  have hcell : cell c.val = c := by
    apply Fin.ext
    show ((c.val : Int) % 4096).toNat = c.val
    omega
  simp only [read, hcell]

/-- Two memories with the same cells are the same. -/
theorem ext_cells {m n : Memory} (h : ∀ c : Fin 4096, m.cells[c] = n.cells[c]) : m = n := by
  apply Memory.ext
  apply Vector.ext
  intro i hi
  exact h ⟨i, hi⟩

/-- If some place falls on a cell, one of them is the last. -/
theorem exists_isLastOn {a : Int} {n : Nat} {c : Fin 4096} {j : Nat} (hj : j < n)
    (hcell : (a + j) % 4096 = c.val) : ∃ k, IsLastOn a n c k := by
  refine BddAbove.exists_isGreatest_of_nonempty ?_ ⟨j, hj, hcell⟩
  exact ⟨n, fun k hk => Nat.le_of_lt hk.1⟩

/-! ### What a block leaves -/

/-- A cell on which no place falls keeps its byte. -/
theorem cells_writeBlock_of_none (m : Memory) {a : Int} {bytes : List UInt8} {c : Fin 4096}
    (h : ∀ k : Nat, k < bytes.length → (a + k) % 4096 ≠ c.val) :
    (m.writeBlock a bytes).cells[c] = m.cells[c] := by
  rw [← read_val, ← read_val]
  refine m.read_writeBlock_of_ne fun k hk heq => h k hk ?_
  omega

/-- **What a block leaves in a cell** is its byte at the last place that falls on the cell. -/
theorem cells_writeBlock_of_last (m : Memory) {a : Int} {bytes : List UInt8} {c : Fin 4096}
    {k : Nat} (h : IsLastOn a bytes.length c k) (hk : k < bytes.length) :
    (m.writeBlock a bytes).cells[c] = bytes[k] := by
  obtain ⟨⟨-, hcell⟩, hlast⟩ := h
  have hcut : bytes = bytes.take k ++ bytes[k] :: bytes.drop (k + 1) := by
    rw [List.getElem_cons_drop, List.take_append_drop]
  have hplace : a + (bytes.take k).length = a + k := by
    rw [List.length_take_of_le (Nat.le_of_lt hk)]
  -- what comes behind the last place falls on other cells
  have hbehind : ∀ j : Nat, j < (bytes.drop (k + 1)).length →
      (a + k + 1 + j) % 4096 ≠ c.val := by
    intro j hj heq
    rw [List.length_drop] at hj
    have hle : k + 1 + j ≤ k := by
      refine hlast ⟨by omega, ?_⟩
      rw [← heq]
      congr 1
      push_cast
      omega
    omega
  have hwritten : ((m.writeBlock a (bytes.take k)).write (a + k) bytes[k]).cells[c] = bytes[k] := by
    rw [← read_val, read_write, if_pos (by omega)]
  calc (m.writeBlock a bytes).cells[c]
      = (m.writeBlock a (bytes.take k ++ bytes[k] :: bytes.drop (k + 1))).cells[c] := by rw [← hcut]
    _ = (((m.writeBlock a (bytes.take k)).write (a + k) bytes[k]).writeBlock (a + k + 1)
          (bytes.drop (k + 1))).cells[c] := by rw [writeBlock_append, hplace, writeBlock]
    _ = bytes[k] := (cells_writeBlock_of_none _ hbehind).trans hwritten

/-- **Each cell** has a last place that falls on it, whose byte it holds, or is unchanged. -/
theorem cells_writeBlock_cases (m : Memory) (a : Int) (bytes : List UInt8) (c : Fin 4096) :
    (∃ k, ∃ hk : k < bytes.length, IsLastOn a bytes.length c k ∧
      (m.writeBlock a bytes).cells[c] = bytes[k]) ∨
    ((∀ k : Nat, k < bytes.length → (a + k) % 4096 ≠ c.val) ∧
      (m.writeBlock a bytes).cells[c] = m.cells[c]) := by
  by_cases h : ∃ j : Nat, j < bytes.length ∧ (a + j) % 4096 = c.val
  · obtain ⟨j, hj, hcell⟩ := h
    obtain ⟨k, hlast⟩ := exists_isLastOn hj hcell
    have hk : k < bytes.length := hlast.1.1
    exact .inl ⟨k, hk, hlast, m.cells_writeBlock_of_last hlast hk⟩
  · have hnone : ∀ k : Nat, k < bytes.length → (a + k) % 4096 ≠ c.val :=
      fun k hk hcell => h ⟨k, hk, hcell⟩
    exact .inr ⟨hnone, m.cells_writeBlock_of_none hnone⟩

/-- A block treats a cell alike in two memories that agree there. -/
theorem cells_writeBlock_congr {m n : Memory} (a : Int) (bytes : List UInt8) {c : Fin 4096}
    (h : m.cells[c] = n.cells[c]) :
    (m.writeBlock a bytes).cells[c] = (n.writeBlock a bytes).cells[c] := by
  rcases m.cells_writeBlock_cases a bytes c with ⟨k, hk, hlast, hm⟩ | ⟨hnone, hm⟩
  · rw [hm, n.cells_writeBlock_of_last hlast hk]
  · rw [hm, h, n.cells_writeBlock_of_none hnone]

/-! ### Two blocks -/

/-- **Two blocks without a common cell** may be written in either order. -/
theorem writeBlock_comm (m : Memory) {a b : Int} {bs cs : List UInt8}
    (h : ∀ j k : Nat, j < bs.length → k < cs.length → (a + j) % 4096 ≠ (b + k) % 4096) :
    (m.writeBlock a bs).writeBlock b cs = (m.writeBlock b cs).writeBlock a bs := by
  apply ext_cells
  intro c
  by_cases hfirst : ∃ j : Nat, j < bs.length ∧ (a + j) % 4096 = c.val
  · -- the second block leaves this cell alone
    obtain ⟨j, hj, hcell⟩ := hfirst
    have hother : ∀ k : Nat, k < cs.length → (b + k) % 4096 ≠ c.val :=
      fun k hk heq => h j k hj hk (hcell.trans heq.symm)
    rw [cells_writeBlock_of_none _ hother]
    exact cells_writeBlock_congr a bs (cells_writeBlock_of_none m hother).symm
  · -- the first one does
    have hother : ∀ j : Nat, j < bs.length → (a + j) % 4096 ≠ c.val :=
      fun j hj heq => hfirst ⟨j, hj, heq⟩
    rw [cells_writeBlock_of_none _ hother]
    exact cells_writeBlock_congr b cs (cells_writeBlock_of_none m hother)

/-! ### Reading around the memory -/

theorem readBlock_add_mul (m : Memory) (a n i : Int) :
    m.readBlock (a + 4096 * i) n = m.readBlock a n :=
  m.readBlock_congr (Int.add_mul_emod_self_left a 4096 i) n

/-- The bytes of a block come again after a turn around the memory. -/
theorem getElem_readBlock_periodic (m : Memory) (a n : Int) {k : Nat}
    (hk : k + 4096 < (m.readBlock a n).length) :
    (m.readBlock a n)[k + 4096] = (m.readBlock a n)[k] := by
  rw [getElem_readBlock, getElem_readBlock]
  apply read_congr
  push_cast
  omega

/-- Integers that are written as bytes are read back modulo 256. -/
theorem readBlock_poke (m : Memory) (a : Int) {data : List Int} (h : data.length ≤ 4096) :
    ((m.poke a data).readBlock a data.length).map (fun b => (b.toNat : Int)) =
      data.map (· % 256) := by
  have hlength : (data.map UInt8.ofInt).length = data.length := List.length_map _
  have hread := m.readBlock_writeBlock a (hlength.trans_le h)
  rw [hlength] at hread
  rw [poke, hread, List.map_map]
  exact List.map_congr_left fun b _ => toNat_byte_ofInt b

/-- **The last write wins**, for every memory, every address and every block of integers, however
long.

A cell holds the integer at the last place that falls on it, modulo 256, or its old byte if none
does. So a block that does not run around the memory is read back modulo 256, and two blocks without
a common cell may be written in either order. A block that is read has as many bytes as asked for,
none for a negative number, and its bytes come again after every 4096. -/
theorem last_write_wins (m : Memory) (a : Int) :
    (∀ (data : List Int) (c : Fin 4096),
      (∃ k, ∃ hk : k < data.length, IsLastOn a data.length c k ∧
        ((m.poke a data).cells[c].toNat : Int) = data[k] % 256) ∨
      ((∀ k : Nat, k < data.length → (a + k) % 4096 ≠ c.val) ∧
        (m.poke a data).cells[c] = m.cells[c])) ∧
    (∀ data : List Int, data.length ≤ 4096 →
      ((m.poke a data).readBlock a data.length).map (fun b => (b.toNat : Int)) =
        data.map (· % 256)) ∧
    (∀ (b : Int) (first second : List Int),
      (∀ j k : Nat, j < first.length → k < second.length → (a + j) % 4096 ≠ (b + k) % 4096) →
        (m.poke a first).poke b second = (m.poke b second).poke a first) ∧
    (∀ n : Int, ((m.readBlock a n).length : Int) = max 0 n ∧
      (∀ (k : Nat) (hk : k + 4096 < (m.readBlock a n).length),
        (m.readBlock a n)[k + 4096] = (m.readBlock a n)[k]) ∧
      ∀ i : Int, m.readBlock (a + 4096 * i) n = m.readBlock a n) := by
  refine ⟨?_, fun data => m.readBlock_poke a, ?_, ?_⟩
  · intro data c
    have hlength : (data.map UInt8.ofInt).length = data.length := List.length_map _
    rcases m.cells_writeBlock_cases a (data.map UInt8.ofInt) c with
      ⟨k, hk, hlast, hbyte⟩ | ⟨hnone, hkept⟩
    · refine .inl ⟨k, hlength ▸ hk, hlength ▸ hlast, ?_⟩
      rw [poke, hbyte, List.getElem_map, toNat_byte_ofInt]
    · exact .inr ⟨fun k hk => hnone k (hk.trans_eq hlength.symm), hkept⟩
  · intro b first second hdisjoint
    apply writeBlock_comm
    rw [List.length_map, List.length_map]
    exact hdisjoint
  · intro n
    refine ⟨?_, fun k hk => m.getElem_readBlock_periodic a n hk, m.readBlock_add_mul a n⟩
    rw [length_readBlock]
    omega

/-- A block around the end of memory, a block on the cell behind it, a look at them that goes
around, and a block that comes around to its own first cell. -/
theorem last_write_wins_around_the_end :
    let m := fresh.poke (-1) [300, -1]
    let data := List.replicate 4096 1 ++ [258]
    (m.readBlock (-1) 2).map (fun b => (b.toNat : Int)) = [44, 255] ∧
      m.poke 4097 [7] = (fresh.poke 4097 [7]).poke (-1) [300, -1] ∧
      (m.readBlock (-1) 4098)[4097]? = some 255 ∧
      ((m.poke 4095 data).cells[(4095 : Fin 4096)].toNat : Int) = 2 := by
  intro m data
  obtain ⟨-, hread, hcomm, -⟩ := last_write_wins fresh (-1)
  refine ⟨hread [300, -1] (by decide), hcomm 4097 [300, -1] [7] ?_, ?_, ?_⟩
  · intro j k hj hk
    simp only [List.length_cons, List.length_nil] at hj hk
    omega
  · obtain ⟨-, -, -, hlong⟩ := last_write_wins m (-1)
    obtain ⟨hlength, hperiod, -⟩ := hlong 4098
    have hk : 1 + 4096 < (m.readBlock (-1) 4098).length := by omega
    have hbyte : m.read (-1 + (1 : Nat)) = 255 := read_write _ _ _ _
    rw [List.getElem?_eq_getElem hk, hperiod 1 hk, getElem_readBlock, hbyte]
  · obtain ⟨hlaps, -⟩ := last_write_wins m 4095
    have hlength : data.length = 4097 := by
      rw [List.length_append, List.length_replicate, List.length_singleton]
    rcases hlaps data 4095 with ⟨k, hk, hlast, hvalue⟩ | ⟨hnone, -⟩
    · have hle : 4096 ≤ k := hlast.2 ⟨by omega, rfl⟩
      obtain rfl : k = 4096 := by omega
      rw [hvalue, List.getElem_concat_length List.length_replicate.symm]
      rfl
    · exact absurd rfl (hnone 4096 (by omega))

end Memory

end ChipEight
