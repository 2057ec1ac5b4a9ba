import ChipEight.Proofs.Machine.Blocks
import ChipEight.Proofs.Machine.Sprites
import Mathlib.Algebra.Group.Nat.Defs

/-!
# Drawing a sprite, as a set of cells

Drawing walks over the rows and the columns of a sprite and flips pixels as it goes, one after the
other, on the picture that the flips before have left. What comes of it can be said without the walk.
Each set bit is meant for a place on the screen. A place beyond an edge is dropped or wraps around,
and so the set bits fall on a set of cells. The cells of this set are flipped, and no other ones; the
flag register tells whether one of them was lit before.

This rests on a fact about the box of a sprite: no two of its bits fall on the same cell. Eight columns
are not wide enough to come around a screen of 64, and fifteen rows do not come around one of 32. If
two bits could meet, the second flip would undo the first one.

The registers that give the position are read before the flag is written, so that they may be the
flag register itself.

## Main definitions

- `Cell.Takes`: a place on the plane falls on a cell.
- `Machine.SpriteBit`: a bit of the sprite is set.
- `Machine.Covers`: the set of cells that a sprite falls on.
- `Machine.Flips`: what drawing does to a machine, told by that set.

## Main results

- `Sprite.takes_unique`: no two bits of a sprite fall on the same cell.
- `Machine.mem_spriteCells_iff`: the walk comes to the cells of the set.
- `Machine.draw_closed_form`: every `DXYN` on every machine.
-/

namespace ChipEight

/-- A place on the plane falls on a cell: with clipping it is the cell itself, otherwise both
coordinates are taken modulo the size of the screen. -/
def Cell.Takes (clipping : Bool) (px py : Nat) (c : Cell) : Prop :=
  if clipping then c.x.val = px ∧ c.y.val = py else c.x.val = px % 64 ∧ c.y.val = py % 32

namespace Sprite

/-! ### Where one bit falls -/

theorem place?_eq_some_iff {clipping : Bool} {n : Nat} {positive : 0 < n} {p : Nat} {k : Fin n} :
    place? clipping n positive p = some k ↔ if clipping then k.val = p else k.val = p % n := by
  have hk := k.isLt
  cases clipping with
  | false => simp [place?, Fin.ext_iff, eq_comm]
  | true =>
    by_cases hp : n ≤ p
    · simp only [place?, hp, decide_true, Bool.and_true, if_true, reduceCtorEq, false_iff]
      omega
    · simp [place?, hp, Fin.ext_iff, Nat.mod_eq_of_lt (Nat.lt_of_not_le hp), eq_comm]

theorem cell?_eq_some_iff {clipping : Bool} {px py : Nat} {c : Cell} :
    cell? clipping px py = some c ↔ c.Takes clipping px py := by
  have hcell : cell? clipping px py = some c ↔
      place? clipping 64 Display.width_pos px = some c.x ∧
        place? clipping 32 Display.height_pos py = some c.y := by
    simp only [cell?, Option.bind_eq_bind, Option.bind_eq_some_iff, Option.pure_def,
      Option.some.injEq]
    constructor
    · rintro ⟨cx, hx, cy, hy, rfl⟩
      exact ⟨hx, hy⟩
    · rintro ⟨hx, hy⟩
      exact ⟨c.x, hx, c.y, hy, rfl⟩
  refine hcell.trans ((and_congr place?_eq_some_iff place?_eq_some_iff).trans ?_)
  cases clipping <;> rfl

/-- **No two bits of a sprite fall on the same cell**, set or not, wherever it is drawn. -/
theorem takes_unique {clipping : Bool} {x y i j k l : Nat} {c : Cell} (hi : i < 32) (hk : k < 32)
    (hj : j < 8) (hl : l < 8) (hc : c.Takes clipping (x + j) (y + i))
    (hc' : c.Takes clipping (x + l) (y + k)) : i = k ∧ j = l := by
  cases clipping <;> simp only [Cell.Takes, if_true, Bool.false_eq_true, if_false] at hc hc' <;>
    omega

/-- The cells that a sprite falls on, bit by bit. -/
theorem mem_cells_iff {clipping : Bool} {x y : Nat} {rows : List UInt8} {c : Cell} :
    c ∈ cells clipping x y rows ↔
      ∃ i b, rows[i]? = some b ∧
        ∃ j < 8, isSet b j = true ∧ c.Takes clipping (x + j) (y + i) := by
  simp only [cells, List.mem_flatMap, Prod.exists, List.mem_zipIdx_iff_getElem?, mem_rowCells,
    cell?_eq_some_iff]
  exact exists_comm

end Sprite

/-! ### What flipping meets -/

/-- Flipping different cells turns a pixel off exactly if one of them was lit. -/
theorem Display.flipAll_hit_iff (d : Display) {cs : List Cell} (h : cs.Nodup) :
    (d.flipAll cs).2 = true ↔ ∃ c ∈ cs, d.pixel c = true := by
  induction cs generalizing d with
  | nil => simp [flipAll]
  | cons e cs ih =>
    obtain ⟨hnot, hrest⟩ := List.nodup_cons.1 h
    -- the cells that are still to come were not touched by the flip of `e`
    have hsame : ∀ c ∈ cs, (d.flip e).pixel c = d.pixel c := by
      intro c hc
      rw [pixel_flip, if_neg]
      rintro rfl
      exact hnot hc
    have hcome : (∃ c ∈ cs, (d.flip e).pixel c = true) ↔ ∃ c ∈ cs, d.pixel c = true :=
      exists_congr fun c => and_congr_right fun hc => by rw [hsame c hc]
    rw [flipAll, Bool.or_eq_true, ih (d.flip e) hrest, hcome]
    simp only [List.mem_cons, or_and_right, exists_or, exists_eq_left]

/-! ### Machines -/

namespace Machine

/-- The bit in row `i` and column `j` of the sprite at the index register is set. Column zero is the
highest bit of a byte. -/
def SpriteBit (m : Machine) (i j : Nat) : Prop :=
  (m.memory.read ((m.registers.index.toNat + i) % 4096 : Nat)).toNat / 2 ^ (7 - j) % 2 = 1

/-- A set bit of the sprite with `n` rows, drawn at the position in `VX` and `VY`, falls on a
cell. -/
def Covers (m : Machine) (x y : Reg) (n : Nat) (c : Cell) : Prop :=
  ∃ i < n, ∃ j < 8, m.SpriteBit i j ∧
    c.Takes m.dialect.clipping ((m.registers.get x).toNat % 64 + j)
      ((m.registers.get y).toNat % 32 + i)

section

variable (m : Machine) (x y : Reg)

theorem getElem?_spriteRows_eq_some_iff {n i : Nat} {b : UInt8} :
    (m.spriteRows n)[i]? = some b ↔
      i < n ∧ m.memory.read ((m.registers.index.toNat + i) % 4096 : Nat) = b := by
  have hcell : m.memory.read ((m.registers.index.toNat + i) % 4096 : Nat) =
      m.memory.read (m.registers.index.toNat + i) := m.memory.read_congr (by omega)
  rw [hcell]
  by_cases hi : i < n <;> simp [spriteRows, Memory.readBlock, hi]

/-- **The walk comes to the cells of the set.** -/
theorem mem_spriteCells_iff {n : Nat} {c : Cell} : c ∈ m.spriteCells x y n ↔ m.Covers x y n c := by
  have hbit : ∀ (b : UInt8) j, Sprite.isSet b j = true ↔ b.toNat / 2 ^ (7 - j) % 2 = 1 := by
    intro b j
    rw [Sprite.isSet, Nat.testBit_eq_decide_div_mod_eq, decide_eq_true_iff]
  simp only [spriteCells, Sprite.mem_cells_iff, getElem?_spriteRows_eq_some_iff, hbit, Covers,
    SpriteBit]
  constructor
  · rintro ⟨i, _, ⟨hi, rfl⟩, hrow⟩
    exact ⟨i, hi, hrow⟩
  · rintro ⟨i, hi, hrow⟩
    exact ⟨i, _, ⟨hi, rfl⟩, hrow⟩

end

/-- From one machine to another, the cells of a set were flipped, each one once. -/
structure Flips (m n : Machine) (covered : Cell → Prop) : Prop where
  /-- The flips that were made are those of the set, without repetition. -/
  once : ∃ cs : List Cell, cs.Nodup ∧ (∀ c, c ∈ cs ↔ covered c) ∧
    n.display = (m.display.flipAll cs).1
  /-- The cells of the set have changed, and no other ones. -/
  changed : ∀ c, n.display.pixel c ≠ m.display.pixel c ↔ covered c
  /-- The flag is one if a cell of the set was lit, and zero otherwise. -/
  hit : (∃ c, covered c ∧ m.display.pixel c = true) → n.registers.get flagReg = 1
  miss : (¬ ∃ c, covered c ∧ m.display.pixel c = true) → n.registers.get flagReg = 0
  dirty : n.display.dirty = true ↔ m.display.dirty = true ∨ ∃ c, covered c
  /-- All other registers are what they were. -/
  general : ∀ z, z ≠ flagReg → n.registers.get z = m.registers.get z
  /-- So is everything else. -/
  rest : n = { m with display := n.display, registers := { m.registers with v := n.registers.v } }

theorem flips_draw (m : Machine) (x y : Reg) (rows : Fin 16) :
    m.Flips (m.draw x y rows.val) (m.Covers x y rows.val) := by
  have hnodup := m.nodup_spriteCells x y rows
  have hmem : ∀ c, c ∈ m.spriteCells x y rows.val ↔ m.Covers x y rows.val c := fun c =>
    m.mem_spriteCells_iff x y
  have hhit := m.display.flipAll_hit_iff hnodup
  have hflag : (m.draw x y rows.val).registers.get flagReg =
      if (m.display.flipAll (m.spriteCells x y rows.val)).2 then 1 else 0 :=
    (Registers.get_set ..).trans (if_pos rfl)
  simp only [hmem] at hhit
  refine ⟨⟨_, hnodup, hmem, rfl⟩, fun c => ?_, fun h => ?_, fun h => ?_, ?_, fun z hz => ?_, rfl⟩
  · have hpixel := m.display.pixel_flipAll hnodup c
    rw [← hmem c, draw, hpixel]
    split <;> simp_all
  · rw [hflag, hhit.2 h, if_pos rfl]
  · rw [hflag, Bool.eq_false_iff.2 (mt hhit.1 h), if_neg Bool.false_ne_true]
  · have hdirty := m.display.dirty_flipAll (m.spriteCells x y rows.val)
    have hsome : m.spriteCells x y rows.val ≠ [] ↔ ∃ c, m.Covers x y rows.val c := by
      simp only [← hmem]
      exact ⟨List.exists_mem_of_ne_nil _, fun h => h.elim fun _ hc => List.ne_nil_of_mem hc⟩
    rw [draw, hdirty, Bool.or_eq_true, ← hsome, Bool.not_eq_true', List.isEmpty_eq_false_iff]
  · exact (Registers.get_set ..).trans (if_neg hz.symm)

/-- **Drawing a sprite, in closed form.** A `DXYN` succeeds on every machine, in every dialect, with
any registers for the position, the flag register too. It flips the cells that the set bits of the
sprite fall on, each of them once: two bits of the sprite never fall on the same cell. The flag tells
whether one of these cells was lit, the dirty flag goes up if there is any, and nothing else
changes. -/
theorem draw_closed_form (m : Machine) (x y : Reg) (rows : Fin 16) :
    (∃ n, (Instr.draw x y rows).exec m = .ok n ∧ m.Flips n (m.Covers x y rows.val)) ∧
      ∀ (i j k l : Nat) (c : Cell), i < rows.val → j < 8 → k < rows.val → l < 8 →
        let x0 := (m.registers.get x).toNat % 64
        let y0 := (m.registers.get y).toNat % 32
        c.Takes m.dialect.clipping (x0 + j) (y0 + i) →
          c.Takes m.dialect.clipping (x0 + l) (y0 + k) → i = k ∧ j = l := by
  refine ⟨⟨_, rfl, m.flips_draw x y rows⟩, ?_⟩
  intro i j k l c hi hj hk hl x0 y0 hc hc'
  have hrows := rows.isLt
  exact Sprite.takes_unique (by omega) (by omega) hj hl hc hc'

/-- A sprite of two rows, its first byte in the last cell of memory, is drawn across both edges. The
flag register gives the column, and one of the four cells is lit before. -/
theorem draw_closed_form_across_both_edges :
    let m := { fresh .plain (.constant 0) with
      memory := Memory.fresh.writeBlock 0xFFF [0xC1, 0x80]
      registers := ((Registers.fresh.set flagReg 126).set 14 31).point 0xFFF
      display := (Display.fresh.flip ⟨63, 31⟩).consume }
    let n := m.draw flagReg 14 2
    (Instr.draw flagReg 14 2).exec m = .ok n ∧ m.Flips n (m.Covers flagReg 14 2) ∧
      [⟨62, 31⟩, ⟨63, 31⟩, ⟨5, 31⟩, ⟨62, 0⟩].map n.display.pixel = [true, false, true, true] ∧
      n.registers.get flagReg = 1 ∧ n.display.dirty = true := by
  intro m n
  obtain ⟨⟨_, hexec, hflips⟩, -⟩ := draw_closed_form m flagReg 14 2
  cases hexec
  exact ⟨rfl, hflips, by decide +kernel, by decide +kernel, by decide +kernel⟩

end Machine

end ChipEight
