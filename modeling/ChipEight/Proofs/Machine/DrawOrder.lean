import ChipEight.Proofs.Instr.Patterns
import ChipEight.Proofs.Machine.Parts
import ChipEight.Proofs.Machine.SpriteCover
import Mathlib.Algebra.Ring.Parity

/-!
# The order of draws

A program points the index register at a sprite and draws it. Which cells are flipped by that is
settled by the memory, the dialect and the two registers for the position. A draw changes none of
them, and so it leaves alone what the next draw flips. In a row of draws each cell is flipped as
often as there are sprites that fall on it, in whatever order they come, and a sprite that is drawn
twice is gone again.

The position must not be taken from the flag register, which every draw writes. The flag itself, and
the index register, belong to the last draw, and so to the order.

## Main definitions

- `Stamp`: a draw together with the address of its sprite.
- `Machine.Lands`: the set of cells that a stamp falls on.
- `Machine.Stamped`: what a row of stamps leaves, told without their order.

## Main results

- `Machine.lands_stamp`: a stamp does not change where others fall.
- `Machine.stamped_execStamps`: what a row of stamps leaves.
- `Machine.draws_commute`: stamping twice, and stamping in another order.
-/

namespace ChipEight

/-- A draw together with the address of its sprite. The registers for the position are not the flag
register. -/
structure Stamp where
  index : UInt16
  x : Reg
  y : Reg
  rows : Fin 16
  x_ne : x ≠ flagReg
  y_ne : y ≠ flagReg

/-- The index register is pointed at the sprite, and the sprite is drawn. -/
def Stamp.exec (s : Stamp) (m : Machine) : Except Fault Machine :=
  (Instr.draw s.x s.y s.rows).exec (m.pointed s.index)

namespace Machine

/-- Stamps in a row, up to the first one that fails. -/
def execStamps (m : Machine) (ss : List Stamp) : Except Fault Machine :=
  ss.foldlM (fun k s => s.exec k) m

/-- The machine after a stamp. -/
def stamp (m : Machine) (s : Stamp) : Machine :=
  (m.pointed s.index).draw s.x s.y s.rows.val

/-- A set bit of the sprite falls on a cell. -/
def Lands (m : Machine) (s : Stamp) (c : Cell) : Prop :=
  (m.pointed s.index).Covers s.x s.y s.rows.val c

instance (m : Machine) (s : Stamp) (c : Cell) : Decidable (m.Lands s c) :=
  decidable_of_iff (c ∈ (m.pointed s.index).spriteCells s.x s.y s.rows.val)
    ((m.pointed s.index).mem_spriteCells_iff s.x s.y)

/-- The number of stamps that fall on a cell. -/
def landings (m : Machine) (ss : List Stamp) (c : Cell) : Nat :=
  ss.countP fun s => m.Lands s c

/-- From `m` to `n`, stamps were made in a row. Nothing here depends on their order. -/
structure Stamped (m : Machine) (ss : List Stamp) (n : Machine) : Prop where
  /-- A cell has changed if the number of stamps that fall on it is odd. -/
  pixels : ∀ c, n.display.pixel c ≠ m.display.pixel c ↔ Odd (m.landings ss c)
  dirty : n.display.dirty = true ↔ m.display.dirty = true ∨ ∃ s ∈ ss, ∃ c, m.Lands s c
  general : ∀ z, z ≠ flagReg → n.registers.get z = m.registers.get z
  rest : n = { m with
    display := n.display
    registers := { m.registers with v := n.registers.v, index := n.registers.index } }

/-- Two machines that agree on everything but the flag and the index register. -/
structure SameButFlag (m n : Machine) : Prop where
  general : ∀ z, z ≠ flagReg → n.registers.get z = m.registers.get z
  rest : n = { m with
    registers := { m.registers with v := n.registers.v, index := n.registers.index } }

variable {m n k : Machine} {s t : Stamp} {ss ts : List Stamp}

/-! ### One stamp -/

theorem exec_stamp (m : Machine) (s : Stamp) : s.exec m = .ok (m.stamp s) := rfl

theorem flips_stamp (m : Machine) (s : Stamp) :
    (m.pointed s.index).Flips (m.stamp s) (m.Lands s) :=
  (m.pointed s.index).flips_draw s.x s.y s.rows

theorem get_stamp (m : Machine) (s : Stamp) {z : Reg} (hz : z ≠ flagReg) :
    (m.stamp s).registers.get z = m.registers.get z :=
  (m.flips_stamp s).general z hz

/-- **A stamp does not change where others fall.** They are read from memory, which it leaves alone,
and placed by registers that it does not write. -/
theorem lands_stamp (m : Machine) (s t : Stamp) (c : Cell) :
    (m.stamp s).Lands t c ↔ m.Lands t c := by
  have hx : ((m.stamp s).pointed t.index).registers.get t.x =
      (m.pointed t.index).registers.get t.x := m.get_stamp s t.x_ne
  have hy : ((m.stamp s).pointed t.index).registers.get t.y =
      (m.pointed t.index).registers.get t.y := m.get_stamp s t.y_ne
  rw [Lands, Lands, Covers, Covers, hx, hy]
  rfl

theorem landings_stamp (m : Machine) (s : Stamp) (ss : List Stamp) (c : Cell) :
    (m.stamp s).landings ss c = m.landings ss c := by
  simp only [landings, lands_stamp]

/-! ### Stamps in a row -/

theorem stamped_nil (m : Machine) : m.Stamped [] m where
  pixels c := by simp [landings]
  dirty := by simp
  general _ _ := rfl
  rest := rfl

theorem Stamped.cons (h : (m.stamp s).Stamped ss n) : m.Stamped (s :: ss) n where
  pixels c := by
    have hlater : n.display.pixel c ≠ (m.stamp s).display.pixel c ↔ Odd (m.landings ss c) := by
      rw [h.pixels, landings_stamp]
    have hfirst : (m.stamp s).display.pixel c ≠ m.display.pixel c ↔ m.Lands s c :=
      (m.flips_stamp s).changed c
    by_cases hs : m.Lands s c
    · have hcount : m.landings (s :: ss) c = m.landings ss c + 1 :=
        List.countP_cons_of_pos (decide_eq_true hs)
      rw [hcount, Nat.odd_add_one, ← hlater, Bool.eq_not_of_ne (hfirst.2 hs)]
      simp
    · have hcount : m.landings (s :: ss) c = m.landings ss c :=
        List.countP_cons_of_neg (by simpa using hs)
      rw [hcount, ← hlater, not_not.1 (mt hfirst.1 hs)]
  dirty := by
    rw [h.dirty, (m.flips_stamp s).dirty, or_assoc]
    simp only [lands_stamp, List.exists_mem_cons_iff]
    rfl
  general z hz := (h.general z hz).trans (m.get_stamp s hz)
  rest := by
    have hrest := h.rest
    rw [(m.flips_stamp s).rest] at hrest
    exact hrest

/-- **Stamps in a row.** Each of them is made, and together they flip every cell as often as it is
fallen on. -/
theorem stamped_execStamps (m : Machine) (ss : List Stamp) :
    ∃ n, m.execStamps ss = .ok n ∧ m.Stamped ss n := by
  induction ss generalizing m with
  | nil => exact ⟨m, rfl, m.stamped_nil⟩
  | cons s ss ih =>
    obtain ⟨n, hrun, hn⟩ := ih (m.stamp s)
    exact ⟨n, hrun, hn.cons⟩

/-! ### Another order -/

theorem Stamped.perm (h : m.Stamped ss n) (hperm : ss.Perm ts) : m.Stamped ts n where
  pixels c := by
    rw [h.pixels, landings, hperm.countP_eq]
    rfl
  dirty := by simp only [h.dirty, hperm.mem_iff]
  general := h.general
  rest := h.rest

/-- What a row of stamps leaves is settled, the flag and the index register aside. -/
theorem Stamped.sameButFlag (h : m.Stamped ss n) (h' : m.Stamped ss k) : n.SameButFlag k := by
  have hpixel : ∀ c, k.display.pixel c = n.display.pixel c := by
    intro c
    have hiff : k.display.pixel c ≠ m.display.pixel c ↔ n.display.pixel c ≠ m.display.pixel c :=
      (h'.pixels c).trans (h.pixels c).symm
    by_cases hn : n.display.pixel c = m.display.pixel c
    · rw [hn, not_not.1 (mt hiff.1 (not_not.2 hn))]
    · rw [Bool.eq_not_of_ne hn, Bool.eq_not_of_ne (hiff.2 hn)]
  have hdirty : k.display.dirty = n.display.dirty :=
    Bool.eq_iff_iff.2 (h'.dirty.trans h.dirty.symm)
  have hdisplay : k.display = n.display := Display.ext (Display.rows_ext hpixel) hdirty
  refine ⟨fun z hz => (h'.general z hz).trans (h.general z hz).symm, ?_⟩
  rw [h'.rest, hdisplay, h.rest]

/-! ### Twice -/

/-- A sprite that is drawn twice is gone again. -/
theorem pixel_stamp_stamp (m : Machine) (s : Stamp) (c : Cell) :
    ((m.stamp s).stamp s).display.pixel c = m.display.pixel c := by
  have htwice : m.Stamped [s, s] ((m.stamp s).stamp s) := (stamped_nil _).cons.cons
  have heven : ¬ Odd (m.landings [s, s] c) := by
    rw [Nat.not_odd_iff_even]
    by_cases hs : m.Lands s c <;> simp [landings, hs]
  exact not_not.1 (mt (htwice.pixels c).1 heven)

/-- The flag tells of a collision in one of two equal draws, unless the sprite falls on no cell. -/
theorem flag_stamp_stamp (m : Machine) (s : Stamp) :
    ((m.stamp s).registers.get flagReg = 1 ∨ ((m.stamp s).stamp s).registers.get flagReg = 1) ↔
      ∃ c, m.Lands s c := by
  have hfirst := m.flips_stamp s
  have hsecond := (m.stamp s).flips_stamp s
  constructor
  · intro hflag
    by_contra hnone
    have hzero : (m.stamp s).registers.get flagReg = 0 :=
      hfirst.miss fun ⟨c, hc, _⟩ => hnone ⟨c, hc⟩
    have hzero' : ((m.stamp s).stamp s).registers.get flagReg = 0 :=
      hsecond.miss fun ⟨c, hc, _⟩ => hnone ⟨c, (m.lands_stamp s s c).1 hc⟩
    rw [hzero, hzero'] at hflag
    exact hflag.elim (by decide) (by decide)
  · rintro ⟨c, hc⟩
    by_cases hlit : m.display.pixel c = true
    · exact .inl (hfirst.hit ⟨c, hc, hlit⟩)
    · -- the first draw has lit the cell, and the second one finds it so
      have hchanged : (m.stamp s).display.pixel c = true := by
        rw [Bool.eq_not_of_ne ((hfirst.changed c).2 hc), Bool.not_eq_true']
        exact Bool.eq_false_iff.2 hlit
      exact .inr (hsecond.hit ⟨c, (m.lands_stamp s s c).2 hc, hchanged⟩)

/-- **Draws commute, and undo themselves.** On every machine and in every dialect, a draw that sets
the index register to its sprite and takes its position from other registers than the flag may be
made again to restore the picture; one of the two collides unless the sprite falls on no cell. Draws
in a row all succeed. A cell changes if an odd number of them falls on it, and so another order
leaves the same machine, but for the flag and the index register. -/
theorem draws_commute (m : Machine) :
    (∀ s : Stamp, ∃ n k, s.exec m = .ok n ∧ s.exec n = .ok k ∧
      (∀ c, k.display.pixel c = m.display.pixel c) ∧
      ((n.registers.get flagReg = 1 ∨ k.registers.get flagReg = 1) ↔
        ∃ c, (m.pointed s.index).Covers s.x s.y s.rows.val c)) ∧
    (∀ ss : List Stamp, ∃ n, m.execStamps ss = .ok n ∧ m.Stamped ss n) ∧
    (∀ ss ts : List Stamp, ss.Perm ts →
      ∃ n k, m.execStamps ss = .ok n ∧ m.execStamps ts = .ok k ∧ n.display = k.display ∧
        n.memory = k.memory ∧ n.registers.stack = k.registers.stack ∧ n.SameButFlag k) ∧
    ∀ w : UInt16, Word.Fits w "DXYN" → decode w = .draw (Word.x w) (Word.y w) (Word.n w) := by
  refine ⟨fun s => ⟨_, _, m.exec_stamp s, exec_stamp _ s, m.pixel_stamp_stamp s,
    m.flag_stamp_stamp s⟩, m.stamped_execStamps, fun ss ts hperm => ?_, fun w hw => ?_⟩
  · obtain ⟨n, hrun, hn⟩ := m.stamped_execStamps ss
    obtain ⟨k, hrun', hk⟩ := m.stamped_execStamps ts
    have hsame : n.SameButFlag k := (hn.perm hperm).sameButFlag hk
    refine ⟨n, k, hrun, hrun', ?_, ?_, ?_, hsame⟩ <;> rw [hsame.rest]
  · exact decode_of_fits (k := .draw) hw

/-- Two sprites that come around the right edge and share a cell, which is lit before. The order
shows in the flag alone. -/
theorem draws_commute_around_the_edge :
    let m := { fresh .plain (.constant 0) with
      memory := Memory.fresh.writeBlock 0x300 [0xC0, 0x60]
      registers := (Registers.fresh.set 0 63).set 1 31
      display := ((Display.fresh.flip ⟨63, 31⟩).flip ⟨0, 31⟩).consume }
    let a : Stamp := ⟨0x300, 0, 1, 1, by decide, by decide⟩
    let b : Stamp := ⟨0x301, 0, 1, 1, by decide, by decide⟩
    let n := (m.stamp a).stamp b
    let k := (m.stamp b).stamp a
    m.execStamps [a, b] = .ok n ∧ m.execStamps [b, a] = .ok k ∧ n.SameButFlag k ∧
      [⟨63, 31⟩, ⟨0, 31⟩, ⟨1, 31⟩].map n.display.pixel = [false, true, true] ∧
      n.registers.get flagReg = 0 ∧ k.registers.get flagReg = 1 := by
  intro m a b n k
  obtain ⟨-, -, horder, -⟩ := draws_commute m
  obtain ⟨n', k', hn, hk, -, -, -, hsame⟩ := horder [a, b] [b, a] (.swap b a [])
  cases hn
  cases hk
  exact ⟨rfl, rfl, hsame, by decide +kernel, by decide +kernel, by decide +kernel⟩

end Machine

end ChipEight
