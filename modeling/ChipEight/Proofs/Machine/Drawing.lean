import ChipEight.Proofs.Machine.Fault

/-!
# What is drawn, and what is marked

The dirty flag tells whoever shows the picture that it may have changed. Nothing but clearing and
drawing touches the picture, and both raise the flag when they do. A draw that hits no cell leaves
both alone.

## Main definitions

- `Display.Marks`: a change of a display that can be noticed.

## Main results

- `Machine.display_step`: a cycle leaves the display that `displayAfter` tells.
- `Machine.marks_step`: a cycle changes the display only in a way that can be noticed.
-/

namespace ChipEight

/-- A change from one display to another that can be noticed: nothing has changed, or the flag is up
afterwards. -/
def Display.Marks (d e : Display) : Prop :=
  e = d ∨ e.dirty = true

namespace Display.Marks

theorem refl (d : Display) : d.Marks d := .inl rfl

theorem of_dirty (d : Display) {e : Display} (h : e.dirty = true) : d.Marks e := .inr h

theorem trans {d e f : Display} (hde : d.Marks e) (hef : e.Marks f) : d.Marks f := by
  rcases hef with rfl | hf
  · exact hde
  · exact .inr hf

/-- Where the flag is down, nothing has changed. -/
theorem eq_of_not_dirty {d e : Display} (h : d.Marks e) (he : e.dirty = false) : e = d := by
  rcases h with h | h
  · exact h
  · rw [he] at h
    cases h

end Display.Marks

/-- Lowering a flag that is down changes nothing. -/
theorem Display.consume_of_not_dirty {d : Display} (h : d.dirty = false) : d.consume = d :=
  Display.ext rfl h.symm

/-! ### Flipping pixels -/

/-- Flipping cells in order raises the flag, unless there are none. -/
theorem Display.marks_flipAll (d : Display) (cs : List Cell) : d.Marks (d.flipAll cs).1 := by
  induction cs generalizing d with
  | nil => exact .refl d
  | cons c cs ih => exact .trans (.of_dirty d (dirty_flip d c)) (ih (d.flip c))

theorem Display.marks_clear (d : Display) : d.Marks d.clear :=
  .of_dirty d rfl

/-- Coordinates on the grid are those of a cell. -/
theorem Cell.exists_of_grid {x y : Int} (h : (0 ≤ x ∧ x < 64) ∧ (0 ≤ y ∧ y < 32)) :
    ∃ c : Cell, x = c.x.val ∧ y = c.y.val :=
  ⟨⟨⟨x.toNat, by omega⟩, ⟨y.toNat, by omega⟩⟩, by simp only; omega, by simp only; omega⟩

/-- **What combining a bit can do.** Outside of the grid it is refused; an even bit does nothing, and
an odd one flips the pixel and tells whether it was lit. -/
theorem Display.xor_cases (d : Display) (x y bit : Int) :
    (¬((0 ≤ x ∧ x < 64) ∧ (0 ≤ y ∧ y < 32)) ∧ d.xor x y bit = .error ⟨x, y⟩) ∨
      ∃ c : Cell, x = c.x.val ∧ y = c.y.val ∧
        ((bit % 2 = 0 ∧ d.xor x y bit = .ok (d, false)) ∨
          (bit % 2 = 1 ∧ d.xor x y bit = .ok (d.flip c, d.pixel c))) := by
  by_cases hgrid : (0 ≤ x ∧ x < 64) ∧ (0 ≤ y ∧ y < 32)
  · obtain ⟨c, rfl, rfl⟩ := Cell.exists_of_grid hgrid
    refine .inr ⟨c, rfl, rfl, ?_⟩
    rw [xor, Cell.ofInts_val]
    rcases Int.emod_two_eq bit with heven | hodd
    · exact .inl ⟨heven, congrArg Except.ok (if_pos heven)⟩
    · exact .inr ⟨hodd, congrArg Except.ok (if_neg (by omega))⟩
  · refine .inl ⟨hgrid, ?_⟩
    rw [xor, Cell.ofInts, dif_neg hgrid]
    rfl

/-- A host that combines a bit into a pixel marks what it changes. -/
theorem Display.marks_xor {d e : Display} {x y bit : Int} {hit : Bool}
    (h : d.xor x y bit = .ok (e, hit)) : d.Marks e := by
  rcases d.xor_cases x y bit with ⟨-, hrefused⟩ | ⟨c, -, -, ⟨-, heven⟩ | ⟨-, hodd⟩⟩
  · rw [hrefused] at h
    cases h
  · rw [heven] at h
    cases h
    exact .refl d
  · rw [hodd] at h
    cases h
    exact .of_dirty d (dirty_flip d c)

/-! ### Instructions -/

theorem Machine.marks_displayAfter (m : Machine) (i : Instr) :
    m.display.Marks (m.displayAfter i) := by
  cases i with
  | clear => exact m.display.marks_clear
  | draw x y rows => exact m.display.marks_flipAll _
  | _ => exact .refl _

theorem Instr.marks_exec {m n : Machine} {i : Instr} (h : i.exec m = .ok n) :
    m.display.Marks n.display := by
  rw [Instr.display_exec h]
  exact m.marks_displayAfter i

/-! ### Cycles -/

namespace Machine

theorem display_spent (m : Machine) (i : Instr) : (m.spent i).display = m.display := by
  cases i <;> rfl

/-- A cycle leaves the display that its instruction leaves, completed or not: the instructions that
change it do not fail. -/
theorem display_step (m : Machine) : m.step.display = m.displayAfter (decode m.word) := by
  have hfetched : m.fetched.displayAfter (decode m.word) = m.displayAfter (decode m.word) := by
    cases decode m.word <;> rfl
  rw [← hfetched]
  cases h : (decode m.word).exec m.fetched with
  | error f =>
    rw [(cycle_of_exec_error h).2, display_spent]
    cases hi : decode m.word with
    | clear | draw =>
      rw [hi] at h
      cases h
    | _ => rfl
  | ok n =>
    have hn : n.display = m.fetched.displayAfter (decode m.word) := Instr.display_exec h
    rw [(cycle_of_exec_ok h).2]
    exact hn

theorem marks_step (m : Machine) : m.display.Marks m.step.display := by
  rw [display_step]
  exact m.marks_displayAfter (decode m.word)

end Machine

end ChipEight
