import ChipEight.Proofs.Machine.Dialects
import ChipEight.Proofs.Machine.KeyWait
import ChipEight.Proofs.Pacer.Rounds

/-!
# Every picture is shown

In a dialect that ends a frame with a draw, a screen is handed each picture that a program draws, in
order and without repetition. A frame begins with the flag down. Only a cycle that clears the picture
or flips a pixel raises it, and then it is the last cycle of its frame: the frame is closed, and the
picture is handed over with the flag lowered again. A frame that fails has raised no flag before, for
it would have ended there; so the next frame begins with the flag down as well.

## Main definitions

- `Machine.draws`: whether the next cycle clears the picture or flips a pixel.

## Main results

- `Machine.dirty_step`: where the flag is down, these are the cycles that raise it.
- `Machine.burst_cases`: a row of cycles that waits for the display draws in its last cycle, or not
  at all.
- `Console.every_picture_shown`: the pictures that rounds hand over, and each frame of them.
-/

namespace ChipEight

/-! ### Cycles that draw -/

namespace Machine

/-- Whether the next cycle clears the picture, or draws a sprite and flips at least one pixel by
that. -/
def draws (m : Machine) : Bool :=
  match decode m.word with
  | .clear => true
  | .draw _ _ _ => decide (m.step.display.rows ≠ m.display.rows)
  | _ => false

/-- A drawn sprite changes the picture, unless it falls on no cell. -/
theorem rows_flipAll_ne_iff (m : Machine) (x y : Reg) (rows : Fin 16) :
    (m.display.flipAll (m.spriteCells x y rows.val)).1.rows ≠ m.display.rows ↔
      m.spriteCells x y rows.val ≠ [] := by
  rw [← m.display.exists_pixel_flipAll_ne_iff (m.nodup_spriteCells x y rows)]
  constructor
  · intro hne
    by_contra hall
    exact hne (Display.rows_ext fun c => not_not.1 fun hc => hall ⟨c, hc⟩)
  · rintro ⟨c, hc⟩ hrows
    exact hc (by rw [Display.pixel, Display.pixel, hrows])

/-- **Where the flag is down, a cycle raises it exactly if it draws.** -/
theorem dirty_step {m : Machine} (hdown : m.display.dirty = false) :
    m.step.display.dirty = m.draws := by
  rw [draws, display_step]
  cases decode m.word with
  | clear => rfl
  | draw x y rows =>
    have hdirty : (m.displayAfter (.draw x y rows)).dirty =
        !(m.spriteCells x y rows.val).isEmpty := by
      rw [displayAfter, Display.dirty_flipAll, hdown, Bool.false_or]
    have hrows := m.rows_flipAll_ne_iff x y rows
    rw [hdirty, Bool.eq_iff_iff, Bool.not_eq_true', List.isEmpty_eq_false_iff, ← hrows]
    exact decide_eq_true_iff.symm
  | _ => exact hdown

/-! ### Rows of cycles -/

/-- What a row of at most `n` cycles leaves behind, when it waits for the display and none of the
cycles `ks` has drawn. -/
structure Idle (n : Nat) (b : Burst) (ks : List Machine) : Prop where
  quiet : ∀ k ∈ ks, k.draws = false
  down : b.machine.display.dirty = false
  /-- Nothing but a fault ends the row early. -/
  full : b.fault = none → b.cycles = n

/-- What it leaves behind when the cycle of `k` has drawn: this cycle has ended the row. -/
structure Drawn (b : Burst) (ks : List Machine) (k : Machine) : Prop where
  last : ∃ quiet, ks = quiet ++ [k] ∧ ∀ j ∈ quiet, j.draws = false
  draws : k.draws = true
  machine : b.machine = k.step
  raised : b.machine.display.dirty = true
  completed : b.fault = none

/-- The machines at which the cycles of a row begin. -/
def burstBeginnings (m : Machine) (wait : Bool) (n : Nat) : List Machine :=
  m.beginnings (List.replicate (m.burst wait n).begun .cycle)

/-- **A row of cycles that waits for the display** draws in its last cycle, or not at all. -/
theorem burst_cases {m : Machine} (hdown : m.display.dirty = false) (n : Nat) :
    Idle n (m.burst true n) (m.burstBeginnings true n) ∨
      ∃ k, Drawn (m.burst true n) (m.burstBeginnings true n) k := by
  induction n generalizing m with
  | zero => exact .inl ⟨List.forall_mem_nil _, hdown, fun _ => rfl⟩
  | succ n ih =>
    have hdraws : m.draws = m.step.display.dirty := (dirty_step hdown).symm
    cases hresult : m.cycle.result with
    | error f =>
      have hstep : m.step.display = m.display := (kept_of_error hresult).1
      have hburst := burst_of_error hresult true n
      have hks : m.burstBeginnings true (n + 1) = [m] := by
        rw [burstBeginnings, hburst]
        rfl
      rw [hks, hburst]
      rw [hstep, hdown] at hdraws
      exact .inl ⟨List.forall_mem_singleton.2 hdraws, by rw [hstep, hdown], fun h => by cases h⟩
    | ok i =>
      cases hdirty : m.step.display.dirty with
      | true =>
        have hstop : (true && m.step.display.dirty) = true := hdirty
        have hburst := burst_of_stop hresult hstop n
        have hks : m.burstBeginnings true (n + 1) = [m] := by
          rw [burstBeginnings, hburst]
          rfl
        rw [hks, hburst]
        exact .inr ⟨m, ⟨[], rfl, fun j hj => by cases hj⟩, hdraws.trans hdirty, rfl, hdirty, rfl⟩
      | false =>
        have hgo : (true && m.step.display.dirty) = false := hdirty
        have hks : m.burstBeginnings true (n + 1) = m :: m.step.burstBeginnings true n := by
          rw [burstBeginnings, begun_of_go hresult hgo]
          rfl
        have hquiet := hdraws.trans hdirty
        rw [hks, burst_of_go hresult hgo]
        rcases ih hdirty with idle | ⟨k, drawn⟩
        · exact .inl ⟨List.forall_mem_cons.2 ⟨hquiet, idle.quiet⟩, idle.down,
            fun h => congrArg (· + 1) (idle.full h)⟩
        · obtain ⟨quiet, hlast, hquiets⟩ := drawn.last
          exact .inr ⟨k, ⟨m :: quiet, congrArg (m :: ·) hlast,
            List.forall_mem_cons.2 ⟨hquiet, hquiets⟩⟩, drawn.draws, drawn.machine, drawn.raised,
            drawn.completed⟩

end Machine

/-! ### Frames -/

/-- The pictures that cycles leave when they draw, in order. -/
def picturesDrawn (ks : List Machine) : List Rows :=
  (ks.filter Machine.draws).map fun k => k.step.display.rows

theorem picturesDrawn_append (ks ls : List Machine) :
    picturesDrawn (ks ++ ls) = picturesDrawn ks ++ picturesDrawn ls := by
  rw [picturesDrawn, List.filter_append, List.map_append]
  rfl

theorem picturesDrawn_of_quiet {ks : List Machine} (h : ∀ k ∈ ks, k.draws = false) :
    picturesDrawn ks = [] := by
  have hfilter : ks.filter Machine.draws = [] :=
    List.filter_eq_nil_iff.2 fun k hk => by simp [h k hk]
  rw [picturesDrawn, hfilter, List.map_nil]

namespace Pacer

/-- A frame that hands over every picture that it draws. -/
structure ShowsAll (p : Pacer) (m : Machine) : Prop where
  /-- The pictures handed over are those that its cycles have drawn, in order. -/
  pictures : (p.frame m).cues.filterMap Cue.picture? = picturesDrawn (m.beginnings (p.history m))
  /-- A cycle that draws is the last one of the frame. -/
  last : ∀ as k bs, m.beginnings (p.history m) = as ++ k :: bs → k.draws = true → bs = []
  /-- A completed frame without such a cycle has taken its whole budget, and handed over nothing. -/
  idle : ∀ stats, (p.frame m).result = .ok stats →
    (∀ k ∈ m.beginnings (p.history m), k.draws = false) →
      (stats.cycles : Int) = p.budget ∧
        ((m.beginnings (p.history m)).length : Int) = p.budget ∧
        stats.rendered = false ∧ (p.frame m).cues.filterMap Cue.picture? = []

variable {p : Pacer} {m : Machine}

/-- A frame hands over the picture that its cycles leave, if they were completed and left the flag
up. -/
theorem pictures_frame (hscreen : p.screen = true) :
    (p.frame m).cues.filterMap Cue.picture? =
      if (p.cyclesOf m).fault = none ∧ (p.cyclesOf m).machine.display.dirty = true then
        [(p.cyclesOf m).machine.display.rows]
      else [] := by
  rcases p.frame_cases m with ⟨f, hf, hframe⟩ | ⟨hf, hframe⟩
  · rw [hframe, hf, if_neg (by simp)]
    rfl
  · rw [hframe, pictures_close, hscreen, Bool.and_true]
    simp only [hf, true_and]

/-- A frame leaves the flag down, unless it fails after a draw. -/
theorem dirty_frame (h : (p.cyclesOf m).fault ≠ none → (p.cyclesOf m).machine.display.dirty = false) :
    (p.frame m).machine.display.dirty = false := by
  rcases p.frame_cases m with ⟨f, hf, hframe⟩ | ⟨hf, hframe⟩
  · rw [hframe]
    exact h (by simp [hf])
  · rw [hframe, close_machine]
    rfl

/-- A completed frame reports its cycles, and whether they left the flag up. -/
theorem of_result_frame_eq_ok {stats : FrameStats} (h : (p.frame m).result = .ok stats) :
    (p.cyclesOf m).fault = none ∧ stats.cycles = (p.cyclesOf m).cycles ∧
      stats.rendered = (p.cyclesOf m).machine.display.dirty := by
  rcases p.frame_cases m with ⟨f, -, hframe⟩ | ⟨hf, hframe⟩
  · rw [hframe] at h
    cases h
  · rw [hframe, close_result, Except.ok.injEq] at h
    subst h
    exact ⟨hf, rfl, rfl⟩

theorem showsAll_of_idle (hscreen : p.screen = true) (hbudget : 1 ≤ p.budget)
    (idle : Machine.Idle p.budget.toNat (p.cyclesOf m) (m.beginnings (p.history m))) :
    p.ShowsAll m := by
  have hpictures : (p.frame m).cues.filterMap Cue.picture? = [] := by
    rw [pictures_frame hscreen, idle.down, if_neg (by simp)]
  refine ⟨?_, fun as k bs hks hk => ?_, fun stats hstats _ => ?_⟩
  · rw [hpictures, picturesDrawn_of_quiet idle.quiet]
  · rw [idle.quiet k (hks ▸ List.mem_append_right as List.mem_cons_self)] at hk
    cases hk
  · obtain ⟨hf, hcycles, hrendered⟩ := of_result_frame_eq_ok hstats
    have hfull := idle.full hf
    have hlength : (m.beginnings (p.history m)).length = (p.cyclesOf m).cycles := by
      rw [length_beginnings_history, Burst.begun, hf]
      rfl
    exact ⟨by omega, by omega, hrendered.trans idle.down, hpictures⟩

theorem showsAll_of_drawn (hscreen : p.screen = true) {k : Machine}
    (drawn : Machine.Drawn (p.cyclesOf m) (m.beginnings (p.history m)) k) : p.ShowsAll m := by
  obtain ⟨quiet, hks, hquiet⟩ := drawn.last
  refine ⟨?_, fun as l bs heq hl => ?_, fun stats _ hnone => ?_⟩
  · have hlone : picturesDrawn [k] = [k.step.display.rows] := by
      rw [picturesDrawn, List.filter_cons_of_pos drawn.draws]
      rfl
    rw [pictures_frame hscreen, if_pos ⟨drawn.completed, drawn.raised⟩, hks, picturesDrawn_append,
      picturesDrawn_of_quiet hquiet, hlone, drawn.machine, List.nil_append]
  · -- If anything came behind `l`, then `l` would be one of the quiet cycles.
    rcases List.eq_nil_or_concat bs with hnil | ⟨cs, z, rfl⟩
    · exact hnil
    · rw [hks, List.concat_eq_append, ← List.cons_append, ← List.append_assoc] at heq
      have hmem : l ∈ quiet := by
        rw [(List.append_inj' heq rfl).1]
        exact List.mem_append_right _ List.mem_cons_self
      rw [hquiet l hmem] at hl
      cases hl
  · have hk := hnone k (hks ▸ List.mem_append_right quiet List.mem_cons_self)
    rw [drawn.draws] at hk
    cases hk

/-- **A frame shows all that it draws**, if a draw ends it and it begins with the flag down. It then
leaves the flag down, whether it is completed or not. -/
theorem showsAll_frame (hscreen : p.screen = true) (hwait : m.dialect.displayWait = true)
    (hbudget : 1 ≤ p.budget) (hdown : m.display.dirty = false) :
    p.ShowsAll m ∧ (p.frame m).machine.display.dirty = false := by
  have hrow : p.cyclesOf m = m.burst true p.budget.toNat := by rw [cyclesOf, hwait]
  have hks : m.beginnings (p.history m) = m.burstBeginnings true p.budget.toNat := by
    rw [beginnings_history, hrow]
    rfl
  have hcases := Machine.burst_cases hdown p.budget.toNat
  rw [← hks, ← hrow] at hcases
  rcases hcases with idle | ⟨k, drawn⟩
  · exact ⟨showsAll_of_idle hscreen hbudget idle, dirty_frame fun _ => idle.down⟩
  · exact ⟨showsAll_of_drawn hscreen drawn, dirty_frame fun hf => absurd drawn.completed hf⟩

end Pacer

/-! ### Rounds -/

namespace Console

/-- A console between two frames, whose frames end with a draw and whose screen is up to date. -/
structure Attentive (c : Console) : Prop where
  screen : c.pacer.screen = true
  wait : c.machine.dialect.displayWait = true
  budget : 1 ≤ c.pacer.budget
  down : c.machine.display.dirty = false

variable {c : Console}

/-- Inputs touch neither the dialect nor the picture. -/
theorem Attentive.fed (h : c.Attentive) (is : List Input) : (c.fed is).Attentive := by
  have hmachine : (c.fed is).machine = c.machine.feedAll is := rfl
  refine ⟨h.screen, ?_, h.budget, ?_⟩
  · rw [hmachine, Machine.feedAll_eq]
    exact h.wait
  · rw [hmachine, Machine.feedAll_eq]
    exact h.down

/-- A frame shows all that it draws, and the console is as attentive as before. -/
theorem Attentive.afterFrame (h : c.Attentive) :
    c.pacer.ShowsAll c.machine ∧ c.afterFrame.Attentive := by
  obtain ⟨hshows, hdown⟩ := Pacer.showsAll_frame h.screen h.wait h.budget h.down
  have hmachine : c.afterFrame.machine = c.machine.after (c.pacer.history c.machine) :=
    c.pacer.machine_frame c.machine
  have hbudget : c.afterFrame.pacer.budget = c.pacer.budget := c.pacer.budget_frame c.machine
  refine ⟨hshows, ?_, ?_, ?_, hdown⟩
  · rw [screen_afterFrame]
    exact h.screen
  · rw [hmachine, Machine.dialect_after]
    exact h.wait
  · rw [hbudget]
    exact h.budget

theorem Attentive.round (h : c.Attentive) (is : List Input) : (c.round is).Attentive :=
  (h.fed is).afterFrame.2

theorem Attentive.rounds (h : c.Attentive) (rs : List (List Input)) : (c.rounds rs).Attentive := by
  induction rs generalizing c with
  | nil => exact h
  | cons is rs ih => exact ih (h.round is)

theorem budget_rounds (c : Console) (rs : List (List Input)) :
    (c.rounds rs).pacer.budget = c.pacer.budget := by
  induction rs generalizing c with
  | nil => rfl
  | cons is rs ih =>
    rw [rounds_cons, ih]
    exact c.pacer.budget_frame (c.fed is).machine

/-- The pictures of rounds are those of their frames. -/
theorem Attentive.pictures (h : c.Attentive) (rs : List (List Input)) :
    (c.cues rs).filterMap Cue.picture? =
      picturesDrawn (c.machine.beginnings (c.history rs)) := by
  induction rs generalizing c with
  | nil => rfl
  | cons is rs ih =>
    have hframe := (h.fed is).afterFrame.1.pictures
    rw [cues, List.filterMap_append, ih (h.round is), beginnings_history_cons, picturesDrawn_append]
    exact congrArg (· ++ _) hframe

/-- **With a dialect that ends a frame with a draw, every picture is shown.** A screen is attached,
the budget is positive, and the flag is down at first. A host gives inputs and runs frames in turn,
whether they are completed or not.

The pictures that the screen is handed are those that the cycles leave which clear the picture or
flip a pixel, in order. In each of the frames such a cycle is the last one. A completed frame
without such a cycle has taken as many cycles as the budget allows, and has handed over nothing. -/
theorem every_picture_shown (hscreen : c.pacer.screen = true)
    (hwait : c.machine.dialect.displayWait = true) (hbudget : 1 ≤ c.pacer.budget)
    (hdown : c.machine.display.dirty = false) (rs : List (List Input)) :
    (c.cues rs).filterMap Cue.picture? =
        picturesDrawn (c.machine.beginnings (c.history rs)) ∧
      ∀ as is bs, rs = as ++ is :: bs →
        let start := (c.rounds as).fed is
        start.pacer.budget = c.pacer.budget ∧ start.pacer.ShowsAll start.machine := by
  have h : c.Attentive := ⟨hscreen, hwait, hbudget, hdown⟩
  exact ⟨h.pictures rs, fun as is bs _ =>
    ⟨c.budget_rounds as, ((h.rounds as).fed is).afterFrame.1⟩⟩

/-- Five frames: the picture is cleared, a glyph is drawn, a return finds no return address, the
glyph is drawn once more and thereby wiped out, and the last frame draws nothing. -/
theorem every_picture_shown_around_a_fault :
    let program : List UInt8 :=
      [0x00, 0xE0, 0xA0, 0x50, 0xD0, 0x05, 0x00, 0xEE, 0xD0, 0x05, 0x70, 0x01, 0x12, 0x0C]
    let m := { Machine.fresh Preset.cosmac.dialect (.constant 0) with
      memory := Memory.fresh.writeBlock 0x200 program }
    let c : Console := ⟨m, .new 3 true false⟩
    let rs : List (List Input) := [[], [.key 3 true], [], [.tick], []]
    let start := (c.rounds [[], [.key 3 true], [], [.tick]]).fed []
    c.pacer.screen = true ∧ c.machine.dialect.displayWait = true ∧ 1 ≤ c.pacer.budget ∧
      c.machine.display.dirty = false ∧
      (c.cues rs).filterMap Cue.picture? =
        picturesDrawn (c.machine.beginnings (c.history rs)) ∧
      (picturesDrawn (c.machine.beginnings (c.history rs))).length = 3 ∧
      (start.machine.beginnings (start.pacer.history start.machine)).length = 3 ∧
      start.pacer.ShowsAll start.machine := by
  intro program m c rs start
  obtain ⟨hpictures, hframes⟩ :=
    every_picture_shown (c := c) rfl rfl (by decide) rfl rs
  exact ⟨rfl, rfl, by decide, rfl, hpictures, by decide +kernel, by decide +kernel,
    (hframes _ _ [] rfl).2⟩

end Console

end ChipEight
