import ChipEight.Pacer
import ChipEight.Proofs.Machine.Drawing

/-!
# A frame, taken apart

A frame is a row of cycles and what follows it. If a cycle fails, then nothing follows: the timers
are not stepped, the picture is not shown, nobody is told anything. Otherwise the frame is closed,
and each part of what it leaves behind depends on the row of cycles in a simple way.

## Main definitions

- `Pacer.cyclesOf`: the row of cycles of a frame.
- `Pacer.abort`, `Pacer.close`: what follows it.
- `Pacer.pictureCues`, `Pacer.soundCues`: what the screen and the speaker are told then.

## Main results

- `Pacer.frame_cases`: a frame is aborted or closed.
- `Pacer.close_machine`, `Pacer.close_pacer`, `Pacer.close_result`, `Pacer.close_cues`: the parts of
  a closed frame.
-/

namespace ChipEight

namespace Pacer

/-! ### Switching the sound -/

theorem switchSound_pacer (p : Pacer) (wanted : Bool) :
    (p.switchSound wanted).1 = { p with soundOn := wanted } := by
  rw [switchSound]
  split
  next h => rw [h]
  next => split <;> rfl

/-- The speaker is told of changes only. -/
theorem switchSound_cues (p : Pacer) (wanted : Bool) :
    (p.switchSound wanted).2.1 =
      if wanted = p.soundOn ∨ p.speaker = false then [] else [if wanted then .play else .stop] := by
  rw [switchSound]
  by_cases h : wanted = p.soundOn
  · simp [h]
  · cases hs : p.speaker <;> simp [h]

/-! ### The parts of a frame -/

/-- The row of cycles of a frame. -/
def cyclesOf (p : Pacer) (m : Machine) : Burst :=
  m.burst m.dialect.displayWait p.budget.toNat

/-- A frame that ends with the fault of a cycle. -/
def abort (p : Pacer) (b : Burst) (f : Fault) : Frame :=
  ⟨b.machine, p, [], b.log, .error f⟩

/-- A frame whose row of cycles is completed. -/
def close (p : Pacer) (b : Burst) : Frame :=
  let ticked := b.machine.tick
  let counted := { p with frames := p.frames + 1 }
  let rendered := ticked.display.dirty
  let shown := if rendered && p.screen then [.render ticked.display] else []
  let after := if rendered then { ticked with display := ticked.display.consume } else ticked
  let (switched, cues, log) := counted.switchSound after.timers.sounding
  ⟨after, switched, shown ++ cues, b.log ++ log, .ok ⟨b.cycles, rendered, switched.soundOn⟩⟩

/-- A frame is aborted by the fault of a cycle, or else closed. -/
theorem frame_cases (p : Pacer) (m : Machine) :
    (∃ f, (p.cyclesOf m).fault = some f ∧ p.frame m = p.abort (p.cyclesOf m) f) ∨
      (p.cyclesOf m).fault = none ∧ p.frame m = p.close (p.cyclesOf m) := by
  rw [frame, cyclesOf]
  cases (m.burst m.dialect.displayWait p.budget.toNat).fault with
  | some f => exact .inl ⟨f, rfl, rfl⟩
  | none => exact .inr ⟨rfl, rfl⟩

/-- A frame without a fault is completed. -/
theorem frame_of_no_fault {p : Pacer} {m : Machine} (h : (p.cyclesOf m).fault = none) :
    p.frame m = p.close (p.cyclesOf m) := by
  rcases p.frame_cases m with ⟨f, hf, -⟩ | ⟨-, hframe⟩
  · rw [h] at hf
    cases hf
  · exact hframe

/-- A frame with a fault is aborted. -/
theorem frame_of_fault {p : Pacer} {m : Machine} {f : Fault}
    (h : (p.cyclesOf m).fault = some f) : p.frame m = p.abort (p.cyclesOf m) f := by
  rcases p.frame_cases m with ⟨g, hg, hframe⟩ | ⟨hnone, -⟩
  · rw [h] at hg
    cases hg
    exact hframe
  · rw [h] at hnone
    cases hnone

/-- A frame that tells a fault was aborted by it. -/
theorem frame_of_error {p : Pacer} {m : Machine} {f : Fault} (h : (p.frame m).result = .error f) :
    (p.cyclesOf m).fault = some f ∧ p.frame m = p.abort (p.cyclesOf m) f := by
  rcases p.frame_cases m with ⟨g, hg, hframe⟩ | ⟨-, hframe⟩
  · rw [hframe] at h
    cases h
    exact ⟨hg, hframe⟩
  · rw [hframe] at h
    cases h

/-- A frame that gives a report was closed. -/
theorem frame_of_ok {p : Pacer} {m : Machine} {stats : FrameStats}
    (h : (p.frame m).result = .ok stats) :
    (p.cyclesOf m).fault = none ∧ p.frame m = p.close (p.cyclesOf m) := by
  rcases p.frame_cases m with ⟨f, -, hframe⟩ | hclosed
  · rw [hframe] at h
    cases h
  · exact hclosed

/-- A closed frame has stepped the timers and lowered the dirty flag. -/
theorem close_machine (p : Pacer) (b : Burst) :
    (p.close b).machine =
      { b.machine with timers := b.machine.timers.tick, display := b.machine.display.consume } := by
  cases hd : b.machine.display.dirty with
  | true => simp [close, Machine.tick, hd]
  | false => simp [close, Machine.tick, hd, Display.consume_of_not_dirty hd]

/-- Whether the beeper is to sound once the timers are stepped. -/
def soundsAfter (b : Burst) : Bool :=
  b.machine.timers.tick.sounding

theorem close_timers (p : Pacer) (b : Burst) :
    (p.close b).machine.timers = b.machine.timers.tick := by
  rw [close_machine]

/-- A closed frame is counted, and the sound is on exactly if the sound timer is still running. -/
theorem close_pacer (p : Pacer) (b : Burst) :
    (p.close b).pacer = { p with frames := p.frames + 1, soundOn := soundsAfter b } := by
  have h : (p.close b).pacer =
      (switchSound { p with frames := p.frames + 1 } (p.close b).machine.timers.sounding).1 := rfl
  rw [h, switchSound_pacer, close_timers]
  rfl

/-- A closed frame reports its cycles, whether they left the flag up, and whether the sound is
on. -/
theorem close_result (p : Pacer) (b : Burst) :
    (p.close b).result = .ok ⟨b.cycles, b.machine.display.dirty, soundsAfter b⟩ := by
  have h : (p.close b).result =
      .ok ⟨b.cycles, b.machine.display.dirty, (p.close b).pacer.soundOn⟩ := rfl
  rw [h, close_pacer]

/-- What the screen is told at the end of a row of cycles: the picture, if it was written to. -/
def pictureCues (p : Pacer) (b : Burst) : List Cue :=
  if b.machine.display.dirty && p.screen then [.render b.machine.display] else []

/-- What the speaker is told at the end of a row of cycles: nothing, unless the sound changes. -/
def soundCues (p : Pacer) (b : Burst) : List Cue :=
  if soundsAfter b = p.soundOn ∨ p.speaker = false then []
  else [if soundsAfter b then .play else .stop]

/-- The screen is told first, and sees the flag up. -/
theorem close_cues (p : Pacer) (b : Burst) :
    (p.close b).cues = p.pictureCues b ++ p.soundCues b := by
  have h : (p.close b).cues =
      p.pictureCues b ++ (switchSound { p with frames := p.frames + 1 }
        (p.close b).machine.timers.sounding).2.1 := rfl
  rw [h, switchSound_cues, close_timers]
  rfl

/-- A frame leaves its pacer the same budget, completed or not. -/
theorem budget_frame (p : Pacer) (m : Machine) : (p.frame m).pacer.budget = p.budget := by
  rcases p.frame_cases m with ⟨f, -, hframe⟩ | ⟨-, hframe⟩
  · rw [hframe]
    rfl
  · rw [hframe, close_pacer]

end Pacer

end ChipEight
