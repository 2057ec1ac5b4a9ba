import ChipEight.Proofs.Machine.Report
import ChipEight.Proofs.Pacer.Sound
import ChipEight.Proofs.Sound.LifeCycle
import ChipEight.Proofs.Window.Scene

/-!
# The beeper follows the machine

Three parts of a window each remember whether it sounds: the pacer in a bit, the beeper in a flag, and
the machine in its sound timer. They are kept in agreement by what they tell each other. The pacer
tells the beeper of each change of its bit; at the end of a frame it sets the bit as the sound timer
asks for, and when the window is paused it clears it.

Agreement is lost only where it is of no use, in a turn whose frame fails: then the bit is what it was
after the frame before, whatever the timer says now. The window is shut down after that, as it is when
somebody quits or interrupts it, and a shutdown silences the beeper in any state.

What the main loop reports besides is routine. That it was shut down is in the trail of a run once,
and last.

## Main definitions

- `Trail.Routine`: a trail that tells of no shutdown.
- `Window.Wired`, `Window.Tuned`: the beeper agrees with the pacer, and is silent in a pause.
- `Window.Sounds`: both agree with the machine.
- `Window.Reaches`: the turns that the main loop comes to.
- `Window.WindowRun.ShutDown`: a run that was shut down once, at its end.

## Main results

- `Window.Tuned.advance`: a turn keeps the beeper in tune.
- `Window.Tuned.loop`: so does the main loop.
- `Window.beeper_follows_machine`: what is heard of a run, and how it ends.
-/

namespace ChipEight

/-! ### Trails without a shutdown -/

/-- A trail that tells of no shutdown. -/
def Trail.Routine (t : Trail) : Prop :=
  Entry.shuttingDown ∉ t.log ∧ MixerCall.quit ∉ t.calls

namespace Trail.Routine

theorem of_log {log : Log} (h : Entry.shuttingDown ∉ log) : Routine { log := log } :=
  ⟨h, List.not_mem_nil⟩

theorem of_calls {calls : List MixerCall} (h : MixerCall.quit ∉ calls) :
    Routine { calls := calls } :=
  ⟨List.not_mem_nil, h⟩

theorem empty : Routine {} :=
  ⟨List.not_mem_nil, List.not_mem_nil⟩

theorem append {a b : Trail} (ha : a.Routine) (hb : b.Routine) : (a.append b).Routine :=
  ⟨List.not_mem_append ha.1 hb.1, List.not_mem_append ha.2 hb.2⟩

end Trail.Routine

/-- The machine does not report a shutdown. -/
theorem Machine.shuttingDown_not_mem_burst (m : Machine) (wait : Bool) (n : Nat) :
    Entry.shuttingDown ∉ (m.burst wait n).log := by
  rw [log_burst]
  intro hmem
  obtain ⟨k, -, hentry⟩ := List.mem_flatMap.1 hmem
  rw [log_cycle] at hentry
  split at hentry <;> simp at hentry

namespace Pacer

variable (p : Pacer)

theorem shuttingDown_not_mem_switchSound (wanted : Bool) :
    Entry.shuttingDown ∉ (p.switchSound wanted).2.2 := by
  rw [switchSound]
  split
  · exact List.not_mem_nil
  · cases p.speaker <;> simp

theorem shuttingDown_not_mem_frame (m : Machine) : Entry.shuttingDown ∉ (p.frame m).log := by
  have hburst := m.shuttingDown_not_mem_burst m.dialect.displayWait p.budget.toNat
  rcases p.frame_cases m with ⟨f, -, hframe⟩ | ⟨-, hframe⟩
  · rw [hframe]
    exact hburst
  · rw [hframe]
    exact List.not_mem_append hburst (shuttingDown_not_mem_switchSound _ _)

end Pacer

theorem Controls.shuttingDown_not_mem_poll (c : Controls) (p : Keypad) (es : List HostEvent) :
    Entry.shuttingDown ∉ (c.poll p es).2.2 := by
  have hmove : ∀ (q : Keypad) k down, Entry.shuttingDown ∉ (moveKey q k down).2 := by
    intro q k down
    rw [moveKey]
    cases k.code? with
    | none => exact List.not_mem_nil
    | some code => simp
  have hhandle : ∀ (b : Controls) (q : Keypad) e, Entry.shuttingDown ∉ (b.handle q e).2.2 := by
    intro b q e
    cases e with
    | keyDown k =>
      cases k with
      | escape | pause => exact List.not_mem_nil
      | _ => exact hmove q _ true
    | keyUp k => exact hmove q k false
    | _ => exact List.not_mem_nil
  induction es generalizing c p with
  | nil => exact List.not_mem_nil
  | cons e es ih => exact List.not_mem_append (hhandle c p e) (ih _ _)

/-! ### The beeper -/

namespace Beeper

variable (b : Beeper)

/-- Playing, the beeper does not touch what it holds, and its mixer goes on. -/
theorem play_spec :
    b.play.1.playing = true ∧ b.play.1.mixer.started = b.mixer.started ∧
      MixerCall.quit ∉ b.play.2 := by
  rw [play]
  split <;> exact ⟨rfl, rfl, by simp⟩

theorem stop_spec :
    b.stop.1.playing = false ∧ b.stop.1.mixer.started = b.mixer.started ∧
      MixerCall.quit ∉ b.stop.2 := by
  rw [stop]
  split <;> exact ⟨rfl, rfl, by simp⟩

end Beeper

namespace Window

theorem routine_cue (w : Window) (c : Cue) : (w.cue c).2.Routine := by
  cases c with
  | render d =>
    refine .of_log ?_
    show Entry.shuttingDown ∉ (w.renderer.render d).2.2
    rw [Renderer.render]
    split <;> simp
  | play => exact .of_calls w.beeper.play_spec.2.2
  | stop => exact .of_calls w.beeper.stop_spec.2.2

theorem routine_cueAll (w : Window) (cs : List Cue) : (w.cueAll cs).2.Routine := by
  induction cs generalizing w with
  | nil => exact .empty
  | cons c cs ih => exact (w.routine_cue c).append (ih _)

theorem routine_hush (w : Window) : w.hush.2.Routine :=
  .append (.of_log (w.pacer.shuttingDown_not_mem_switchSound false)) (routine_cueAll _ _)

theorem routine_togglePause (w : Window) : w.togglePause.2.Routine := by
  cases hpressed : w.controls.pausePressed with
  | false =>
    rw [togglePause_of_unpressed hpressed]
    exact .empty
  | true =>
    cases hp : w.paused with
    | false =>
      rw [togglePause_of_running hpressed hp]
      exact (routine_hush _).append (.of_log (by simp))
    | true =>
      rw [togglePause_of_paused hpressed hp]
      exact .append .empty (.of_log (by simp))

theorem routine_frame (w : Window) : w.frame.2.1.Routine :=
  .append (.of_log (w.pacer.shuttingDown_not_mem_frame w.machine)) (routine_cueAll _ _)

theorem routine_advance (w : Window) (es : List HostEvent) : (w.advance es).2.1.Routine := by
  have hpoll : (w.poll es).2.Routine :=
    .of_log (w.controls.shuttingDown_not_mem_poll w.machine.keypad es)
  have htoggle := (w.poll es).1.routine_togglePause
  have hframe := (w.poll es).1.togglePause.1.routine_frame
  simp only [advance]
  split
  · exact hpoll
  · split
    · exact hpoll.append htoggle
    · exact (hpoll.append htoggle).append hframe

/-! ### Agreement -/

/-- The beeper is attached to the pacer, and plays as the pacer told it. Its mixer is started or
not. -/
structure Wired (started : Bool) (w : Window) : Prop where
  attached : w.pacer.speaker = true
  agrees : w.beeper.playing = w.pacer.soundOn
  mixer : w.beeper.mixer.started = started

/-- Moreover nothing sounds in a pause. -/
structure Tuned (started : Bool) (w : Window) : Prop extends w.Wired started where
  hushed : w.paused = true → w.pacer.soundOn = false

/-- The beeper plays and the sound is on exactly if the window is not paused and the sound timer of
its machine is running. -/
def Sounds (w : Window) : Prop :=
  w.beeper.playing = w.pacer.soundOn ∧
    w.pacer.soundOn = (!w.paused && decide (0 < w.machine.timers.sound))

/-- Cues are for the beeper and for the screen. -/
theorem cueAll_eq (w : Window) (cs : List Cue) :
    (w.cueAll cs).1 =
      { w with
        beeper := (w.cueAll cs).1.beeper
        renderer := (w.cueAll cs).1.renderer
        shown := (w.cueAll cs).1.shown } := by
  induction cs generalizing w with
  | nil => rfl
  | cons c cs ih =>
    have h := ih (w.cue c).1
    cases c <;> exact h

theorem beeper_cue (w : Window) (c : Cue) :
    (w.cue c).1.beeper.playing = c.sound?.getD w.beeper.playing ∧
      (w.cue c).1.beeper.mixer.started = w.beeper.mixer.started := by
  cases c with
  | render d => exact ⟨rfl, rfl⟩
  | play => exact ⟨w.beeper.play_spec.1, w.beeper.play_spec.2.1⟩
  | stop => exact ⟨w.beeper.stop_spec.1, w.beeper.stop_spec.2.1⟩

/-- The beeper plays as it was told last. -/
theorem beeper_cueAll (w : Window) (cs : List Cue) :
    (w.cueAll cs).1.beeper.playing = (speakerCalls cs).getLast?.getD w.beeper.playing ∧
      (w.cueAll cs).1.beeper.mixer.started = w.beeper.mixer.started := by
  induction cs generalizing w with
  | nil => exact ⟨rfl, rfl⟩
  | cons c cs ih =>
    obtain ⟨hplaying, hstarted⟩ := ih (w.cue c).1
    obtain ⟨hfirst, hmixer⟩ := w.beeper_cue c
    refine ⟨hplaying.trans ?_, hstarted.trans hmixer⟩
    rw [hfirst, speakerCalls, speakerCalls, List.filterMap_cons]
    cases c.sound? with
    | none => rfl
    | some b => rw [List.getLast?_cons]; rfl

/-- After cues the beeper agrees with the pacer, if the last of them says what the pacer says. -/
theorem wired_cueAll {started : Bool} {w : Window} {cs : List Cue}
    (hattached : w.pacer.speaker = true) (hmixer : w.beeper.mixer.started = started)
    (hcues : (speakerCalls cs).getLast?.getD w.beeper.playing = w.pacer.soundOn) :
    (w.cueAll cs).1.Wired started := by
  obtain ⟨hplaying, hstarted⟩ := w.beeper_cueAll cs
  have hpacer : (w.cueAll cs).1.pacer = w.pacer := by rw [cueAll_eq]
  exact ⟨hpacer ▸ hattached, hpacer ▸ hplaying.trans hcues, hstarted.trans hmixer⟩

/-- What a switch says last is what was wanted. -/
theorem last_switchSound {p : Pacer} (hs : p.speaker = true) (wanted : Bool) :
    (speakerCalls (p.switchSound wanted).2.1).getLast?.getD p.soundOn = wanted := by
  rw [Pacer.speakerCalls_switchSound]
  by_cases h : wanted = p.soundOn
  · rw [if_pos (.inl h)]
    exact h.symm
  · rw [if_neg (by simp [h, hs])]
    rfl

theorem soundOn_hush (w : Window) : w.hush.1.pacer.soundOn = false := by
  have hhush : w.hush.1 = ({ w with pacer := w.pacer.hush.1 }.cueAll w.pacer.hush.2.1).1 := rfl
  rw [hhush, cueAll_eq]
  exact congrArg Pacer.soundOn (w.pacer.switchSound_pacer false)

section

variable {started : Bool} {v w : Window}

/-- Neither the clock nor the controls matter. -/
theorem Tuned.of_same (h : w.Tuned started) (hpacer : v.pacer = w.pacer)
    (hbeeper : v.beeper = w.beeper) (hpaused : v.paused = w.paused) : v.Tuned started := by
  refine ⟨⟨?_, ?_, ?_⟩, ?_⟩
  · exact hpacer ▸ h.attached
  · rw [hbeeper, hpacer]
    exact h.agrees
  · exact hbeeper ▸ h.mixer
  · rw [hpaused, hpacer]
    exact h.hushed

theorem Wired.hush (h : w.Wired started) : w.hush.1.Wired started := by
  have hpacer : w.pacer.hush.1 = { w.pacer with soundOn := false } :=
    w.pacer.switchSound_pacer false
  show (({ w with pacer := w.pacer.hush.1 } : Window).cueAll w.pacer.hush.2.1).1.Wired started
  refine wired_cueAll ?_ h.mixer ?_
  · show w.pacer.hush.1.speaker = true
    rw [hpacer]
    exact h.attached
  · show (speakerCalls w.pacer.hush.2.1).getLast?.getD w.beeper.playing = w.pacer.hush.1.soundOn
    rw [h.agrees, hpacer, Pacer.hush, last_switchSound h.attached]

theorem Tuned.togglePause (h : w.Tuned started) : w.togglePause.1.Tuned started := by
  cases hpressed : w.controls.pausePressed with
  | false =>
    rw [togglePause_of_unpressed hpressed]
    exact h.of_same rfl rfl rfl
  | true =>
    cases hp : w.paused with
    | true =>
      rw [togglePause_of_paused hpressed hp]
      exact ⟨⟨h.attached, h.agrees, h.mixer⟩, fun hrun => nomatch hrun⟩
    | false =>
      let v : Window := { w with controls := ⟨w.controls.quit, false⟩, paused := true }
      have hv : v.Wired started := ⟨h.attached, h.agrees, h.mixer⟩
      rw [togglePause_of_running hpressed hp]
      exact ⟨hv.hush, fun _ => v.soundOn_hush⟩

/-- A frame tells the beeper what the pacer says. If it is completed, that is what the sound timer
asks for. -/
theorem Wired.frame (h : w.Wired started) :
    w.frame.1.Wired started ∧ w.frame.1.paused = w.paused ∧
      (w.frame.2.2 = none →
        w.frame.1.pacer.soundOn = decide (0 < w.frame.1.machine.timers.sound)) := by
  let f := w.pacer.frame w.machine
  let v := { w with machine := f.machine, pacer := f.pacer }
  have hv : w.frame.1 = (v.cueAll f.cues).1 := rfl
  have hkeep : (v.cueAll f.cues).1.paused = w.paused ∧ (v.cueAll f.cues).1.pacer = f.pacer ∧
      (v.cueAll f.cues).1.machine = f.machine := by
    rw [cueAll_eq]
    exact ⟨rfl, rfl, rfl⟩
  rw [hv, hkeep.1, hkeep.2.1, hkeep.2.2]
  rcases w.pacer.frame_cases w.machine with ⟨fault, -, hframe⟩ | ⟨-, hframe⟩
  · have hf : f = w.pacer.abort (w.pacer.cyclesOf w.machine) fault := hframe
    refine ⟨wired_cueAll ?_ h.mixer ?_, rfl, fun hnone => ?_⟩
    · show f.pacer.speaker = true
      rw [hf]
      exact h.attached
    · show (speakerCalls f.cues).getLast?.getD w.beeper.playing = f.pacer.soundOn
      rw [hf]
      exact h.agrees
    · have hfault : w.frame.2.2 = some fault := by simp only [Window.frame, hframe, Pacer.abort]
      rw [hfault] at hnone
      cases hnone
  · have hf : f = w.pacer.close (w.pacer.cyclesOf w.machine) := hframe
    refine ⟨wired_cueAll ?_ h.mixer ?_, rfl, fun _ => ?_⟩
    · show f.pacer.speaker = true
      rw [hf, Pacer.close_pacer]
      exact h.attached
    · show (speakerCalls f.cues).getLast?.getD w.beeper.playing = f.pacer.soundOn
      rw [hf, Pacer.close_pacer, Pacer.speakerCalls_close, h.agrees, last_switchSound h.attached]
    · rw [hf, Pacer.close_pacer, Pacer.close_timers]
      rfl

/-- **A turn keeps the beeper in tune**, and if it comes to the clock, the beeper sounds as it
should. -/
theorem Tuned.advance (h : w.Tuned started) (es : List HostEvent) :
    (w.advance es).1.Tuned started ∧
      ((w.advance es).2.2 = .waits → (w.advance es).1.Sounds) := by
  have hpolled : (w.poll es).1.Tuned started := h.of_same rfl rfl rfl
  have hready : (w.ready es).Tuned started := hpolled.togglePause
  obtain ⟨hwindow, hending⟩ := w.advance_eq es
  rw [hwindow, hending]
  cases hquit : (w.poll es).1.controls.quit with
  | true =>
    simp only [if_true]
    exact ⟨hpolled.of_same rfl rfl rfl, fun hwaits => nomatch hwaits⟩
  | false =>
    cases hp : (w.ready es).paused with
    | true =>
      simp only [Bool.false_eq_true, if_true, if_false]
      refine ⟨hready, fun _ => ⟨hready.agrees, ?_⟩⟩
      rw [hready.hushed hp, hp]
      rfl
    | false =>
      obtain ⟨hwired, hpaused, hsound⟩ := hready.toWired.frame
      simp only [Bool.false_eq_true, if_false]
      refine ⟨⟨hwired, fun hpause => ?_⟩, fun hwaits => ⟨hwired.agrees, ?_⟩⟩
      · rw [hpaused, hp] at hpause
        cases hpause
      · cases hfault : (w.ready es).frame.2.2 with
        | some f =>
          rw [hfault] at hwaits
          cases hwaits
        | none => rw [hsound hfault, hpaused, hp, Bool.not_false, Bool.true_and]

end

/-! ### The main loop -/

/-- The window when the main loop is entered: it shows the blank picture. -/
def entered (w : Window) : Window :=
  ({ w with running := true, now := .zero, marked := .zero, counted := 0 }.render
    w.machine.display).1

/-- The events that arrive before the next turn of a script. At its end the window is closed. -/
def arrivals : List Beat → List HostEvent
  | [] => [.quit]
  | b :: _ => b.events

/-- The main loop over a script comes to the turn that begins the script `rest`, after the turns
`ts`. -/
inductive Reaches : Window → List Beat → List Tick → List Beat → Prop
  | here (w : Window) (script : List Beat) : Reaches w script [] script
  | later {w : Window} {b : Beat} {bs rest : List Beat} {ts : List Tick} {seconds : Real64}
    (waits : (w.advance b.events).2.2 = .waits)
    (counted : b.seconds = .ok seconds)
    (goes : b.interrupted = false) (next : nextFault bs = none)
    (reaches : Reaches (w.turn ⟨b.events, seconds⟩) bs ts rest) :
    Reaches w (b :: bs) (⟨b.events, seconds⟩ :: ts) rest

section

variable {started : Bool} {w : Window}

theorem Tuned.count (h : w.Tuned started) : w.count.Tuned started := by
  rw [Window.count]
  split <;> exact h.of_same rfl rfl rfl

theorem Sounds.count (h : w.Sounds) : w.count.Sounds := by
  rw [Window.count]
  split <;> exact h

theorem Tuned.wait (h : w.Tuned started) (seconds : Real64) : (w.wait seconds).Tuned started :=
  h.of_same rfl rfl rfl

/-- Turns that come to the clock keep the beeper in tune. -/
theorem Tuned.turns {script rest : List Beat} {ts : List Tick} (h : w.Tuned started)
    (hreach : w.Reaches script ts rest) :
    (w.turns ts).Tuned started ∧ (ts ≠ [] ∨ w.Sounds → (w.turns ts).Sounds) := by
  induction hreach with
  | here w script => exact ⟨h, fun hsounds => hsounds.elim (fun hne => absurd rfl hne) id⟩
  | @later w b bs rest ts seconds hwaits hseconds hgoes hnext hrest ih =>
    obtain ⟨htuned, hsounds⟩ := h.advance b.events
    have hturn := turn_of_waits (t := ⟨b.events, seconds⟩) hwaits
    rw [turns_cons, hturn]
    rw [hturn] at ih
    obtain ⟨hlast, hagain⟩ := ih (htuned.wait seconds).count
    exact ⟨hlast, fun _ => hagain (.inr (Sounds.count (hsounds hwaits)))⟩

end

/-- The main loop leaves the beeper in tune and does not shut it down. Whenever the clock was read,
it sounded as it should. -/
structure WindowRun.Steady (started : Bool) (run : WindowRun) : Prop where
  tuned : run.window.Tuned started
  sounds : ∀ v ∈ run.snapshots, v.Sounds
  routine : run.trail.Routine

theorem Tuned.loop {started : Bool} {w : Window} (h : w.Tuned started) (script : List Beat) :
    (w.loop script).Steady started := by
  induction script generalizing w with
  | nil => exact ⟨(h.advance [.quit]).1, by simp [Window.loop], w.routine_advance [.quit]⟩
  | cons b bs ih =>
    obtain ⟨htuned, hsounds⟩ := h.advance b.events
    have hroutine := w.routine_advance b.events
    rcases hv : w.advance b.events with ⟨v, trail, ending⟩
    rw [hv] at htuned hsounds hroutine
    simp only [Window.loop, hv]
    cases ending with
    | quits => exact ⟨htuned, by simp, hroutine⟩
    | fails f => exact ⟨htuned, by simp, hroutine⟩
    | waits =>
      have hv' : v.Sounds := hsounds rfl
      cases b.seconds with
      | error e => exact ⟨htuned, by simp, hroutine⟩
      | ok seconds =>
        have hclock := htuned.wait seconds
        have hone : ∀ u ∈ [v.wait seconds], u.Sounds := by
          intro u hu
          obtain rfl := List.mem_singleton.1 hu
          exact hv'
        cases hstop : b.interrupted with
        | true =>
          simp only [if_true]
          exact ⟨hclock, hone, hroutine.append (.of_log (by simp))⟩
        | false =>
          simp only [Bool.false_eq_true, if_false]
          cases nextFault bs with
          | some e => exact ⟨hclock, hone, hroutine⟩
          | none =>
            obtain ⟨hlast, hrest, hlater⟩ := ih hclock.count
            refine ⟨hlast, fun u hu => ?_, hroutine.append hlater⟩
            obtain rfl | hu := List.mem_cons.1 hu
            · exact hv'
            · exact hrest u hu

/-! ### The end of a run -/

section

variable {w : Window} {script rest : List Beat} {ts : List Tick}

/-- What the main loop leaves is decided in the last turn that it comes to. -/
theorem Reaches.loop_eq (h : w.Reaches script ts rest) :
    (w.loop script).window = ((w.turns ts).loop rest).window ∧
      (w.loop script).fault = ((w.turns ts).loop rest).fault := by
  induction h with
  | here => exact ⟨rfl, rfl⟩
  | later hwaits hseconds hgoes hnext _ ih =>
    obtain ⟨hwindow, hfault⟩ := loop_cons_of_waits hwaits hseconds hgoes hnext
    exact ⟨hwindow.trans ih.1, hfault.trans ih.2⟩

/-- A turn that someone asks to quit in runs no cycle. -/
theorem advance_of_quits {es : List HostEvent} (h : es.any HostEvent.quits = true) :
    (w.advance es).1 = { (w.poll es).1 with running := false } ∧
      (w.advance es).2.2 = .quits := by
  have hquit : (w.poll es).1.controls.quit = true := by
    rw [quit_poll]
    simp [Scene.hear, Controls.hearAll, h]
  obtain ⟨hwindow, hending⟩ := w.advance_eq es
  rw [hquit, if_pos rfl] at hwindow hending
  exact ⟨hwindow, hending⟩

theorem loop_of_quits (h : (arrivals script).any HostEvent.quits = true) :
    (w.loop script).window = { (w.poll (arrivals script)).1 with running := false } ∧
      (w.loop script).fault = none := by
  obtain ⟨hwindow, hending⟩ := advance_of_quits (w := w) h
  cases script with
  | nil => exact ⟨hwindow, rfl⟩
  | cons b bs =>
    rcases hv : w.advance b.events with ⟨v, trail, ending⟩
    rw [arrivals, hv] at hwindow hending
    obtain rfl : ending = .quits := hending
    simp only [Window.loop, hv]
    exact ⟨hwindow, trivial⟩

/-- A turn whose frame fails ends the loop with its fault. -/
theorem loop_of_fails {f : Fault} (h : (w.advance (arrivals script)).2.2 = .fails f) :
    (w.loop script).fault = some (.machine f) := by
  cases script with
  | nil =>
    have hquits : (w.advance [.quit]).2.2 = .quits := (advance_of_quits rfl).2
    have hfails : (w.advance [.quit]).2.2 = .fails f := h
    rw [hquits] at hfails
    cases hfails
  | cons b bs =>
    rcases hv : w.advance b.events with ⟨v, trail, ending⟩
    rw [arrivals, hv] at h
    obtain rfl : ending = .fails f := h
    simp only [Window.loop, hv]

end

/-- A shutdown silences the beeper and gives it up, and leaves the machine alone. -/
theorem shutdown_silent (w : Window) :
    w.shutdown.1.beeper.playing = false ∧ w.shutdown.1.pacer.soundOn = false ∧
      w.shutdown.1.beeper.holding = false ∧ w.shutdown.1.machine = w.machine :=
  ⟨w.hush.1.beeper.stop_spec.1, w.soundOn_hush, rfl, congrArg Scene.machine w.scene_hush⟩

/-- The trail of a shutdown tells of it once. The mixer quits if it was started. -/
theorem count_shutdown {started : Bool} {w : Window} (h : w.Tuned started) :
    w.shutdown.2.log.count .shuttingDown = 1 ∧
      w.shutdown.2.calls.count .quit = if started then 1 else 0 := by
  obtain ⟨hlog, hcalls⟩ := w.routine_hush
  have hmixer : w.hush.1.beeper.mixer.started = started := h.toWired.hush.mixer
  have hstop := w.hush.1.beeper.stop_spec.2.2
  constructor
  · show List.count Entry.shuttingDown ([.shuttingDown] ++ w.hush.2.log ++ []) = 1
    rw [List.count_append, List.count_append, List.count_eq_zero.2 hlog]
    rfl
  · show List.count MixerCall.quit ([] ++ w.hush.2.calls ++
      (w.hush.1.beeper.stop.2 ++ if w.hush.1.beeper.mixer.started then [.quit] else [])) = _
    rw [List.count_append, List.count_append, List.count_append, List.count_eq_zero.2 hcalls,
      List.count_eq_zero.2 hstop, hmixer]
    cases started <;> rfl

/-- A new window is in tune. -/
theorem tuned_of_new {m : Machine} {s : WindowSettings} {w : Window} {opened : Trail}
    (h : new m s = .ok (w, opened)) :
    w.Tuned w.beeper.mixer.started ∧ (m.timers.sound ≤ 0 → w.Sounds) := by
  obtain ⟨made, cycles, hmade, hmachine, hpacer, -, hbeeper, hpaused⟩ := exists_of_new h
  have hsilent : made.beeper.playing = false := Beeper.silent_of_new hmade
  have hon : w.pacer.soundOn = false := by
    rw [hpacer]
    rfl
  have hagrees : w.beeper.playing = w.pacer.soundOn := by
    rw [hon, hbeeper, hsilent]
  have hattached : w.pacer.speaker = true := by
    rw [hpacer]
    rfl
  refine ⟨⟨⟨hattached, hagrees, rfl⟩, fun _ => hon⟩, fun hsound => ⟨hagrees, ?_⟩⟩
  rw [hon, hmachine, decide_eq_false (Int.not_lt.2 hsound), Bool.and_false]

/-- A run that was shut down once, at its end. -/
structure WindowRun.ShutDown (started : Bool) (run : WindowRun) : Prop where
  /-- The shutdown comes last, and what comes before tells of none. -/
  last : ∃ (v : Window) (earlier : Trail), run.window = v.shutdown.1 ∧
    run.trail = earlier.append v.shutdown.2 ∧ earlier.Routine
  entries : run.trail.log.count .shuttingDown = 1
  /-- The mixer quits once if it was started, and otherwise never. -/
  quits : run.trail.calls.count .quit = if started then 1 else 0
  silent : run.window.beeper.playing = false
  off : run.window.pacer.soundOn = false
  /-- The beeper holds no sound and no channel. -/
  released : run.window.beeper.holding = false

/-- However the main loop goes, the run is shut down once. -/
theorem Tuned.shutDown {started : Bool} {w : Window} (h : w.entered.Tuned started)
    (script : List Beat) : (w.runLoop script).ShutDown started := by
  obtain ⟨htuned, -, hroutine⟩ := h.loop script
  let v := (w.entered.loop script).window
  obtain ⟨hplaying, hon, hholding, -⟩ := v.shutdown_silent
  obtain ⟨hlog, hcalls⟩ := count_shutdown htuned
  let first : Trail := ({ w with running := true, now := .zero, marked := .zero, counted := 0 }.render
    w.machine.display).2
  let entry : Trail := { log := [.loopEntered (w.rate.truncated.toOption.getD 0)] }
  let earlier := (first.append entry).append (w.entered.loop script).trail
  have hearlier : earlier.Routine :=
    .append (.append (routine_cue _ (.render w.machine.display)) (.of_log (by simp))) hroutine
  have htrail : (w.runLoop script).trail = earlier.append v.shutdown.2 := rfl
  refine ⟨⟨v, earlier, rfl, htrail, hearlier⟩, ?_, ?_, hplaying, hon, hholding⟩
  · rw [htrail]
    show List.count Entry.shuttingDown (earlier.log ++ v.shutdown.2.log) = 1
    rw [List.count_append, List.count_eq_zero.2 hearlier.1, Nat.zero_add, hlog]
  · rw [htrail]
    show List.count MixerCall.quit (earlier.calls ++ v.shutdown.2.calls) = _
    rw [List.count_append, List.count_eq_zero.2 hearlier.2, Nat.zero_add, hcalls]

/-- **The beeper follows the machine, and it is always silenced.** A window is opened on any machine
and runs over any script. Nobody but its beeper starts the mixer, uses its channel or quits it, and a
mixer that has started does what it is told.

Whenever a turn has come to the clock, the beeper plays and the sound is on exactly if the window is
not paused and the sound timer is running; if the timer stood still at first, this is so from the
beginning. If someone asks to quit in a turn that the loop comes to, the run ends without a fault, and
the machine is as it was when the events had been handled. If a frame fails, the run ends with its
fault. Whichever way it ends, it is shut down once, and the beeper is silent and holds nothing. -/
theorem beeper_follows_machine {m : Machine} {s : WindowSettings} {w : Window} {opened : Trail}
    (h : new m s = .ok (w, opened)) (script : List Beat) :
    let run := w.runLoop script
    (nextFault script = none → w.run script = run) ∧
    (∀ v ∈ run.snapshots, v.Sounds) ∧
    (∀ ts rest, w.entered.Reaches script ts rest →
      let v := w.entered.turns ts
      (ts ≠ [] ∨ m.timers.sound ≤ 0 → v.Sounds) ∧
      ((arrivals rest).any HostEvent.quits = true →
        run.fault = none ∧ run.window.machine = (v.poll (arrivals rest)).1.machine) ∧
      ∀ f, (v.advance (arrivals rest)).2.2 = .fails f → run.fault = some (.machine f)) ∧
    run.ShutDown w.beeper.mixer.started := by
  intro run
  obtain ⟨htuned, hsounds⟩ := tuned_of_new h
  have hentered : w.entered.Tuned w.beeper.mixer.started := htuned.of_same rfl rfl rfl
  refine ⟨fun hnext => by rw [Window.run, hnext], (hentered.loop script).sounds,
    fun ts rest hreach => ?_, hentered.shutDown script⟩
  intro v
  obtain ⟨hwindow, hfault⟩ := hreach.loop_eq
  refine ⟨fun hbegun => ?_, fun hquits => ?_, fun f hfails => ?_⟩
  · exact (hentered.turns hreach).2 (hbegun.imp_right hsounds)
  · obtain ⟨hlast, hnone⟩ := loop_of_quits (w := v) hquits
    refine ⟨hfault.trans hnone, ?_⟩
    have hmachine : run.window.machine = (w.entered.loop script).window.machine :=
      (shutdown_silent _).2.2.2
    rw [hmachine, hwindow, hlast]
  · exact hfault.trans (loop_of_fails hfails)

/-- The beeper plays when the window is paused, falls silent, plays again when the window goes on, and
is silenced when a frame fails. In a second run `Escape` ends a turn before its frame. -/
theorem beeper_follows_machine_around_a_pause :
    let m := { Machine.fresh .plain (.constant 0) with
      memory := Memory.fresh.writeBlock 0x200
        [0x60, 0x05, 0xF0, 0x18, 0x61, 0x01, 0x62, 0x02, 0x00, 0xEE] }
    let press : Beat := { events := [.keyDown .pause] }
    let leave : Beat := { events := [.keyDown (.symbol 'x'), .keyDown .escape] }
    ∃ w opened, new m { budget := .int 2 } = .ok (w, opened) ∧
      let failed := w.runLoop [{}, press, press, {}]
      let left := w.runLoop [{}, leave]
      let v := w.entered.turns [⟨[], .zero⟩]
      (∀ u ∈ failed.snapshots, u.Sounds) ∧ failed.ShutDown true ∧
        failed.snapshots.map (·.beeper.playing) = [true, false, true] ∧
        failed.fault.map WindowFault.message = some "return with empty stack at $020A" ∧
        w.entered.Reaches [{}, leave] [⟨[], .zero⟩] [leave] ∧ v.Sounds ∧ left.ShutDown true ∧
        left.fault = none ∧ left.window.machine = (v.poll leave.events).1.machine ∧
        left.window.machine.cycles = 2 := by
  intro m press leave
  let b : Beeper := ⟨true, .int 440, false, true, { Mixer.standard with started := true }⟩
  obtain ⟨⟨_, calls, log⟩, -, hmade, rfl, -⟩ := Beeper.exists_new_standard
  have htitle : titleOf (.text "CHIP-8") = .ok "CHIP-8" := by simp [titleOf]
  let w : Window :=
    { machine := m
      pacer := .new 2 true true
      controls := .fresh
      beeper := b
      renderer := .new .standard .standard
      shown := Display.blankRows
      scale := .int 10
      size := (640, 320)
      rate := .int 60
      budget := .int 2
      title := "CHIP-8"
      caption := "CHIP-8"
      running := false
      paused := false
      now := .zero
      marked := .zero
      counted := 0 }
  have hnew : ∃ opened, new m { budget := .int 2 } = .ok (w, opened) := by
    simp only [new, hmade, htitle]
    exact ⟨_, rfl⟩
  obtain ⟨opened, hnew⟩ := hnew
  have hreach : w.entered.Reaches [{}, leave] [⟨[], .zero⟩] [leave] := by
    have hquit : (w.entered.poll []).1.controls.quit = false := rfl
    have hpaused : (w.entered.ready []).paused = false := rfl
    have hfault : (w.entered.ready []).frame.2.2 = none :=
      Option.isNone_iff_eq_none.1 (by decide +kernel)
    have hwaits : (w.entered.advance []).2.2 = .waits := by
      rw [(w.entered.advance_eq []).2, hquit, hpaused, hfault]
      rfl
    exact .later hwaits rfl rfl rfl (.here _ _)
  obtain ⟨-, hsounds, -, hshut⟩ := beeper_follows_machine hnew [{}, press, press, {}]
  obtain ⟨-, -, hturns, hshut'⟩ := beeper_follows_machine hnew [{}, leave]
  obtain ⟨hbegun, hquits, -⟩ := hturns _ _ hreach
  obtain ⟨hfault, hmachine⟩ := hquits rfl
  refine ⟨w, opened, hnew, hsounds, hshut, ?_, ?_, hreach, hbegun (.inl (by simp)), hshut', hfault,
    hmachine, ?_⟩
  · decide +kernel
  · decide +kernel
  · rw [hmachine]
    decide +kernel

end Window

end ChipEight
