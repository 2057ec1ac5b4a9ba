import ChipEight.Proofs.Machine.Footprint
import ChipEight.Proofs.Machine.KeyWait
import ChipEight.Proofs.Pacer.Rounds
import ChipEight.Proofs.Window.Scene

/-!
# A pause does not show

While a window is paused, it still listens. Keys go down and up, the window loses the focus and every
key is let go, the caption is written, and the speaker has been silenced. The machine notices nothing
of it but which keys are held. In particular its snapshot of the keys is not taken: this is what it
compares with when it looks for a key that was let go. So a key that was held when the turn before the
pause ended, and is let go while the pause lasts, counts as released when the window goes on. A key
that first goes down in the turn that begins the pause was never seen by a cycle, and when it goes up
this is not seen either; without the pause it would be the same.

A pause may then be cut out of a script. If the same keys are held when the window goes on as would
have been held without the pause, all that follows is the same, on the machine and on the screen.
There is no need to say that the speaker is silenced and the clock goes on: none of this is in the
scene.

## Main definitions

- `Tick.quits`, `Tick.pauses`: what the events of a turn ask for.
- `Scene.ready`: the scene of a turn when the frame is to run.
- `Window.Pause`: a pause put in front of a turn.
- `Window.CutOut`: what it does not change.

## Main results

- `Scene.turn_eq`: a turn, when nothing was asked for before and nobody asks to quit.
- `Window.controls_turns`: this is how it is between turns.
- `Scene.turns_of_paused`: turns of a paused window follow the held keys.
- `Window.Pause.scene_turns`: turns after a pause are as they would have been without.
- `Window.pause_transparent`: all of this for windows, and a key that is let go in a pause.
-/

namespace ChipEight

/-- An event of the turn asks to quit. -/
def Tick.quits (t : Tick) : Bool :=
  t.events.any HostEvent.quits

/-- The pause key is pressed in the turn. -/
def Tick.pauses (t : Tick) : Bool :=
  t.events.any HostEvent.pauses

/-! ### Turns of a scene -/

namespace Scene

/-- The scene with its keys held like this. -/
def holding (s : Scene) (live : KeySet) : Scene :=
  { s with machine := { s.machine with keypad := ⟨live, s.machine.keypad.last⟩ } }

/-- The scene of a turn when its frame is to run, if nothing was asked for before. -/
def ready (s : Scene) (es : List HostEvent) : Scene :=
  { s.holding (s.machine.keypad.live.hearAll es) with
    paused := s.paused ^^ es.any HostEvent.pauses }

section

variable {s : Scene} {es : List HostEvent}

/-- When nothing was asked for before and nobody asks to quit, only a pause may be asked for. -/
theorem controls_hear (hs : s.controls = .fresh) (hquit : es.any HostEvent.quits = false) :
    (s.hear es).controls = ⟨false, es.any HostEvent.pauses⟩ := by
  simp [hear, Controls.hearAll, hs, Controls.fresh, hquit]

theorem toggle_hear (hs : s.controls = .fresh) (hquit : es.any HostEvent.quits = false) :
    (s.hear es).toggle = s.ready es := by
  rw [toggle, controls_hear hs hquit]
  simp only [hear, ready, holding, hs, Controls.fresh]

/-- Then a frame runs unless the scene is paused when it is ready. -/
theorem turn_eq (hs : s.controls = .fresh) (hquit : es.any HostEvent.quits = false) :
    s.turn es = if (s.ready es).paused then s.ready es else (s.ready es).frame := by
  rw [turn, toggle_hear hs hquit, controls_hear hs hquit]
  rfl

theorem pictures_eq (hs : s.controls = .fresh) (hquit : es.any HostEvent.quits = false) :
    s.pictures es =
      if (s.ready es).paused then []
      else ((s.ready es).pacer.frame (s.ready es).machine).cues.filterMap Cue.picture? := by
  rw [pictures, toggle_hear hs hquit, controls_hear hs hquit, Bool.false_or]

/-- Cues show pictures and do nothing else. -/
theorem cueAll_eq (s : Scene) (cs : List Cue) :
    s.cueAll cs =
      { s with renderer := (s.cueAll cs).renderer, shown := (s.cueAll cs).shown } := by
  induction cs generalizing s with
  | nil => rfl
  | cons c cs ih =>
    have h := ih (s.cue c)
    cases c <;> exact h

/-- If nobody asked to quit, a turn pauses or goes on if this was asked for, before or in the turn.
Afterwards nothing is asked for. -/
theorem turn_of_open (hs : s.controls.quit = false) (hquit : es.any HostEvent.quits = false) :
    (s.turn es).paused = (s.paused ^^ (s.controls.pausePressed || es.any HostEvent.pauses)) ∧
      (s.turn es).controls = .fresh := by
  have hheard : (s.hear es).controls =
      ⟨false, s.controls.pausePressed || es.any HostEvent.pauses⟩ := by
    simp [hear, Controls.hearAll, hs, hquit]
  have htoggle : (s.hear es).toggle.paused =
      (s.paused ^^ (s.controls.pausePressed || es.any HostEvent.pauses)) := by
    rw [toggle, hheard]
    rfl
  have hcleared : (s.hear es).toggle.controls = .fresh := by
    rw [toggle, hheard]
    rfl
  rw [turn, hheard, if_neg Bool.false_ne_true]
  split
  · exact ⟨htoggle, hcleared⟩
  · rw [frame, cueAll_eq]
    exact ⟨htoggle, hcleared⟩

/-- Between turns nothing is asked for. -/
theorem controls_turn (hs : s.controls = .fresh) (hquit : es.any HostEvent.quits = false) :
    (s.turn es).controls = .fresh :=
  (turn_of_open (congrArg Controls.quit hs) hquit).2

/-- A turn pauses or goes on if the pause key is pressed. -/
theorem paused_turn (hs : s.controls = .fresh) (hquit : es.any HostEvent.quits = false) :
    (s.turn es).paused = (s.paused ^^ es.any HostEvent.pauses) := by
  have hnone : s.controls.pausePressed = false := congrArg Controls.pausePressed hs
  rw [(turn_of_open (congrArg Controls.quit hs) hquit).1, hnone, Bool.false_or]

/-- A paused scene stays as it is, but for the held keys. -/
theorem turn_of_paused (hs : s.controls = .fresh) (hp : s.paused = true)
    (hquit : es.any HostEvent.quits = false) (hpauses : es.any HostEvent.pauses = false) :
    s.turn es = s.holding (s.machine.keypad.live.hearAll es) := by
  have hready : s.ready es = s.holding (s.machine.keypad.live.hearAll es) := by
    rw [ready, hpauses, Bool.xor_false]
    rfl
  have hpaused : (s.ready es).paused = true := by
    rw [hready]
    exact hp
  rw [turn_eq hs hquit, if_pos hpaused, hready]

/-- **Turns of a paused scene** leave it as it was, but for the held keys. -/
theorem turns_of_paused (hs : s.controls = .fresh) (hp : s.paused = true)
    {ess : List (List HostEvent)}
    (hess : ∀ es ∈ ess, es.any HostEvent.quits = false ∧ es.any HostEvent.pauses = false) :
    s.turns ess = s.holding (s.machine.keypad.live.hearAll ess.flatten) := by
  induction ess generalizing s with
  | nil => rfl
  | cons es ess ih =>
    obtain ⟨hquit, hpauses⟩ := hess es List.mem_cons_self
    have hfirst := turn_of_paused hs hp hquit hpauses
    have hrest := ih (s := s.turn es) (by rw [hfirst]; exact hs) (by rw [hfirst]; exact hp)
      fun fs hfs => hess fs (List.mem_cons_of_mem es hfs)
    rw [turns_cons, hrest, hfirst, List.flatten_cons, KeySet.hearAll_append]
    rfl

/-- A running scene that is paused stays as it is, but for the held keys. -/
theorem turn_of_pauses (hs : s.controls = .fresh) (hp : s.paused = false)
    (hquit : es.any HostEvent.quits = false) (hpauses : es.any HostEvent.pauses = true) :
    s.turn es = { s.holding (s.machine.keypad.live.hearAll es) with paused := true } := by
  have hready : s.ready es =
      { s.holding (s.machine.keypad.live.hearAll es) with paused := true } := by
    rw [ready, hpauses, hp]
    rfl
  rw [turn_eq hs hquit, hready, if_pos rfl]

theorem budget_turn : (s.turn es).pacer.budget = s.pacer.budget := by
  have hframe : ∀ u : Scene, u.frame.pacer.budget = u.pacer.budget := by
    intro u
    rw [frame, cueAll_eq]
    exact u.pacer.budget_frame u.machine
  rw [turn]
  split
  · rfl
  · split
    · rfl
    · exact hframe _

end

end Scene

/-! ### Between turns -/

namespace Window

/-- A new window was asked for nothing, it is not paused, and its frames take a cycle at least. -/
theorem of_new {m : Machine} {settings : WindowSettings} {w : Window} {trail : Trail}
    (h : new m settings = .ok (w, trail)) :
    w.controls = .fresh ∧ w.paused = false ∧ 1 ≤ w.pacer.budget := by
  obtain ⟨made, cycles, -, -, hpacer, hcontrols, -, hpaused⟩ := exists_of_new h
  refine ⟨hcontrols, hpaused, ?_⟩
  rw [hpacer]
  exact Int.le_max_left ..

/-- Turns in which nobody asks to quit leave nothing asked for. -/
theorem controls_turns {w : Window} (hw : w.controls = .fresh) {ts : List Tick}
    (hts : ∀ t ∈ ts, t.quits = false) : (w.turns ts).controls = .fresh := by
  induction ts generalizing w with
  | nil => exact hw
  | cons t ts ih =>
    have hfirst : (w.turn t).controls = .fresh := by
      have h : (w.scene.turn t.events).controls = .fresh :=
        Scene.controls_turn hw (hts t List.mem_cons_self)
      rwa [← scene_turn] at h
    exact ih hfirst fun u hu => hts u (List.mem_cons_of_mem t hu)

theorem budget_turns (w : Window) (ts : List Tick) :
    (w.turns ts).pacer.budget = w.pacer.budget := by
  induction ts generalizing w with
  | nil => rfl
  | cons t ts ih =>
    have hfirst : (w.turn t).scene.pacer.budget = w.scene.pacer.budget := by
      rw [scene_turn, Scene.budget_turn]
    exact (ih (w.turn t)).trans hfirst

end Window

/-! ### The snapshot -/

/-- A row of cycles that is completed and not empty has remembered the held keys. -/
theorem Machine.keypad_burst {m : Machine} {wait : Bool} {n : Nat} (hn : 0 < n)
    (h : (m.burst wait n).fault = none) :
    (m.burst wait n).machine.keypad = ⟨m.keypad.live, m.keypad.live⟩ := by
  induction n generalizing m with
  | zero => exact absurd hn (Nat.lt_irrefl 0)
  | succ n ih =>
    cases hresult : m.cycle.result with
    | error f =>
      rw [burst_of_error hresult] at h
      cases h
    | ok i =>
      have hstep := (settled_of_ok hresult).1
      cases hdirty : wait && m.step.display.dirty with
      | true =>
        rw [burst_of_stop hresult hdirty]
        exact hstep
      | false =>
        rw [burst_of_go hresult hdirty] at h ⊢
        cases n with
        | zero => exact hstep
        | succ n =>
          have hrest := ih n.succ_pos h
          rw [hstep] at hrest
          exact hrest

/-- So has a completed frame of at least one cycle. -/
theorem Pacer.keypad_frame {p : Pacer} {m : Machine} {stats : FrameStats}
    (h : (p.frame m).result = .ok stats) (hp : 1 ≤ p.budget) :
    (p.frame m).machine.keypad = ⟨m.keypad.live, m.keypad.live⟩ := by
  obtain ⟨hfault, hframe⟩ := frame_of_ok h
  rw [hframe, close_machine]
  exact Machine.keypad_burst (by omega) hfault

namespace Window

theorem machine_frame (w : Window) : w.frame.1.machine = (w.pacer.frame w.machine).machine := by
  let v := { w with
    machine := (w.pacer.frame w.machine).machine
    pacer := (w.pacer.frame w.machine).pacer }
  have hscene : w.frame.1.scene = v.scene.cueAll (w.pacer.frame w.machine).cues :=
    v.scene_cueAll _
  rw [Scene.cueAll_eq] at hscene
  exact congrArg Scene.machine hscene

section

variable {w : Window} {t : Tick}

theorem scene_ready_eq (hw : w.controls = .fresh) (hquit : t.quits = false) :
    (w.ready t.events).scene = w.scene.ready t.events := by
  rw [scene_ready, Scene.toggle_hear hw hquit]

/-- A turn after which the window runs has run a frame. -/
theorem turn_of_running (hw : w.controls = .fresh) (hquit : t.quits = false)
    (hrun : (w.turn t).paused = false) :
    (w.ready t.events).paused = false ∧ (w.turn t).scene = (w.ready t.events).frame.1.scene := by
  have hready := scene_ready_eq hw hquit
  have hpaused : (w.scene.ready t.events).paused = false := by
    rw [← hrun]
    exact (Scene.paused_turn hw hquit).symm.trans (congrArg Scene.paused (w.scene_turn t)).symm
  constructor
  · rw [← hready] at hpaused
    exact hpaused
  · rw [scene_turn, Scene.turn_eq hw hquit, hpaused, if_neg Bool.false_ne_true, ← hready,
      scene_frame]

/-- The machine after such a turn is that of its frame. -/
theorem machine_turn_of_running (hw : w.controls = .fresh) (hquit : t.quits = false)
    (hrun : (w.turn t).paused = false) :
    (w.turn t).machine =
      ((w.ready t.events).pacer.frame (w.ready t.events).machine).machine :=
  (congrArg Scene.machine (turn_of_running hw hquit hrun).2).trans (machine_frame _)

/-- If it has come to the clock as well, its frame has remembered the held keys. -/
theorem last_eq_live_turn (hw : w.controls = .fresh) (hquit : t.quits = false)
    (hrun : (w.turn t).paused = false) (hwaits : (w.advance t.events).2.2 = .waits)
    (hp : 1 ≤ w.pacer.budget) :
    (w.turn t).machine.keypad.last = (w.turn t).machine.keypad.live := by
  have hmachine := machine_turn_of_running hw hquit hrun
  have hpaused := (turn_of_running hw hquit hrun).1
  have hopen : (w.poll t.events).1.controls.quit = false := by
    rw [quit_poll, Scene.controls_hear hw hquit]
  have hbudget : (w.ready t.events).pacer.budget = w.pacer.budget :=
    congrArg (·.pacer.budget) (scene_ready_eq hw hquit)
  cases hresult : ((w.ready t.events).pacer.frame (w.ready t.events).machine).result with
  | error f =>
    have hfault : (w.ready t.events).frame.2.2 = some f := by
      simp only [frame, hresult]
    rw [(w.advance_eq t.events).2, hopen, hpaused, hfault] at hwaits
    cases hwaits
  | ok stats => rw [hmachine, Pacer.keypad_frame hresult (hbudget ▸ hp)]

end

/-! ### Cutting out a pause -/

/-- A pause put in front of the turn `b`, after the turns `as`. The window runs. In the turn `p` the
pause key is pressed, in the turns `qs` it is not, and in the turn `b'`, which takes the place of
`b`, it is pressed again. When the frame of this turn is to run, the same keys are held as without
the pause. Nobody asks to quit. -/
structure Pause (w : Window) (as : List Tick) (p : Tick) (qs : List Tick) (b b' : Tick) :
    Prop where
  running : (w.turns as).paused = false
  begins : p.pauses = true
  lasts : ∀ q ∈ qs, q.pauses = false
  ends : b'.pauses = true
  without : b.pauses = false
  keys : ((w.turns as).ready b.events).machine.keypad.live =
    ((w.turns (as ++ p :: qs)).ready b'.events).machine.keypad.live
  stays : ∀ t ∈ as ++ p :: qs ++ [b, b'], t.quits = false

namespace Pause

variable {w : Window} {as : List Tick} {p : Tick} {qs : List Tick} {b b' : Tick}

theorem controls (h : w.Pause as p qs b b') (hw : w.controls = .fresh) :
    (w.turns as).controls = .fresh ∧ (w.turns (as ++ p :: qs)).controls = .fresh := by
  constructor
  · exact controls_turns hw fun t ht => h.stays t (by simp [ht])
  · exact controls_turns hw fun t ht => h.stays t (List.mem_append_left _ ht)

/-- While the pause lasts, the scene is the one before it, but for the held keys. -/
theorem scene_paused (h : w.Pause as p qs b b') (hw : w.controls = .fresh) :
    (w.turns (as ++ p :: qs)).scene =
      { (w.turns as).scene.holding ((w.turns as).machine.keypad.live.hearAll
          ((p :: qs).flatMap Tick.events)) with
        paused := true } := by
  have hcontrols := (h.controls hw).1
  have hfirst : ((w.turns as).turn p).scene = _ := (scene_turn _ p).trans
    (Scene.turn_of_pauses hcontrols h.running (h.stays p (by simp)) h.begins)
  have hess : ∀ es ∈ qs.map Tick.events,
      es.any HostEvent.quits = false ∧ es.any HostEvent.pauses = false := by
    intro es hes
    obtain ⟨q, hq, rfl⟩ := List.mem_map.1 hes
    exact ⟨h.stays q (by simp [hq]), h.lasts q hq⟩
  rw [turns_append, turns_cons, scene_turns, hfirst, Scene.turns_of_paused hcontrols rfl hess,
    List.flatMap_cons, KeySet.hearAll_append]
  rfl

/-- When the window goes on, it is ready as it would have been. -/
theorem ready_eq (h : w.Pause as p qs b b') (hw : w.controls = .fresh) :
    (w.turns (as ++ p :: qs)).scene.ready b'.events = (w.turns as).scene.ready b.events := by
  have hkeys : (w.turns as).machine.keypad.live.hearAll b.events =
      (w.turns (as ++ p :: qs)).scene.machine.keypad.live.hearAll b'.events := by
    have hlive := fun (v : Window) es => congrArg (·.machine.keypad.live) (v.scene_ready es)
    exact ((hlive _ _).symm.trans h.keys).trans (hlive _ _)
  have hends : b'.events.any HostEvent.pauses = true := h.ends
  have hwithout : b.events.any HostEvent.pauses = false := h.without
  have hrunning : (w.turns as).scene.paused = false := h.running
  rw [Scene.ready, Scene.ready, ← hkeys, hends, hwithout, hrunning, h.scene_paused hw]
  rfl

/-- **A pause can be cut out**: the turns after it leave the scene that they would have left. -/
theorem scene_turns (h : w.Pause as p qs b b') (hw : w.controls = .fresh) {cs cs' : List Tick}
    (hcs : cs'.map Tick.events = cs.map Tick.events) :
    ((w.turns (as ++ p :: qs)).turns (b' :: cs')).scene =
      ((w.turns as).turns (b :: cs)).scene := by
  obtain ⟨hstraight, hpaused⟩ := h.controls hw
  have hturn : ((w.turns (as ++ p :: qs)).turn b').scene = ((w.turns as).turn b).scene := by
    rw [scene_turn, scene_turn, Scene.turn_eq hpaused (h.stays b' (by simp)),
      Scene.turn_eq hstraight (h.stays b (by simp)), h.ready_eq hw]
  rw [turns_cons, turns_cons, Window.scene_turns, Window.scene_turns, hturn, hcs]

theorem paused_turn (h : w.Pause as p qs b b') (hw : w.controls = .fresh) :
    ((w.turns (as ++ p :: qs)).turn b').paused = false := by
  have hscene := congrArg Scene.paused ((w.turns (as ++ p :: qs)).scene_turn b')
  have hends : b'.events.any HostEvent.pauses = true := h.ends
  rw [Scene.paused_turn (h.controls hw).2 (h.stays b' (by simp)), hends, h.scene_paused hw] at hscene
  exact hscene

theorem pictures_eq (h : w.Pause as p qs b b') (hw : w.controls = .fresh) :
    (w.turns (as ++ p :: qs)).pictures b'.events = (w.turns as).pictures b.events := by
  obtain ⟨hstraight, hpaused⟩ := h.controls hw
  rw [pictures_scene, pictures_scene, Scene.pictures_eq hpaused (h.stays b' (by simp)),
    Scene.pictures_eq hstraight (h.stays b (by simp)), h.ready_eq hw]

/-- The machine that goes on remembers the keys that were remembered when the pause began. -/
theorem last_ready (h : w.Pause as p qs b b') (hw : w.controls = .fresh) :
    ((w.turns (as ++ p :: qs)).ready b'.events).machine.keypad.last =
      (w.turns as).machine.keypad.last := by
  have hready := scene_ready_eq (h.controls hw).2 (h.stays b' (by simp))
  rw [h.ready_eq hw] at hready
  exact congrArg (·.machine.keypad.last) hready

end Pause

/-- An `FX0A` that comes first finds a key that was let go since the last snapshot. -/
theorem released_of_letGo {m : Machine} {k : Key} (hk : m.keypad.last.LetGo m.keypad.live k) :
    ∃ j ≤ k, m.keypad.released? = some j ∧
      ∀ x, decode m.word = .awaitKey x → m.step.registers.get x = UInt8.ofNat j.val := by
  obtain ⟨j, hj⟩ := Keypad.exists_released? ⟨k, hk⟩
  obtain ⟨hgone, hmin⟩ := Keypad.released?_eq_some_iff.1 hj
  refine ⟨j, hmin k hk, hj, fun x hx => ?_⟩
  rw [(Machine.step_of_release hx hgone hmin).2]
  exact (Registers.get_set ..).trans (if_pos rfl)

/-- What a pause does not change: the window `before` it, the window `paused` when the turn `b'` is to
come, and the turn `b` that comes without it. -/
structure CutOut (before paused : Window) (b b' : Tick) : Prop where
  /-- While the pause lasts, the machine is the one before it, but for the held keys. -/
  machine : ∃ live, paused.machine =
    { before.machine with keypad := ⟨live, before.machine.keypad.last⟩ }
  shown : paused.shown = before.shown
  /-- The turn that ends the pause hands over the same pictures. -/
  pictures : paused.pictures b'.events = before.pictures b.events
  /-- From then on machine, screen and pictures are the same, whatever the turns take by the
  clock. -/
  goesOn : ∀ cs cs', cs'.map Tick.events = cs.map Tick.events →
    let straight := before.turns (b :: cs)
    let after := paused.turns (b' :: cs')
    after.machine = straight.machine ∧ after.shown = straight.shown ∧
      after.paused = straight.paused ∧ ∀ es, after.pictures es = straight.pictures es
  /-- A key that was held at the last cycle before the pause, and is not held when the frame of the
  turn begins, counts as released, or else a lower one does. An `FX0A` that comes first stores it. -/
  released : let resumed := paused.ready b'.events
    (paused.turn b').machine = (resumed.pacer.frame resumed.machine).machine ∧
      ∀ k, before.machine.keypad.last.LetGo resumed.machine.keypad.live k →
        ∃ j ≤ k, resumed.machine.keypad.released? = some j ∧
          ∀ x, decode resumed.machine.word = .awaitKey x →
            resumed.machine.step.registers.get x = UInt8.ofNat j.val

theorem Pause.cutOut {w : Window} {as : List Tick} {p : Tick} {qs : List Tick} {b b' : Tick}
    (h : w.Pause as p qs b b') (hw : w.controls = .fresh) :
    (w.turns as).CutOut (w.turns (as ++ p :: qs)) b b' where
  machine := ⟨_, congrArg Scene.machine (h.scene_paused hw)⟩
  shown := congrArg Scene.shown (h.scene_paused hw)
  pictures := h.pictures_eq hw
  goesOn cs cs' hcs := by
    have hscene := h.scene_turns hw hcs
    exact ⟨congrArg Scene.machine hscene, congrArg Scene.shown hscene,
      congrArg Scene.paused hscene, fun es => by rw [pictures_scene, pictures_scene, hscene]⟩
  released := by
    refine ⟨machine_turn_of_running (h.controls hw).2 (h.stays b' (by simp)) (h.paused_turn hw),
      fun k hk => released_of_letGo ?_⟩
    rwa [h.last_ready hw]

/-- **Pausing is transparent to the machine.** A window was asked for nothing.

While it is paused, turns in which nobody presses the pause key or asks to quit follow the held keys.
The rest of the machine stays as it is, the remembered keys too, and so does the picture.

A pause that is put in front of a turn can be cut out. The keys that it cannot make a machine forget
are those of the last cycle before it. If the last turn before it has come to the clock, they are the
keys that were held when that turn ended. -/
theorem pause_transparent {w : Window} (hw : w.controls = .fresh) :
    (∀ ts, w.paused = true → (∀ t ∈ ts, t.quits = false ∧ t.pauses = false) →
      (w.turns ts).machine =
          { w.machine with
            keypad := ⟨w.machine.keypad.live.hearAll (ts.flatMap Tick.events),
              w.machine.keypad.last⟩ } ∧
        (w.turns ts).paused = true ∧ (w.turns ts).shown = w.shown) ∧
      ∀ as p qs b b', w.Pause as p qs b b' →
        (w.turns as).CutOut (w.turns (as ++ p :: qs)) b b' ∧
          ∀ as' a, as = as' ++ [a] → ((w.turns as').advance a.events).2.2 = .waits →
            1 ≤ w.pacer.budget →
            (w.turns as).machine.keypad.last = (w.turns as).machine.keypad.live := by
  refine ⟨fun ts hp hts => ?_, fun as p qs b b' h => ⟨h.cutOut hw, ?_⟩⟩
  · have hess : ∀ es ∈ ts.map Tick.events,
        es.any HostEvent.quits = false ∧ es.any HostEvent.pauses = false := by
      intro es hes
      obtain ⟨t, ht, rfl⟩ := List.mem_map.1 hes
      exact hts t ht
    have hscene := (w.scene_turns ts).trans (Scene.turns_of_paused hw hp hess)
    rw [← List.flatMap_def] at hscene
    exact ⟨congrArg Scene.machine hscene, (congrArg Scene.paused hscene).trans hp,
      congrArg Scene.shown hscene⟩
  · rintro as' a rfl hwaits hbudget
    have hrun := h.running
    have hcontrols : (w.turns as').controls = .fresh :=
      controls_turns hw fun t ht => h.stays t (by simp [ht])
    rw [← budget_turns w as'] at hbudget
    rw [turns_append] at hrun ⊢
    exact last_eq_live_turn hcontrols (h.stays a (by simp)) hrun hwaits hbudget

/-- A program waits for a key at `FX0A`. The key `1` is held in the turn before a pause, let go while
it lasts, and found when the window goes on. -/
theorem pause_transparent_release :
    let m := { Machine.fresh .plain (.constant 0) with
      memory := Memory.fresh.writeBlock 0x200 [0xF5, 0x0A, 0x00, 0xE0, 0x12, 0x04]
      timers := ⟨9, 9⟩ }
    let w : Window :=
      { machine := m
        pacer := .new 2 true true
        controls := .fresh
        beeper := ⟨false, Beeper.defaultTone, false, false, .standard⟩
        renderer := .new .standard .standard
        shown := Display.blankRows
        scale := .int 1
        size := (64, 32)
        rate := .int 60
        budget := .int 2
        title := "CHIP-8"
        caption := "CHIP-8"
        running := true
        paused := false
        now := .zero
        marked := .zero
        counted := 0 }
    let as : List Tick := [⟨[.keyDown (.symbol '1')], .zero⟩]
    let p : Tick := ⟨[.keyDown .pause], .one⟩
    let qs : List Tick :=
      [⟨[.keyUp (.symbol '1'), .keyDown (.symbol 'q')], .zero⟩, ⟨[.focusLost], .one⟩]
    let b : Tick := ⟨[.keyUp (.symbol '1')], .zero⟩
    let b' : Tick := ⟨[.keyDown .pause], .zero⟩
    let before := w.turns as
    let paused := w.turns (as ++ p :: qs)
    let resumed := paused.ready b'.events
    w.controls = .fresh ∧ w.Pause as p qs b b' ∧ before.CutOut paused b b' ∧
      before.machine.keypad.last.LetGo resumed.machine.keypad.live 1 ∧
      ((before.turn p).turns qs).paused = true ∧ resumed.machine.keypad.released? = some 1 ∧
      (paused.turn b').machine.registers.get 5 = 1 ∧
      (paused.turn b').machine = (before.turn b).machine := by
  intro m w as p qs b b' before paused resumed
  have h : w.Pause as p qs b b' := {
    running := by decide +kernel
    begins := rfl
    lasts := by decide
    ends := rfl
    without := rfl
    keys := by decide +kernel
    stays := by decide }
  have hcontrols : (before.turn p).controls = .fresh :=
    have hts : ∀ t ∈ as ++ [p], t.quits = false := by decide
    controls_turns (w := w) rfl hts
  have hcut : before.CutOut paused b b' := ((pause_transparent (w := w) rfl).2 as p qs b b' h).1
  obtain ⟨-, hstays, -⟩ :=
    (pause_transparent hcontrols).1 qs (by decide +kernel) (by decide)
  exact ⟨rfl, h, hcut, by decide +kernel, hstays, by decide +kernel, by decide +kernel,
    (hcut.goesOn [] [] rfl).1⟩

end Window

end ChipEight
