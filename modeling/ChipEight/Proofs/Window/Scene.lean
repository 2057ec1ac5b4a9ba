import ChipEight.Proofs.Except
import ChipEight.Proofs.Pacer.LastPicture
import ChipEight.Window

/-!
# The scene of a window

A turn of the main loop does many things: it writes the log and the caption, reads the clock, tells
the beeper to play and to stop. None of these comes back. What a machine computes and what the screen
shows next depend on less than the whole window, on its scene. It consists of the machine and the
pacer, of what was asked for, and of the picture; the sound and the clock are not in it.

A turn of a window is told here as a turn of its scene. So two windows with the same scene stay so,
however different their sound and their clocks are.

## Main definitions

- `Tick`, `Window.turn`, `Window.turns`: turns of the main loop, once and in a row.
- `HostEvent.quits`, `HostEvent.pauses`: the events that control the window.
- `KeySet.hearAll`: what events do to the held keys.
- `Scene`, `Window.scene`: what decides the next turns.
- `Scene.turn`: a turn of a scene.
- `Window.pictures`: the pictures that are handed to the screen in a turn.

## Main results

- `Controls.poll_eq`: what a batch of events does.
- `Window.scene_turns`: turns of a window are turns of its scene.
- `Window.loop_cons_of_waits`: turns are what the main loop takes.
-/

namespace ChipEight

/-! ### New windows -/

/-- A new window has a beeper of its own. It was asked for nothing and is not paused, and nothing
sounds. -/
theorem Window.exists_of_new {m : Machine} {settings : WindowSettings} {w : Window} {trail : Trail}
    (h : new m settings = .ok (w, trail)) :
    ∃ made cycles,
      Beeper.new settings.samples settings.audio Beeper.defaultTone settings.mixer = .ok made ∧
      w.machine = m ∧ w.pacer = .new cycles true true ∧ w.controls = .fresh ∧
      w.beeper = made.beeper ∧ w.paused = false := by
  simp only [new, bind_eq_ok_iff] at h
  obtain ⟨scale, -, rate, -, title, -, made, hmade, budget, -, cycles, -, h⟩ := h
  cases h
  exact ⟨made, cycles, mapError_eq_ok_iff.1 hmade, rfl, rfl, rfl, rfl, rfl⟩

/-! ### Turns -/

/-- A turn of the main loop: what arrives before it, and the time that it takes by the clock. -/
structure Tick where
  events : List HostEvent
  seconds : Real64

namespace Window

/-- The window after a turn. A turn that quits or fails does not come to the clock. -/
def turn (w : Window) (t : Tick) : Window :=
  match w.advance t.events with
  | (w, _, .waits) => (w.wait t.seconds).count
  | (w, _, _) => w

/-- The window after turns in order. -/
def turns (w : Window) (ts : List Tick) : Window :=
  ts.foldl turn w

@[simp] theorem turns_nil (w : Window) : w.turns [] = w := rfl

@[simp] theorem turns_cons (w : Window) (t : Tick) (ts : List Tick) :
    w.turns (t :: ts) = (w.turn t).turns ts := rfl

theorem turns_append (w : Window) (ts us : List Tick) :
    w.turns (ts ++ us) = (w.turns ts).turns us :=
  List.foldl_append

/-- A turn that comes to the clock goes on to the end. -/
theorem turn_of_waits {w : Window} {t : Tick} (h : (w.advance t.events).2.2 = .waits) :
    w.turn t = ((w.advance t.events).1.wait t.seconds).count := by
  rcases hv : w.advance t.events with ⟨v, trail, ending⟩
  rw [hv] at h
  obtain rfl : ending = .waits := h
  simp only [turn, hv]

/-- The main loop takes a turn and goes on, unless the turn ends it. -/
theorem loop_cons_of_waits {w : Window} {b : Beat} {bs : List Beat} {seconds : Real64}
    (hwaits : (w.advance b.events).2.2 = .waits)
    (hseconds : b.seconds = .ok seconds)
    (hgoes : b.interrupted = false) (hnext : nextFault bs = none) :
    (w.loop (b :: bs)).window = ((w.turn ⟨b.events, seconds⟩).loop bs).window ∧
      (w.loop (b :: bs)).fault = ((w.turn ⟨b.events, seconds⟩).loop bs).fault := by
  rw [turn_of_waits hwaits]
  rcases hv : w.advance b.events with ⟨v, trail, ending⟩
  rw [hv] at hwaits
  obtain rfl : ending = .waits := hwaits
  simp only [loop, hv, hseconds, hgoes, hnext, Bool.false_eq_true, if_false, and_self]

/-! ### The pause key -/

section

variable {w : Window}

theorem togglePause_of_unpressed (h : w.controls.pausePressed = false) :
    w.togglePause = ({ w with controls := ⟨w.controls.quit, false⟩ }, {}) := by
  simp [togglePause, Controls.consumePause, h]

theorem togglePause_of_paused (h : w.controls.pausePressed = true) (hp : w.paused = true) :
    w.togglePause =
      ({ w with controls := ⟨w.controls.quit, false⟩, paused := false },
        Trail.append {} { log := [.pauseSwitched false] }) := by
  simp [togglePause, Controls.consumePause, h, setPaused, hp]

theorem togglePause_of_running (h : w.controls.pausePressed = true) (hp : w.paused = false) :
    let hushed := { w with controls := ⟨w.controls.quit, false⟩, paused := true }.hush
    w.togglePause = (hushed.1, hushed.2.append { log := [.pauseSwitched hushed.1.paused] }) := by
  simp [togglePause, Controls.consumePause, h, setPaused, hp]

end

end Window

/-! ### Parts of a turn -/

/-- The window in a turn when its frame is to run. -/
def Window.ready (w : Window) (es : List HostEvent) : Window :=
  (w.poll es).1.togglePause.1

/-- The pictures that are handed to the screen in a turn: those of its frame, if it runs one. -/
def Window.pictures (w : Window) (es : List HostEvent) : List Rows :=
  if (w.poll es).1.controls.quit || (w.ready es).paused then []
  else ((w.ready es).pacer.frame (w.ready es).machine).cues.filterMap Cue.picture?

/-! ### What events do -/

/-- The event asks to quit. -/
def HostEvent.quits : HostEvent → Bool
  | .quit | .keyDown .escape => true
  | _ => false

/-- The event is a press of the pause key. -/
def HostEvent.pauses : HostEvent → Bool
  | .keyDown .pause => true
  | _ => false

/-- The held keys after a host key went down or up. -/
def KeySet.move (s : KeySet) (k : HostKey) (down : Bool) : KeySet :=
  match k.code? with
  | some code => s.put code down
  | none => s

/-- The held keys after an event. -/
def KeySet.hear (s : KeySet) : HostEvent → KeySet
  | .keyDown k => s.move k true
  | .keyUp k => s.move k false
  | .focusLost => .empty
  | .quit | .other => s

/-- The held keys after events in order. -/
def KeySet.hearAll (s : KeySet) (es : List HostEvent) : KeySet :=
  es.foldl hear s

theorem KeySet.hearAll_append (s : KeySet) (es fs : List HostEvent) :
    s.hearAll (es ++ fs) = (s.hearAll es).hearAll fs :=
  List.foldl_append

namespace Controls

/-- What was asked for, after events. -/
def hearAll (c : Controls) (es : List HostEvent) : Controls :=
  ⟨c.quit || es.any HostEvent.quits, c.pausePressed || es.any HostEvent.pauses⟩

theorem moveKey_eq (p : Keypad) (k : HostKey) (down : Bool) :
    (moveKey p k down).1 = ⟨p.live.move k down, p.last⟩ := by
  rw [moveKey, KeySet.move]
  cases k.code? <;> rfl

theorem handle_eq (c : Controls) (p : Keypad) (e : HostEvent) :
    (c.handle p e).1 = ⟨c.quit || e.quits, c.pausePressed || e.pauses⟩ ∧
      (c.handle p e).2.1 = ⟨p.live.hear e, p.last⟩ := by
  cases e with
  | keyDown k =>
    cases k with
    | escape | pause =>
      simp [handle, HostEvent.quits, HostEvent.pauses, KeySet.hear, KeySet.move, HostKey.code?]
    | _ => simp [handle, HostEvent.quits, HostEvent.pauses, KeySet.hear, moveKey_eq]
  | _ =>
    simp [handle, HostEvent.quits, HostEvent.pauses, KeySet.hear, moveKey_eq, Keypad.releaseAll]

/-- **What a batch of events does.** It is noted whether quitting or pausing was asked for, and the
held keys are followed. The remembered ones are not touched. -/
theorem poll_eq (c : Controls) (p : Keypad) (es : List HostEvent) :
    (c.poll p es).1 = c.hearAll es ∧ (c.poll p es).2.1 = ⟨p.live.hearAll es, p.last⟩ := by
  induction es generalizing c p with
  | nil => simp [poll, hearAll, KeySet.hearAll]
  | cons e es ih =>
    obtain ⟨hcontrols, hkeypad⟩ := c.handle_eq p e
    obtain ⟨hrest, hkeys⟩ := ih (c.handle p e).1 (c.handle p e).2.1
    constructor
    · rw [poll, hrest, hcontrols]
      simp [hearAll, Bool.or_assoc]
    · rw [poll, hkeys, hkeypad]
      rfl

end Controls

/-! ### Scenes -/

/-- What decides the next turns of a window. -/
structure Scene where
  machine : Machine
  /-- The pacer as it is when nothing sounds. -/
  pacer : Pacer
  controls : Controls
  paused : Bool
  renderer : Renderer
  /-- The pixels last shown. -/
  shown : Rows

/-- The scene of a window. -/
def Window.scene (w : Window) : Scene where
  machine := w.machine
  pacer := { w.pacer with soundOn := false }
  controls := w.controls
  paused := w.paused
  renderer := w.renderer
  shown := w.shown

namespace Scene

/-- The scene having handled a batch of events. -/
def hear (s : Scene) (es : List HostEvent) : Scene :=
  { s with
    controls := s.controls.hearAll es
    machine := { s.machine with
      keypad := ⟨s.machine.keypad.live.hearAll es, s.machine.keypad.last⟩ } }

/-- The scene having acted on the pause key. -/
def toggle (s : Scene) : Scene :=
  { s with
    controls := { s.controls with pausePressed := false }
    paused := s.paused ^^ s.controls.pausePressed }

/-- The scene after a cue: only pictures matter. -/
def cue (s : Scene) : Cue → Scene
  | .render d => { s with renderer := (s.renderer.render d).1, shown := d.rows }
  | .play | .stop => s

/-- The scene after cues in order. -/
def cueAll (s : Scene) (cs : List Cue) : Scene :=
  cs.foldl cue s

/-- The scene after a frame. -/
def frame (s : Scene) : Scene :=
  let f := s.pacer.frame s.machine
  cueAll { s with machine := f.machine, pacer := { f.pacer with soundOn := false } } f.cues

/-- A turn of a scene. -/
def turn (s : Scene) (es : List HostEvent) : Scene :=
  let heard := s.hear es
  if heard.controls.quit then heard
  else if heard.toggle.paused then heard.toggle
  else heard.toggle.frame

/-- The pictures that are handed to the screen in a turn. -/
def pictures (s : Scene) (es : List HostEvent) : List Rows :=
  let heard := s.hear es
  if heard.controls.quit || heard.toggle.paused then []
  else (heard.toggle.pacer.frame heard.toggle.machine).cues.filterMap Cue.picture?

/-- Turns of a scene in order. -/
def turns (s : Scene) (ess : List (List HostEvent)) : Scene :=
  ess.foldl turn s

theorem turns_cons (s : Scene) (es : List HostEvent) (ess : List (List HostEvent)) :
    s.turns (es :: ess) = (s.turn es).turns ess := rfl

theorem cueAll_append (s : Scene) (cs ds : List Cue) :
    s.cueAll (cs ++ ds) = (s.cueAll cs).cueAll ds :=
  List.foldl_append

/-- What the speaker is told does not matter. -/
theorem cueAll_soundCues (s : Scene) (p : Pacer) (b : Burst) : s.cueAll (p.soundCues b) = s := by
  rw [Pacer.soundCues]
  split
  · rfl
  · cases Pacer.soundsAfter b <;> rfl

end Scene

namespace Window

theorem scene_cue (w : Window) (c : Cue) : (w.cue c).1.scene = w.scene.cue c := by
  cases c <;> rfl

theorem scene_cueAll (w : Window) (cs : List Cue) : (w.cueAll cs).1.scene = w.scene.cueAll cs := by
  induction cs generalizing w with
  | nil => rfl
  | cons c cs ih =>
    have h := ih (w.cue c).1
    rw [scene_cue] at h
    exact h

/-- Silencing the speaker does not change the scene. -/
theorem scene_hush (w : Window) : w.hush.1.scene = w.scene := by
  have hcues : ∀ s : Scene, s.cueAll w.pacer.hush.2.1 = s := by
    intro s
    rw [Pacer.hush, Pacer.switchSound_cues]
    split <;> rfl
  have h : w.hush.1 = ({ w with pacer := w.pacer.hush.1 }.cueAll w.pacer.hush.2.1).1 := rfl
  rw [h, scene_cueAll, hcues, Pacer.hush, Pacer.switchSound_pacer]
  rfl

theorem scene_poll (w : Window) (es : List HostEvent) : (w.poll es).1.scene = w.scene.hear es := by
  obtain ⟨hcontrols, hkeypad⟩ := w.controls.poll_eq w.machine.keypad es
  simp only [poll, scene, Scene.hear, hcontrols, hkeypad]

theorem scene_togglePause (w : Window) : w.togglePause.1.scene = w.scene.toggle := by
  cases hpressed : w.controls.pausePressed with
  | false =>
    rw [togglePause_of_unpressed hpressed]
    simp [scene, Scene.toggle, hpressed]
  | true =>
    cases hpaused : w.paused with
    | false =>
      rw [togglePause_of_running hpressed hpaused, scene_hush]
      simp [scene, Scene.toggle, hpressed, hpaused]
    | true =>
      rw [togglePause_of_paused hpressed hpaused]
      simp [scene, Scene.toggle, hpressed, hpaused]

theorem scene_frame (w : Window) : w.frame.1.scene = w.scene.frame := by
  have h : w.frame.1 = ({ w with
      machine := (w.pacer.frame w.machine).machine
      pacer := (w.pacer.frame w.machine).pacer }.cueAll (w.pacer.frame w.machine).cues).1 := rfl
  have hcycles : w.scene.pacer.cyclesOf w.scene.machine = w.pacer.cyclesOf w.machine := rfl
  rw [h, scene_cueAll, Scene.frame]
  rcases w.pacer.frame_cases w.machine with ⟨f, hf, hframe⟩ | ⟨hf, hframe⟩
  · rw [hframe, Pacer.frame_of_fault (hcycles ▸ hf)]
    rfl
  · rw [hframe, Pacer.frame_of_no_fault (hcycles ▸ hf), hcycles, Pacer.close_cues, Pacer.close_cues,
      Scene.cueAll_append, Scene.cueAll_append, Scene.cueAll_soundCues, Scene.cueAll_soundCues]
    simp only [scene, Pacer.close_machine, Pacer.close_pacer]
    rfl

section

variable (w : Window) (es : List HostEvent)

theorem scene_ready : (w.ready es).scene = (w.scene.hear es).toggle := by
  rw [ready, scene_togglePause, scene_poll]

theorem quit_poll : (w.poll es).1.controls.quit = (w.scene.hear es).controls.quit := by
  rw [← scene_poll]
  rfl

theorem paused_ready : (w.ready es).paused = (w.scene.hear es).toggle.paused := by
  rw [← scene_ready]
  rfl

/-- A turn up to the clock: the window gets ready, and a frame runs unless it is paused then. -/
theorem advance_eq :
    (w.advance es).1 =
        (if (w.poll es).1.controls.quit then { (w.poll es).1 with running := false }
        else if (w.ready es).paused then w.ready es
        else (w.ready es).frame.1) ∧
      (w.advance es).2.2 =
        (if (w.poll es).1.controls.quit then .quits
        else if (w.ready es).paused then .waits
        else ((w.ready es).frame.2.2.map TurnEnd.fails).getD .waits) := by
  cases hquit : (w.poll es).1.controls.quit with
  | true => simp [advance, hquit]
  | false =>
    cases hp : (w.ready es).paused with
    | true => simp [advance, hquit, show (w.poll es).1.togglePause.1.paused = true from hp, ready]
    | false =>
      have hrun : (w.poll es).1.togglePause.1.paused = false := hp
      cases hfault : (w.ready es).frame.2.2 <;> rw [ready] at hfault <;>
        simp [advance, hquit, hrun, ready, hfault]

/-- The scene after a turn up to the clock. -/
theorem scene_advance : (w.advance es).1.scene = w.scene.turn es := by
  rw [(w.advance_eq es).1, Scene.turn, ← quit_poll, ← paused_ready, ← scene_ready, ← scene_frame,
    ← scene_poll]
  split
  · rfl
  · split <;> rfl

/-- The pictures of a turn are those of its scene. -/
theorem pictures_scene : w.pictures es = w.scene.pictures es := by
  have hframe : ∀ v : Window, (v.pacer.frame v.machine).cues.filterMap Cue.picture? =
      (v.scene.pacer.frame v.scene.machine).cues.filterMap Cue.picture? := by
    intro v
    have hcycles : v.scene.pacer.cyclesOf v.scene.machine = v.pacer.cyclesOf v.machine := rfl
    rcases v.pacer.frame_cases v.machine with ⟨f, hf, hframe⟩ | ⟨hf, hframe⟩
    · rw [hframe, Pacer.frame_of_fault (hcycles ▸ hf)]
      rfl
    · rw [hframe, Pacer.frame_of_no_fault (hcycles ▸ hf), Pacer.pictures_close,
        Pacer.pictures_close]
      rfl
  rw [pictures, Scene.pictures, ← quit_poll, ← paused_ready, hframe, scene_ready]

end

theorem scene_turn (w : Window) (t : Tick) : (w.turn t).scene = w.scene.turn t.events := by
  have hclock : ∀ v : Window, (v.wait t.seconds).count.scene = v.scene := by
    intro v
    rw [count]
    split <;> rfl
  rw [← scene_advance, turn]
  split
  next v trail hv => rw [hclock, hv]
  next v trail ending _ hv => rw [hv]

/-- **Turns of a window are turns of its scene.** -/
theorem scene_turns (w : Window) (ts : List Tick) :
    (w.turns ts).scene = w.scene.turns (ts.map Tick.events) := by
  induction ts generalizing w with
  | nil => rfl
  | cons t ts ih =>
    rw [turns_cons, ih, scene_turn]
    rfl

end Window

end ChipEight
