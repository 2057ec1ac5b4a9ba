import ChipEight.Controls
import ChipEight.Number.Real64
import ChipEight.Pacer
import ChipEight.Picture
import ChipEight.Sound.Beeper
import ChipEight.Sound.Tiling

/-!
# The window

A window shows a machine's picture, sounds its beeper, and feeds it the keyboard. Its main loop is
driven by a script: the events that arrive before each turn of the loop, and the time that the turn
takes by the clock. After the last turn of the script the window is closed.

Each turn handles the events that have arrived; quits if that was asked for; pauses or resumes if
the pause key was pressed; runs one frame unless paused; waits for the clock; and once a second
writes the frame rate into the caption. However the loop ends, the window is shut down.

## Main definitions

- `Window`: the state.
- `Window.new`: a new window, or the `OpenFault` for which there is none.
- `Beat`: one turn of the script.
- `Window.advance`: a turn up to the clock; `Window.count`: the rest of it.
- `WindowFault`: what may end the main loop.
- `Window.run`: the main loop over a script, from its beginning to the shutdown.
- `Beat.ofDatum`, `Beat.scriptOf`: a turn, and a script, described by a value.
-/

namespace ChipEight

/-- A window with all that it drives. -/
structure Window where
  machine : Machine
  pacer : Pacer
  controls : Controls
  beeper : Beeper
  renderer : Renderer
  /-- The pixels last shown. -/
  shown : Vector (Vector Bool 64) 32
  /-- The number of screen pixels to the side of a picture pixel. -/
  scale : Datum
  /-- The width and the height in screen pixels. -/
  size : Nat × Nat
  /-- The frame rate aimed at. -/
  rate : Datum
  /-- The most cycles that a frame may take, as they were asked for. -/
  budget : Datum
  title : String
  caption : String
  running : Bool
  paused : Bool
  /-- The time by the clock, in seconds since the loop was entered. -/
  now : Real64
  /-- The time at which the caption was last written. -/
  marked : Real64
  /-- The number of turns since then. -/
  counted : Nat

/-- What a window is made with. -/
structure WindowSettings where
  scale : Datum := .int 10
  rate : Datum := .int 60
  budget : Datum := .int Pacer.defaultBudget
  audio : Bool := true
  title : Datum := .text "CHIP-8"
  mixer : Mixer := .standard
  /-- The library of arrays and surfaces that pictures are painted with. -/
  pictures : PictureLibrary := .standard
  /-- The library of sample arrays that the tone is made with, unless told otherwise one whose host
  never runs out of memory. -/
  samples : SampleLibrary := .standard fun _ => true

/-- What part of a run brings about besides the new state. -/
structure Trail where
  calls : List MixerCall := []
  log : Log := []

/-- Two trails one after the other. -/
def Trail.append (a b : Trail) : Trail :=
  ⟨a.calls ++ b.calls, a.log ++ b.log⟩

/-- One turn of a script. -/
structure Beat where
  /-- The events that arrive before the turn. -/
  events : List HostEvent := []
  /-- The reason why the events never arrive, if there is one. -/
  fault : Option EventFault := none
  /-- The seconds that the turn takes, unless the clock cannot count them. -/
  seconds : Except OperandFault Real64 := .ok .zero
  /-- Whether the loop is interrupted while it waits for the clock. -/
  interrupted : Bool := false

namespace Beat

/-- So many eighths of a second. -/
def eighths (d : Datum) : Except OperandFault Real64 :=
  d.dividedBy (.int 8)

/-- The events that a value describes. -/
def eventsOf (d : Datum) : Except EventFault (List HostEvent) := do
  (← d.parts.mapError .operand).mapM HostEvent.ofDatum

/-- The turn that a value describes by its events, its time in eighths of a second, and whether it
is interrupted. -/
def ofDatum : Datum → Beat
  | .record fs =>
    let turn : Beat :=
      { seconds := eighths ((fs.lookup "dt").getD (.int 0))
        interrupted := ((fs.lookup "interrupt").map Datum.holds).getD false }
    match eventsOf ((fs.lookup "events").getD (.list [])) with
    | .ok events => { turn with events := events }
    | .error e => { turn with fault := some e }
  | d => { fault := some (.operand (.noPart d.typeName "get")) }

/-- The script that a value describes. A script needs a length and a first turn; without them its
events never arrive. -/
def scriptOf (d : Datum) : List Beat :=
  match d with
  | .record (_ :: _) => [{ fault := some (.operand (.noEntry "0")) }]
  | d =>
    match d.parts with
    | .ok turns => turns.map ofDatum
    | .error _ => [{ fault := some (.operand (.noLength d.typeName)) }]

end Beat

/-- Why no window is opened. -/
inductive OpenFault where
  /-- A value is of no use where it is needed. -/
  | operand (e : OperandFault)
  /-- The title holds a zero character. -/
  | zeroInTitle
  /-- There is no beeper. -/
  | beeper (e : BeeperFault)
  deriving DecidableEq, Repr

namespace OpenFault

/-- The text of the complaint. -/
def message : OpenFault → String
  | .operand e => e.message
  | .zeroInTitle => "embedded null character"
  | .beeper e => e.message

/-- The kind of the complaint. -/
def kind : OpenFault → FaultKind
  | .operand e => e.kind
  | .zeroInTitle => .senseless
  | .beeper e => e.kind

instance : IsFault OpenFault := ⟨kind, message⟩

end OpenFault

/-- What may end the main loop before its time. -/
inductive WindowFault where
  /-- The machine failed. -/
  | machine (f : Fault)
  /-- The clock cannot be read. -/
  | clock (e : OperandFault)
  /-- The events of a turn never arrive. -/
  | event (e : EventFault)

namespace WindowFault

/-- The text of the complaint. -/
def message : WindowFault → String
  | .machine f => f.message
  | .clock e => e.message
  | .event e => e.message

/-- The kind of the complaint. -/
def kind : WindowFault → FaultKind
  | .machine f => f.kind
  | .clock e => e.kind
  | .event e => e.kind

instance : IsFault WindowFault := ⟨kind, message⟩

end WindowFault

namespace Window

/-- The largest scale. -/
def maxScale : Nat := 20

/-- A scale brought between one and the largest scale. -/
def clampScale (d : Datum) : Except OperandFault Datum := do
  (if ← d.isBelow maxScale then d else .int maxScale).atLeastOne

/-- A side of the picture in screen pixels. -/
def sideOf (n : Nat) (scale : Datum) : Nat :=
  match scale.magnitude? with
  | some (.fraction k d) => n * k.toNat / d
  | _ => n

/-- The title that a value is. -/
def titleOf (d : Datum) : Except OpenFault String :=
  match d with
  | .text s => if s.contains (Char.ofNat 0) then .error .zeroInTitle else .ok s
  | d => .error (.operand (.noText "argument 1" (OperandFault.kindText d)))

/-- The entry of the log that a window was opened. -/
def openedEntry (size : Nat × Nat) (scale rate budget : Datum) : Entry :=
  match [scale, rate, budget].mapM Datum.truncated with
  | .ok [scale, rate, budget] => .windowOpened size.1 size.2 scale.toNat rate budget
  | .ok _ => .unwritable .undefined
  | .error e => .unwritable e

/-- A new window on a machine, or the reason why there is none with the log up to it. The scale is
needed first, then the rate, then the title, then the beeper is made, and then the budget is
needed. -/
def new (m : Machine) (s : WindowSettings) : Except (OpenFault × Log) (Window × Trail) := do
  let bare (e : OpenFault) : OpenFault × Log := (e, [])
  let scale ← (clampScale s.scale).mapError fun e => bare (.operand e)
  let rate ← s.rate.atLeastOne.mapError fun e => bare (.operand e)
  let title ← (titleOf s.title).mapError bare
  let made ← (Beeper.new s.samples s.audio Beeper.defaultTone s.mixer).mapError fun e =>
    bare (.beeper e)
  let late (e : OperandFault) : OpenFault × Log := (.operand e, made.log)
  let budget ← s.budget.atLeastOne.mapError late
  let cycles ← budget.reaches.mapError late
  let size := (sideOf Display.width scale, sideOf Display.height scale)
  let w : Window :=
    { machine := m
      pacer := .new cycles true true
      controls := .fresh
      beeper := made.beeper
      renderer := .new s.pictures .standard
      shown := Display.blankRows
      scale := scale
      size := size
      rate := rate
      budget := budget
      title := title
      caption := title
      running := false
      paused := false
      now := .zero
      marked := .zero
      counted := 0 }
  return (w, { calls := made.calls, log := made.log ++ [openedEntry size scale rate budget] })

/-- The window showing a display. -/
def render (w : Window) (d : Display) : Window × Trail :=
  let (renderer, _, log) := w.renderer.render d
  ({ w with renderer := renderer, shown := d.rows }, { log := log })

/-- The window after a cue for its screen or its beeper. -/
def cue (w : Window) : Cue → Window × Trail
  | .render d => w.render d
  | .play =>
    let (b, calls) := w.beeper.play
    ({ w with beeper := b }, { calls := calls })
  | .stop =>
    let (b, calls) := w.beeper.stop
    ({ w with beeper := b }, { calls := calls })

/-- The window after cues in order. -/
def cueAll (w : Window) : List Cue → Window × Trail
  | [] => (w, {})
  | c :: cs =>
    let (w, first) := w.cue c
    let (w, rest) := w.cueAll cs
    (w, first.append rest)

/-- The window with its speaker silenced. -/
def hush (w : Window) : Window × Trail :=
  let (p, cues, log) := w.pacer.hush
  let (w, trail) := { w with pacer := p }.cueAll cues
  (w, Trail.append { log := log } trail)

/-- The window paused or resumed; pausing silences the speaker. -/
def setPaused (w : Window) (paused : Bool) : Window × Trail :=
  let w := { w with paused := paused }
  if paused then w.hush else (w, {})

/-- The window having handled a batch of events. -/
def poll (w : Window) (events : List HostEvent) : Window × Trail :=
  let (controls, keypad, log) := w.controls.poll w.machine.keypad events
  ({ w with controls := controls, machine := { w.machine with keypad := keypad } }, { log := log })

/-- The window having acted on the pause key. -/
def togglePause (w : Window) : Window × Trail :=
  let (controls, pressed) := w.controls.consumePause
  let w := { w with controls := controls }
  if pressed then
    let (w, trail) := w.setPaused (!w.paused)
    (w, trail.append { log := [.pauseSwitched w.paused] })
  else (w, {})

/-- The window after a frame of its machine, and the fault that ended the frame, if one did. -/
def frame (w : Window) : Window × Trail × Option Fault :=
  let f := w.pacer.frame w.machine
  let (w, trail) := { w with machine := f.machine, pacer := f.pacer }.cueAll f.cues
  let fault := match f.result with
    | .ok _ => none
    | .error e => some e
  (w, Trail.append { log := f.log } trail, fault)

/-- How a turn ends. -/
inductive TurnEnd where
  /-- The turn goes on to the clock. -/
  | waits
  /-- Quitting was asked for. -/
  | quits
  /-- The frame failed. -/
  | fails (f : Fault)

/-- A turn of the loop up to the clock. -/
def advance (w : Window) (events : List HostEvent) : Window × Trail × TurnEnd :=
  let (w, polled) := w.poll events
  if w.controls.quit then ({ w with running := false }, polled, .quits)
  else
    let (w, toggled) := w.togglePause
    if w.paused then (w, polled.append toggled, .waits)
    else
      let (w, framed, fault) := w.frame
      (w, (polled.append toggled).append framed,
        match fault with
        | some f => .fails f
        | none => .waits)

/-- The window with its clock moved on by so many seconds. -/
def wait (w : Window) (seconds : Real64) : Window :=
  { w with now := w.now.add seconds }

/-- The caption that reports a number of turns in a number of seconds. -/
def rateCaption (title : String) (turns : Nat) (seconds : Real64) (paused : Bool) : String :=
  title ++ "  [" ++ seconds.perUnit turns ++ " fps]" ++ (if paused then "  [paused]" else "")

/-- The window having counted a turn; once a second has gone by, the caption reports the rate. -/
def count (w : Window) : Window :=
  let counted := w.counted + 1
  let elapsed := w.now.sub w.marked
  if elapsed.atLeastOne then
    { w with
      caption := rateCaption w.title counted elapsed w.paused
      counted := 0
      marked := w.now }
  else { w with counted := counted }

/-- The window shut down: the speaker silenced, the beeper and its mixer given up. -/
def shutdown (w : Window) : Window × Trail :=
  let (w, hushed) := w.hush
  let (b, calls) := w.beeper.shutdown
  ({ w with beeper := b },
    (Trail.append { log := [.shuttingDown] } hushed).append { calls := calls })

/-- How a run of the main loop went. -/
structure WindowRun where
  /-- The window after the shutdown. -/
  window : Window
  trail : Trail
  /-- The window at each reading of the clock. -/
  snapshots : List Window
  /-- The fault that ended the run, if one did. -/
  fault : Option WindowFault

/-- The reason why the events of the next turn of a script never arrive. -/
def nextFault (script : List Beat) : Option WindowFault :=
  (script.head?.bind Beat.fault).map .event

/-- The loop over a script, up to the shutdown. The events of a turn are sent while the turn before
it waits for the clock. -/
def loop (w : Window) : List Beat → WindowRun
  | [] =>
    let (w, trail, _) := w.advance [.quit]
    ⟨w, trail, [], none⟩
  | b :: bs =>
    let (w, trail, ending) := w.advance b.events
    match ending with
    | .quits => ⟨w, trail, [], none⟩
    | .fails f => ⟨w, trail, [], some (.machine f)⟩
    | .waits =>
      match b.seconds with
      | .error e => ⟨w, trail, [], some (.clock e)⟩
      | .ok seconds =>
        let w := w.wait seconds
        if b.interrupted then ⟨w, trail.append { log := [.interrupted] }, [w], none⟩
        else
          match nextFault bs with
          | some e => ⟨w, trail, [w], some e⟩
          | none =>
            let rest := w.count.loop bs
            { rest with trail := trail.append rest.trail, snapshots := w :: rest.snapshots }

/-- The main loop over a script: the blank picture is shown, the script is followed, and the window
is shut down whichever way the loop ends. -/
def runLoop (w : Window) (script : List Beat) : WindowRun :=
  let (w, first) := { w with running := true, now := .zero, marked := .zero, counted := 0 }.render
    w.machine.display
  let entered : Trail := { log := [.loopEntered (w.rate.truncated.toOption.getD 0)] }
  let looped := w.loop script
  let (last, closing) := looped.window.shutdown
  { looped with
    window := last
    trail := ((first.append entered).append looped.trail).append closing }

/-- A run over a script. The main loop is entered once the events of the first turn are sent. -/
def run (w : Window) (script : List Beat) : WindowRun :=
  match nextFault script with
  | some e => ⟨w, {}, [], some e⟩
  | none => w.runLoop script

end Window

end ChipEight
