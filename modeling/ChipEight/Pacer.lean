import ChipEight.Machine.Cycle

/-!
# Frames

A pacer runs a machine one video frame at a time: up to a budget of cycles, then one step of the
timers, then the picture goes to the screen if it was written to, and the speaker is told when the
sound timer starts or runs out. A frame whose cycle fails ends there and then.

## Main definitions

- `Pacer`: the budget, the frame number, and what is attached.
- `Cue`: what a screen and a speaker are told.
- `Burst`, `Machine.burst`: the cycles of one frame.
- `Pacer.frame`: one frame.
- `Pacer.hush`: silencing the speaker.
-/

namespace ChipEight

/-- What a screen or a speaker is told. -/
inductive Cue where
  /-- Show this picture. -/
  | render (picture : Display)
  /-- Begin to sound. -/
  | play
  /-- Fall silent. -/
  | stop

/-- A driver of frames. -/
@[ext] structure Pacer where
  /-- The most cycles that a frame may take. -/
  budget : Int
  /-- Whether a screen is attached. -/
  screen : Bool
  /-- Whether a speaker is attached. -/
  speaker : Bool
  /-- The number of frames completed. -/
  frames : Nat
  /-- Whether the sound is on. -/
  soundOn : Bool
  deriving DecidableEq, Repr

/-- The cycles that a frame takes unless told otherwise. -/
def Pacer.defaultBudget : Int := 11

/-- What a completed frame reports. -/
structure FrameStats where
  cycles : Nat
  rendered : Bool
  soundOn : Bool
  deriving DecidableEq, Repr

/-- A row of cycles. -/
structure Burst where
  machine : Machine
  /-- The number of cycles completed. -/
  cycles : Nat
  /-- The fault that ended the row, if one did. -/
  fault : Option Fault
  log : Log

/-- Up to `n` cycles; when told to wait for the display, none after one that leaves the picture
written to. -/
def Machine.burst (wait : Bool) : Nat → Machine → Burst
  | 0, m => ⟨m, 0, none, []⟩
  | n + 1, m =>
    let turn := m.cycle
    match turn.result with
    | .error fault => ⟨turn.machine, 0, some fault, turn.log⟩
    | .ok _ =>
      if wait && turn.machine.display.dirty then ⟨turn.machine, 1, none, turn.log⟩
      else
        let rest := turn.machine.burst wait n
        { rest with cycles := rest.cycles + 1, log := turn.log ++ rest.log }

/-- What a frame leaves behind. -/
structure Frame where
  machine : Machine
  pacer : Pacer
  /-- What the screen and the speaker were told, in order. -/
  cues : List Cue
  log : Log
  /-- The report of a completed frame, or the fault that ended it. -/
  result : Except Fault FrameStats

namespace Pacer

/-- A new pacer; its budget is at least one cycle. -/
def new (budget : Int) (screen speaker : Bool) : Pacer where
  budget := max 1 budget
  screen := screen
  speaker := speaker
  frames := 0
  soundOn := false

/-- The pacer with the sound switched, and what the speaker is told: nothing unless the sound
changes. -/
def switchSound (p : Pacer) (wanted : Bool) : Pacer × List Cue × Log :=
  if wanted = p.soundOn then (p, [], [])
  else
    let switched := { p with soundOn := wanted }
    if p.speaker then
      (switched, [if wanted then .play else .stop], [.soundSwitched wanted p.frames])
    else (switched, [], [])

/-- The pacer with the sound off. -/
def hush (p : Pacer) : Pacer × List Cue × Log :=
  p.switchSound false

/-- One frame. -/
def frame (p : Pacer) (m : Machine) : Frame :=
  let burst := m.burst m.dialect.displayWait p.budget.toNat
  match burst.fault with
  | some fault => ⟨burst.machine, p, [], burst.log, .error fault⟩
  | none =>
    let ticked := burst.machine.tick
    let counted := { p with frames := p.frames + 1 }
    let rendered := ticked.display.dirty
    let shown := if rendered && p.screen then [.render ticked.display] else []
    let after := if rendered then { ticked with display := ticked.display.consume } else ticked
    let (switched, cues, log) := counted.switchSound after.timers.sounding
    ⟨after, switched, shown ++ cues, burst.log ++ log,
      .ok ⟨burst.cycles, rendered, switched.soundOn⟩⟩

/-- The one-line account of a pacer whose budget shows like this. -/
def describeAs (budget : String) (p : Pacer) : String :=
  "FrameDriver(ipf=" ++ budget ++ ", frame=" ++ toString p.frames ++ ", sound_on=" ++
    (if p.soundOn then "True" else "False") ++ ")"

/-- The one-line account of a pacer. -/
def describe (p : Pacer) : String :=
  p.describeAs (toString p.budget)

end Pacer

end ChipEight
