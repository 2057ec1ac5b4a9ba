import ChipEight.Console
import ChipEight.Display.Host
import ChipEight.Instr.Host
import ChipEight.Session.Leftovers

/-!
# Sessions

A console takes commands in integers. In a session a host gives its commands in values of any kind.
A value that will do becomes an integer; what will not do is refused by the first operation that it
gets in the way of. Some values stay as they are: the budget of a frame, and what is left in the
timers and among the keys.

## Main definitions

- `Session`: a console, and the values that stayed as they are.
- `HostFault`: why a command of a host was refused.
- `HostReport`: what a command of a host brings about.
- `Session.forward`, `Session.refuse`: a command passed on, and one refused.
-/

namespace ChipEight

/-- A console under the hands of a host. -/
structure Session where
  console : Console
  /-- The budget of a frame as it was given. The pacer holds the number of cycles that it allows. -/
  budget : Datum
  left : Leftovers := {}
  /-- The truth values that were looked up as words. -/
  words : WordMemory := []

/-- Why a command of a host was refused. -/
inductive HostFault where
  /-- A value is of no use where it is needed. -/
  | operand (e : OperandFault)
  /-- No pixel is read or written. -/
  | grid (e : GridFault)
  /-- A number names no key. -/
  | noKey (code : Datum)
  /-- A value stands for no instruction. -/
  | word (e : WordFault)
  /-- The console refuses. -/
  | refusal (e : Refusal)

namespace HostFault

/-- The text of the complaint. -/
def message : HostFault → String
  | .operand e => e.message
  | .grid e => e.message
  | .noKey code => "key code " ++ code.plain ++ " out of range [0, 16)"
  | .word e => e.message
  | .refusal e => IsFault.message e

/-- The kind of the complaint. -/
def kind : HostFault → FaultKind
  | .operand e => e.kind
  | .grid e => e.kind
  | .noKey _ => .senseless
  | .word e => e.kind
  | .refusal e => IsFault.kind e

instance : IsFault HostFault := ⟨kind, message⟩

end HostFault

/-- What a command of a host answers. -/
inductive Answer where
  /-- The answer of the console. -/
  | reply (r : Reply)
  /-- A key, if there is one. -/
  | key (d : Option Datum)
  /-- The budget of a frame, and the pacer. -/
  | pacing (budget : Datum) (p : Pacer)

/-- What a command of a host brings about besides the new state. -/
structure HostReport where
  answer : Answer := .reply .nothing
  fault : Option HostFault := none
  cues : List Cue := []
  log : Log := []

namespace Session

/-- A session with a console that a budget was chosen for. -/
def new (m : Machine) (budget : Datum) (screen speaker : Bool) :
    Except OperandFault Session := do
  let allowed ← budget.atLeastOne
  let cycles := allowed.integer?.getD (allowed.reaches.toOption.getD 0)
  return ⟨⟨m, .new cycles screen speaker⟩, allowed, {}, []⟩

/-- The session with its machine changed. -/
def onMachine (s : Session) (f : Machine → Machine) : Session :=
  { s with console := s.console.onMachine f }

/-- The machine of the session. -/
def machine (s : Session) : Machine :=
  s.console.machine

/-- A command passed on to the console. -/
def forward (s : Session) (c : Command) : Session × HostReport :=
  let (next, report) := s.console.perform c
  ({ s with console := next },
    { answer := .reply report.reply, fault := report.refusal.map .refusal, cues := report.cues,
      log := report.log })

/-- A command that is refused and changes nothing. -/
def refuse (s : Session) (e : HostFault) : Session × HostReport :=
  (s, { fault := some e })

/-- A command passed on once its values have become integers. -/
def forwardM (s : Session) (c : Except HostFault Command) : Session × HostReport :=
  match c with
  | .ok c => s.forward c
  | .error e => s.refuse e

/-- The held keys as they show. -/
def liveKeys (s : Session) : List Datum :=
  Leftovers.shown s.machine.keypad.live s.left.live

/-- The keys of the last snapshot as they show. -/
def lastKeys (s : Session) : List Datum :=
  Leftovers.shown s.machine.keypad.last s.left.last

/-- The delay timer as it shows. -/
def delay (s : Session) : Datum :=
  Leftovers.timer s.left.delay s.machine.timers.delay

/-- The sound timer as it shows. -/
def sound (s : Session) : Datum :=
  Leftovers.timer s.left.sound s.machine.timers.sound

end Session

end ChipEight
