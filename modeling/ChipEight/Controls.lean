import ChipEight.Datum.Operand
import ChipEight.Keyboard
import ChipEight.Keypad
import ChipEight.Log

/-!
# Controls

The keys of the host's keyboard stand for the keys of the keypad, in a block of four by four at its
left-hand side. Two keys control the window instead: one quits, one pauses.

## Main definitions

- `HostEvent`: what the keyboard and the window report; `HostEvent.ofDatum`: an event described.
- `HostKey.code?`: the keypad key that a host key stands for.
- `Controls`: whether quitting or pausing was asked for.
- `Controls.handle`, `Controls.poll`: one event, and a batch of events.
- `Controls.consumePause`: whether the pause key was pressed since the last time this was asked.
-/

namespace ChipEight

/-- What the keyboard and the window report. -/
inductive HostEvent where
  | keyDown (k : HostKey)
  | keyUp (k : HostKey)
  | quit
  | focusLost
  /-- Anything else, which is ignored. -/
  | other
  deriving DecidableEq, Repr

/-- Why a value is no event. -/
inductive EventFault where
  /-- A value is of no use where it is needed. -/
  | operand (e : OperandFault)
  /-- No key has the name. -/
  | key (e : NoSuchHostKey)
  deriving DecidableEq, Repr

namespace EventFault

/-- The text of the complaint. -/
def message : EventFault → String
  | .operand e => e.message
  | .key e => e.message

/-- The kind of the complaint. -/
def kind : EventFault → FaultKind
  | .operand e => e.kind
  | .key _ => .part

instance : IsFault EventFault := ⟨kind, message⟩

end EventFault

/-- The key that a value names. -/
def HostKey.ofDatum (d : Datum) : Except EventFault HostKey :=
  match d with
  | .text name =>
    match HostKey.ofName? name with
    | some k => .ok k
    | none => .error (.key ⟨name⟩)
  | d => .error (.operand (.join "str" d.typeName))

/-- The event that a value describes: its first element tells what happened, and for a key the
second one names it. -/
def HostEvent.ofDatum (d : Datum) : Except EventFault HostEvent := do
  let first ← (d.element 0).mapError .operand
  let key : Except EventFault HostKey := do
    HostKey.ofDatum (← (d.element 1).mapError .operand)
  match first with
  | .text "keydown" => return .keyDown (← key)
  | .text "keyup" => return .keyUp (← key)
  | .text "quit" => return .quit
  | .text "focuslost" => return .focusLost
  | .text "focusgained" | .text "mousedown" | .text "user" => return .other
  | d =>
    d.asKey.mapError .operand
    throw (.operand (.noEntry d.literal))

/-- The host keys that stand for keypad keys, with the keys they stand for: the first one stands for
the key `0`, the last one for the key `F`. -/
def HostKey.layout : List (Char × Key) :=
  ['x', '1', '2', '3', 'q', 'w', 'e', 'a', 's', 'd', 'z', 'c', '4', 'r', 'f', 'v'].zip
    (List.finRange 16)

/-- The keypad key that a host key stands for. -/
def HostKey.code? : HostKey → Option Key
  | .symbol c => HostKey.layout.lookup c
  | _ => none

/-- What was asked of the window. -/
structure Controls where
  /-- Whether quitting was asked for. -/
  quit : Bool
  /-- Whether the pause key was pressed and not yet acted on. -/
  pausePressed : Bool
  deriving DecidableEq, Repr

namespace Controls

/-- Nothing asked for. -/
def fresh : Controls :=
  ⟨false, false⟩

/-- A host key that went down or up, on the keypad: only keys with a code matter. -/
def moveKey (p : Keypad) (k : HostKey) (down : Bool) : Keypad × Log :=
  match k.code? with
  | some code => (p.put code down, [.keyMoved code down])
  | none => (p, [])

/-- One event. The keys that control the window do so when they go down. -/
def handle (c : Controls) (p : Keypad) : HostEvent → Controls × Keypad × Log
  | .quit => ({ c with quit := true }, p, [])
  | .keyDown .escape => ({ c with quit := true }, p, [])
  | .keyDown .pause => ({ c with pausePressed := true }, p, [])
  | .keyDown k => (c, moveKey p k true)
  | .keyUp k => (c, moveKey p k false)
  | .focusLost => (c, p.releaseAll, [])
  | .other => (c, p, [])

/-- A batch of events in order. -/
def poll (c : Controls) (p : Keypad) : List HostEvent → Controls × Keypad × Log
  | [] => (c, p, [])
  | e :: es =>
    let (c, p, log) := c.handle p e
    let (c, p, rest) := poll c p es
    (c, p, log ++ rest)

/-- Whether the pause key was pressed since this was last asked. -/
def consumePause (c : Controls) : Controls × Bool :=
  ({ c with pausePressed := false }, c.pausePressed)

end Controls

end ChipEight
