import ChipEight.Session.Run

/-!
# Commands of a host

The commands of a console, in values of any kind. Each says which operation meets which value first,
and so what a command with several faults is refused for. What was written before a fault stays.

## Main definitions

- `HostCommand`, `HostAssignment`: what a host may ask for.
- `Session.write`: one direct write.
- `Session.perform`: one command.
-/

namespace ChipEight

/-- A direct write of any value to a register or a timer. -/
inductive HostAssignment where
  /-- Set the program counter. -/
  | pc (d : Datum)
  /-- Set the index register. -/
  | index (d : Datum)
  /-- Set the flag register. -/
  | flag (d : Datum)
  /-- Set the delay timer, to the value as it is. -/
  | delay (d : Datum)
  /-- Set the sound timer, to the value as it is. -/
  | sound (d : Datum)
  /-- Set general registers, by pairs of a number and a value. -/
  | generals (pairs : Datum)

/-- What a host may ask for. -/
inductive HostCommand where
  /-- A command without a value. -/
  | plain (c : Command)
  /-- Write values to memory. -/
  | poke (address : Datum) (items : List Datum)
  /-- Write one memory cell. -/
  | writeCell (address value : Datum)
  /-- Read one memory cell. -/
  | readCell (address : Datum)
  /-- Read a block of memory. -/
  | peek (address length : Datum)
  /-- Find the glyph of a digit. -/
  | glyph (digit : Datum)
  /-- Write registers and timers, in order. -/
  | assign (writes : List HostAssignment)
  /-- Push a return address. -/
  | push (address : Datum)
  /-- Run so many cycles. -/
  | cycles (n : Datum)
  /-- Execute the instruction of a word without fetching it. -/
  | execute (word : Datum)
  /-- Step the timers so many times. -/
  | tick (n : Datum)
  /-- Press or release a key. -/
  | setKey (key : Datum) (down : Bool)
  /-- Let every key go. -/
  | releaseAll
  /-- Remember the held keys. -/
  | snapshot
  /-- Ask whether a key is held. -/
  | isPressed (key : Datum)
  /-- Ask for the lowest key that was let go since the last snapshot. -/
  | releasedKey
  /-- Combine a bit into a pixel. -/
  | xorPixel (x y bit : Datum)
  /-- Read a pixel. -/
  | readPixel (x y : Datum)
  /-- Ask for the accounts of all parts. -/
  | describe
  /-- Run so many frames. -/
  | frames (n : Datum)
  /-- Change the budget of a frame. -/
  | setBudget (budget : Datum)
  /-- Ask how the pacer stands. -/
  | pacing

namespace Session

/-! ### Memory -/

/-- The integers of the values that are written to memory, up to the first one that cannot be. Each
value is looked at before the address that it goes to. -/
def cells (address : Datum) : List Datum → List Int × Option OperandFault
  | [] => ([], none)
  | d :: ds =>
    let cell : Except OperandFault Int := do
      let place ← address.plus 0
      let k ← d.bits "&"
      let _ ← place.address
      return k
    match cell with
    | .error e => ([], some e)
    | .ok k =>
      let (ks, fault) := cells address ds
      (k :: ks, fault)

/-- Write values to memory. -/
def poke (s : Session) (address : Datum) (items : List Datum) : Session × HostReport :=
  let (ks, fault) := cells address items
  let (next, report) := s.forward (.poke (address.integer?.getD 0) ks)
  (next, { report with fault := fault.map .operand })

/-- The block of memory that is read. An empty one may be anywhere. -/
def block (address length : Datum) : Except OperandFault Command := do
  let n ← length.count
  if n ≤ 0 then return .peek 0 0
  let place ← address.plus 0
  return .peek (← place.address) n

/-! ### Registers and timers -/

/-- A direct write passed on to the machine. -/
def assigned (s : Session) (w : Assignment) : Except HostFault Session := do
  let m ← (Console.write s.machine w).mapError .refusal
  return s.onMachine fun _ => m

/-- Set one general register by a pair of a number and a value. -/
def writePair (s : Session) (pair : Datum) : Except HostFault Session := do
  match ← (pair.exactly 2).mapError .operand with
  | [k, b] =>
    match k.integer? with
    | none => throw (.operand (.noIndex k.typeName))
    | some k =>
      if k < -Int.pow 2 63 ∨ Int.pow 2 63 ≤ k then throw (.refusal .hugeNumber)
      s.assigned (.general k (← b.count.mapError HostFault.operand))
  | _ => return s

/-- Set general registers by pairs, up to the first one that is refused. -/
def writePairs (s : Session) : List Datum → Session × Option HostFault
  | [] => (s, none)
  | p :: ps =>
    match s.writePair p with
    | .ok next => next.writePairs ps
    | .error e => (s, some e)

/-- A write of the bits of a value. -/
def writeBits (s : Session) (d : Datum) (w : Int → Assignment) : Session × Option HostFault :=
  let written := do s.assigned (w (← (d.bits "&").mapError HostFault.operand))
  match written with
  | .ok next => (next, none)
  | .error e => (s, some e)

/-- One direct write, and the fault that ends it. -/
def write (s : Session) : HostAssignment → Session × Option HostFault
  | .pc d => s.writeBits d .pc
  | .index d => s.writeBits d .index
  | .flag d => s.writeBits d .flag
  | .delay d =>
    ({ s.onMachine fun m => { m with timers := { m.timers with delay := Leftovers.standIn d } } with
        left := { s.left with delay := Leftovers.ofTimer d } }, none)
  | .sound d =>
    ({ s.onMachine fun m => { m with timers := { m.timers with sound := Leftovers.standIn d } } with
        left := { s.left with sound := Leftovers.ofTimer d } }, none)
  | .generals pairs =>
    match pairs.parts with
    | .ok ps => s.writePairs ps
    | .error e => (s, some (.operand e))

/-- Direct writes in order, up to the first one that is refused. -/
def writeAll (s : Session) : List HostAssignment → Session × Option HostFault
  | [] => (s, none)
  | w :: ws =>
    match s.write w with
    | (next, none) => next.writeAll ws
    | refused => refused

/-! ### Keys -/

/-- Press or release a key. A real between the codes is held as well, but no instruction asks
for it. -/
def setKey (s : Session) (key : Datum) (down : Bool) : Except HostFault Session := do
  if !(← (key.isWithin 16).mapError .operand) then throw (.noKey key)
  let keypad := s.machine.keypad
  let left := if down then s.left.press keypad key else s.left.lift key
  let after := ((Leftovers.code? key).bind fun k => (keypad.setKey k down).toOption).getD keypad
  return { s.onMachine fun m => { m with keypad := after } with left := left }

/-- Whether a key is held. -/
def isPressed (s : Session) (key : Datum) : Except OperandFault Bool := do
  key.asKey
  return Leftovers.names s.liveKeys key

/-! ### Commands -/

/-- The report of a run. -/
def reportOf (reply : Reply) (o : Outcome Unit) : Session × HostReport :=
  let fault := match o.result with
    | .ok () => none
    | .error f => some (.refusal (.fault f))
  (o.session, { answer := .reply reply, fault := fault, cues := o.cues, log := o.log })

/-- Run a command as often as a value says, if the value is a count. -/
def counted (s : Session) (n : Datum) (idle : Reply) (run : Nat → Session × HostReport) :
    Session × HostReport :=
  match n.count with
  | .ok n => run n.toNat
  | .error e => (s, { answer := .reply idle, fault := some (.operand e) })

/-- One command. -/
def perform (s : Session) : HostCommand → Session × HostReport
  | .plain c => s.forward c
  | .poke address items => s.poke address items
  | .writeCell address value => s.forwardM <| (do
      let k ← value.bits "&"
      return .writeCell (← address.address) k : Except OperandFault Command).mapError .operand
  | .readCell address => s.forwardM ((address.address.map .readCell).mapError .operand)
  | .peek address length => s.forwardM ((block address length).mapError .operand)
  | .glyph digit => s.forwardM (((digit.bits "&").map .glyph).mapError .operand)
  | .assign writes =>
    let (next, fault) := s.writeAll writes
    (next, { fault := fault })
  | .push address => s.forwardM (((address.bits "&").map .push).mapError .operand)
  | .cycles n =>
    s.counted n (.cycles []) fun k =>
      if s.left.isEmpty then s.forward (.cycles k)
      else
        let (done, run) := s.cycles k
        reportOf (.cycles done) run
  | .execute word =>
    let known := s.words.resolve word
    match known.word with
    | .error e => s.refuse (.word e)
    | .ok w => { s with words := s.words.keep word }.execute w
  | .tick n =>
    s.counted n .nothing fun k =>
      let (next, fault) := s.ticks k
      (next, { fault := fault.map .operand })
  | .setKey key down =>
    match s.setKey key down with
    | .ok next => (next, {})
    | .error e => s.refuse e
  | .releaseAll => { s with left := { s.left with live := [] } }.forward .releaseAll
  | .snapshot => { s with left := s.left.snapshot }.forward .snapshot
  | .isPressed key =>
    match s.isPressed key with
    | .ok held => (s, { answer := .reply (.truth held) })
    | .error e => s.refuse (.operand e)
  | .releasedKey => (s, { answer := .key (s.left.released? s.machine.keypad) })
  | .xorPixel x y bit =>
    s.forwardM <| ((Grid.flipAt x y bit).map fun (a, b, c) => .xorPixel a b c).mapError .grid
  | .readPixel x y =>
    s.forwardM <| ((Grid.cellAt x y).map fun (a, b) => .readPixel a b).mapError .grid
  | .describe =>
    match s.left.checkDigits with
    | .error e => s.refuse (.operand e)
    | .ok () =>
      let m := s.machine
      (s, { answer := .reply (.accounts m.describe m.registers.describe m.display.describe
              m.keypad.describe m.memory.describe (s.console.pacer.describeAs s.budget.plain)) })
  | .frames n =>
    s.counted n (.frames []) fun k =>
      let (done, run) := s.frames k
      reportOf (.frames done) run
  | .setBudget budget =>
    let cycles := budget.integer?.getD (budget.reaches.toOption.getD 0)
    let (next, report) := s.forward (.setBudget cycles)
    ({ next with budget := budget }, report)
  | .pacing => (s, { answer := .pacing s.budget s.console.pacer })

end Session

end ChipEight
