import ChipEight.Pacer

/-!
# The console

A console is a machine with its pacer, as a host sees them. The host gives commands; each is
performed to its end or refused, and what was done before a refusal stays done.

## Main definitions

- `Console`: the machine and the pacer.
- `Command`: what a host may ask for.
- `Reply`, `Refusal`: what comes back.
- `Console.perform`: one command.
- `Console.performAll`: commands in order, past refusals.
-/

namespace ChipEight

/-- A machine with its pacer. -/
structure Console where
  machine : Machine
  pacer : Pacer

/-- A direct write to a register or a timer. -/
inductive Assignment where
  /-- Set the program counter to the lowest sixteen bits of an integer. -/
  | pc (a : Int)
  /-- Set the index register to the lowest sixteen bits of an integer. -/
  | index (a : Int)
  /-- Set the flag register to the lowest eight bits of an integer. -/
  | flag (b : Int)
  /-- Set the delay timer to any integer. -/
  | delay (t : Int)
  /-- Set the sound timer to any integer. -/
  | sound (t : Int)
  /-- Set a general register, counted from the end if negative, to a byte. -/
  | general (register value : Int)
  deriving DecidableEq, Repr

/-- What a host may ask of a console. -/
inductive Command where
  /-- Load a program. -/
  | load (p : Program)
  /-- Write a block of memory. -/
  | poke (address : Int) (data : List Int)
  /-- Write one memory cell. -/
  | writeCell (address value : Int)
  /-- Read one memory cell. -/
  | readCell (address : Int)
  /-- Read a block of memory. -/
  | peek (address length : Int)
  /-- Find the glyph of a digit. -/
  | glyph (digit : Int)
  /-- Write registers and timers, in order. -/
  | assign (writes : List Assignment)
  /-- Read the flag register. -/
  | readFlag
  /-- Push a return address. -/
  | push (address : Int)
  /-- Pop a return address. -/
  | pop
  /-- Fetch a word without executing it. -/
  | fetch
  /-- Run so many cycles. -/
  | cycles (n : Int)
  /-- Execute the instruction of a word without fetching it. -/
  | execute (word : Int)
  /-- Step the timers so many times. -/
  | tick (n : Int)
  /-- Press or release a key. -/
  | setKey (key : Int) (down : Bool)
  /-- Let every key go. -/
  | releaseAll
  /-- Remember the held keys. -/
  | snapshot
  /-- Ask whether a key is held. -/
  | isPressed (key : Int)
  /-- Ask for the lowest key that was let go since the last snapshot. -/
  | releasedKey
  /-- Combine a bit into a pixel. -/
  | xorPixel (x y bit : Int)
  /-- Read a pixel. -/
  | readPixel (x y : Int)
  /-- Turn every pixel off. -/
  | clear
  /-- Lower the dirty flag. -/
  | consume
  /-- Ask for the picture as text. -/
  | text
  /-- Ask for the accounts of all parts. -/
  | describe
  /-- Run so many frames. -/
  | frames (n : Int)
  /-- Silence the speaker. -/
  | hush
  /-- Change the budget of a frame, without a lower bound. -/
  | setBudget (n : Int)
  /-- Ask how the pacer stands. -/
  | pacing

/-- Why a command was refused. -/
inductive Refusal where
  | fault (f : Fault)
  | grid (e : OutsideGrid)
  | key (e : NoSuchKey)
  | word (e : NotAWord)
  /-- A register number that 64 bits with a sign do not hold. -/
  | hugeNumber
  /-- No general register has this number. -/
  | noRegister
  /-- A general register holds bytes only. -/
  | noByte

namespace Refusal

/-- The values that the wording of a refusal shows in decimal digits, as far as a host chose them. -/
def shown : Refusal → List Datum
  | .fault f => f.shown
  | .grid e => [.int e.x, .int e.y]
  | .key e => [.int e.code]
  | _ => []

/-- The wording of a refusal that can show its values. -/
def wording : Refusal → String
  | .fault f => f.message
  | .grid e => e.message
  | .key e => e.message
  | .word e => e.message
  | .hugeNumber => "cannot fit 'int' into an index-sized integer"
  | .noRegister => "bytearray index out of range"
  | .noByte => "byte must be in range(0, 256)"

/-- The kind of a refusal that can show its values. -/
def ownKind : Refusal → FaultKind
  | .fault f => f.kind
  | .grid _ | .hugeNumber | .noRegister => .place
  | .key _ | .word _ | .noByte => .senseless

/-- The wording of a refusal under a limit. Where it cannot show its values, that is what is
complained about. -/
def message (limit : DigitLimit) (r : Refusal) : String :=
  if Datum.allShown limit r.shown then r.wording else limit.refusal

/-- The kind of a refusal under a limit. -/
def kind (limit : DigitLimit) (r : Refusal) : FaultKind :=
  if Datum.allShown limit r.shown then r.ownKind else .senseless

instance : IsFault Refusal := ⟨kind none, message none⟩

end Refusal

/-- What a command answers. -/
inductive Reply where
  | nothing
  | number (k : Int)
  | truth (b : Bool)
  | bytes (bs : List UInt8)
  | text (s : String)
  | key (k : Option Key)
  /-- The instructions executed, each with the registers after it. -/
  | cycles (done : List (Instr × Registers))
  /-- The frames completed. -/
  | frames (done : List FrameStats)
  /-- The accounts of the machine, its registers, display, keypad and memory, and of the pacer. -/
  | accounts (machine registers display keypad memory pacer : String)
  | pacing (p : Pacer)

/-- What performing a command brings about besides the new state. -/
structure Report where
  reply : Reply := .nothing
  refusal : Option Refusal := none
  cues : List Cue := []
  log : Log := []

namespace Console

/-- The console with its machine changed. -/
def onMachine (c : Console) (f : Machine → Machine) : Console :=
  { c with machine := f c.machine }

theorem toNat_lt_registers {k : Int} (h : 0 ≤ k ∧ k < 16) : k.toNat < 16 := by
  omega

/-- The general register of a number, counted from the end if negative. -/
def register? (k : Int) : Option Reg :=
  if h : 0 ≤ k ∧ k < 16 then some ⟨k.toNat, toNat_lt_registers h⟩
  else if h : -16 ≤ k ∧ k < 0 then some ⟨(k + 16).toNat, by omega⟩
  else none

/-- Set a general register by its number, counted from the end if negative. The size of the number
is looked at first, then the value, and then whether there is such a register. -/
def writeGeneral (m : Machine) (k b : Int) : Except Refusal Machine :=
  if k < -Int.pow 2 63 ∨ Int.pow 2 63 ≤ k then .error .hugeNumber
  else if b < 0 ∨ 256 ≤ b then .error .noByte
  else
    match register? k with
    | some x => .ok (m.onRegisters fun r => r.set x (UInt8.ofInt b))
    | none => .error .noRegister

/-- One direct write. -/
def write (m : Machine) : Assignment → Except Refusal Machine
  | .pc a => .ok (m.onRegisters fun r => r.goto (UInt16.ofInt a))
  | .index a => .ok (m.onRegisters fun r => r.point (UInt16.ofInt a))
  | .flag b => .ok (m.onRegisters fun r => r.set flagReg (UInt8.ofInt b))
  | .delay t => .ok { m with timers := { m.timers with delay := t } }
  | .sound t => .ok { m with timers := { m.timers with sound := t } }
  | .general k b => writeGeneral m k b

/-- Direct writes in order, up to the first one that is refused. -/
def writeAll (m : Machine) : List Assignment → Machine × Option Refusal
  | [] => (m, none)
  | w :: ws =>
    match write m w with
    | .ok n => writeAll n ws
    | .error e => (m, some e)

/-- Cycles in order, up to the first one that fails. -/
def runCycles : Nat → Machine → Machine × List (Instr × Registers) × Option Fault × Log
  | 0, m => (m, [], none, [])
  | n + 1, m =>
    let turn := m.cycle
    match turn.result with
    | .error fault => (turn.machine, [], some fault, turn.log)
    | .ok instr =>
      let (last, done, fault, log) := runCycles n turn.machine
      (last, (instr, turn.machine.registers) :: done, fault, turn.log ++ log)

/-- Frames in order, up to the first one that fails. -/
def runFrames : Nat → Console → Console × List FrameStats × Option Fault × List Cue × Log
  | 0, c => (c, [], none, [], [])
  | n + 1, c =>
    let frame := c.pacer.frame c.machine
    let next : Console := ⟨frame.machine, frame.pacer⟩
    match frame.result with
    | .error fault => (next, [], some fault, frame.cues, frame.log)
    | .ok stats =>
      let (last, done, fault, cues, log) := runFrames n next
      (last, stats :: done, fault, frame.cues ++ cues, frame.log ++ log)

/-- The timers stepped so many times. -/
def tickTimes : Nat → Machine → Machine
  | 0, m => m
  | n + 1, m => tickTimes n m.tick

/-- A command that reads and changes nothing. -/
def answer (c : Console) (r : Reply) : Console × Report :=
  (c, { reply := r })

/-- A command that is refused and changes nothing. -/
def refuse (c : Console) (e : Refusal) : Console × Report :=
  (c, { refusal := some e })

/-- A command that only changes the machine. -/
def change (c : Console) (f : Machine → Machine) : Console × Report :=
  (c.onMachine f, {})

/-- One command. -/
def perform (c : Console) : Command → Console × Report
  | .load p =>
    match c.machine.load p with
    | .ok m => ({ c with machine := m }, { log := [.loaded (p.seen c.machine.memory).length] })
    | .error f => c.refuse (.fault f)
  | .poke a data => c.change fun m => { m with memory := m.memory.poke a data }
  | .writeCell a b => c.change fun m => { m with memory := m.memory.write a (UInt8.ofInt b) }
  | .readCell a => c.answer (.number (c.machine.memory.read a).toNat)
  | .peek a n => c.answer (.bytes (c.machine.memory.readBlock a n))
  | .glyph d => c.answer (.number (Memory.glyphAddress d))
  | .assign writes =>
    let (m, e) := writeAll c.machine writes
    ({ c with machine := m }, { refusal := e })
  | .readFlag => c.answer (.number (c.machine.registers.get flagReg).toNat)
  | .push a => c.change fun m => m.onRegisters fun r => r.push (UInt16.ofInt a)
  | .pop =>
    match c.machine.registers.pop? with
    | some (a, r) => ({ c with machine := { c.machine with registers := r } },
        { reply := .number a.toNat })
    | none => c.refuse (.fault (.stackUnderflow c.machine.registers.pc.toNat))
  | .fetch => (c.onMachine Machine.fetched, { reply := .number c.machine.word.toNat })
  | .cycles n =>
    let (m, done, fault, log) := runCycles n.toNat c.machine
    ({ c with machine := m },
      { reply := .cycles done, refusal := fault.map .fault, log := log })
  | .execute w =>
    match decodeInt w with
    | .error e => c.refuse (.word e)
    | .ok instr =>
      let log := c.machine.report instr
      match instr.exec c.machine with
      | .ok m => ({ c with machine := m }, { log := log })
      | .error f => (c.onMachine fun m => m.spent instr, { refusal := some (.fault f), log := log })
  | .tick n => c.change (tickTimes n.toNat)
  | .setKey k down =>
    match c.machine.keypad.setKey k down with
    | .ok p => c.change fun m => { m with keypad := p }
    | .error e => c.refuse (.key e)
  | .releaseAll => c.change fun m => { m with keypad := m.keypad.releaseAll }
  | .snapshot => c.change fun m => { m with keypad := m.keypad.snapshot }
  | .isPressed k => c.answer (.truth (c.machine.keypad.isPressed k))
  | .releasedKey => c.answer (.key c.machine.keypad.released?)
  | .xorPixel x y bit =>
    match c.machine.display.xor x y bit with
    | .ok (d, hit) => (c.onMachine fun m => { m with display := d }, { reply := .truth hit })
    | .error e => c.refuse (.grid e)
  | .readPixel x y =>
    match c.machine.display.get x y with
    | .ok b => c.answer (.number b.toNat)
    | .error e => c.refuse (.grid e)
  | .clear => c.change fun m => { m with display := m.display.clear }
  | .consume => c.change fun m => { m with display := m.display.consume }
  | .text => c.answer (.text c.machine.display.text)
  | .describe =>
    c.answer (.accounts c.machine.describe c.machine.registers.describe
      c.machine.display.describe c.machine.keypad.describe c.machine.memory.describe
      c.pacer.describe)
  | .frames n =>
    let (next, done, fault, cues, log) := runFrames n.toNat c
    (next, { reply := .frames done, refusal := fault.map .fault, cues := cues, log := log })
  | .hush =>
    let (p, cues, log) := c.pacer.hush
    ({ c with pacer := p }, { cues := cues, log := log })
  | .setBudget n => ({ c with pacer := { c.pacer with budget := n } }, {})
  | .pacing => c.answer (.pacing c.pacer)

/-- Commands in order, with what each brings about; a refused one does not stop the next. -/
def performAll (c : Console) : List Command → Console × List Report
  | [] => (c, [])
  | k :: ks =>
    let (next, report) := c.perform k
    let (last, reports) := next.performAll ks
    (last, report :: reports)

theorem length_performAll (c : Console) (ks : List Command) :
    (c.performAll ks).2.length = ks.length := by
  induction ks generalizing c with
  | nil => rfl
  | cons k ks ih => exact congrArg Nat.succ (ih _)

/-- Commands are performed in two parts, one after the other. -/
theorem performAll_append (c : Console) (js ks : List Command) :
    c.performAll (js ++ ks) =
      (((c.performAll js).1.performAll ks).1,
        (c.performAll js).2 ++ ((c.performAll js).1.performAll ks).2) := by
  induction js generalizing c with
  | nil => rfl
  | cons j js ih => simp only [List.cons_append, performAll, ih]

end Console

end ChipEight
