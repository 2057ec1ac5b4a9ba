import ChipEight.Log
import ChipEight.Machine.Exec

/-!
# Cycles

One cycle fetches the word at the program counter, moves the program counter behind it, executes the
instruction that the word stands for, remembers the held keys, and counts itself. A cycle that fails
stops right after the fetch.

## Main definitions

- `Machine.word`, `Machine.fetched`: the word at the program counter, and the machine behind it.
- `Machine.cycle`: one cycle, with its outcome and its log.
- `Machine.step`, `Machine.run`: the machine after one cycle and after many.
-/

namespace ChipEight

/-- What a cycle leaves behind. -/
structure Turn where
  machine : Machine
  /-- The instruction that was executed, or the fault that stopped it. -/
  result : Except Fault Instr
  log : Log

namespace Machine

/-- The word at the program counter, its high byte first. -/
def word (m : Machine) : UInt16 :=
  let pc : Int := m.registers.pc.toNat
  UInt16.ofNat (256 * (m.memory.read pc).toNat + (m.memory.read (pc + 1)).toNat)

/-- The machine with its program counter behind the word it stood at. -/
def fetched (m : Machine) : Machine :=
  m.onRegisters Registers.advance

/-- What executing an instruction reports: a word without a pattern, with the address two below the
program counter. -/
def report (m : Machine) : Instr → Log
  | .unknown w => [.skipped w (m.registers.pc - 2)]
  | _ => []

/-- The machine at the end of a completed cycle. -/
def settled (m : Machine) : Machine :=
  { m with keypad := m.keypad.snapshot, cycles := m.cycles + 1 }

/-- One cycle of the machine. -/
def cycle (m : Machine) : Turn :=
  let instr := decode m.word
  let behind := m.fetched
  let log := .traced m.registers.pc instr :: behind.report instr
  match instr.exec behind with
  | .ok done => ⟨done.settled, .ok instr, log⟩
  | .error fault => ⟨behind.spent instr, .error fault, log⟩

/-- The machine after one cycle, completed or not. -/
def step (m : Machine) : Machine :=
  m.cycle.machine

/-- The machine after `n` cycles. -/
def run : Nat → Machine → Machine
  | 0, m => m
  | n + 1, m => run n m.step

end Machine

end ChipEight
