import ChipEight.Dialect.Basic
import ChipEight.Display
import ChipEight.Keypad
import ChipEight.Memory
import ChipEight.Program.Basic
import ChipEight.Random.Source
import ChipEight.Registers
import ChipEight.Timers

/-!
# The machine

A machine is everything that a program can read or change, together with the dialect it was built
for and the source of its random bytes.

## Main definitions

- `Machine`: the state.
- `Machine.fresh`: the state at power-on.
- `Machine.load`: the machine with a program placed in its memory.
- `Machine.describe`: the one-line account of a machine.
-/

namespace ChipEight

/-- The state of a machine. -/
@[ext] structure Machine where
  dialect : Dialect
  source : RandomSource
  memory : Memory
  registers : Registers
  display : Display
  keypad : Keypad
  timers : Timers
  /-- The number of cycles completed since power-on. -/
  cycles : Nat

namespace Machine

/-- The machine at power-on. -/
def fresh (dialect : Dialect) (source : RandomSource) : Machine where
  dialect := dialect
  source := source
  memory := .fresh
  registers := .fresh
  display := .fresh
  keypad := .fresh
  timers := .fresh
  cycles := 0

/-- The machine with its registers changed. -/
def onRegisters (m : Machine) (f : Registers → Registers) : Machine :=
  { m with registers := f m.registers }

/-- The machine with both timers one step further. -/
def tick (m : Machine) : Machine :=
  { m with timers := m.timers.tick }

/-- The machine with a program placed at the program base, if it is accepted as it is seen before. -/
def load (m : Machine) (p : Program) : Except Fault Machine :=
  (p.seen m.memory).accept.map fun bytes => { m with memory := p.store m.memory bytes }

/-- The one-line account of a machine. -/
def describe (m : Machine) : String :=
  "Interpreter(pc=$" ++ Text.hex 4 m.registers.pc.toNat ++ ", cycles=" ++ toString m.cycles ++
    ", quirks=[" ++ ",".intercalate m.dialect.enabledNames ++ "])"

end Machine

end ChipEight
