import ChipEight.Machine.Cycle

/-!
# What an instruction changes

Each part of a machine is changed by few instructions. Registers aside, it is a function of the
machine and the instruction what the part is afterwards. These functions are given here, and an
instruction that succeeds is proved to leave just what they tell. So what is to be known of the
picture, the timers or the random source after an instruction is read off a short table, and the
instructions need not be gone through again.

## Main definitions

- `Machine.memoryAfter`, `Machine.displayAfter`, `Machine.timersAfter`, `Machine.sourceAfter`: the
  parts of a machine after an instruction.
- `Machine.pointed`: the machine with its index register set.

## Main results

- `Instr.exec_frame`: an instruction leaves these parts, and registers, and nothing else is changed.
- `Registers.operate_eq`, `Machine.afterBlock_eq`, `Machine.loadRegs_eq`: which registers are written
  by a two-register operation, by moving a block and by loading it.
-/

namespace ChipEight

namespace Machine

/-- The memory after an instruction: two instructions write to it. -/
def memoryAfter (m : Machine) : Instr → Memory
  | .decimal x => (m.storeDecimal (m.registers.get x)).memory
  | .storeRegs x => (m.storeRegs x).memory
  | _ => m.memory

/-- The display after an instruction: two instructions change it. -/
def displayAfter (m : Machine) : Instr → Display
  | .clear => m.display.clear
  | .draw x y n => (m.display.flipAll (m.spriteCells x y n.val)).1
  | _ => m.display

/-- The timers after an instruction: two instructions set one of them. -/
def timersAfter (m : Machine) : Instr → Timers
  | .setDelay x => { m.timers with delay := (m.registers.get x).toNat }
  | .setSound x => { m.timers with sound := (m.registers.get x).toNat }
  | _ => m.timers

/-- The random source after an instruction: one instruction draws from it. -/
def sourceAfter (m : Machine) : Instr → RandomSource
  | .random _ _ => m.source.next.2
  | _ => m.source

end Machine

/-! ### Setting the index register -/

namespace Machine

/-- The machine with its index register set. -/
def pointed (m : Machine) (a : UInt16) : Machine :=
  m.onRegisters fun r => r.point a

@[simp] theorem memory_pointed (m : Machine) (a : UInt16) : (m.pointed a).memory = m.memory := rfl

@[simp] theorem index_pointed (m : Machine) (a : UInt16) : (m.pointed a).registers.index = a := rfl

end Machine

/-! ### Instructions -/

namespace Instr

variable {m n : Machine} {i : Instr}

/-- **What an instruction changes.** Registers aside, every part of the machine is the one that its
own function tells, and the keypad and the number of cycles are what they were. -/
theorem exec_frame (h : i.exec m = .ok n) :
    n = { m with
      source := m.sourceAfter i
      memory := m.memoryAfter i
      registers := n.registers
      display := m.displayAfter i
      timers := m.timersAfter i } := by
  cases i with
  | ret =>
    simp only [exec, Machine.ret] at h
    split at h <;> cases h
    rfl
  | random x mask =>
    simp only [exec, Machine.roll] at h
    split at h <;> cases h
    next hs => simp only [Machine.sourceAfter, hs]; rfl
  | awaitKey x =>
    simp only [exec, Machine.awaitKey, Except.ok.injEq] at h
    subst h
    split <;> rfl
  | _ =>
    cases h
    rfl

theorem display_exec (h : i.exec m = .ok n) : n.display = m.displayAfter i :=
  congrArg Machine.display (exec_frame h)

theorem timersAfter_exec (h : i.exec m = .ok n) : n.timers = m.timersAfter i :=
  congrArg Machine.timers (exec_frame h)

theorem sourceAfter_exec (h : i.exec m = .ok n) : n.source = m.sourceAfter i :=
  congrArg Machine.source (exec_frame h)

/-- No instruction changes the dialect. -/
theorem dialect_exec (h : i.exec m = .ok n) : n.dialect = m.dialect := by
  rw [exec_frame h]

end Instr

/-! ### Registers -/

theorem Registers.forBitwise_eq (r : Registers) (d : Dialect) :
    r.forBitwise d = { r with v := (r.forBitwise d).v } := by
  rw [forBitwise]
  split <;> rfl

/-- A two-register operation writes to general registers only. -/
theorem Registers.operate_eq (r : Registers) (d : Dialect) (f : Alu) (x y : Reg) :
    r.operate d f x y = { r with v := (r.operate d f x y).v } := by
  cases f with
  | or | and | xor =>
    rw [operate, r.forBitwise_eq d]
    rfl
  | _ => rfl

/-- Moving a block moves the index register at most. -/
theorem Machine.afterBlock_eq (m : Machine) (x : Reg) :
    m.afterBlock x = { m.registers with index := (m.afterBlock x).index } := by
  rw [afterBlock]
  split <;> rfl

/-- Loading a block writes general registers, and moves the index register at most. -/
theorem Machine.loadRegs_eq (m : Machine) (x : Reg) :
    m.loadRegs x = { m with
      registers := { m.registers with
        v := (m.loadRegs x).registers.v, index := (m.afterBlock x).index } } := by
  have hpc : (m.afterBlock x).pc = m.registers.pc := by rw [m.afterBlock_eq x]
  have hstack : (m.afterBlock x).stack = m.registers.stack := by rw [m.afterBlock_eq x]
  simp only [loadRegs, hpc, hstack]

theorem Machine.index_loadRegs (m : Machine) (x : Reg) :
    (m.loadRegs x).registers.index = (m.afterBlock x).index :=
  congrArg (fun k => k.registers.index) (m.loadRegs_eq x)

end ChipEight
