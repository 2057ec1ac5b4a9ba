import ChipEight.Instr.Decode
import ChipEight.Machine.Arithmetic
import ChipEight.Machine.Basic
import ChipEight.Machine.Sprite

/-!
# Executing an instruction

An instruction is executed on a machine whose program counter stands behind it already. Every
instruction succeeds on every machine, but for a return without a return address, and for a random
byte that the source does not yield.

## Main definitions

- `Machine.draw`: drawing a sprite.
- `Instr.exec`: the machine after an instruction.
-/

namespace ChipEight

namespace Machine

/-- The bytes of a sprite of `n` rows, from the index register on. -/
def spriteRows (m : Machine) (n : Nat) : List UInt8 :=
  m.memory.readBlock m.registers.index.toNat n

/-- The cells that a sprite falls on; the position is taken from two registers, each modulo the size
of the screen. -/
def spriteCells (m : Machine) (x y : Reg) (n : Nat) : List Cell :=
  Sprite.cells m.dialect.clipping ((m.registers.get x).toNat % 64) ((m.registers.get y).toNat % 32)
    (m.spriteRows n)

/-- The machine after drawing a sprite; the flag tells whether a lit pixel went off. -/
def draw (m : Machine) (x y : Reg) (n : Nat) : Machine :=
  let drawn := m.display.flipAll (m.spriteCells x y n)
  { m with
    display := drawn.1
    registers := m.registers.set flagReg (if drawn.2 then 1 else 0) }

/-- The register that a computed jump adds: `V0`, or in some dialects the one that the first digit
of the address names. -/
def jumpRegister (m : Machine) (a : Address) : Reg :=
  if m.dialect.jumping then ⟨a.val / 256, by omega⟩ else baseReg

/-- The registers after a block of `x + 1` bytes was moved: some dialects move the index register
behind the block. -/
def afterBlock (m : Machine) (x : Reg) : Registers :=
  if m.dialect.memory then m.registers.point (m.registers.index + UInt16.ofNat (x.val + 1))
  else m.registers

/-- The machine after `V0` to `VX` were written to memory. -/
def storeRegs (m : Machine) (x : Reg) : Machine :=
  { m with
    memory := m.memory.writeBlock m.registers.index.toNat (m.registers.v.toList.take (x.val + 1))
    registers := m.afterBlock x }

/-- The machine after `V0` to `VX` were read from memory. -/
def loadRegs (m : Machine) (x : Reg) : Machine :=
  let v := Vector.ofFn fun (k : Fin 16) =>
    if k ≤ x then m.memory.read (m.registers.index.toNat + k.val) else m.registers.get k
  { m with registers := { m.afterBlock x with v := v } }

/-- The machine after the three decimal digits of a byte were written to memory. -/
def storeDecimal (m : Machine) (b : UInt8) : Machine :=
  { m with
    memory := m.memory.writeBlock m.registers.index.toNat [b / 100, b / 10 % 10, b % 10] }

/-- The machine after a random byte was stored. -/
def roll (m : Machine) (x : Reg) (mask : UInt8) : Except Fault Machine :=
  match m.source.next with
  | (.ok b, source) => .ok { m with source := source, registers := m.registers.set x (b &&& mask) }
  | (.error e, _) => .error (.operand e)

/-- The machine after an instruction that failed. A draw that fails is made all the same. -/
def spent (m : Machine) : Instr → Machine
  | .random _ _ => { m with source := m.source.next.2 }
  | _ => m

/-- The machine after waiting for a key: the released key is stored, or the program counter goes
back so that the same instruction is fetched again. -/
def awaitKey (m : Machine) (x : Reg) : Machine :=
  match m.keypad.released? with
  | some k => m.onRegisters fun r => r.set x (UInt8.ofNat k.val)
  | none => m.onRegisters fun r => r.goto (r.pc - 2)

/-- The machine after a return. -/
def ret (m : Machine) : Except Fault Machine :=
  match m.registers.pop? with
  | some (a, r) => .ok { m with registers := r.goto a }
  | none => .error (.stackUnderflow m.registers.pc.toNat)

end Machine

/-- The machine after an instruction. -/
def Instr.exec (m : Machine) : Instr → Except Fault Machine
  | .unknown _ => .ok m
  | .clear => .ok { m with display := m.display.clear }
  | .ret => m.ret
  | .jump a => .ok (m.onRegisters fun r => r.goto (UInt16.ofNat a.val))
  | .call a => .ok (m.onRegisters fun r => (r.push r.pc).goto (UInt16.ofNat a.val))
  | .skipEqImm x b => .ok (m.onRegisters fun r => r.skipIf (r.get x == b))
  | .skipNeImm x b => .ok (m.onRegisters fun r => r.skipIf (r.get x != b))
  | .skipEq x y => .ok (m.onRegisters fun r => r.skipIf (r.get x == r.get y))
  | .loadImm x b => .ok (m.onRegisters fun r => r.set x b)
  | .addImm x b => .ok (m.onRegisters fun r => r.set x (r.get x + b))
  | .alu f x y => .ok (m.onRegisters fun r => r.operate m.dialect f x y)
  | .skipNe x y => .ok (m.onRegisters fun r => r.skipIf (r.get x != r.get y))
  | .loadIndex a => .ok (m.onRegisters fun r => r.point (UInt16.ofNat a.val))
  | .jumpOffset a =>
    .ok (m.onRegisters fun r =>
      r.goto (UInt16.ofNat a.val + (r.get (m.jumpRegister a)).toUInt16))
  | .random x mask => m.roll x mask
  | .draw x y n => .ok (m.draw x y n.val)
  | .skipKey x =>
    .ok (m.onRegisters fun r => r.skipIf (m.keypad.isPressed (r.get x).toNat))
  | .skipNoKey x =>
    .ok (m.onRegisters fun r => r.skipIf (!m.keypad.isPressed (r.get x).toNat))
  | .readDelay x => .ok (m.onRegisters fun r => r.set x (UInt8.ofInt m.timers.delay))
  | .awaitKey x => .ok (m.awaitKey x)
  | .setDelay x => .ok { m with timers := { m.timers with delay := (m.registers.get x).toNat } }
  | .setSound x => .ok { m with timers := { m.timers with sound := (m.registers.get x).toNat } }
  | .addIndex x => .ok (m.onRegisters fun r => r.point (r.index + (r.get x).toUInt16))
  | .glyph x =>
    .ok (m.onRegisters fun r => r.point (UInt16.ofNat (Memory.glyphAddress (r.get x).toNat)))
  | .decimal x => .ok (m.storeDecimal (m.registers.get x))
  | .storeRegs x => .ok (m.storeRegs x)
  | .loadRegs x => .ok (m.loadRegs x)

end ChipEight
