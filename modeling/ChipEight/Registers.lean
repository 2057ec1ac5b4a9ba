import ChipEight.Instr.Basic
import ChipEight.Text.Hex

/-!
# Registers

Sixteen byte registers, the 16-bit program counter and index register, and the stack of return
addresses. The stack has no limit.

## Main definitions

- `Registers`: the register file; the head of `stack` is the top.
- `Registers.get`, `Registers.set`: one general register.
- `Registers.push`, `Registers.pop?`: the stack.
-/

namespace ChipEight

/-- The register file of the machine. -/
@[ext] structure Registers where
  /-- The general registers `V0` to `VF`. -/
  v : Vector UInt8 16
  /-- The address of the next instruction. -/
  pc : UInt16
  /-- The index register. -/
  index : UInt16
  /-- The return addresses, the most recent one first. -/
  stack : List UInt16

namespace Registers

/-- The registers at power-on: the program counter stands at the program base. -/
def fresh : Registers where
  v := Vector.replicate 16 0
  pc := 0x200
  index := 0
  stack := []

/-- The value of a general register. -/
def get (r : Registers) (x : Reg) : UInt8 :=
  r.v[x]

/-- The registers with one general register replaced. -/
def set (r : Registers) (x : Reg) (b : UInt8) : Registers :=
  { r with v := r.v.set x.val b x.isLt }

/-- The registers with another program counter. -/
def goto (r : Registers) (a : UInt16) : Registers :=
  { r with pc := a }

/-- The registers one instruction further; the program counter wraps at 65536. -/
def advance (r : Registers) : Registers :=
  r.goto (r.pc + 2)

/-- The registers one instruction further if the condition holds. -/
def skipIf (r : Registers) (c : Bool) : Registers :=
  if c then r.advance else r

/-- The registers with another index register. -/
def point (r : Registers) (a : UInt16) : Registers :=
  { r with index := a }

/-- The registers with a return address more. -/
def push (r : Registers) (a : UInt16) : Registers :=
  { r with stack := a :: r.stack }

/-- The most recent return address and the registers without it. -/
def pop? (r : Registers) : Option (UInt16 × Registers) :=
  match r.stack with
  | [] => none
  | a :: rest => some (a, { r with stack := rest })

/-- The one-line account of the registers. -/
def describe (r : Registers) : String :=
  let general := (List.finRange 16).map fun x =>
    "V" ++ Text.hex 1 x.val ++ "=" ++ Text.hex 2 (r.get x).toNat
  "RegisterFile(PC=$" ++ Text.hex 4 r.pc.toNat ++ " I=$" ++ Text.hex 4 r.index.toNat ++
    " SP=" ++ toString r.stack.length ++ " " ++ " ".intercalate general ++ ")"

/-! ### One register at a time -/

theorem get_set (r : Registers) (x y : Reg) (b : UInt8) :
    (r.set x b).get y = if x = y then b else r.get y := by
  simp only [get, set, Fin.getElem_fin, Vector.getElem_set, Fin.val_inj]

/-- Storing what is there already changes nothing. -/
theorem set_get_self (r : Registers) (x : Reg) : r.set x (r.get x) = r := by
  simp only [set, get, Fin.getElem_fin, Vector.set_getElem_self]

@[simp] theorem get_goto (r : Registers) (a : UInt16) (x : Reg) : (r.goto a).get x = r.get x := rfl

@[simp] theorem get_point (r : Registers) (a : UInt16) (x : Reg) :
    (r.point a).get x = r.get x := rfl

@[simp] theorem pop?_push (r : Registers) (a : UInt16) : (r.push a).pop? = some (a, r) := rfl

end Registers

end ChipEight
