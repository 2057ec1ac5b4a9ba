import ChipEight.Dialect.Basic
import ChipEight.Registers

/-!
# Two-register arithmetic

The `8XYN` operations read `VX` and `VY`, store a result into `VX`, and some of them a flag into
`VF`. The flag is stored after the result, so that it survives where `VF` is the destination.

## Main definitions

- `Registers.setWithFlag`: storing a result and then a flag.
- `Registers.operate`: the operations.
-/

namespace ChipEight

namespace Registers

/-- The registers with a result stored and then a flag. -/
def setWithFlag (r : Registers) (x : Reg) (b : UInt8) (flag : Bool) : Registers :=
  (r.set x b).set flagReg (if flag then 1 else 0)

/-- The registers as the bitwise operations find them: a dialect may zero the flag first. -/
def forBitwise (d : Dialect) (r : Registers) : Registers :=
  if d.vfReset then r.set flagReg 0 else r

/-- The byte that a shift moves: `VY`, or `VX` itself in some dialects. -/
def shiftSource (d : Dialect) (r : Registers) (x y : Reg) : UInt8 :=
  if d.shifting then r.get x else r.get y

/-- The registers after a two-register operation. -/
def operate (d : Dialect) (f : Alu) (x y : Reg) (r : Registers) : Registers :=
  match f with
  | .copy => r.set x (r.get y)
  | .or =>
    let s := r.forBitwise d
    s.set x (s.get x ||| s.get y)
  | .and =>
    let s := r.forBitwise d
    s.set x (s.get x &&& s.get y)
  | .xor =>
    let s := r.forBitwise d
    s.set x (s.get x ^^^ s.get y)
  | .add => r.setWithFlag x (r.get x + r.get y) (decide (256 ≤ (r.get x).toNat + (r.get y).toNat))
  | .sub => r.setWithFlag x (r.get x - r.get y) (decide (r.get y ≤ r.get x))
  | .subFrom => r.setWithFlag x (r.get y - r.get x) (decide (r.get x ≤ r.get y))
  | .shiftRight =>
    let b := r.shiftSource d x y
    r.setWithFlag x (b >>> 1) (decide (b.toNat % 2 = 1))
  | .shiftLeft =>
    let b := r.shiftSource d x y
    r.setWithFlag x (b <<< 1) (decide (128 ≤ b.toNat))

end Registers

end ChipEight
