/-!
# Instructions

A CHIP-8 program is a sequence of 16-bit words. Every word stands for one instruction; the words
that match no pattern stand for `Instr.unknown`, which the machine skips.

## Main definitions

- `Reg`, `Address`: the operands, typed by the bits that a word spends on them.
- `Alu`: the nine two-register operations of the `8XYN` family.
- `Instr`: an instruction with exactly the operands that its pattern leaves free.
-/

namespace ChipEight

/-- One of the sixteen general registers `V0` to `VF`. -/
abbrev Reg := Fin 16

/-- A 12-bit address, as an instruction carries it. -/
abbrev Address := Fin 4096

/-- The register that doubles as carry, borrow and collision flag. -/
abbrev flagReg : Reg := 15

/-- The register that a computed jump adds in most dialects. -/
abbrev baseReg : Reg := 0

/-- The two-register operations: all of them read `VX` and `VY` and store into `VX`. -/
inductive Alu where
  | copy
  | or
  | and
  | xor
  | add
  | sub
  | shiftRight
  | subFrom
  | shiftLeft
  deriving DecidableEq, Repr

/-- An instruction together with its operands. -/
inductive Instr where
  /-- A word that matches no pattern. -/
  | unknown (word : UInt16)
  /-- `00E0`: turn every pixel off. -/
  | clear
  /-- `00EE`: return to the address on top of the stack. -/
  | ret
  /-- `1NNN`: go to `NNN`. -/
  | jump (target : Address)
  /-- `2NNN`: push the address of the next instruction and go to `NNN`. -/
  | call (target : Address)
  /-- `3XNN`: skip the next instruction if `VX` is `NN`. -/
  | skipEqImm (x : Reg) (imm : UInt8)
  /-- `4XNN`: skip the next instruction unless `VX` is `NN`. -/
  | skipNeImm (x : Reg) (imm : UInt8)
  /-- `5XY0`: skip the next instruction if `VX` is `VY`. -/
  | skipEq (x y : Reg)
  /-- `6XNN`: put `NN` into `VX`. -/
  | loadImm (x : Reg) (imm : UInt8)
  /-- `7XNN`: add `NN` to `VX`, leaving the flag alone. -/
  | addImm (x : Reg) (imm : UInt8)
  /-- `8XYN`: one of the two-register operations. -/
  | alu (f : Alu) (x y : Reg)
  /-- `9XY0`: skip the next instruction unless `VX` is `VY`. -/
  | skipNe (x y : Reg)
  /-- `ANNN`: put `NNN` into the index register. -/
  | loadIndex (target : Address)
  /-- `BNNN`: go to `NNN` plus a register. -/
  | jumpOffset (target : Address)
  /-- `CXNN`: put a random byte masked by `NN` into `VX`. -/
  | random (x : Reg) (mask : UInt8)
  /-- `DXYN`: draw an `N`-row sprite at (`VX`, `VY`). -/
  | draw (x y : Reg) (rows : Fin 16)
  /-- `EX9E`: skip the next instruction if the key in `VX` is held. -/
  | skipKey (x : Reg)
  /-- `EXA1`: skip the next instruction unless the key in `VX` is held. -/
  | skipNoKey (x : Reg)
  /-- `FX07`: read the delay timer into `VX`. -/
  | readDelay (x : Reg)
  /-- `FX0A`: wait until a key is released and put it into `VX`. -/
  | awaitKey (x : Reg)
  /-- `FX15`: set the delay timer from `VX`. -/
  | setDelay (x : Reg)
  /-- `FX18`: set the sound timer from `VX`. -/
  | setSound (x : Reg)
  /-- `FX1E`: add `VX` to the index register. -/
  | addIndex (x : Reg)
  /-- `FX29`: point the index register at the glyph of the low digit of `VX`. -/
  | glyph (x : Reg)
  /-- `FX33`: write the three decimal digits of `VX` to memory. -/
  | decimal (x : Reg)
  /-- `FX55`: write `V0` to `VX` to memory. -/
  | storeRegs (x : Reg)
  /-- `FX65`: read `V0` to `VX` from memory. -/
  | loadRegs (x : Reg)
  deriving DecidableEq, Repr

end ChipEight
