import ChipEight.Instr.Basic

/-!
# Kinds of instructions

Each instruction is of one of thirty-five kinds. The kinds are numbered in the order of their
declaration, and reports name them.

## Main definitions

- `Op`: the kinds.
- `Op.name`, `Op.code`: the name and the number under which a kind is reported.
- `Instr.op`: the kind of an instruction.
-/

namespace ChipEight

/-- The kind of an instruction: its pattern without the operands. -/
inductive Op where
  | unknown
  | clear
  | ret
  | jump
  | call
  | skipEqImm
  | skipNeImm
  | skipEq
  | loadImm
  | addImm
  | alu (f : Alu)
  | skipNe
  | loadIndex
  | jumpOffset
  | random
  | draw
  | skipKey
  | skipNoKey
  | readDelay
  | awaitKey
  | setDelay
  | setSound
  | addIndex
  | glyph
  | decimal
  | storeRegs
  | loadRegs
  deriving DecidableEq, Repr

namespace Op

/-- All kinds in the order of their numbers. -/
def all : List Op :=
  [.unknown, .clear, .ret, .jump, .call, .skipEqImm, .skipNeImm, .skipEq, .loadImm, .addImm,
    .alu .copy, .alu .or, .alu .and, .alu .xor, .alu .add, .alu .sub, .alu .shiftRight,
    .alu .subFrom, .alu .shiftLeft, .skipNe, .loadIndex, .jumpOffset, .random, .draw, .skipKey,
    .skipNoKey, .readDelay, .awaitKey, .setDelay, .setSound, .addIndex, .glyph, .decimal,
    .storeRegs, .loadRegs]

/-- The number of a kind: its place in `all`. -/
def code (op : Op) : Nat :=
  all.idxOf op

/-- The name of a kind. -/
def name : Op → String
  | .unknown => "UNKNOWN"
  | .clear => "CLS"
  | .ret => "RET"
  | .jump => "JP"
  | .call => "CALL"
  | .skipEqImm => "SE_IMM"
  | .skipNeImm => "SNE_IMM"
  | .skipEq => "SE_REG"
  | .loadImm => "LD_IMM"
  | .addImm => "ADD_IMM"
  | .alu .copy => "LD_REG"
  | .alu .or => "OR"
  | .alu .and => "AND"
  | .alu .xor => "XOR"
  | .alu .add => "ADD_REG"
  | .alu .sub => "SUB"
  | .alu .shiftRight => "SHR"
  | .alu .subFrom => "SUBN"
  | .alu .shiftLeft => "SHL"
  | .skipNe => "SNE_REG"
  | .loadIndex => "LD_I"
  | .jumpOffset => "JP_V0"
  | .random => "RND"
  | .draw => "DRW"
  | .skipKey => "SKP"
  | .skipNoKey => "SKNP"
  | .readDelay => "LD_VX_DT"
  | .awaitKey => "LD_VX_K"
  | .setDelay => "LD_DT_VX"
  | .setSound => "LD_ST_VX"
  | .addIndex => "ADD_I_VX"
  | .glyph => "LD_F_VX"
  | .decimal => "LD_B_VX"
  | .storeRegs => "LD_I_VX"
  | .loadRegs => "LD_VX_I"

end Op

/-- The kind of an instruction. -/
def Instr.op : Instr → Op
  | .unknown _ => .unknown
  | .clear => .clear
  | .ret => .ret
  | .jump _ => .jump
  | .call _ => .call
  | .skipEqImm _ _ => .skipEqImm
  | .skipNeImm _ _ => .skipNeImm
  | .skipEq _ _ => .skipEq
  | .loadImm _ _ => .loadImm
  | .addImm _ _ => .addImm
  | .alu f _ _ => .alu f
  | .skipNe _ _ => .skipNe
  | .loadIndex _ => .loadIndex
  | .jumpOffset _ => .jumpOffset
  | .random _ _ => .random
  | .draw _ _ _ => .draw
  | .skipKey _ => .skipKey
  | .skipNoKey _ => .skipNoKey
  | .readDelay _ => .readDelay
  | .awaitKey _ => .awaitKey
  | .setDelay _ => .setDelay
  | .setSound _ => .setSound
  | .addIndex _ => .addIndex
  | .glyph _ => .glyph
  | .decimal _ => .decimal
  | .storeRegs _ => .storeRegs
  | .loadRegs _ => .loadRegs

end ChipEight
