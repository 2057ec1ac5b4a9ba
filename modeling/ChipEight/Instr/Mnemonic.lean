import ChipEight.Instr.Decode

/-!
# Assembly text

Each instruction has one line of assembly text. It prints every operand in a field of fixed width,
so the text determines the instruction.

## Main definitions

- `Instr.mnemonic`: the text of an instruction.
-/

namespace ChipEight

namespace Instr

open Text

/-- The text of a register operand, as in `VA`. -/
def regText (x : Reg) : String :=
  "V" ++ String.ofList (hexField 1 x.val)

/-- The text of a byte operand: two digits. -/
def byteText (b : UInt8) : String :=
  String.ofList (hexField 2 b.toNat)

/-- The text of an address operand: three digits. -/
def addressText (a : Address) : String :=
  String.ofList (hexField 3 a.val)

/-- The text of a whole word: four digits. -/
def wordText (w : UInt16) : String :=
  String.ofList (hexField 4 w.toNat)

/-- The text of two register operands. -/
def pairText (x y : Reg) : String :=
  regText x ++ ", " ++ regText y

/-- The text of a register and a byte operand. -/
def immText (x : Reg) (b : UInt8) : String :=
  regText x ++ ", " ++ byteText b

/-- The verb of a two-register operation. -/
def aluVerb : Alu → String
  | .copy => "LD"
  | .or => "OR"
  | .and => "AND"
  | .xor => "XOR"
  | .add => "ADD"
  | .sub => "SUB"
  | .shiftRight => "SHR"
  | .subFrom => "SUBN"
  | .shiftLeft => "SHL"

/-- The assembly text of an instruction. -/
def mnemonic : Instr → String
  | .unknown w => "??? " ++ wordText w
  | .clear => "CLS"
  | .ret => "RET"
  | .jump a => "JP " ++ addressText a
  | .call a => "CALL " ++ addressText a
  | .skipEqImm x b => "SE " ++ immText x b
  | .skipNeImm x b => "SNE " ++ immText x b
  | .skipEq x y => "SE " ++ pairText x y
  | .loadImm x b => "LD " ++ immText x b
  | .addImm x b => "ADD " ++ immText x b
  | .alu f x y => aluVerb f ++ " " ++ pairText x y
  | .skipNe x y => "SNE " ++ pairText x y
  | .loadIndex a => "LD I, " ++ addressText a
  | .jumpOffset a => "JP V0, " ++ addressText a
  | .random x b => "RND " ++ immText x b
  | .draw x y n => "DRW " ++ pairText x y ++ ", " ++ String.ofList (hexField 1 n.val)
  | .skipKey x => "SKP " ++ regText x
  | .skipNoKey x => "SKNP " ++ regText x
  | .readDelay x => "LD " ++ regText x ++ ", DT"
  | .awaitKey x => "LD " ++ regText x ++ ", K"
  | .setDelay x => "LD DT, " ++ regText x
  | .setSound x => "LD ST, " ++ regText x
  | .addIndex x => "ADD I, " ++ regText x
  | .glyph x => "LD F, " ++ regText x
  | .decimal x => "LD B, " ++ regText x
  | .storeRegs x => "LD [I], " ++ regText x
  | .loadRegs x => "LD " ++ regText x ++ ", [I]"

end Instr

end ChipEight
