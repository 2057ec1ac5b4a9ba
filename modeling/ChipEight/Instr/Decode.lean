import ChipEight.Instr.Basic
import ChipEight.Text.Hex

/-!
# Words and the instructions they stand for

## Main definitions

- `Word.x`, `Word.y`, `Word.n`, `Word.nn`, `Word.nnn`: the operand fields of a word.
- `decode`: the instruction of a word; total, as words without a pattern are `Instr.unknown`.
- `Instr.encode`: the word that an instruction is written as.
- `decodeInt`: the instruction of an integer, refused when it is no 16-bit word.

## Main statements

- `encode_decode`: an instruction keeps every bit of the word it was read from, so the word itself
  need not be stored beside it.
-/

namespace ChipEight

namespace Word

/-- The second digit of a word: a register number. -/
def x (w : UInt16) : Reg :=
  ⟨w.toNat / 256 % 16, Nat.mod_lt _ (by decide)⟩

/-- The third digit of a word: a register number. -/
def y (w : UInt16) : Reg :=
  ⟨w.toNat / 16 % 16, Nat.mod_lt _ (by decide)⟩

/-- The last digit of a word. -/
def n (w : UInt16) : Fin 16 :=
  ⟨w.toNat % 16, Nat.mod_lt _ (by decide)⟩

/-- The low byte of a word. -/
def nn (w : UInt16) : UInt8 :=
  UInt8.ofNat w.toNat

/-- The low twelve bits of a word: an address. -/
def nnn (w : UInt16) : Address :=
  ⟨w.toNat % 4096, Nat.mod_lt _ (by decide)⟩

end Word

/-- The operation that the last digit of an `8XYN` word selects. -/
def Alu.ofDigit? : Nat → Option Alu
  | 0x0 => some .copy
  | 0x1 => some .or
  | 0x2 => some .and
  | 0x3 => some .xor
  | 0x4 => some .add
  | 0x5 => some .sub
  | 0x6 => some .shiftRight
  | 0x7 => some .subFrom
  | 0xE => some .shiftLeft
  | _ => none

/-- The last digit of the `8XYN` words of an operation. -/
def Alu.digit : Alu → Nat
  | .copy => 0x0
  | .or => 0x1
  | .and => 0x2
  | .xor => 0x3
  | .add => 0x4
  | .sub => 0x5
  | .shiftRight => 0x6
  | .subFrom => 0x7
  | .shiftLeft => 0xE

/-- The instruction that the low byte of an `EXNN` word selects. -/
def keyInstr? (x : Reg) : Nat → Option Instr
  | 0x9E => some (.skipKey x)
  | 0xA1 => some (.skipNoKey x)
  | _ => none

/-- The instruction that the low byte of an `FXNN` word selects. -/
def miscInstr? (x : Reg) : Nat → Option Instr
  | 0x07 => some (.readDelay x)
  | 0x0A => some (.awaitKey x)
  | 0x15 => some (.setDelay x)
  | 0x18 => some (.setSound x)
  | 0x1E => some (.addIndex x)
  | 0x29 => some (.glyph x)
  | 0x33 => some (.decimal x)
  | 0x55 => some (.storeRegs x)
  | 0x65 => some (.loadRegs x)
  | _ => none

/-- The instruction of a word. The first digit selects the family; within some families the last
digit or the low byte selects the instruction. -/
def decode (w : UInt16) : Instr :=
  match w.toNat / 4096 with
  | 0x0 => if w = 0x00E0 then .clear else if w = 0x00EE then .ret else .unknown w
  | 0x1 => .jump (Word.nnn w)
  | 0x2 => .call (Word.nnn w)
  | 0x3 => .skipEqImm (Word.x w) (Word.nn w)
  | 0x4 => .skipNeImm (Word.x w) (Word.nn w)
  | 0x5 => if w.toNat % 16 = 0 then .skipEq (Word.x w) (Word.y w) else .unknown w
  | 0x6 => .loadImm (Word.x w) (Word.nn w)
  | 0x7 => .addImm (Word.x w) (Word.nn w)
  | 0x8 =>
    match Alu.ofDigit? (w.toNat % 16) with
    | some f => .alu f (Word.x w) (Word.y w)
    | none => .unknown w
  | 0x9 => if w.toNat % 16 = 0 then .skipNe (Word.x w) (Word.y w) else .unknown w
  | 0xA => .loadIndex (Word.nnn w)
  | 0xB => .jumpOffset (Word.nnn w)
  | 0xC => .random (Word.x w) (Word.nn w)
  | 0xD => .draw (Word.x w) (Word.y w) (Word.n w)
  | 0xE => (keyInstr? (Word.x w) (w.toNat % 256)).getD (.unknown w)
  | 0xF => (miscInstr? (Word.x w) (w.toNat % 256)).getD (.unknown w)
  | _ => .unknown w

/-- The word of a family, a register and a low byte. -/
private def packByte (family : Nat) (x : Reg) (low : Nat) : UInt16 :=
  UInt16.ofNat (family * 4096 + x.val * 256 + low)

/-- The word of a family, two registers and a last digit. -/
private def packDigit (family : Nat) (x y : Reg) (last : Nat) : UInt16 :=
  UInt16.ofNat (family * 4096 + x.val * 256 + y.val * 16 + last)

/-- The word of a family and an address. -/
private def packAddress (family : Nat) (a : Address) : UInt16 :=
  UInt16.ofNat (family * 4096 + a.val)

/-- The word that an instruction is written as. -/
def Instr.encode : Instr → UInt16
  | .unknown w => w
  | .clear => 0x00E0
  | .ret => 0x00EE
  | .jump a => packAddress 0x1 a
  | .call a => packAddress 0x2 a
  | .skipEqImm x b => packByte 0x3 x b.toNat
  | .skipNeImm x b => packByte 0x4 x b.toNat
  | .skipEq x y => packDigit 0x5 x y 0
  | .loadImm x b => packByte 0x6 x b.toNat
  | .addImm x b => packByte 0x7 x b.toNat
  | .alu f x y => packDigit 0x8 x y f.digit
  | .skipNe x y => packDigit 0x9 x y 0
  | .loadIndex a => packAddress 0xA a
  | .jumpOffset a => packAddress 0xB a
  | .random x b => packByte 0xC x b.toNat
  | .draw x y n => packDigit 0xD x y n.val
  | .skipKey x => packByte 0xE x 0x9E
  | .skipNoKey x => packByte 0xE x 0xA1
  | .readDelay x => packByte 0xF x 0x07
  | .awaitKey x => packByte 0xF x 0x0A
  | .setDelay x => packByte 0xF x 0x15
  | .setSound x => packByte 0xF x 0x18
  | .addIndex x => packByte 0xF x 0x1E
  | .glyph x => packByte 0xF x 0x29
  | .decimal x => packByte 0xF x 0x33
  | .storeRegs x => packByte 0xF x 0x55
  | .loadRegs x => packByte 0xF x 0x65

/-! ### An instruction keeps its word -/

private theorem ofNat_eq_of_toNat {w : UInt16} {k : Nat} (h : k = w.toNat) : UInt16.ofNat k = w := by
  subst h
  exact UInt16.ofNat_toNat

private theorem packAddress_nnn {w : UInt16} {family : Nat} (h : w.toNat / 4096 = family) :
    packAddress family (Word.nnn w) = w := by
  apply ofNat_eq_of_toNat
  simp only [Word.nnn]
  omega

private theorem packByte_x {w : UInt16} {family low : Nat} (h : w.toNat / 4096 = family)
    (hl : w.toNat % 256 = low) : packByte family (Word.x w) low = w := by
  apply ofNat_eq_of_toNat
  simp only [Word.x]
  omega

private theorem packDigit_xy {w : UInt16} {family last : Nat} (h : w.toNat / 4096 = family)
    (hl : w.toNat % 16 = last) : packDigit family (Word.x w) (Word.y w) last = w := by
  apply ofNat_eq_of_toNat
  simp only [Word.x, Word.y]
  omega

private theorem toNat_nn (w : UInt16) : w.toNat % 256 = (Word.nn w).toNat := by
  simp [Word.nn]

private theorem digit_of_ofDigit? {d : Nat} {f : Alu} (h : Alu.ofDigit? d = some f) :
    f.digit = d := by
  unfold Alu.ofDigit? at h
  split at h <;> simp_all [Alu.digit] <;> subst h <;> rfl

private theorem encode_keyInstr? {w : UInt16} {i : Instr} (h : w.toNat / 4096 = 0xE)
    (hi : keyInstr? (Word.x w) (w.toNat % 256) = some i) : i.encode = w := by
  unfold keyInstr? at hi
  split at hi <;> simp at hi <;> subst hi <;> exact packByte_x h ‹_›

private theorem encode_miscInstr? {w : UInt16} {i : Instr} (h : w.toNat / 4096 = 0xF)
    (hi : miscInstr? (Word.x w) (w.toNat % 256) = some i) : i.encode = w := by
  unfold miscInstr? at hi
  split at hi <;> simp at hi <;> subst hi <;> exact packByte_x h ‹_›

private theorem encode_getD {o : Option Instr} {w : UInt16} (h : ∀ i, o = some i → i.encode = w) :
    (o.getD (.unknown w)).encode = w := by
  cases o with
  | none => rfl
  | some i => exact h i rfl

/-- Encoding the instruction of a word gives the word back. -/
@[simp] theorem encode_decode (w : UInt16) : (decode w).encode = w := by
  unfold decode
  split
  case h_1 =>
    split
    · simp_all [Instr.encode]
    · split <;> simp_all [Instr.encode]
  case h_2 h | h_3 h | h_11 h | h_12 h =>
    simp only [Instr.encode]
    exact packAddress_nnn h
  case h_4 h | h_5 h | h_7 h | h_8 h | h_13 h =>
    simp only [Instr.encode]
    exact packByte_x h (toNat_nn w)
  case h_6 h | h_10 h =>
    split
    · simp only [Instr.encode]
      exact packDigit_xy h ‹_›
    · rfl
  case h_9 h =>
    split
    · simp only [Instr.encode]
      exact packDigit_xy h (digit_of_ofDigit? ‹_›).symm
    · rfl
  case h_14 h =>
    simp only [Instr.encode]
    exact packDigit_xy h rfl
  case h_15 h => exact encode_getD fun i hi => encode_keyInstr? h hi
  case h_16 h => exact encode_getD fun i hi => encode_miscInstr? h hi
  case h_17 => rfl

/-- Different words stand for different instructions. -/
theorem decode_injective {v w : UInt16} (h : decode v = decode w) : v = w := by
  rw [← encode_decode v, h, encode_decode]

/-! ### Integers that are no words -/

/-- The complaint about an integer that no 16-bit word holds. -/
structure NotAWord where
  value : Int
  deriving DecidableEq, Repr

/-- The text of the complaint. -/
def NotAWord.message (e : NotAWord) : String :=
  "opcode " ++ Text.literalHex e.value ++ " is not a 16-bit value"

/-- The word of an integer between `0` and `0xFFFF`. -/
def Word.ofInt (k : Int) : Except NotAWord UInt16 :=
  if 0 ≤ k ∧ k ≤ 0xFFFF then .ok (UInt16.ofNat k.toNat) else .error ⟨k⟩

/-- The instruction of an integer between `0` and `0xFFFF`. -/
def decodeInt (k : Int) : Except NotAWord Instr :=
  (Word.ofInt k).map decode

end ChipEight
