import ChipEight.Instr.Decode
import ChipEight.Instr.Op
import Mathlib.Data.List.Forall2

/-!
# Words and patterns

The instructions of a CHIP-8 program are told apart by patterns such as `FX33`: four characters, of
which the hexadecimal digits stand for themselves, and `X`, `Y` and `N` for any digit. Decoding does
not look at patterns. It goes by the first digit of a word, and then, family by family, by its last
digit or its low byte. The table of patterns is written down here once more, and decoding is proved
to follow it: a word has the kind whose pattern it fits, and it is unknown if it fits none.

So what is said about the kind of an instruction can be said about the digits of its word.

## Main definitions

- `Word.Fits`: a word fits a pattern.
- `Op.pattern`: the pattern of a kind.
- `Op.read`: the instruction of a kind, with its operands read off a word.
- `Word.Listed`: a word fits some pattern of the table.

## Main results

- `op_decode_eq_iff`: a word has a kind exactly if it fits its pattern.
- `decode_of_fits`: it is then decoded to the instruction of that kind, with the operands that its
  digits give.
- `Word.listed_iff`: the words that fit no pattern are the unknown ones.
- `reads_decode`: a known word fits the pattern of its kind, and the register that its instruction
  names first is its second digit.
-/

namespace ChipEight

namespace Word

/-- The four digits of a word, as numbers. -/
@[simp] def digits (w : UInt16) : List Nat :=
  [w.toNat / 4096, w.toNat / 256 % 16, w.toNat / 16 % 16, w.toNat % 16]

/-- A character of a pattern stands for a digit: `X`, `Y` and `N` for any digit, the hexadecimal
digits for themselves. -/
@[simp] def Stands (c : Char) (d : Nat) : Prop :=
  c ∈ ['X', 'Y', 'N'] ∨ Text.hexAlphabet.idxOf c = d

/-- A word fits a pattern, digit by digit. -/
def Fits (w : UInt16) (pattern : String) : Prop :=
  List.Forall₂ Stands pattern.toList (digits w)

/-- A word fits one of some patterns. -/
def FitsAny (w : UInt16) (patterns : List String) : Prop :=
  ∃ p ∈ patterns, Fits w p

end Word

/-- The pattern of a kind. The empty one, which is that of the unknown kind, fits no word. -/
def Op.pattern : Op → String
  | .unknown => ""
  | .clear => "00E0"
  | .ret => "00EE"
  | .jump => "1NNN"
  | .call => "2NNN"
  | .skipEqImm => "3XNN"
  | .skipNeImm => "4XNN"
  | .skipEq => "5XY0"
  | .loadImm => "6XNN"
  | .addImm => "7XNN"
  | .alu .copy => "8XY0"
  | .alu .or => "8XY1"
  | .alu .and => "8XY2"
  | .alu .xor => "8XY3"
  | .alu .add => "8XY4"
  | .alu .sub => "8XY5"
  | .alu .shiftRight => "8XY6"
  | .alu .subFrom => "8XY7"
  | .alu .shiftLeft => "8XYE"
  | .skipNe => "9XY0"
  | .loadIndex => "ANNN"
  | .jumpOffset => "BNNN"
  | .random => "CXNN"
  | .draw => "DXYN"
  | .skipKey => "EX9E"
  | .skipNoKey => "EXA1"
  | .readDelay => "FX07"
  | .awaitKey => "FX0A"
  | .setDelay => "FX15"
  | .setSound => "FX18"
  | .addIndex => "FX1E"
  | .glyph => "FX29"
  | .decimal => "FX33"
  | .storeRegs => "FX55"
  | .loadRegs => "FX65"

/-- The instruction of a kind, with its operands read off a word. -/
def Op.read (w : UInt16) : Op → Instr
  | .unknown => .unknown w
  | .clear => .clear
  | .ret => .ret
  | .jump => .jump (Word.nnn w)
  | .call => .call (Word.nnn w)
  | .skipEqImm => .skipEqImm (Word.x w) (Word.nn w)
  | .skipNeImm => .skipNeImm (Word.x w) (Word.nn w)
  | .skipEq => .skipEq (Word.x w) (Word.y w)
  | .loadImm => .loadImm (Word.x w) (Word.nn w)
  | .addImm => .addImm (Word.x w) (Word.nn w)
  | .alu f => .alu f (Word.x w) (Word.y w)
  | .skipNe => .skipNe (Word.x w) (Word.y w)
  | .loadIndex => .loadIndex (Word.nnn w)
  | .jumpOffset => .jumpOffset (Word.nnn w)
  | .random => .random (Word.x w) (Word.nn w)
  | .draw => .draw (Word.x w) (Word.y w) (Word.n w)
  | .skipKey => .skipKey (Word.x w)
  | .skipNoKey => .skipNoKey (Word.x w)
  | .readDelay => .readDelay (Word.x w)
  | .awaitKey => .awaitKey (Word.x w)
  | .setDelay => .setDelay (Word.x w)
  | .setSound => .setSound (Word.x w)
  | .addIndex => .addIndex (Word.x w)
  | .glyph => .glyph (Word.x w)
  | .decimal => .decimal (Word.x w)
  | .storeRegs => .storeRegs (Word.x w)
  | .loadRegs => .loadRegs (Word.x w)

/-- A word fits some pattern of the table. -/
def Word.Listed (w : UInt16) : Prop :=
  ∃ k : Op, Word.Fits w k.pattern

theorem Word.not_fits_unknown (w : UInt16) : ¬ Word.Fits w Op.unknown.pattern := by
  simp [Fits, Op.pattern]

/-- The register that an instruction names first. -/
def Instr.register? : Instr → Option Reg
  | .skipEqImm x _ | .skipNeImm x _ | .skipEq x _ | .loadImm x _ | .addImm x _ | .alu _ x _
  | .skipNe x _ | .random x _ | .draw x _ _ | .skipKey x | .skipNoKey x | .readDelay x
  | .awaitKey x | .setDelay x | .setSound x | .addIndex x | .glyph x | .decimal x | .storeRegs x
  | .loadRegs x => some x
  | .unknown _ | .clear | .ret | .jump _ | .call _ | .loadIndex _ | .jumpOffset _ => none

/-- How an instruction is read off a word: the word fits the pattern of its kind, and the register
that it names first is the second digit. -/
structure Word.Reads (w : UInt16) (i : Instr) : Prop where
  fits : Word.Fits w i.op.pattern
  register : ∀ x, i.register? = some x → x = Word.x w

/-! ### Decoding follows the table -/

section

variable {w : UInt16}

/-- An instruction that is known is read off its word. -/
theorem reads_decode (h : (decode w).op ≠ .unknown) : Word.Reads w (decode w) := by
  unfold decode at h ⊢
  split at h
  case h_1 hf =>
    split at h
    next hw =>
      subst hw
      exact ⟨by simp [Instr.op, Op.pattern, Word.Fits, Text.hexAlphabet], by rintro x ⟨⟩⟩
    next =>
      split at h
      next hw =>
        subst hw
        exact ⟨by simp [Instr.op, Op.pattern, Word.Fits, Text.hexAlphabet], by rintro x ⟨⟩⟩
      next => exact absurd rfl h
  case h_6 hf | h_10 hf =>
    split at h
    next hn =>
      rw [if_pos hn]
      refine ⟨?_, by rintro x ⟨⟩; rfl⟩
      simp [Instr.op, Op.pattern, Word.Fits, Text.hexAlphabet, hf, hn]
    next => exact absurd rfl h
  case h_9 hf =>
    cases hd : Alu.ofDigit? (w.toNat % 16) with
    | none =>
      rw [hd] at h
      exact absurd rfl h
    | some f =>
      refine ⟨?_, by rintro x ⟨⟩; rfl⟩
      unfold Alu.ofDigit? at hd
      split at hd <;> cases hd
      all_goals simp [Instr.op, Op.pattern, Word.Fits, Text.hexAlphabet, *]
  case h_15 hf =>
    cases hi : keyInstr? (Word.x w) (w.toNat % 256) with
    | none =>
      rw [hi] at h
      exact absurd rfl h
    | some i =>
      unfold keyInstr? at hi
      split at hi <;> cases hi
      all_goals
        refine ⟨?_, by rintro x ⟨⟩; rfl⟩
        simp [Instr.op, Op.pattern, Word.Fits, Text.hexAlphabet, hf]
        omega
  case h_16 hf =>
    cases hi : miscInstr? (Word.x w) (w.toNat % 256) with
    | none =>
      rw [hi] at h
      exact absurd rfl h
    | some i =>
      unfold miscInstr? at hi
      split at hi <;> cases hi
      all_goals
        refine ⟨?_, by rintro x ⟨⟩; rfl⟩
        simp [Instr.op, Op.pattern, Word.Fits, Text.hexAlphabet, hf]
        omega
  case h_17 => exact absurd rfl h
  all_goals
    refine ⟨?_, by rintro x ⟨⟩ <;> rfl⟩
    simp [Instr.op, Op.pattern, Word.Fits, Text.hexAlphabet, *]

theorem reads_of_decode {i : Instr} (hi : decode w = i) (hk : (i.op != .unknown) = true) :
    Word.Reads w i := by
  subst hi
  exact reads_decode (bne_iff_ne.1 hk)

theorem fitsAny_of_decode {i : Instr} {ps : List String} (hi : decode w = i)
    (hk : (i.op != .unknown) = true) (hp : i.op.pattern ∈ ps) : Word.FitsAny w ps :=
  ⟨_, hp, (reads_of_decode hi hk).fits⟩

/-- The low byte of a word is made up of its last two digits. -/
theorem Word.low_eq (w : UInt16) :
    w.toNat % 256 = 16 * (w.toNat / 16 % 16) + w.toNat % 16 := by
  omega

theorem decode_of_fits_alu {f : Alu} (h : Word.Fits w (Op.alu f).pattern) :
    decode w = .alu f (Word.x w) (Word.y w) := by
  cases f
  all_goals
    simp [Op.pattern, Word.Fits, Text.hexAlphabet] at h
    simp [decode, ← h.1, ← h.2, Alu.ofDigit?]

theorem decode_of_fits_addImm (h : Word.Fits w Op.addImm.pattern) :
    decode w = .addImm (Word.x w) (Word.nn w) := by
  simp [Op.pattern, Word.Fits, Text.hexAlphabet] at h
  simp [decode, ← h]

/-- A word that fits the pattern of a kind is decoded to an instruction of that kind. -/
theorem op_decode_of_fits {k : Op} (h : Word.Fits w k.pattern) : (decode w).op = k := by
  cases k with
  | unknown => exact absurd h (Word.not_fits_unknown w)
  | clear | ret =>
    simp [Op.pattern, Word.Fits, Text.hexAlphabet] at h
    have hw : w = UInt16.ofNat (16 * 14 + w.toNat % 16) := UInt16.toNat_inj.1 (by simp; omega)
    rw [hw, ← h.2.2.2]
    rfl
  | alu f => rw [decode_of_fits_alu h, Instr.op]
  | addImm => rw [decode_of_fits_addImm h, Instr.op]
  | skipEq | skipNe =>
    simp [Op.pattern, Word.Fits, Text.hexAlphabet] at h
    simp [decode, ← h.1, ← h.2, Instr.op]
  | skipKey | skipNoKey =>
    simp [Op.pattern, Word.Fits, Text.hexAlphabet] at h
    simp [decode, ← h.1, Word.low_eq w, ← h.2.1, ← h.2.2, keyInstr?, Instr.op]
  | readDelay | awaitKey | setDelay | setSound | addIndex | glyph | decimal | storeRegs | loadRegs =>
    simp [Op.pattern, Word.Fits, Text.hexAlphabet] at h
    simp [decode, ← h.1, Word.low_eq w, ← h.2.1, ← h.2.2, miscInstr?, Instr.op]
  | _ =>
    simp [Op.pattern, Word.Fits, Text.hexAlphabet] at h
    simp [decode, ← h, Instr.op]

/-- Decoding reads the operands of every kind off the same places of a word. -/
theorem decode_eq_read (w : UInt16) : decode w = (decode w).op.read w := by
  unfold decode
  split
  case h_1 =>
    split
    · rfl
    · split <;> rfl
  case h_6 | h_10 => split <;> rfl
  case h_9 => split <;> rfl
  case h_15 =>
    unfold keyInstr?
    split <;> rfl
  case h_16 =>
    unfold miscInstr?
    split <;> rfl
  all_goals rfl

/-- A word that fits the pattern of a kind is decoded to the instruction of that kind. -/
theorem decode_of_fits {k : Op} (h : Word.Fits w k.pattern) : decode w = k.read w := by
  have hread := decode_eq_read w
  rwa [op_decode_of_fits h] at hread

/-- **Decoding follows the table of patterns.** A word has a kind exactly if it fits its pattern. -/
theorem op_decode_eq_iff {k : Op} (hk : k ≠ .unknown) :
    (decode w).op = k ↔ Word.Fits w k.pattern := by
  constructor
  · rintro rfl
    exact (reads_decode hk).fits
  · exact op_decode_of_fits

theorem fitsAny_iff (ks : List Op) (hks : .unknown ∉ ks) :
    Word.FitsAny w (ks.map Op.pattern) ↔ (decode w).op ∈ ks := by
  have hk : ∀ k ∈ ks, Word.Fits w k.pattern ↔ (decode w).op = k := by
    intro k hmem
    rw [op_decode_eq_iff]
    rintro rfl
    exact hks hmem
  simp only [Word.FitsAny, List.mem_map]
  constructor
  · rintro ⟨-, ⟨k, hmem, rfl⟩, hfits⟩
    rwa [(hk k hmem).1 hfits]
  · intro hmem
    exact ⟨_, ⟨_, hmem, rfl⟩, (hk _ hmem).2 rfl⟩

/-- The words that fit no pattern are the unknown ones. -/
theorem Word.listed_iff : Word.Listed w ↔ (decode w).op ≠ .unknown := by
  constructor
  · rintro ⟨k, hk⟩ hunknown
    obtain rfl : .unknown = k := hunknown.symm.trans (op_decode_of_fits hk)
    exact Word.not_fits_unknown w hk
  · exact fun h => ⟨_, (reads_decode h).fits⟩

/-- A word without a pattern is kept whole. -/
theorem decode_of_not_listed (h : ¬ Word.Listed w) : decode w = .unknown w := by
  have hop : (decode w).op = .unknown := not_not.1 (mt Word.listed_iff.2 h)
  have hw := encode_decode w
  cases hi : decode w with
  | unknown v =>
    rw [hi] at hw
    exact congrArg _ hw
  | _ =>
    rw [hi] at hop
    cases hop

end

end ChipEight
