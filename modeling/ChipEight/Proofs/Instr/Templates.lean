import ChipEight.Listing
import ChipEight.Proofs.Instr.Patterns
import ChipEight.Proofs.Text.Digits
import Mathlib.Tactic.IntervalCases

/-!
# Assembly text determines the program

The text of an instruction is printed by a template such as `LD Vb, cd`: four letters stand for the
four digits of the word, and all other characters for themselves. So two texts are compared
character by character, and whether two templates can be printed alike at all is a matter of the
templates.

No two kinds have templates that can be. And of the four digits of a word, each one that the pattern
of its kind leaves free is printed by the template. Hence the text tells the kind and then the word.

## Main definitions

- `Op.template`: the template of a kind.
- `Template.print`: what a character of a template is printed as.
- `Template.Meets`: two characters may be printed alike.

## Main results

- `mnemonic_decode`: the text of a word is printed by the template of its kind.
- `Op.eq_of_meets`: different kinds have templates that cannot be printed alike.
- `Op.shown_or_fixed`: what the pattern leaves free the template shows.
- `disassembly_lossless`: the texts determine the words, and those the bytes.
-/

namespace ChipEight

/-- The template of a kind. The letters `a` to `d` stand for the digits of the word, the other
characters for themselves. -/
def Op.template : Op → String
  | .unknown => "??? abcd"
  | .clear => "CLS"
  | .ret => "RET"
  | .jump => "JP bcd"
  | .call => "CALL bcd"
  | .skipEqImm => "SE Vb, cd"
  | .skipNeImm => "SNE Vb, cd"
  | .skipEq => "SE Vb, Vc"
  | .loadImm => "LD Vb, cd"
  | .addImm => "ADD Vb, cd"
  | .alu .copy => "LD Vb, Vc"
  | .alu .or => "OR Vb, Vc"
  | .alu .and => "AND Vb, Vc"
  | .alu .xor => "XOR Vb, Vc"
  | .alu .add => "ADD Vb, Vc"
  | .alu .sub => "SUB Vb, Vc"
  | .alu .shiftRight => "SHR Vb, Vc"
  | .alu .subFrom => "SUBN Vb, Vc"
  | .alu .shiftLeft => "SHL Vb, Vc"
  | .skipNe => "SNE Vb, Vc"
  | .loadIndex => "LD I, bcd"
  | .jumpOffset => "JP V0, bcd"
  | .random => "RND Vb, cd"
  | .draw => "DRW Vb, Vc, d"
  | .skipKey => "SKP Vb"
  | .skipNoKey => "SKNP Vb"
  | .readDelay => "LD Vb, DT"
  | .awaitKey => "LD Vb, K"
  | .setDelay => "LD DT, Vb"
  | .setSound => "LD ST, Vb"
  | .addIndex => "ADD I, Vb"
  | .glyph => "LD F, Vb"
  | .decimal => "LD B, Vb"
  | .storeRegs => "LD [I], Vb"
  | .loadRegs => "LD Vb, [I]"

/-! ### Digits of a word -/

namespace Word

variable {v w : UInt16}

/-- A digit of a word as it is printed. -/
def shown (w : UInt16) (i : Nat) : Char :=
  Text.hexDigit ((digits w).getD i 0)

/-- A digit that is printed can be read back. -/
theorem getD_digits_of_shown {i : Nat} (h : shown v i = shown w i) :
    (digits v).getD i 0 = (digits w).getD i 0 := by
  have hlt : ∀ u : UInt16, (digits u).getD i 0 < 16 := by
    intro u
    have hu := u.toNat_lt
    match i with
    | 0 | 1 | 2 | 3 =>
      simp only [digits, List.getD_cons_zero, List.getD_cons_succ]
      omega
    | _ + 4 => exact Nat.zero_lt_succ 15
  have hmod := Text.hexDigit_inj.1 h
  rwa [Nat.mod_eq_of_lt (hlt v), Nat.mod_eq_of_lt (hlt w)] at hmod

/-- A word is told by its four digits. -/
theorem eq_of_digits (h : ∀ i < 4, (digits v).getD i 0 = (digits w).getD i 0) : v = w := by
  have h₀ := h 0 (by decide)
  have h₁ := h 1 (by decide)
  have h₂ := h 2 (by decide)
  have h₃ := h 3 (by decide)
  simp only [digits, List.getD_cons_zero, List.getD_cons_succ] at h₀ h₁ h₂ h₃
  refine UInt16.toNat_inj.1 ?_
  omega

/-- A word has the digits that a pattern it fits has. -/
theorem Fits.getD_digits {pattern : String} {i : Nat} {c : Char} (h : Fits w pattern)
    (hc : pattern.toList[i]? = some c) (hfixed : c ∉ ['X', 'Y', 'N']) :
    (digits w).getD i 0 = Text.hexAlphabet.idxOf c := by
  obtain ⟨hlength, hget⟩ := List.forall₂_iff_get.1 h
  obtain ⟨hi, rfl⟩ := List.getElem?_eq_some_iff.1 hc
  rw [List.getD_eq_getElem _ _ (hlength ▸ hi)]
  exact ((hget i hi (hlength ▸ hi)).resolve_left hfixed).symm

end Word

/-! ### Templates -/

namespace Template

/-- The place of the digit that a letter stands for. -/
def place? : Char → Option Nat
  | 'a' => some 0
  | 'b' => some 1
  | 'c' => some 2
  | 'd' => some 3
  | _ => none

/-- What a character of a template is printed as for a word. -/
def print (w : UInt16) (c : Char) : Char :=
  (place? c).elim c (Word.shown w)

/-- The characters that a character of a template may be printed as. -/
def outcomes (c : Char) : List Char :=
  if (place? c).isSome then Text.hexAlphabet else [c]

/-- Two characters of templates may be printed alike. -/
def Meets (c d : Char) : Prop :=
  (outcomes c).any (outcomes d).contains = true

instance : DecidableRel Meets := fun c d =>
  inferInstanceAs (Decidable ((outcomes c).any (outcomes d).contains = true))

theorem meets_of_mem {c d e : Char} (hc : e ∈ outcomes c) (hd : e ∈ outcomes d) : Meets c d :=
  List.any_eq_true.2 ⟨e, hc, List.contains_iff_mem.2 hd⟩

theorem print_mem_outcomes (w : UInt16) (c : Char) : print w c ∈ outcomes c := by
  rw [print, outcomes]
  cases hplace : place? c with
  | none => simp
  | some i =>
    simp only [Option.elim, Option.isSome, if_true, Word.shown]
    rw [Text.hexDigit_eq_get]
    exact List.get_mem ..

/-- Templates that are printed alike have characters that may be printed alike. -/
theorem forall₂_meets {v w : UInt16} :
    ∀ {s t : List Char}, s.map (print v) = t.map (print w) → List.Forall₂ Meets s t
  | [], [], _ => .nil
  | c :: s, d :: t, h => by
    rw [List.map_cons, List.map_cons, List.cons.injEq] at h
    refine .cons (meets_of_mem (print_mem_outcomes v c) ?_) (forall₂_meets h.2)
    rw [h.1]
    exact print_mem_outcomes w d

/-- A letter of a template that is printed alike for two words stands for the same digit of both. -/
theorem getD_digits_of_map_print {v w : UInt16} {s : List Char} {c : Char} {i : Nat} (hc : c ∈ s)
    (hplace : place? c = some i) (h : s.map (print v) = s.map (print w)) :
    (Word.digits v).getD i 0 = (Word.digits w).getD i 0 := by
  have hprint := List.map_inj_left.1 h c hc
  rw [print, print, hplace] at hprint
  exact Word.getD_digits_of_shown hprint

end Template

namespace Op

theorem mem_all (k : Op) : k ∈ all := by
  cases k with
  | alu f => cases f <;> decide
  | _ => decide

/-- **No two kinds are printed alike**, whatever their operands are. -/
theorem eq_of_meets {k l : Op}
    (h : List.Forall₂ Template.Meets k.template.toList l.template.toList) : k = l := by
  have hall : ∀ k ∈ all, ∀ l ∈ all,
      List.Forall₂ Template.Meets k.template.toList l.template.toList → k = l := by
    decide +kernel
  exact hall k k.mem_all l l.mem_all h

/-- **What the pattern of a kind leaves free its template shows.** -/
theorem shown_or_fixed (k : Op) {i : Nat} (hi : i < 4) :
    (∃ c ∈ k.template.toList, Template.place? c = some i) ∨
      ∃ c, k.pattern.toList[i]? = some c ∧ c ∉ ['X', 'Y', 'N'] := by
  have hall : ∀ k ∈ all, ∀ i < 4,
      (k.template.toList.any (Template.place? · == some i) ||
        k.pattern.toList[i]?.any fun c => not (['X', 'Y', 'N'].contains c)) = true := by
    decide +kernel
  rcases Bool.or_eq_true_iff.1 (hall k k.mem_all i hi) with hshown | hfixed
  · obtain ⟨c, hc, hplace⟩ := List.any_eq_true.1 hshown
    exact .inl ⟨c, hc, beq_iff_eq.1 hplace⟩
  · obtain ⟨c, hc, hno⟩ := (Option.any_eq_true _ _).1 hfixed
    refine .inr ⟨c, hc, fun hmem => ?_⟩
    rw [List.contains_iff_mem.2 hmem] at hno
    cases hno

end Op

/-! ### The text of a word -/

/-- A field of a number that agrees with a word in its last digits shows those digits. -/
theorem Word.hexField_eq_shown (w : UInt16) {k n : Nat} (hk : k ≤ 4)
    (h : n % 16 ^ k = w.toNat % 16 ^ k) :
    Text.hexField k n = ((List.range 4).drop (4 - k)).map (shown w) := by
  have hrange : List.range 4 = [0, 1, 2, 3] := rfl
  rw [Text.hexField_inj.2 h, hrange]
  interval_cases k <;>
    simp only [Nat.sub_zero, Nat.reduceSub, List.drop_zero, List.drop_succ_cons, List.map_cons,
      List.map_nil, Text.hexField, List.nil_append, List.cons_append, List.cons.injEq, and_true,
      shown, digits, Text.hexDigit_inj, List.getD_cons_zero, List.getD_cons_succ] <;>
    omega

namespace Instr

variable (w : UInt16)

theorem toList_regText_x : (regText (Word.x w)).toList = ['V', Word.shown w 1] := by
  simp [regText, Text.hexField, Word.x, Word.shown]

theorem toList_regText_y : (regText (Word.y w)).toList = ['V', Word.shown w 2] := by
  simp [regText, Text.hexField, Word.y, Word.shown]

theorem hexField_n : Text.hexField 1 (Word.n w).val = [Word.shown w 3] :=
  Word.hexField_eq_shown w (by decide) (Nat.mod_mod _ _)

theorem toList_byteText_nn :
    (byteText (Word.nn w)).toList = [Word.shown w 2, Word.shown w 3] := by
  rw [byteText, String.toList_ofList]
  exact Word.hexField_eq_shown w (by decide) (by simp [Word.nn])

theorem toList_addressText_nnn :
    (addressText (Word.nnn w)).toList = [Word.shown w 1, Word.shown w 2, Word.shown w 3] := by
  rw [addressText, String.toList_ofList]
  exact Word.hexField_eq_shown w (by decide) (Nat.mod_mod _ _)

theorem toList_wordText :
    (wordText w).toList =
      [Word.shown w 0, Word.shown w 1, Word.shown w 2, Word.shown w 3] := by
  rw [wordText, String.toList_ofList]
  exact Word.hexField_eq_shown w (by decide) rfl

/-- The text of the instruction of a kind is printed by the template of the kind. -/
theorem toList_mnemonic_read (k : Op) :
    (k.read w).mnemonic.toList = k.template.toList.map (Template.print w) := by
  cases k with
  | alu f =>
    cases f <;>
      simp [Op.read, Op.template, mnemonic, aluVerb, pairText, toList_regText_x,
        toList_regText_y, Template.print, Template.place?]
  | _ =>
    simp [Op.read, Op.template, mnemonic, pairText, immText, toList_regText_x, toList_regText_y,
      hexField_n, toList_byteText_nn, toList_addressText_nnn, toList_wordText, Template.print,
      Template.place?]

end Instr

/-- **The text of a word** is printed by the template of its kind. -/
theorem mnemonic_decode (w : UInt16) :
    (decode w).mnemonic.toList = (decode w).op.template.toList.map (Template.print w) := by
  rw [← Instr.toList_mnemonic_read, ← decode_eq_read]

/-- Words of the same kind with the same text are equal: the digits that the text does not show are
those of the pattern. -/
theorem eq_of_op_of_print {v w : UInt16} (hop : (decode v).op = (decode w).op)
    (h : (decode w).op.template.toList.map (Template.print v) =
      (decode w).op.template.toList.map (Template.print w)) : v = w := by
  refine Word.eq_of_digits fun i hi => ?_
  obtain ⟨c, hc, hplace⟩ | ⟨c, hc, hfixed⟩ := (decode w).op.shown_or_fixed hi
  · exact Template.getD_digits_of_map_print hc hplace h
  · have hknown : (decode w).op ≠ .unknown := by
      intro hunknown
      rw [hunknown] at hc
      cases hc
    have hfits : Word.Fits v (decode w).op.pattern := by
      rw [← hop] at hknown ⊢
      exact (reads_decode hknown).fits
    rw [hfits.getD_digits hc hfixed, (reads_decode hknown).fits.getD_digits hc hfixed]

/-- **The text determines the word.** -/
theorem mnemonic_decode_injective {v w : UInt16} (h : (decode v).mnemonic = (decode w).mnemonic) :
    v = w := by
  have htext := congrArg String.toList h
  rw [mnemonic_decode, mnemonic_decode] at htext
  have hop := Op.eq_of_meets (Template.forall₂_meets htext)
  rw [hop] at htext
  exact eq_of_op_of_print hop htext

/-! ### Rows of bytes -/

/-- The words of a row of bytes of even length determine the row. -/
theorem eq_of_wordsOfBytes : ∀ {bs cs : List UInt8}, bs.length = cs.length → bs.length % 2 = 0 →
    wordsOfBytes bs = wordsOfBytes cs → bs = cs
  | [], [], _, _, _ => rfl
  | [_], _, _, heven, _ => by cases heven
  | hi :: lo :: bs, hi' :: lo' :: cs, hlength, heven, h => by
    rw [wordsOfBytes, wordsOfBytes, List.cons.injEq] at h
    have hword := congrArg UInt16.toNat h.1
    have hhi := hi.toNat_lt
    have hlo := lo.toNat_lt
    have hhi' := hi'.toNat_lt
    have hlo' := lo'.toNat_lt
    simp only [UInt16.toNat_ofNat'] at hword
    have hbytes : hi.toNat = hi'.toNat ∧ lo.toNat = lo'.toNat := by omega
    simp only [List.length_cons] at hlength heven
    rw [UInt8.toNat_inj.1 hbytes.1, UInt8.toNat_inj.1 hbytes.2,
      eq_of_wordsOfBytes (by omega) (by omega) h.2]

/-- **Disassembly is lossless.** The text of a word determines the word, of whatever kind the words
are. Hence two rows of bytes of equal even length have the same texts, word by word, only if they
are the same. -/
theorem disassembly_lossless :
    (∀ v w : UInt16, (decode v).mnemonic = (decode w).mnemonic ↔ v = w) ∧
    ∀ bs cs : List UInt8, bs.length = cs.length → bs.length % 2 = 0 →
      ((wordsOfBytes bs).map (fun w => (decode w).mnemonic) =
          (wordsOfBytes cs).map (fun w => (decode w).mnemonic) ↔
        bs = cs) := by
  refine ⟨?_, ?_⟩
  · intro v w
    constructor
    · exact mnemonic_decode_injective
    · rintro rfl
      rfl
  · intro bs cs hlength heven
    constructor
    · intro h
      refine eq_of_wordsOfBytes hlength heven (List.map_injective_iff.2 ?_ h)
      exact fun v w => mnemonic_decode_injective
    · rintro rfl
      rfl

/-- Loads of two kinds that share the verb and the first operand are told apart. -/
theorem disassembly_lossless_loads :
    let bs : List UInt8 := [0x80, 0x10, 0xF0, 0x29]
    let cs : List UInt8 := [0x60, 0x10, 0xF0, 0x33]
    bs.length = cs.length ∧ bs.length % 2 = 0 ∧
      (wordsOfBytes bs).map (fun w => (decode w).mnemonic) ≠
        (wordsOfBytes cs).map fun w => (decode w).mnemonic := by
  intro bs cs
  refine ⟨rfl, by decide, fun h => ?_⟩
  have hsame := (disassembly_lossless.2 bs cs rfl (by decide)).1 h
  exact absurd hsame (by decide)

end ChipEight
