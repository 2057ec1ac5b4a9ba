import ChipEight.Text.Hex
import Mathlib.Data.List.GetD
import Mathlib.Data.List.Nodup
import Mathlib.Tactic.Ring

/-!
# Hexadecimal text can be read back

A number is written in a field of so many digits, and what the field cannot hold is lost. What it
holds can be read back: two numbers are written alike exactly if they agree in so many last digits.
A number that fits is written without loss, and in that case it makes no difference whether the width
was asked for exactly or at least.

## Main results

- `Text.hexField_inj`: which numbers are written alike.
- `Text.mem_hexAlphabet_of_mem_hexField`: a field holds digits only.
- `Text.hex_of_lt`: a number that fits into the least width takes no more than that.
-/

namespace ChipEight

namespace Text

theorem mod_lt_length_hexAlphabet (d : Nat) : d % 16 < hexAlphabet.length :=
  Nat.mod_lt d (by decide)

/-- A digit stands in the alphabet at its value. -/
theorem hexDigit_eq_get (d : Nat) :
    hexDigit d = hexAlphabet.get ⟨d % 16, mod_lt_length_hexAlphabet d⟩ :=
  List.getD_eq_getElem _ _ _

/-- Two digits are written alike exactly if they are the same. -/
theorem hexDigit_inj {a b : Nat} : hexDigit a = hexDigit b ↔ a % 16 = b % 16 := by
  have hnodup : hexAlphabet.Nodup := by decide
  rw [hexDigit_eq_get, hexDigit_eq_get, hnodup.get_inj_iff, Fin.mk.injEq]

theorem mem_hexAlphabet_of_mem_hexField {w n : Nat} {c : Char} (h : c ∈ hexField w n) :
    c ∈ hexAlphabet := by
  induction w generalizing n with
  | zero => cases h
  | succ w ih =>
    rw [hexField, List.mem_append, List.mem_singleton] at h
    rcases h with h | rfl
    · exact ih h
    · rw [hexDigit_eq_get]
      exact List.get_mem ..

/-- **Fields can be read back.** Two numbers are written alike in a field exactly if they agree in as
many last digits as the field holds. -/
theorem hexField_inj {w a b : Nat} : hexField w a = hexField w b ↔ a % 16 ^ w = b % 16 ^ w := by
  induction w generalizing a b with
  | zero => simp [hexField, Nat.mod_one]
  | succ w ih =>
    -- The last digit is split off on both sides, in the text and in the number.
    have hdigits : hexField (w + 1) a = hexField (w + 1) b ↔
        hexField w (a / 16) = hexField w (b / 16) ∧ hexDigit a = hexDigit b := by
      rw [hexField, hexField]
      constructor
      · intro h
        obtain ⟨hfront, hlast⟩ := List.append_inj h (by simp)
        exact ⟨hfront, List.singleton_inj.1 hlast⟩
      · rintro ⟨hfront, hlast⟩
        rw [hfront, hlast]
    have hsplit : ∀ n : Nat, n % 16 ^ (w + 1) = n % 16 + 16 * (n / 16 % 16 ^ w) := by
      intro n
      rw [show 16 ^ (w + 1) = 16 * 16 ^ w by ring, Nat.mod_mul]
    rw [hdigits, ih, hexDigit_inj, hsplit, hsplit]
    omega

theorem hexField_inj_of_lt {w a b : Nat} (ha : a < 16 ^ w) (hb : b < 16 ^ w) :
    hexField w a = hexField w b ↔ a = b := by
  rw [hexField_inj, Nat.mod_eq_of_lt ha, Nat.mod_eq_of_lt hb]

/-- A number that fits into the least width takes no more than that. -/
theorem hex_of_lt {w n : Nat} (hw : 0 < w) (hn : n < 16 ^ w) :
    hex w n = String.ofList (hexField w n) := by
  have hlength : hexLength n ≤ w := by
    rw [hexLength]
    by_cases hzero : n = 0
    · subst hzero
      exact hw
    · have hlog : n.log2 < 4 * w := by
        rw [Nat.log2_lt hzero, pow_mul]
        exact hn
      omega
  rw [hex, Nat.max_eq_left hlength]

end Text

end ChipEight
