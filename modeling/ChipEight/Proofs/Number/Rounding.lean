import ChipEight.Number.Binary64
import Mathlib.Algebra.Order.Ring.Abs
import Mathlib.Data.Nat.Log
import Mathlib.Tactic.Linarith
import Mathlib.Tactic.LinearCombination
import Mathlib.Tactic.Ring

/-!
# Rounding a quotient twice

A quotient of integers is rounded to the binary64 grid before it is rounded to a whole number. The
first rounding moves it by at most half a step of the grid, and the second one could fall for that:
a quotient next to a half might be moved onto the half, and a half is rounded by another rule.

For a numerator below `2 ^ 52` this does not happen. The step of the grid at `a / b` is the
reciprocal of some `2 ^ s` above `b`, as the quotient has 53 bits there. A quotient that is no half
keeps a distance of `1 / (2 * b)` from all halves, and that is more than half a step.

## Main definitions

- `IsNearest a b n`: `n` is the whole number nearest to `a / b`, ties to even.

## Main results

- `IsNearest.unique`, `isNearest_roundHalfEven`: there is one such number, and it is computed.
- `IsNearest.of_fine`: rounding on a fine enough grid first makes no difference.
- `Dyadic.exists_grid`: the grid on which a quotient is rounded, and what it is rounded to there.
- `Dyadic.isNearest_round_ofRatio`: a quotient of two integers, rounded to the binary64 grid and
  then to a whole number, is the whole number nearest to the quotient.
-/

namespace ChipEight

/-- A whole number is nearest to the fraction `a / b`; of two that are equally near it is the even
one. -/
structure IsNearest (a b n : Int) : Prop where
  near : 2 * |n * b - a| ≤ b
  even : 2 * |n * b - a| = b → n % 2 = 0

namespace IsNearest

variable {a b k m n : Int}

theorem mul_add_le_of_lt (hb : 0 < b) (hlt : m < n) : m * b + b ≤ n * b := by
  have h := mul_le_mul_of_nonneg_right (Int.add_one_le_iff.2 hlt) hb.le
  linarith [add_mul m 1 b]

/-- A nearest number is not less than a whole number that the fraction is not less than. -/
theorem le (hb : 0 < b) (h : IsNearest a b n) (hk : k * b ≤ a) : k ≤ n := by
  refine Int.not_lt.1 fun hlt => ?_
  have hstep := mul_add_le_of_lt hb hlt
  have hnear := h.near
  rw [abs_of_neg (by omega)] at hnear
  omega

/-- Of two different numbers that are nearest, the greater one is the next one, and both are even.
-/
theorem not_lt (hb : 0 < b) (hm : IsNearest a b m) (hn : IsNearest a b n) : ¬ m < n := by
  intro hlt
  have hstep := mul_add_le_of_lt hb hlt
  have hlow := (abs_le.1 (show |m * b - a| ≤ b / 2 by have := hm.near; omega)).1
  have hhigh := (abs_le.1 (show |n * b - a| ≤ b / 2 by have := hn.near; omega)).2
  have htie : 2 * (a - m * b) = b ∧ 2 * (n * b - a) = b := by omega
  have hmeven := hm.even (by rw [abs_of_neg (by omega)]; omega)
  have hneven := hn.even (by rw [abs_of_pos (by omega)]; omega)
  have hnext : n = m + 1 := by
    refine mul_right_cancel₀ hb.ne' ?_
    rw [add_mul]
    omega
  omega

/-- **There is one nearest number.** -/
theorem unique (hb : 0 < b) (hm : IsNearest a b m) (hn : IsNearest a b n) : m = n := by
  have hle := hm.not_lt hb hn
  have hge := hn.not_lt hb hm
  omega

/-- **Rounding twice is rounding once**, if the first grid is fine enough: it divides each unit into
an even number of steps that is greater than the denominator. -/
theorem of_fine {h : Int} (hb : 0 < b) (hfine : b < 2 * h) (hm : IsNearest (a * (2 * h)) b m)
    (hn : IsNearest m (2 * h) n) : IsNearest a b n := by
  -- The error of both roundings together, over the common denominator.
  have hsum : (n * b - a) * (2 * h) = (n * (2 * h) - m) * b + (m * b - a * (2 * h)) := by ring
  obtain ⟨hvlow, hvhigh⟩ : -b ≤ 2 * (m * b - a * (2 * h)) ∧ 2 * (m * b - a * (2 * h)) ≤ b := by
    have hv := hm.near
    rw [← abs_two, ← abs_mul] at hv
    exact abs_le.1 hv
  have hu : |n * (2 * h) - m| ≤ h := by
    have := hn.near
    omega
  obtain htie | hstrict := hu.eq_or_lt
  · -- The number on the grid is a half. Then so is the quotient, or it would be too far from it.
    have hzero : ∀ x : Int, x * (2 * h) = 2 * (m * b - a * (2 * h)) → x = 0 := by
      intro x hx
      have hdvd : 2 * h ∣ 2 * (m * b - a * (2 * h)) := ⟨x, by rw [← hx, mul_comm]⟩
      have hsmall : |2 * (m * b - a * (2 * h))| < 2 * h := by
        rw [abs_lt]
        omega
      rw [Int.eq_zero_of_abs_lt_dvd hdvd hsmall] at hx
      exact (mul_eq_zero.1 hx).resolve_right (by omega)
    have hhalf : 2 * |n * b - a| = b := by
      obtain hu | hu := (abs_eq (by omega : (0 : Int) ≤ h)).1 htie
      · have hx := hzero (2 * (n * b - a) - b) (by rw [hu] at hsum; linear_combination 2 * hsum)
        rw [abs_of_pos (by omega)]
        omega
      · have hx := hzero (2 * (n * b - a) + b) (by rw [hu] at hsum; linear_combination 2 * hsum)
        rw [abs_of_neg (by omega)]
        omega
    exact ⟨hhalf.le, fun _ => hn.even (by rw [htie])⟩
  · -- Otherwise a whole step is left to the half, and the first rounding took half a step at most.
    obtain ⟨hulow, huhigh⟩ := abs_lt.1 hstrict
    have hup : (n * (2 * h) - m) * b ≤ (h - 1) * b :=
      mul_le_mul_of_nonneg_right (by omega) hb.le
    have hdown : -(h - 1) * b ≤ (n * (2 * h) - m) * b :=
      mul_le_mul_of_nonneg_right (by omega) hb.le
    have hless : 2 * |n * b - a| < b := by
      rw [← abs_two, ← abs_mul, abs_lt]
      constructor
      · refine lt_of_mul_lt_mul_right (a := h) ?_ (by omega)
        linarith
      · refine lt_of_mul_lt_mul_right (a := h) ?_ (by omega)
        linarith
    exact ⟨hless.le, fun heq => absurd heq hless.ne⟩

end IsNearest

/-- The number that rounding computes is the nearest one. -/
theorem isNearest_roundHalfEven (a : Nat) {b : Nat} (hb : 0 < b) :
    IsNearest a b (roundHalfEven a b) := by
  have hdiv : (a : Int) = b * (a / b : Nat) + (a % b : Nat) := by
    exact_mod_cast (Nat.div_add_mod a b).symm
  have hmod : a % b < b := Nat.mod_lt a hb
  -- Rounding down leaves the remainder, rounding up what the remainder lacks.
  have hdown : ((a / b : Nat) : Int) * b - a = -(a % b : Nat) := by
    rw [hdiv]
    ring
  have hup : ((a / b + 1 : Nat) : Int) * b - a = b - (a % b : Nat) := by
    push_cast at hdown ⊢
    linarith
  have habsdown : |((a / b : Nat) : Int) * b - a| = (a % b : Nat) := by
    rw [hdown, abs_neg, abs_of_nonneg (by omega)]
  have habsup : |((a / b + 1 : Nat) : Int) * b - a| = b - (a % b : Nat) := by
    rw [hup, abs_of_nonneg (by omega)]
  simp only [roundHalfEven]
  split
  case isTrue hlow =>
    exact ⟨by rw [habsdown]; omega, by rw [habsdown]; omega⟩
  split
  case isTrue hhigh =>
    exact ⟨by rw [habsup]; omega, by rw [habsup]; omega⟩
  split
  case isTrue heven =>
    exact ⟨by rw [habsdown]; omega, fun _ => by omega⟩
  case isFalse hodd =>
    exact ⟨by rw [habsup]; omega, fun _ => by omega⟩

theorem roundHalfEven_zero (b : Nat) : roundHalfEven 0 b = 0 := by
  simp only [roundHalfEven, Nat.zero_div, Nat.zero_mod]
  split
  · rfl
  split
  · omega
  · rfl

namespace Dyadic

variable {a b : Nat}

/-- The exponent of the highest bit of a quotient that is at least one: that power of two does not
exceed the quotient. -/
theorem exists_leadingExponent (hb : 0 < b) (hab : b ≤ a) :
    ∃ k : Nat, leadingExponent a b = k ∧ b * 2 ^ k ≤ a := by
  have ha : a ≠ 0 := by omega
  have hlog : b.log2 ≤ a.log2 := by
    rw [Nat.le_log2 ha]
    exact (Nat.log2_self_le hb.ne').trans hab
  have hk : ((a.log2 : Int) - b.log2).toNat = a.log2 - b.log2 := by omega
  have hscale : scaleDown a b (a.log2 - b.log2) = (a, b * 2 ^ (a.log2 - b.log2)) := by
    rw [scaleDown, if_pos (by omega), hk]
    rfl
  simp only [leadingExponent, hscale]
  split
  case isTrue hfits => exact ⟨a.log2 - b.log2, by omega, hfits⟩
  case isFalse hfits =>
    -- The highest bits are equally high, so that the quotient would be less than one.
    have hpos : a.log2 ≠ b.log2 := by
      intro heq
      rw [heq, Nat.sub_self, pow_zero, mul_one] at hfits
      exact hfits hab
    refine ⟨a.log2 - b.log2 - 1, by omega, ?_⟩
    calc b * 2 ^ (a.log2 - b.log2 - 1)
        ≤ 2 ^ (b.log2 + 1) * 2 ^ (a.log2 - b.log2 - 1) :=
          Nat.mul_le_mul_right _ Nat.lt_log2_self.le
      _ = 2 ^ a.log2 := by
          rw [← pow_add]
          congr 1
          omega
      _ ≤ a := Nat.log2_self_le ha

/-- **The grid of a quotient** that is at least one, of a numerator below `2 ^ 52`. Its step is the
reciprocal of a power of two above the denominator, and the mantissa counts the steps that the
quotient is rounded to. -/
theorem exists_grid (hb : 0 < b) (hab : b ≤ a) (ha : a < 2 ^ 52) :
    ∃ s : Nat, 0 < s ∧ b < 2 ^ s ∧ ofRatio a b = ⟨roundHalfEven (a * 2 ^ s) b, -s⟩ := by
  obtain ⟨k, hk, hlead⟩ := exists_leadingExponent hb hab
  have hle : 2 ^ k ≤ b * 2 ^ k := Nat.le_mul_of_pos_left _ hb
  have hk52 : k < 52 := (Nat.pow_lt_pow_iff_right (by decide)).1 (hle.trans_lt (hlead.trans_lt ha))
  have hexp : max ((k : Int) - 52) (-1074) = -(52 - k : Nat) := by omega
  have hneg : (-(-(52 - k : Nat) : Int)).toNat = 52 - k := by omega
  refine ⟨52 - k, by omega, ?_, ?_⟩
  · refine Nat.lt_of_mul_lt_mul_right (a := 2 ^ k) ?_
    rw [← pow_add, Nat.sub_add_cancel hk52.le]
    exact hlead.trans_lt ha
  · simp only [ofRatio, hk, hexp, scaleDown]
    rw [if_neg (by omega), hneg]
    rfl

/-- **A quotient is rounded to the nearest whole number**, although it is rounded to the binary64
grid before. -/
theorem isNearest_round_ofRatio (hb : 0 < b) (hab : b ≤ a) (ha : a < 2 ^ 52) :
    IsNearest a b (ofRatio a b).round := by
  obtain ⟨s, hs, hfine, hratio⟩ := exists_grid hb hab ha
  have hhalf : (2 ^ s : Int) = 2 * 2 ^ (s - 1) := by
    rw [← pow_succ', Nat.sub_add_cancel hs]
  have hneg : (-(-(s : Int))).toNat = s := by omega
  have hround : (ofRatio a b).round = roundHalfEven (roundHalfEven (a * 2 ^ s) b) (2 ^ s) := by
    have hbelow : ¬ (0 : Int) ≤ -s := by omega
    rw [hratio, round, roundTimes, if_neg hbelow, hneg, Nat.one_mul]
    rfl
  have hgrid := isNearest_roundHalfEven (a * 2 ^ s) hb
  have hwhole := isNearest_roundHalfEven (roundHalfEven (a * 2 ^ s) b) (Nat.two_pow_pos s)
  push_cast at hgrid hwhole
  rw [hround]
  rw [hhalf] at hgrid hwhole
  refine IsNearest.of_fine (by omega) ?_ hgrid hwhole
  rw [← hhalf]
  exact_mod_cast hfine

/-- A quotient with a numerator below `2 ^ 52` lies within the binary64 numbers. -/
theorem overflows_ofRatio (hb : 0 < b) (hab : b ≤ a) (ha : a < 2 ^ 52) :
    (ofRatio a b).overflows = false := by
  obtain ⟨s, hs, -, hratio⟩ := exists_grid hb hab ha
  have hbelow : ¬ (0 : Int) ≤ -s := by omega
  rw [hratio, overflows, decide_eq_false hbelow, Bool.false_and]

theorem round_ofRatio_zero (b : Nat) : (ofRatio 0 b).round = 0 := by
  have hzero : ∀ e : Int, (scaleDown 0 b e).1 = 0 := by
    intro e
    rw [scaleDown]
    split
    · rfl
    · exact Nat.zero_mul _
  simp only [ofRatio, hzero, roundHalfEven_zero, round, roundTimes,
    Nat.mul_zero, Nat.zero_mul, ite_self]

end Dyadic

end ChipEight
