import ChipEight.Proofs.Except
import ChipEight.Proofs.Number.Rounding
import ChipEight.Sound.Tone

/-!
# The period of a tone

The period of a tone is a whole number of samples: the quotient of rate and frequency, which is a
floating-point number, is rounded to it, and it is at least two. For a rate below `2 ^ 52` that is the
number nearest to the exact quotient, though there is a floating-point number in between. Where the
rate is at least twice the frequency the least period is no restriction.

## Main results

- `two_le_period`: a period has at least two samples.
- `period_int`: the period of two integers.
- `exists_period`: the period is the nearest whole number.
-/

namespace ChipEight

/-- A period has at least two samples. -/
theorem two_le_period {tone rate : Datum} {p : Nat} (h : period tone rate = .ok p) : 2 ≤ p := by
  simp only [period, bind_eq_ok_iff] at h
  obtain ⟨quotient, -, samples, -, h⟩ := h
  cases h
  exact Nat.le_max_left 2 _

/-- The quotient of two integers: its size is the one of their sizes, and its sign is told by both
of theirs. -/
theorem dividedBy_int {tone : Int} (hzero : tone ≠ 0) (rate : Int) :
    (Datum.int rate).dividedBy (.int tone) =
      let x := Dyadic.ofRatio rate.natAbs tone.natAbs
      if x.overflows then .error .hugeQuotient
      else .ok (.finite (decide (rate * tone.sign < 0)) x.mantissa x.exponent) := by
  have hnatAbs : (rate * tone.sign).natAbs = rate.natAbs := by
    rw [Int.natAbs_mul, Int.natAbs_sign_of_ne_zero hzero, Nat.mul_one]
  unfold Datum.dividedBy
  simp only [Datum.integer?, if_neg hzero, Real64.ofRatio, hnatAbs]
  by_cases hover : (Dyadic.ofRatio rate.natAbs tone.natAbs).overflows = true
  · rw [if_pos hover, if_pos hover]
  · rw [if_neg hover, if_neg hover]

/-- A quotient below zero gives the least period, and so does one whose sign is lost as it is zero.
-/
theorem max_two_signed {tone : Int} (hzero : tone ≠ 0) (rate : Int) :
    max 2 (Real64.signed (decide (rate * tone.sign < 0))
        (Dyadic.ofRatio rate.natAbs tone.natAbs).round).toNat =
      if (rate < 0) = (tone < 0) then max 2 (Dyadic.ofRatio rate.natAbs tone.natAbs).round
      else 2 := by
  rcases Int.lt_or_gt_of_ne hzero with htone | htone
  · rw [Int.sign_eq_neg_one_of_neg htone]
    rcases Int.lt_trichotomy rate 0 with hrate | rfl | hrate
    · rw [decide_eq_false (by omega), if_pos (by simp [htone, hrate])]
      simp [Real64.signed]
    · simp [Real64.signed, Dyadic.round_ofRatio_zero]
    · rw [decide_eq_true (by omega), if_neg (by simp [htone]; omega)]
      simp [Real64.signed]
  · rw [Int.sign_eq_one_of_pos htone]
    by_cases hrate : rate < 0
    · rw [decide_eq_true (by omega), if_neg (by simp [hrate]; omega)]
      simp [Real64.signed]
    · rw [decide_eq_false (by omega), if_pos (by simp [hrate]; omega)]
      simp [Real64.signed]

/-- **The period of two integers.** The sizes are divided, and a quotient below zero gives the least
period. -/
theorem period_int {tone : Int} (hzero : tone ≠ 0) (rate : Int) :
    period (.int tone) (.int rate) =
      let quotient := Dyadic.ofRatio rate.natAbs tone.natAbs
      if quotient.overflows then .error (.operand .hugeQuotient)
      else if (rate < 0) = (tone < 0) then .ok (max 2 quotient.round)
      else .ok 2 := by
  rw [period, dividedBy_int hzero]
  dsimp only
  split
  case isTrue => rfl
  case isFalse =>
    rw [← apply_ite (Except.ok (ε := ToneFault)), ← max_two_signed hzero rate]
    rfl

/-- **The period is the nearest whole number** to the quotient of rate and frequency. -/
theorem exists_period {tone rate : Int} (htone : 1 ≤ tone) (hrate : 2 * tone ≤ rate)
    (hbound : rate < 2 ^ 52) :
    ∃ p : Nat, period (.int tone) (.int rate) = .ok p ∧ IsNearest rate tone p := by
  obtain ⟨b, rfl⟩ := Int.eq_ofNat_of_zero_le (by omega : 0 ≤ tone)
  obtain ⟨a, rfl⟩ := Int.eq_ofNat_of_zero_le (by omega : 0 ≤ rate)
  have hb : 0 < b := by omega
  have hab : b ≤ a := by omega
  have ha : a < 2 ^ 52 := by omega
  have hnearest := Dyadic.isNearest_round_ofRatio hb hab ha
  have htwo : 2 ≤ (Dyadic.ofRatio a b).round := by
    have hle := hnearest.le (by omega) hrate
    omega
  refine ⟨(Dyadic.ofRatio a b).round, ?_, hnearest⟩
  have hover := Dyadic.overflows_ofRatio hb hab ha
  have hsigns : ((a : Int) < 0) = ((b : Int) < 0) := by
    rw [eq_iff_iff]
    omega
  rw [period_int (by omega), Int.natAbs_natCast, Int.natAbs_natCast]
  dsimp only
  rw [hover, if_neg Bool.false_ne_true, if_pos hsigns, Nat.max_eq_right htwo]

end ChipEight
