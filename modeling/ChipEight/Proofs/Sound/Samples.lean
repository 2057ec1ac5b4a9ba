import ChipEight.Sound.Tone
import Mathlib.Data.List.Basic

/-!
# The samples of a square wave

A wave is one period repeated, and a period is a run of high samples and a run of low ones. So the
sample at any place is told by the place within its period, and repeating the wave goes on with it:
behind the last sample comes the first one, as behind any other period.

An odd period cannot be halved. Its low run is the longer one, by one sample.

A mixer of several channels gets every sample once for each channel. The samples of one moment, a
frame, are adjacent.

## Main definitions

- `onePeriod`: the samples of a period.
- `IsSquareWave`: samples that are so many periods of a square wave.
- `IsInterleaved`: a buffer with every sample once for each channel.

## Main results

- `isSquareWave_flatten`: periods in succession, place by place, around the end, and one by one.
- `isInterleaved_flatMap`: where the samples stand once each of them is repeated.
-/

namespace ChipEight

variable {α : Type}

/-! ### Rows repeated -/

/-- The rows of a row of repetitions are the repetitions of a row. -/
theorem flatten_replicate_flatten (k n : Nat) (row : List α) :
    (List.replicate k (List.replicate n row).flatten).flatten =
      (List.replicate (k * n) row).flatten := by
  induction k with
  | zero => simp
  | succ k ih =>
    rw [List.replicate_succ, List.flatten_cons, ih, ← List.flatten_append,
      List.replicate_append_replicate, Nat.succ_mul, Nat.add_comm n]

/-- A place in a row that is repeated is a place in the row. -/
theorem getElem?_flatten_replicate {n i : Nat} {row : List α} (hi : i < n * row.length) :
    (List.replicate n row).flatten[i]? = row[i % row.length]? := by
  induction n generalizing i with
  | zero => omega
  | succ n ih =>
    rw [List.replicate_succ, List.flatten_cons]
    rcases Nat.lt_or_ge i row.length with hfirst | hlater
    · rw [List.getElem?_append_left hfirst, Nat.mod_eq_of_lt hfirst]
    · have hrest : i - row.length < n * row.length := by
        rw [Nat.succ_mul] at hi
        omega
      rw [List.getElem?_append_right hlater, ih hrest, Nat.mod_eq_sub_mod hlater]

/-- Each repetition of a row is the row. -/
theorem take_drop_flatten_replicate {n m : Nat} (row : List α) (hm : m < n) :
    ((List.replicate n row).flatten.drop (m * row.length)).take row.length = row := by
  obtain ⟨r, rfl⟩ : ∃ r, n = m + (r + 1) := ⟨n - m - 1, by omega⟩
  have hlength : (List.replicate m row).flatten.length = m * row.length := by
    simp [List.length_flatten]
  rw [← List.replicate_append_replicate, List.flatten_append, List.drop_left' hlength,
    List.replicate_succ, List.flatten_cons, List.take_left']
  rfl

/-- An element of a row stands where its repetitions stand. -/
theorem getElem?_flatMap_replicate (row : List α) {c j : Nat} (hj : j < c) (f : Nat) :
    (row.flatMap fun s => List.replicate c s)[f * c + j]? = row[f]? := by
  induction row generalizing f with
  | nil => simp
  | cons s row ih =>
    rw [List.flatMap_cons]
    cases f with
    | zero =>
      have hfirst : 0 * c + j < (List.replicate c s).length := by
        rw [List.length_replicate]
        omega
      rw [List.getElem?_append_left hfirst, List.getElem?_replicate, if_pos (by omega)]
      rfl
    | succ f =>
      have hlater : (f + 1) * c + j = (List.replicate c s).length + (f * c + j) := by
        rw [List.length_replicate, Nat.succ_mul]
        omega
      rw [hlater, List.getElem?_append_right (Nat.le_add_right _ _), Nat.add_sub_cancel_left, ih,
        List.getElem?_cons_succ]

/-! ### Periods -/

/-- The samples of a period: first the high ones, then the low ones. -/
def onePeriod (p : Nat) : List Int :=
  List.replicate (p / 2) amplitude ++ List.replicate (p - p / 2) (-amplitude)

@[simp] theorem length_onePeriod (p : Nat) : (onePeriod p).length = p := by
  simp only [onePeriod, List.length_append, List.length_replicate]
  omega

theorem getElem?_onePeriod {p i : Nat} (hi : i < p) :
    (onePeriod p)[i]? = some (if i < p / 2 then amplitude else -amplitude) := by
  rw [onePeriod]
  split
  case isTrue hhigh =>
    rw [List.getElem?_append_left (by rwa [List.length_replicate]), List.getElem?_replicate,
      if_pos hhigh]
  case isFalse hlow =>
    rw [List.getElem?_append_right (by rwa [List.length_replicate, ← Nat.not_lt]),
      List.getElem?_replicate, List.length_replicate, if_pos (by omega)]

/-- An odd period has one low sample more than it has high ones. -/
theorem count_onePeriod (p : Nat) :
    (onePeriod p).count (-amplitude) = (onePeriod p).count amplitude + p % 2 := by
  have hne : (amplitude == -amplitude) = false ∧ (-amplitude == amplitude) = false := by decide
  simp only [onePeriod, List.count_append, List.count_replicate, BEq.rfl, hne.1, hne.2, if_true,
    Bool.false_eq_true, if_false]
  omega

theorem getElem?_flatten_onePeriod {n p i : Nat} (hi : i < n * p) :
    (List.replicate n (onePeriod p)).flatten[i]? =
      some (if i % p < p / 2 then amplitude else -amplitude) := by
  have hpos : 0 < p := Nat.pos_of_mul_pos_left (Nat.zero_lt_of_lt hi)
  rw [getElem?_flatten_replicate (by rwa [length_onePeriod]), length_onePeriod,
    getElem?_onePeriod (Nat.mod_lt i hpos)]

/-- Samples are a square wave of `n` periods of `p` samples each. -/
structure IsSquareWave (samples : List Int) (p n : Nat) : Prop where
  length : samples.length = n * p
  sample : ∀ i < n * p, samples[i]? = some (if i % p < p / 2 then 8000 else -8000)
  /-- However often the samples are repeated end to end, they are one wave. -/
  loop : ∀ k i, i < k * (n * p) →
    (List.replicate k samples).flatten[i]? = some (if i % p < p / 2 then 8000 else -8000)
  /-- In an odd period there is one low sample more than there are high ones. -/
  balance : ∀ m < n, ((samples.drop (m * p)).take p).count (-8000) =
    ((samples.drop (m * p)).take p).count 8000 + p % 2

/-- **Periods in succession** are a square wave, place by place, around the end, and one by one. -/
theorem isSquareWave_flatten (p n : Nat) :
    IsSquareWave (List.replicate n (onePeriod p)).flatten p n where
  length := by simp
  sample _ hi := getElem?_flatten_onePeriod hi
  loop k i hi := by
    rw [flatten_replicate_flatten]
    exact getElem?_flatten_onePeriod (by rwa [Nat.mul_assoc])
  balance m hm := by
    have hperiod := take_drop_flatten_replicate (onePeriod p) hm
    rw [length_onePeriod] at hperiod
    rw [hperiod]
    exact count_onePeriod p

/-- Both levels occur in a wave that has a period with room for both. -/
theorem IsSquareWave.mem {samples : List Int} {p n : Nat} (h : IsSquareWave samples p n)
    (hp : 2 ≤ p) (hn : 0 < n) : 8000 ∈ samples ∧ -8000 ∈ samples := by
  have hlength : p ≤ n * p := Nat.le_mul_of_pos_left _ hn
  constructor
  · have hfirst := h.sample 0 (by omega)
    rw [Nat.zero_mod, if_pos (by omega)] at hfirst
    exact List.mem_of_getElem? hfirst
  · have hlast := h.sample (p - 1) (by omega)
    rw [Nat.mod_eq_of_lt (by omega), if_neg (by omega)] at hlast
    exact List.mem_of_getElem? hlast

/-! ### Channels -/

/-- A buffer is made of frames, each of which has a sample once for each of `c` channels. -/
structure IsInterleaved (buffer samples : List Int) (c : Nat) : Prop where
  length : buffer.length = samples.length * c
  sample : ∀ f < samples.length, ∀ j < c, buffer[f * c + j]? = samples[f]?

/-- **Samples that are repeated one by one** are made of frames. -/
theorem isInterleaved_flatMap (samples : List Int) (c : Nat) :
    IsInterleaved (samples.flatMap fun s => List.replicate c s) samples c where
  length := by simp [List.length_flatMap]
  sample f _ j hj := getElem?_flatMap_replicate samples hj f

end ChipEight
