/-!
# Outcomes of steps that may fail

A computation in steps has a result exactly if each of its steps has one. These are the laws by which
a result is taken apart into the results of the steps, and put together from them.

## Main results

- `bind_eq_ok_iff`, `map_eq_ok_iff`, `mapError_eq_ok_iff`: when there is a result.
- `mapError_eq_error_iff`: when there is a complaint.
-/

namespace ChipEight

variable {α β ε φ : Type} {x : Except ε α}

theorem bind_eq_ok_iff {f : α → Except ε β} {b : β} :
    (x >>= f) = .ok b ↔ ∃ a, x = .ok a ∧ f a = .ok b := by
  cases x with
  | error e =>
    constructor
    · rintro ⟨⟩
    · rintro ⟨a, h, -⟩
      cases h
  | ok a =>
    constructor
    · intro h
      exact ⟨a, rfl, h⟩
    · rintro ⟨a', h, hf⟩
      cases h
      exact hf

theorem map_eq_ok_iff {f : α → β} {b : β} : x.map f = .ok b ↔ ∃ a, x = .ok a ∧ f a = b := by
  cases x with
  | error e =>
    constructor
    · rintro ⟨⟩
    · rintro ⟨a, h, -⟩
      cases h
  | ok a =>
    constructor
    · rintro ⟨⟩
      exact ⟨a, rfl, rfl⟩
    · rintro ⟨a', h, rfl⟩
      cases h
      rfl

theorem mapError_eq_ok_iff {f : ε → φ} {a : α} : x.mapError f = .ok a ↔ x = .ok a := by
  constructor
  · intro h
    cases x with
    | ok b => exact congrArg Except.ok (Except.ok.inj h)
    | error d => cases h
  · rintro rfl
    rfl

theorem mapError_eq_error_iff {f : ε → φ} {e : φ} :
    x.mapError f = .error e ↔ ∃ d, x = .error d ∧ f d = e := by
  constructor
  · intro h
    cases x with
    | ok b => cases h
    | error d => exact ⟨d, rfl, Except.error.inj h⟩
  · rintro ⟨d, rfl, rfl⟩
    rfl

end ChipEight
