import ChipEight.Proofs.Window.Scene
import Mathlib.Data.List.Induction

/-!
# The held keys

The keypad is told of the keyboard event by event, and keeps no record of it. Which keys it holds can
still be told from the record: a keypad key is held exactly if the host key that stands for it went
down, and since then has neither gone up nor been let go with all others when the window lost the
focus. It makes no difference how often it went down or up.

This rests on the layout. Each keypad key has one host key that stands for it. If there were two,
letting go of one of them would let go of a key that the other one still holds down. Keys without a
place in the layout may be left out of the record, and so may the two that control the window.

## Main definitions

- `HostKey.HeldAfter`: a host key went down and was not let go since.
- `HostEvent.isForeign`: the event is about a key that stands for none.

## Main results

- `HostKey.exists_code?_iff`: each keypad key has one host key.
- `HostKey.heldAfter_concat`: what one more event does to the record.
- `KeySet.contains_hear`: what it does to the keypad.
- `Controls.held_keys`: the keypad follows the record.
-/

namespace ChipEight

/-! ### The layout -/

namespace HostKey

/-- A host key that stands for a keypad key is found with it in the layout. -/
theorem exists_mem_layout {k : HostKey} {c : Key} (h : k.code? = some c) :
    ∃ letter, k = .symbol letter ∧ (letter, c) ∈ layout := by
  cases k with
  | symbol letter =>
    obtain ⟨front, back, hlayout, -⟩ := List.lookup_eq_some_iff.1 h
    refine ⟨letter, rfl, ?_⟩
    rw [hlayout]
    exact List.mem_append_right front List.mem_cons_self
  | _ => cases h

/-- **Each keypad key has one host key** that stands for it. -/
theorem exists_code?_iff (c : Key) : ∃ k : HostKey, ∀ j : HostKey, j.code? = some c ↔ j = k := by
  have hnone_shared : ∀ p ∈ layout, ∀ q ∈ layout, p.2 = q.2 → p = q := by decide
  have hnone_missing : ∀ c : Key, ∃ p ∈ layout, layout.lookup p.1 = some c := by decide
  obtain ⟨⟨letter, _⟩, -, hletter⟩ := hnone_missing c
  have hk : (symbol letter).code? = some c := hletter
  refine ⟨.symbol letter, fun j => ⟨fun hj => ?_, ?_⟩⟩
  · obtain ⟨_, hsymbol, hmem⟩ := exists_mem_layout hk
    obtain ⟨other, rfl, hmem'⟩ := exists_mem_layout hj
    cases hsymbol
    exact congrArg (fun p => symbol p.1) (hnone_shared _ hmem' _ hmem rfl)
  · rintro rfl
    exact hk

/-! ### The record -/

/-- A host key is held after events: it went down, and since then it did not go up, and the focus was
not lost. -/
def HeldAfter (k : HostKey) (es : List HostEvent) : Prop :=
  ∃ before after, es = before ++ .keyDown k :: after ∧ .keyUp k ∉ after ∧ .focusLost ∉ after

theorem not_heldAfter_nil (k : HostKey) : ¬ k.HeldAfter [] := by
  rintro ⟨before, after, h, -⟩
  simp at h

/-- **One more event.** A key is held after it if the key goes down, or if it was held before and is
not let go. -/
theorem heldAfter_concat {k : HostKey} {es : List HostEvent} {e : HostEvent} :
    k.HeldAfter (es ++ [e]) ↔
      e = .keyDown k ∨ (k.HeldAfter es ∧ e ≠ .keyUp k ∧ e ≠ .focusLost) := by
  constructor
  · rintro ⟨before, after, hes, hup, hfocus⟩
    rcases List.eq_nil_or_concat after with rfl | ⟨front, last, rfl⟩
    · -- The key goes down in the last event.
      exact .inl (List.singleton_inj.1 (List.append_inj' hes rfl).2)
    · rw [List.concat_eq_append] at hes hup hfocus
      rw [← List.cons_append, ← List.append_assoc] at hes
      obtain ⟨rfl, hlast⟩ := List.append_inj' hes rfl
      obtain rfl := List.singleton_inj.1 hlast
      rw [List.mem_append, not_or, List.mem_singleton] at hup hfocus
      exact .inr ⟨⟨before, front, rfl, hup.1, hfocus.1⟩, Ne.symm hup.2, Ne.symm hfocus.2⟩
  · rintro (rfl | ⟨⟨before, after, rfl, hup, hfocus⟩, hkeeps, hstays⟩)
    · exact ⟨es, [], rfl, List.not_mem_nil, List.not_mem_nil⟩
    · refine ⟨before, after ++ [e], by simp, ?_, ?_⟩
      · exact List.not_mem_append hup fun h => hkeeps (List.mem_singleton.1 h).symm
      · exact List.not_mem_append hfocus fun h => hstays (List.mem_singleton.1 h).symm

end HostKey

/-! ### The keypad -/

namespace KeySet

theorem contains_move (s : KeySet) (k : HostKey) (down : Bool) (c : Key) :
    (s.move k down).contains c = if k.code? = some c then down else s.contains c := by
  rw [move]
  cases k.code? with
  | none => simp
  | some code =>
    simp only [contains_put, Option.some.injEq]

/-- **What an event does to a keypad key**, told by the host key that stands for it. -/
theorem contains_hear {s : KeySet} {c : Key} {k : HostKey}
    (hk : ∀ j : HostKey, j.code? = some c ↔ j = k) {e : HostEvent} :
    (s.hear e).contains c = true ↔
      e = .keyDown k ∨ (s.contains c = true ∧ e ≠ .keyUp k ∧ e ≠ .focusLost) := by
  cases e with
  | keyDown j | keyUp j =>
    rw [hear, contains_move]
    by_cases hj : j = k <;> simp [hk, hj]
  | _ => simp [hear]

/-- The keypad follows the record, from an empty keypad on. -/
theorem contains_hearAll_iff {c : Key} {k : HostKey}
    (hk : ∀ j : HostKey, j.code? = some c ↔ j = k) (es : List HostEvent) :
    (empty.hearAll es).contains c = true ↔ k.HeldAfter es := by
  -- The record is read from its end, where the events stand that count.
  induction es using List.reverseRecOn with
  | nil =>
    refine iff_of_false ?_ k.not_heldAfter_nil
    rw [hearAll, List.foldl_nil, contains_empty]
    exact Bool.false_ne_true
  | append_singleton es e ih =>
    rw [hearAll_append, HostKey.heldAfter_concat, ← ih]
    exact contains_hear hk

end KeySet

/-! ### Events about other keys -/

/-- The event is about a host key that stands for no keypad key. -/
def HostEvent.isForeign : HostEvent → Bool
  | .keyDown k | .keyUp k => k.code?.isNone
  | _ => false

theorem KeySet.hear_of_isForeign {s : KeySet} {e : HostEvent} (h : e.isForeign = true) :
    s.hear e = s := by
  cases e with
  | keyDown k | keyUp k =>
    have hnone : k.code? = none := Option.isNone_iff_eq_none.1 h
    rw [hear, move, hnone]
  | _ => cases h

/-- Such events may be left out of the record. -/
theorem KeySet.hearAll_filter_isForeign (s : KeySet) (es : List HostEvent) :
    s.hearAll (es.filter fun e => !e.isForeign) = s.hearAll es := by
  induction es generalizing s with
  | nil => rfl
  | cons e es ih =>
    cases hforeign : e.isForeign with
    | true =>
      rw [List.filter_cons_of_neg (by simp [hforeign]), ih]
      exact congrArg (fun t => hearAll t es) (hear_of_isForeign hforeign).symm
    | false =>
      rw [List.filter_cons_of_pos (by simp [hforeign])]
      exact ih (s.hear e)

/-! ### The controls -/

theorem HostEvent.quits_iff {e : HostEvent} :
    e.quits = true ↔ e = .quit ∨ e = .keyDown .escape := by
  cases e with
  | keyDown k => cases k <;> simp [quits]
  | _ => simp [quits]

/-- **The keypad follows the keyboard.** From an empty keypad on, a keypad key is held exactly if the
one host key that stands for it is, by the record. Events about other keys make no difference. The
remembered keys are not touched. Quitting was asked for exactly if the window was closed or `Escape`
went down. -/
theorem Controls.held_keys (last : KeySet) (es : List HostEvent) :
    let done := Controls.fresh.poll ⟨.empty, last⟩ es
    (∀ c : Key, ∃ k : HostKey, (∀ j : HostKey, j.code? = some c ↔ j = k) ∧
        (done.2.1.live.contains c = true ↔ k.HeldAfter es)) ∧
      (Controls.fresh.poll ⟨.empty, last⟩ (es.filter fun e => !e.isForeign)).2.1 = done.2.1 ∧
      done.2.1.last = last ∧
      (done.1.quit = true ↔ .quit ∈ es ∨ .keyDown .escape ∈ es) := by
  intro done
  obtain ⟨hcontrols, hkeypad⟩ := Controls.fresh.poll_eq ⟨.empty, last⟩ es
  refine ⟨fun c => ?_, ?_, ?_, ?_⟩
  · obtain ⟨k, hk⟩ := HostKey.exists_code?_iff c
    refine ⟨k, hk, ?_⟩
    rw [hkeypad]
    exact KeySet.contains_hearAll_iff hk es
  · rw [(Controls.fresh.poll_eq ⟨.empty, last⟩ _).2, hkeypad, KeySet.hearAll_filter_isForeign]
  · rw [hkeypad]
  · rw [hcontrols]
    simp only [hearAll, fresh, Bool.false_or, List.any_eq_true, HostEvent.quits_iff]
    constructor
    · rintro ⟨_, hmem, rfl | rfl⟩
      · exact .inl hmem
      · exact .inr hmem
    · rintro (hmem | hmem)
      · exact ⟨_, hmem, .inl rfl⟩
      · exact ⟨_, hmem, .inr rfl⟩

end ChipEight
