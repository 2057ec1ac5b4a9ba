import ChipEight.Proofs.Machine.Dialects
import ChipEight.Proofs.Machine.Pace
import ChipEight.Proofs.Pacer.Rounds

/-!
# Programs do not see the pacer

The budget of a frame, what is attached to the pacer, and the trait that ends a frame with a draw
decide how the cycles of a machine are cut into frames. They do not decide which cycles there are.
Two pacers that drive machines of the same progress, with nobody at the keys, have brought them to
the same progress whenever they have begun as many cycles, as long as no `FX07` was executed.

## Main results

- `Console.withoutPace_history`: without keys, all that is left of rounds without their pace is the
  number of their cycles.
- `Console.progress_independent_of_pace`: the pace does not matter, be it that of a host or that of
  a pacer.
-/

namespace ChipEight

/-- A history that touches no key leaves nothing but its cycles when its pace is taken out. -/
theorem Machine.withoutPace_eq_replicate (m : Machine) {es : List Event}
    (hes : ∀ e ∈ es, e = .cycle ∨ e.isPace = true) :
    withoutPace es = List.replicate (m.beginnings es).length .cycle := by
  induction es generalizing m with
  | nil => rfl
  | cons e es ih =>
    have hrest := fun f hf => hes f (List.mem_cons_of_mem e hf)
    rcases hes e List.mem_cons_self with rfl | he
    · rw [withoutPace_cons rfl, ih m.step hrest]
      rfl
    · rw [withoutPace_cons_of_isPace he, beginnings_cons_of_isPace m he, ih _ hrest]

/-- A frame runs cycles and sets the pace, and does nothing else. -/
theorem Pacer.mem_history {p : Pacer} {m : Machine} {e : Event} (he : e ∈ p.history m) :
    e = .cycle ∨ e.isPace = true := by
  rw [history, List.mem_append, closing] at he
  rcases he with he | he
  · exact .inl (List.eq_of_mem_replicate he)
  · split at he
    · cases he
    · simp only [List.mem_cons, List.not_mem_nil, or_false] at he
      rcases he with rfl | rfl
      · exact .inr rfl
      · exact .inr rfl

namespace Console

/-- Rounds in which nobody touches a key. -/
def KeysAlone (rs : List (List Input)) : Prop :=
  ∀ is ∈ rs, ∀ i ∈ is, i = .tick

theorem mem_history {c : Console} {rs : List (List Input)} (hrs : KeysAlone rs) {e : Event}
    (he : e ∈ c.history rs) : e = .cycle ∨ e.isPace = true := by
  induction rs generalizing c with
  | nil => cases he
  | cons is rs ih =>
    rw [history, List.mem_append, List.mem_append] at he
    rcases he with (he | he) | he
    · obtain ⟨i, hi, rfl⟩ := List.mem_map.1 he
      rw [hrs is List.mem_cons_self i hi]
      exact .inr rfl
    · exact Pacer.mem_history he
    · exact ih (fun js hjs => hrs js (List.mem_cons_of_mem is hjs)) he

/-- Without keys, rounds are told apart by the number of their cycles, once their pace is taken
out. -/
theorem withoutPace_history (c : Console) {rs : List (List Input)} (hrs : KeysAlone rs) :
    withoutPace (c.history rs) =
      List.replicate (c.machine.beginnings (c.history rs)).length .cycle :=
  c.machine.withoutPace_eq_replicate fun _ => mem_history hrs

/-- **The pace of a machine does not influence its program**, but through `FX07`. Two machines begin
with the same progress; they may be one and the same.

A history of the first one executes no `FX07`. Then after each part of it, the second machine has
made the same progress by any history that is the same without its pace. Up to there all cycles have
ended alike, with the same instructions completed and the same faults, and the dialects are what they
were. So all that tells one machine apart from itself, on another way, are its timers and its flag.

Two pacers drive the two machines, whatever their budgets, whatever is attached to them, and
whether or not a draw ends a frame. Nobody touches a key, and the first pacer runs no `FX07`. Then
the machines have made the same progress when as many cycles were begun on either. -/
theorem progress_independent_of_pace {m n : Machine} (h : m.SameProgress n) :
    (∀ es, m.IgnoresDelay es → ∀ es' fs', es' <+: es → withoutPace es' = withoutPace fs' →
      (m.after es').SameProgress (n.after fs') ∧ m.outcomes es' = n.outcomes fs' ∧
        (m.after es').dialect = m.dialect ∧ (n.after fs').dialect = n.dialect) ∧
    ∀ (p q : Pacer) (rs ss : List (List Input)),
      let c : Console := ⟨m, p⟩
      let d : Console := ⟨n, q⟩
      KeysAlone rs → KeysAlone ss → m.IgnoresDelay (c.history rs) →
        (m.beginnings (c.history rs)).length = (n.beginnings (d.history ss)).length →
        (c.rounds rs).machine.SameProgress (d.rounds ss).machine := by
  constructor
  · intro es hes es' fs' hprefix heq
    obtain ⟨hafter, houtcomes⟩ := h.after heq (hes.of_isPrefix hprefix)
    exact ⟨hafter, houtcomes, m.dialect_after es', n.dialect_after fs'⟩
  · intro p q rs ss c d hrs hss hd hlength
    have heq : withoutPace (c.history rs) = withoutPace (d.history ss) := by
      rw [c.withoutPace_history hrs, d.withoutPace_history hss]
      exact congrArg (List.replicate · _) hlength
    rw [machine_rounds, machine_rounds]
    exact (h.after heq hd).1

/-- A loop clears the picture and sets both timers. One pacer takes two frames of three cycles for
it; the other one ends a frame at each draw, and has begun as many cycles after four frames. -/
theorem progress_independent_of_pace_loop :
    let program : List UInt8 :=
      [0x00, 0xE0, 0x61, 0x05, 0xF1, 0x15, 0xF1, 0x18, 0x12, 0x00]
    let m := { Machine.fresh .plain (.constant 0) with
      memory := Memory.fresh.writeBlock 0x200 program }
    let n := { m with dialect := m.dialect.put .displayWait true }
    let es : List Event := [.cycle, .consume, .cycle, .input .tick, .cycle, .input (.key 3 true)]
    let fs : List Event := [.cycle, .cycle, .cycle, .input .tick, .input (.key 3 true)]
    let c : Console := ⟨m, .new 3 true true⟩
    let d : Console := ⟨n, .new 2 false false⟩
    let rs : List (List Input) := [[], []]
    let ss : List (List Input) := [[], [], [.tick], []]
    m.SameProgress n ∧ m.IgnoresDelay es ∧ withoutPace es = withoutPace fs ∧
      (m.after es).SameProgress (n.after fs) ∧ m.outcomes es = n.outcomes fs ∧
      KeysAlone rs ∧ KeysAlone ss ∧ m.IgnoresDelay (c.history rs) ∧
      (m.beginnings (c.history rs)).length = 6 ∧ (n.beginnings (d.history ss)).length = 6 ∧
      (c.rounds rs).machine.SameProgress (d.rounds ss).machine := by
  intro program m n es fs c d rs ss
  have h : m.SameProgress n :=
    { Machine.SameProgress.refl m with
      dialect := fun t ht => (m.dialect.has_put .displayWait t true).trans (if_neg ht.symm) |>.symm }
  have hes : m.IgnoresDelay es := by
    unfold Machine.IgnoresDelay
    decide +kernel
  have heq : withoutPace es = withoutPace fs := rfl
  have hrs : KeysAlone rs := by simp [KeysAlone, rs]
  have hss : KeysAlone ss := by simp [KeysAlone, ss]
  have hd : m.IgnoresDelay (c.history rs) := by
    unfold Machine.IgnoresDelay
    decide +kernel
  have hm : (m.beginnings (c.history rs)).length = 6 := by decide +kernel
  have hn : (n.beginnings (d.history ss)).length = 6 := by decide +kernel
  obtain ⟨hhistories, hpacers⟩ := progress_independent_of_pace h
  obtain ⟨hafter, houtcomes, -, -⟩ := hhistories es hes es fs (List.prefix_refl es) heq
  exact ⟨h, hes, heq, hafter, houtcomes, hrs, hss, hd, hm, hn,
    hpacers _ _ rs ss hrs hss hd (hm.trans hn.symm)⟩

end Console

end ChipEight
