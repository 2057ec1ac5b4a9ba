import ChipEight.Proofs.Machine.Footprint
import ChipEight.Proofs.Pacer.Rounds

/-!
# Frames that fail

A return without a return address is refused. The refusal comes from the middle of a cycle, and the
cycle may stand in the middle of a frame, so a good deal is left half done: the word was fetched, and
the cycles before it were completed. What has to be known is that nothing else was.

A cycle that is refused so has moved its program counter behind the return and done nothing besides.
A frame with such a cycle leaves what its completed cycles left, and then that; the timers are not
stepped, the flag is not lowered, nobody is told anything, and the pacer does not count the frame.

## Main definitions

- `Machine.GoesOn`: the next cycle of a row is completed, and another one may follow.
- `Machine.FailsAt`: a row of cycles fails after so many completed ones.
- `Pacer.LeftHalfway`: what a frame that fails leaves behind.

## Main results

- `Machine.step_of_underflow`: a return that is refused has moved the program counter only.
- `Machine.burst_fault_iff`: a row tells a fault exactly if it fails at some cycle.
- `Pacer.failure_atomic`: the cycle and the frame, for every machine and every pacer.
-/

namespace ChipEight

/-! ### One cycle -/

/-- Only a return finds the stack empty, with any source. -/
theorem Instr.exec_eq_underflow {m : Machine} {i : Instr} {a : Nat}
    (h : i.exec m = .error (.stackUnderflow a)) : i = .ret ∧ a = m.registers.pc.toNat := by
  cases i with
  | ret =>
    obtain ⟨-, hf⟩ := Machine.ret_eq_error_iff.1 h
    cases hf
    exact ⟨rfl, rfl⟩
  | random x mask =>
    simp only [exec, Machine.roll] at h
    split at h <;> cases h
  | _ => cases h

namespace Machine

section

variable {m : Machine} {f : Fault} {i : Instr}

/-- **A return that is refused** has moved the program counter behind it, and nothing else. -/
theorem step_of_underflow {a : Nat} (h : m.cycle.result = .error (.stackUnderflow a)) :
    m.step = { m with registers := { m.registers with pc := m.registers.pc + 2 } } ∧
      a = (m.registers.pc + 2).toNat := by
  have hexec := exec_of_error h
  obtain ⟨hret, ha⟩ := Instr.exec_eq_underflow hexec
  rw [(cycle_of_exec_error hexec).2, hret]
  exact ⟨rfl, ha⟩

/-- With a reliable source, any word but that of a return completes its cycle. -/
theorem completes_of_word_ne (hs : m.source.Reliable) (hw : m.word ≠ 0x00EE) :
    ∃ i, m.cycle.result = .ok i := by
  cases hresult : m.cycle.result with
  | error f => exact absurd ((cycle_eq_error_iff hs).1 hresult).1 hw
  | ok i => exact ⟨i, rfl⟩

end

/-! ### Rows of cycles -/

/-- The next cycle is completed, and it does not end a row that waits for the display. -/
structure GoesOn (wait : Bool) (m : Machine) : Prop where
  completes : ∃ i, m.cycle.result = .ok i
  quiet : (wait && m.step.display.dirty) = false

/-- A row of at most `n` cycles fails in the one after the first `j`. -/
structure FailsAt (wait : Bool) (n : Nat) (m : Machine) (j : Nat) (f : Fault) : Prop where
  within : j < n
  before : ∀ i < j, (m.run i).GoesOn wait
  fails : (m.run j).cycle.result = .error f

section

variable {m : Machine} {wait : Bool} {n j : Nat} {f : Fault}

theorem FailsAt.zero (h : m.cycle.result = .error f) : m.FailsAt wait (n + 1) 0 f :=
  ⟨n.succ_pos, fun _ hi => absurd hi (Nat.not_lt_zero _), h⟩

theorem FailsAt.succ (hgo : m.GoesOn wait) (h : m.step.FailsAt wait n j f) :
    m.FailsAt wait (n + 1) (j + 1) f where
  within := Nat.succ_lt_succ h.within
  before
    | 0, _ => hgo
    | i + 1, hi => h.before i (Nat.lt_of_succ_lt_succ hi)
  fails := h.fails

/-- The row that follows the first cycle fails one cycle earlier. -/
theorem FailsAt.tail (h : m.FailsAt wait (n + 1) (j + 1) f) :
    m.GoesOn wait ∧ m.step.FailsAt wait n j f :=
  ⟨h.before 0 j.succ_pos, Nat.lt_of_succ_lt_succ h.within,
    fun i hi => h.before (i + 1) (Nat.succ_lt_succ hi), h.fails⟩

/-- A row that fails has run the cycles before, and the one that failed. -/
theorem FailsAt.burst (h : m.FailsAt wait n j f) :
    (m.burst wait n).fault = some f ∧ (m.burst wait n).machine = (m.run j).step := by
  induction j generalizing m n with
  | zero =>
    obtain ⟨n, rfl⟩ := Nat.exists_eq_add_one.2 h.within
    have hfails : m.cycle.result = .error f := h.fails
    rw [burst_of_error hfails]
    exact ⟨rfl, rfl⟩
  | succ j ih =>
    obtain ⟨n, rfl⟩ := Nat.exists_eq_add_one.2 (Nat.zero_lt_of_lt h.within)
    obtain ⟨⟨⟨i, hi⟩, hquiet⟩, htail⟩ := h.tail
    rw [burst_of_go hi hquiet]
    exact ih htail

/-- **A row tells a fault exactly if it fails at some cycle.** -/
theorem burst_fault_iff : (m.burst wait n).fault = some f ↔ ∃ j, m.FailsAt wait n j f := by
  refine ⟨fun h => ?_, fun ⟨j, hj⟩ => hj.burst.1⟩
  induction n generalizing m with
  | zero => cases h
  | succ n ih =>
    cases hresult : m.cycle.result with
    | error g =>
      rw [burst_of_error hresult] at h
      cases h
      exact ⟨0, .zero hresult⟩
    | ok i =>
      cases hdirty : wait && m.step.display.dirty with
      | true =>
        rw [burst_of_stop hresult hdirty] at h
        cases h
      | false =>
        rw [burst_of_go hresult hdirty] at h
        obtain ⟨j, hj⟩ := ih h
        exact ⟨j + 1, .succ ⟨⟨i, hresult⟩, hdirty⟩ hj⟩

/-- Completed cycles are counted. -/
theorem cycles_run (h : ∀ i < j, (m.run i).GoesOn wait) : (m.run j).cycles = m.cycles + j := by
  induction j generalizing m with
  | zero => rfl
  | succ j ih =>
    obtain ⟨i, hi⟩ := (h 0 j.succ_pos).completes
    have hfirst : m.step.cycles = m.cycles + 1 := (settled_of_ok hi).2
    have hrest : (m.step.run j).cycles = m.step.cycles + j :=
      ih fun k hk => h (k + 1) (Nat.succ_lt_succ hk)
    rw [run, hrest, hfirst]
    omega

theorem reliable_run (hs : m.source.Reliable) (j : Nat) : (m.run j).source.Reliable := by
  induction j generalizing m with
  | zero => exact hs
  | succ j ih => exact ih (reliable_step hs)

end

end Machine

/-! ### Frames -/

namespace Pacer

/-- What a frame leaves behind that fails after `j` completed cycles. -/
structure LeftHalfway (p : Pacer) (m : Machine) (j : Nat) (f : Fault) : Prop where
  /-- The frame is not counted, the budget and the sound are as they were. -/
  pacer : (p.frame m).pacer = p
  /-- Neither the screen nor the speaker is told anything. -/
  cues : (p.frame m).cues = []
  cycles : (p.frame m).machine.cycles = m.cycles + j
  /-- The timers are not stepped. -/
  timers : (p.frame m).machine.timers = (m.run j).timers
  /-- The flag is not lowered. -/
  display : (p.frame m).machine.display = (m.run j).display
  /-- A return without a return address has moved the program counter, and nothing else. -/
  machine : ∀ a, f = .stackUnderflow a →
    (p.frame m).machine =
      { m.run j with registers := { (m.run j).registers with pc := (m.run j).registers.pc + 2 } }

variable {p : Pacer} {m : Machine} {f : Fault}

/-- A frame fails exactly if its row of cycles does. -/
theorem frame_error_iff :
    (p.frame m).result = .error f ↔
      ∃ j, m.FailsAt m.dialect.displayWait p.budget.toNat j f := by
  rw [← Machine.burst_fault_iff]
  refine ⟨fun h => (frame_of_error h).1, fun h => ?_⟩
  rw [frame_of_fault h]
  rfl

theorem leftHalfway {j : Nat} (h : m.FailsAt m.dialect.displayWait p.budget.toNat j f) :
    p.LeftHalfway m j f := by
  obtain ⟨-, hframe⟩ := frame_of_error (frame_error_iff.2 ⟨j, h⟩)
  obtain ⟨hdisplay, htimers, hcycles⟩ := Machine.kept_of_error h.fails
  have hmachine : (p.frame m).machine = (m.run j).step := by
    rw [hframe]
    exact h.burst.2
  exact {
    pacer := by rw [hframe]; rfl
    cues := by rw [hframe]; rfl
    cycles := by rw [hmachine, hcycles, Machine.cycles_run h.before]
    timers := by rw [hmachine, htimers]
    display := by rw [hmachine, hdisplay]
    machine := by
      rintro a rfl
      rw [hmachine, (Machine.step_of_underflow h.fails).1] }

/-- **Failing leaves the rest intact.** A cycle that is refused for want of a return address has
moved the program counter. A frame fails exactly if one of its cycles does, and then it leaves what
the cycles before have left, but for what the failing cycle did. With a reliable source, there is no
other fault. -/
theorem failure_atomic (p : Pacer) (m : Machine) :
    (∀ a, m.cycle.result = .error (.stackUnderflow a) →
        m.step = { m with registers := { m.registers with pc := m.registers.pc + 2 } }) ∧
      (∀ f, (p.frame m).result = .error f ↔
        ∃ j, m.FailsAt m.dialect.displayWait p.budget.toNat j f) ∧
      (∀ j f, m.FailsAt m.dialect.displayWait p.budget.toNat j f → p.LeftHalfway m j f) ∧
      (m.source.Reliable → ∀ f, (p.frame m).result = .error f → ∃ a, f = .stackUnderflow a) := by
  refine ⟨fun a h => (Machine.step_of_underflow h).1, fun f => frame_error_iff,
    fun j f h => leftHalfway h, fun hs f h => ?_⟩
  obtain ⟨j, hj⟩ := frame_error_iff.1 h
  obtain ⟨-, -, hf⟩ := (Machine.cycle_eq_error_iff (Machine.reliable_run hs j)).1 hj.fails
  exact ⟨_, hf⟩

/-- A return without a return address in the third cycle of a frame, with the sound on and the sound
timer running. -/
theorem failure_atomic_third_cycle :
    let m := { Machine.fresh .plain (.constant 0) with
      memory := Memory.fresh.writeBlock 0x200 [0x60, 0x01, 0x00, 0xE0, 0x00, 0xEE]
      timers := ⟨0, 5⟩ }
    let p : Pacer := ⟨11, true, true, 7, true⟩
    let left := p.frame m
    m.source.Reliable ∧ m.FailsAt m.dialect.displayWait p.budget.toNat 2 (.stackUnderflow 0x206) ∧
      left.result = .error (.stackUnderflow 0x206) ∧ p.LeftHalfway m 2 (.stackUnderflow 0x206) ∧
      left.pacer = p ∧ left.cues = [] ∧ left.machine.registers.pc = 0x206 ∧
      left.machine.cycles = 2 ∧ left.machine.timers = ⟨0, 5⟩ ∧
      left.machine.display.dirty = true := by
  intro m p left
  have hs : m.source.Reliable := fun _ _ => ⟨0, rfl⟩
  have hgo : ∀ i < 2, (m.run i).GoesOn m.dialect.displayWait := by
    intro i hi
    have hw : ∀ i < 2, (m.run i).word ≠ 0x00EE := by decide +kernel
    exact ⟨Machine.completes_of_word_ne (Machine.reliable_run hs i) (hw i hi), rfl⟩
  have hthird : (m.run 2).word = 0x00EE ∧ (m.run 2).registers.stack = [] ∧
      (m.run 2).registers.pc = 0x204 ∧ (m.run 2).timers = ⟨0, 5⟩ ∧
      (m.run 2).display.dirty = true := by
    decide +kernel
  obtain ⟨hword, hstack, hpc, htimers, hdirty⟩ := hthird
  have hfails : m.FailsAt m.dialect.displayWait p.budget.toNat 2 (.stackUnderflow 0x206) :=
    ⟨by decide, hgo, (Machine.cycle_eq_error_iff (Machine.reliable_run hs 2)).2
      ⟨hword, hstack, by rw [hpc]; rfl⟩⟩
  obtain ⟨-, herror, hleft, -⟩ := failure_atomic p m
  have h := hleft 2 _ hfails
  refine ⟨hs, hfails, (herror _).2 ⟨2, hfails⟩, h, h.pacer, h.cues, ?_, h.cycles,
    h.timers.trans htimers, (congrArg Display.dirty h.display).trans hdirty⟩
  rw [h.machine _ rfl, hpc]
  rfl

end Pacer

end ChipEight
