import ChipEight.Proofs.Machine.Parts

/-!
# When a cycle fails

Of the instructions only a return can fail on its own account, and only when no return address is
left. A random byte is drawn from a source that the machine does not own, so that it may fail to
come; of a source that always yields bytes nothing is to be feared. Every other instruction succeeds
on every machine.

## Main definitions

- `RandomSource.Reliable`: all draws yield bytes.

## Main results

- `Instr.exec_eq_error_iff`: which instruction fails on which machine, and with which fault.
- `Machine.cycle_eq_error_iff`: the same of a cycle, told by the word at the program counter.
- `Machine.reliable_step`: a reliable source stays reliable.
-/

namespace ChipEight

/-! ### Reliable sources -/

/-- All draws that a source has still to make yield bytes. -/
def RandomSource.Reliable : RandomSource → Prop
  | .tape draws taken => ∀ k, taken ≤ k → ∃ b, draws k = .ok b
  | .twister _ => True

theorem RandomSource.Reliable.next {s : RandomSource} (h : s.Reliable) :
    ∃ b, s.next.1 = .ok b ∧ s.next.2.Reliable := by
  cases s with
  | tape draws taken =>
    obtain ⟨b, hb⟩ := h taken (Nat.le_refl _)
    exact ⟨b, hb, fun k hk => h k (by omega)⟩
  | twister t => exact ⟨t.nextByte.1, rfl, trivial⟩

/-! ### The word of a return -/

/-- Only one word stands for a return. -/
theorem decode_eq_ret_iff {w : UInt16} : decode w = .ret ↔ w = 0x00EE := by
  constructor
  · intro h
    rw [← encode_decode w, h]
    rfl
  · rintro rfl
    rfl

/-! ### Instructions -/

namespace Machine

/-- Drawing a random byte succeeds when the source is reliable. -/
theorem roll_of_reliable {m : Machine} (hs : m.source.Reliable) (x : Reg) (mask : UInt8) :
    ∃ b, m.roll x mask =
        .ok { m with source := m.source.next.2, registers := m.registers.set x (b &&& mask) } ∧
      m.source.next.2.Reliable := by
  obtain ⟨b, hb, hr⟩ := hs.next
  refine ⟨b, ?_, hr⟩
  have hn : m.source.next = (.ok b, m.source.next.2) := Prod.ext hb rfl
  rw [roll, hn]

theorem ret_eq_error_iff {m : Machine} {f : Fault} :
    m.ret = .error f ↔ m.registers.stack = [] ∧ f = .stackUnderflow m.registers.pc.toNat := by
  rw [ret, Registers.pop?]
  cases m.registers.stack <;> simp [eq_comm]

end Machine

/-- With a reliable source, an instruction fails exactly if it is a return and no return address is
left; the fault tells the program counter. -/
theorem Instr.exec_eq_error_iff {m : Machine} (hs : m.source.Reliable) {i : Instr} {f : Fault} :
    i.exec m = .error f ↔
      i = .ret ∧ m.registers.stack = [] ∧ f = .stackUnderflow m.registers.pc.toNat := by
  cases i with
  | ret => simp [Instr.exec, Machine.ret_eq_error_iff]
  | random x mask =>
    obtain ⟨b, hb, -⟩ := Machine.roll_of_reliable hs x mask
    simp [Instr.exec, hb]
  | _ => simp [Instr.exec]

/-- An instruction leaves a reliable source reliable. -/
theorem Instr.reliable_exec {m n : Machine} (hs : m.source.Reliable) {i : Instr}
    (h : i.exec m = .ok n) : n.source.Reliable := by
  rw [sourceAfter_exec h]
  cases i with
  | random x mask =>
    obtain ⟨b, -, hr⟩ := hs.next
    exact hr
  | _ => exact hs

/-! ### Cycles -/

namespace Machine

/-- What a cycle is, told by what its instruction does behind the fetch. -/
theorem cycle_of_exec_ok {m n : Machine} (h : (decode m.word).exec m.fetched = .ok n) :
    m.cycle.result = .ok (decode m.word) ∧ m.step = n.settled := by
  simp [cycle, step, h]

theorem cycle_of_exec_error {m : Machine} {f : Fault}
    (h : (decode m.word).exec m.fetched = .error f) :
    m.cycle.result = .error f ∧ m.step = m.fetched.spent (decode m.word) := by
  simp [cycle, step, h]

/-- What the instruction of a cycle does, told by what the cycle ends with. -/
theorem exec_of_ok {m : Machine} {i : Instr} (h : m.cycle.result = .ok i) :
    ∃ n, (decode m.word).exec m.fetched = .ok n := by
  cases hexec : (decode m.word).exec m.fetched with
  | error f =>
    rw [(cycle_of_exec_error hexec).1] at h
    cases h
  | ok n => exact ⟨n, rfl⟩

theorem exec_of_error {m : Machine} {f : Fault} (h : m.cycle.result = .error f) :
    (decode m.word).exec m.fetched = .error f := by
  cases hexec : (decode m.word).exec m.fetched with
  | error g =>
    rw [(cycle_of_exec_error hexec).1] at h
    cases h
    rfl
  | ok n =>
    rw [(cycle_of_exec_ok hexec).1] at h
    cases h

/-- A cycle that fails keeps picture, timers and count, whatever the fault. -/
theorem kept_of_error {m : Machine} {f : Fault} (h : m.cycle.result = .error f) :
    m.step.display = m.display ∧ m.step.timers = m.timers ∧ m.step.cycles = m.cycles := by
  rw [(cycle_of_exec_error (exec_of_error h)).2]
  cases decode m.word <;> exact ⟨rfl, rfl, rfl⟩

/-- **When a cycle fails.** With a reliable source, a cycle fails exactly if a return stands at the
program counter and no return address is left. The fault then tells the program counter behind the
return. -/
theorem cycle_eq_error_iff {m : Machine} (hs : m.source.Reliable) {f : Fault} :
    m.cycle.result = .error f ↔
      m.word = 0x00EE ∧ m.registers.stack = [] ∧
        f = .stackUnderflow (m.registers.pc + 2).toNat := by
  rw [← decode_eq_ret_iff]
  have hf : m.fetched.source.Reliable := hs
  have key : m.cycle.result = .error f ↔ (decode m.word).exec m.fetched = .error f :=
    ⟨exec_of_error, fun h => (cycle_of_exec_error h).1⟩
  rw [key, Instr.exec_eq_error_iff hf]
  rfl

/-- A cycle that fails has only moved the program counter. -/
theorem step_of_error {m : Machine} (hs : m.source.Reliable) {f : Fault}
    (h : m.cycle.result = .error f) : m.step = m.fetched := by
  have hexec := exec_of_error h
  obtain ⟨hret, -, -⟩ := (Instr.exec_eq_error_iff (m := m.fetched) hs).1 hexec
  rw [(cycle_of_exec_error hexec).2, hret]
  rfl

theorem reliable_step {m : Machine} (hs : m.source.Reliable) : m.step.source.Reliable := by
  cases h : (decode m.word).exec m.fetched with
  | error g =>
    rw [step_of_error hs (cycle_of_exec_error h).1]
    exact hs
  | ok n =>
    have hn : n.source.Reliable := Instr.reliable_exec (m := m.fetched) hs h
    rw [(cycle_of_exec_ok h).2]
    exact hn

end Machine

end ChipEight
