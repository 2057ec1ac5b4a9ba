import ChipEight.Proofs.Machine.Fault
import ChipEight.Proofs.Machine.KeyWait
import ChipEight.Proofs.Machine.Sprites

/-!
# Where dialects differ

Each trait of a dialect replaces one rule, and for most of the states in which that rule is applied
the two versions come to the same. An instruction is sensitive to a trait if they need not: if it is
one of those whose rule the trait replaces, and if what it finds in the registers tells the versions
apart. To the trait that ends a frame with a draw no instruction is sensitive.

Two machines that differ in their dialects alone go through the same history alike, up to the first
instruction that is sensitive to a trait which one of the two has and the other one lacks.

## Main definitions

- `Machine.speaking`: a machine with another dialect.
- `Instr.sensitiveTo`, `Machine.sensitiveTo`: sensitivity to a trait, of an instruction and of the
  cycle that comes next.

## Main results

- `Instr.exec_speaking`: an instruction that is not sensitive does the same in both dialects.
- `Machine.dialect_after`: no history changes the dialect.
- `Machine.dialects_indistinguishable`: whole histories without a sensitive instruction.
-/

namespace ChipEight

/-- The machine with another dialect. -/
def Machine.speaking (m : Machine) (d : Dialect) : Machine :=
  { m with dialect := d }

/-! ### Sensitivity -/

/-- The first digit of an address is the number of a register. -/
theorem Address.firstDigit_lt (a : Address) : a.val / 256 < 16 := by
  omega

/-- Whether an instruction may depend on a trait when the registers are these.

- The flag register is zeroed before `8XY1`, `8XY2` and `8XY3`, which shows if it is not zero.
- The index register is moved by `FX55` and `FX65`.
- Pixels beyond the edges are dropped by `DXYN`, which shows only if the sprite meets an edge.
- `8XY6` and `8XYE` shift `VX` in place of `VY`, which shows if the two are different.
- `BNNN` adds another register in place of `V0`, which shows if the two are different. -/
def Instr.sensitiveTo (r : Registers) : Instr → Trait → Bool
  | .alu f _ _, .vfReset => decide ((f = .or ∨ f = .and ∨ f = .xor) ∧ r.get flagReg ≠ 0)
  | .storeRegs _, .memory => true
  | .loadRegs _, .memory => true
  | .draw x y n, .clipping =>
    decide (64 < (r.get x).toNat % 64 + 8 ∨ 32 < (r.get y).toNat % 32 + n.val)
  | .alu f x y, .shifting => decide ((f = .shiftRight ∨ f = .shiftLeft) ∧ r.get x ≠ r.get y)
  | .jumpOffset a, .jumping => decide (r.get baseReg ≠ r.get ⟨a.val / 256, a.firstDigit_lt⟩)
  | _, _ => false

/-- An instruction is not sensitive to any trait on which two dialects differ. -/
def Instr.IndifferentTo (r : Registers) (i : Instr) (d e : Dialect) : Prop :=
  ∀ t, d.has t ≠ e.has t → i.sensitiveTo r t = false

/-! ### Registers -/

namespace Registers

variable {r : Registers} {d e : Dialect}

/-- Zeroing a flag that is zero already changes nothing. -/
theorem forBitwise_of_flag_eq_zero (h : r.get flagReg = 0) (d : Dialect) : r.forBitwise d = r := by
  rw [forBitwise]
  split
  · rw [← h, set_get_self]
  · rfl

theorem forBitwise_congr (h : d.vfReset ≠ e.vfReset → r.get flagReg = 0) :
    r.forBitwise d = r.forBitwise e := by
  by_cases hde : d.vfReset = e.vfReset
  · rw [forBitwise, forBitwise, hde]
  · rw [forBitwise_of_flag_eq_zero (h hde), forBitwise_of_flag_eq_zero (h hde)]

theorem shiftSource_congr {x y : Reg} (h : d.shifting ≠ e.shifting → r.get x = r.get y) :
    r.shiftSource d x y = r.shiftSource e x y := by
  by_cases hde : d.shifting = e.shifting
  · rw [shiftSource, shiftSource, hde]
  · rw [shiftSource, shiftSource, h hde, ite_self, ite_self]

/-- A two-register operation depends on the dialect only where it is sensitive to it. -/
theorem operate_congr {f : Alu} {x y : Reg} (h : (Instr.alu f x y).IndifferentTo r d e) :
    r.operate d f x y = r.operate e f x y := by
  have hvf : (f = .or ∨ f = .and ∨ f = .xor) → r.forBitwise d = r.forBitwise e := by
    intro hf
    refine forBitwise_congr fun hde => ?_
    have hflag := h .vfReset hde
    simp only [Instr.sensitiveTo, hf, true_and, decide_eq_false_iff_not, not_not] at hflag
    exact hflag
  have hshift : (f = .shiftRight ∨ f = .shiftLeft) → r.shiftSource d x y = r.shiftSource e x y := by
    intro hf
    refine shiftSource_congr fun hde => ?_
    have hsame := h .shifting hde
    simp only [Instr.sensitiveTo, hf, true_and, decide_eq_false_iff_not, not_not] at hsame
    exact hsame
  cases f with
  | or | and | xor => simp only [operate, hvf (by simp)]
  | shiftRight | shiftLeft => simp only [operate, hshift (by simp)]
  | copy | add | sub | subFrom => rfl

end Registers

/-! ### Instructions -/

namespace Machine

variable {m : Machine} {e : Dialect}

theorem afterBlock_speaking (h : m.dialect.memory = e.memory) (x : Reg) :
    (m.speaking e).afterBlock x = m.afterBlock x := by
  simp only [afterBlock, h]
  rfl

theorem jumpRegister_speaking {a : Address}
    (h : (Instr.jumpOffset a).IndifferentTo m.registers m.dialect e) :
    (m.registers.get ((m.speaking e).jumpRegister a)) = m.registers.get (m.jumpRegister a) := by
  by_cases hde : m.dialect.jumping = e.jumping
  · simp only [jumpRegister, hde]
    rfl
  · have hsame := h .jumping hde
    simp only [Instr.sensitiveTo, decide_eq_false_iff_not, ne_eq, not_not] at hsame
    simp only [jumpRegister, apply_ite m.registers.get, ← hsame, ite_self]

/-- A sprite that meets no edge falls on the same cells in every dialect. -/
theorem spriteCells_speaking {x y : Reg} {rows : Fin 16}
    (h : (Instr.draw x y rows).IndifferentTo m.registers m.dialect e) :
    (m.speaking e).spriteCells x y rows.val = m.spriteCells x y rows.val := by
  have hrows : (m.speaking e).spriteRows rows.val = m.spriteRows rows.val := rfl
  have hcells : Sprite.cells e.clipping ((m.registers.get x).toNat % 64)
        ((m.registers.get y).toNat % 32) (m.spriteRows rows.val) =
      Sprite.cells m.dialect.clipping ((m.registers.get x).toNat % 64)
        ((m.registers.get y).toNat % 32) (m.spriteRows rows.val) := by
    by_cases hde : m.dialect.clipping = e.clipping
    · rw [hde]
    · have hfits := h .clipping hde
      simp only [Instr.sensitiveTo, decide_eq_false_iff_not, not_or, Nat.not_lt] at hfits
      refine Sprite.cells_of_fits _ _ hfits.1 ?_
      rw [length_spriteRows]
      exact hfits.2
  rw [spriteCells, spriteCells, hrows]
  exact hcells

end Machine

/-- **An instruction that is not sensitive does the same in both dialects.** -/
theorem Instr.exec_speaking {m : Machine} {e : Dialect} {i : Instr}
    (h : i.IndifferentTo m.registers m.dialect e) :
    i.exec (m.speaking e) = (i.exec m).map fun n => n.speaking e := by
  cases i with
  | ret =>
    simp only [Instr.exec, Machine.ret, Machine.speaking]
    cases m.registers.pop? <;> rfl
  | alu f x y =>
    have hoperate : m.registers.operate e f x y = m.registers.operate m.dialect f x y :=
      (Registers.operate_congr h).symm
    simp only [Instr.exec, Machine.onRegisters, Machine.speaking, hoperate, Except.map]
  | jumpOffset a =>
    have hregister := Machine.jumpRegister_speaking h
    simp only [Machine.speaking] at hregister
    simp only [Instr.exec, Machine.onRegisters, Machine.speaking, hregister, Except.map]
  | random x mask =>
    simp only [Instr.exec, Machine.roll, Machine.speaking]
    rcases m.source.next with ⟨b | f, source⟩ <;> rfl
  | draw x y rows =>
    have hcells := Machine.spriteCells_speaking h
    simp only [Machine.speaking] at hcells
    simp only [Instr.exec, Machine.draw, Machine.speaking, hcells, Except.map]
  | awaitKey x =>
    simp only [Instr.exec, Machine.awaitKey, Machine.speaking]
    cases m.keypad.released? <;> rfl
  | storeRegs x =>
    have hmemory : m.dialect.memory = e.memory := by
      by_contra hde
      cases h .memory hde
    have hblock := Machine.afterBlock_speaking hmemory x
    simp only [Machine.speaking] at hblock
    simp only [Instr.exec, Machine.storeRegs, Machine.speaking, hblock, Except.map]
  | loadRegs x =>
    have hmemory : m.dialect.memory = e.memory := by
      by_contra hde
      cases h .memory hde
    have hblock := Machine.afterBlock_speaking hmemory x
    simp only [Machine.speaking] at hblock
    simp only [Instr.exec, Machine.loadRegs, Machine.speaking, hblock, Except.map]
  | _ => rfl

/-! ### Cycles and histories -/

namespace Machine

theorem dialect_step (m : Machine) : m.step.dialect = m.dialect := by
  cases h : (decode m.word).exec m.fetched with
  | error f =>
    rw [(cycle_of_exec_error h).2]
    cases decode m.word <;> rfl
  | ok n =>
    have hn : n.dialect = m.fetched.dialect := Instr.dialect_exec h
    rw [(cycle_of_exec_ok h).2]
    exact hn

theorem dialect_feed (m : Machine) (i : Input) : (m.feed i).dialect = m.dialect := by
  rw [feed_eq]

/-- No history changes the dialect. -/
theorem dialect_after (m : Machine) (es : List Event) : (m.after es).dialect = m.dialect := by
  induction es generalizing m with
  | nil => rfl
  | cons e es ih =>
    rw [after_cons, ih]
    cases e with
    | cycle => exact m.dialect_step
    | input i => exact m.dialect_feed i
    | consume => rfl

/-- Whether the next cycle executes an instruction that is sensitive to a trait. -/
def sensitiveTo (m : Machine) (t : Trait) : Bool :=
  (decode m.word).sensitiveTo m.registers t

variable {m : Machine} {e : Dialect}

/-- A cycle that is not sensitive ends alike in both dialects, and leaves the same behind. -/
theorem cycle_speaking (h : ∀ t, m.dialect.has t ≠ e.has t → m.sensitiveTo t = false) :
    (m.speaking e).cycle.result = m.cycle.result ∧ (m.speaking e).step = m.step.speaking e := by
  have hword : (m.speaking e).word = m.word := rfl
  -- Fetching a word moves the program counter, which sensitivity does not look at.
  have hfetched : (decode m.word).IndifferentTo m.fetched.registers m.fetched.dialect e := by
    intro t ht
    rw [← h t ht, sensitiveTo]
    cases decode m.word <;> cases t <;> rfl
  have hexec := Instr.exec_speaking hfetched
  rw [show m.fetched.speaking e = (m.speaking e).fetched from rfl] at hexec
  cases hm : (decode m.word).exec m.fetched with
  | error f =>
    rw [hm, ← hword] at hexec
    rw [(cycle_of_exec_error hm).1, (cycle_of_exec_error hm).2, (cycle_of_exec_error hexec).1,
      (cycle_of_exec_error hexec).2, hword]
    refine ⟨rfl, ?_⟩
    cases decode m.word <;> rfl
  | ok n =>
    rw [hm, ← hword] at hexec
    rw [(cycle_of_exec_ok hm).1, (cycle_of_exec_ok hm).2, (cycle_of_exec_ok hexec).1,
      (cycle_of_exec_ok hexec).2, hword]
    exact ⟨rfl, rfl⟩

theorem feed_speaking (m : Machine) (e : Dialect) (i : Input) :
    (m.speaking e).feed i = (m.feed i).speaking e := by
  rw [feed_eq, feed_eq]
  rfl

/-- As long as no cycle is sensitive, a machine goes through a history in another dialect as it does
in its own. -/
theorem after_speaking {es : List Event}
    (h : ∀ k ∈ m.beginnings es, ∀ t, m.dialect.has t ≠ e.has t → k.sensitiveTo t = false) :
    (m.speaking e).after es = (m.after es).speaking e ∧
      (m.speaking e).outcomes es = m.outcomes es := by
  induction es generalizing m with
  | nil => exact ⟨rfl, rfl⟩
  | cons event es ih =>
    cases event with
    | cycle =>
      obtain ⟨hresult, hstep⟩ := cycle_speaking (h m List.mem_cons_self)
      have hrest : ∀ k ∈ m.step.beginnings es, ∀ t, m.step.dialect.has t ≠ e.has t →
          k.sensitiveTo t = false := by
        rw [dialect_step]
        exact fun k hk => h k (List.mem_cons_of_mem m hk)
      obtain ⟨hafter, houtcomes⟩ := ih hrest
      rw [← hstep] at hafter houtcomes
      exact ⟨hafter, List.cons_eq_cons.2 ⟨hresult, houtcomes⟩⟩
    | input i =>
      have hrest : ∀ k ∈ (m.feed i).beginnings es, ∀ t, (m.feed i).dialect.has t ≠ e.has t →
          k.sensitiveTo t = false := by
        rw [dialect_feed]
        exact h
      have hih := ih hrest
      rw [← feed_speaking] at hih
      exact hih
    | consume => exact ih (m := m.react .consume) h

/-- **Each trait changes only what it is there for.** A machine goes through a history in two
dialects, with the same random source, the same inputs and the same steps of the timers. No cycle of
it, in the first dialect, executes an instruction that is sensitive to a trait on which the two
dialects differ. Then the two machines are the same at its end, but for the dialects that they speak,
and all their cycles have ended alike. So they are the same up to the first sensitive instruction,
whatever comes after it. -/
theorem dialects_indistinguishable (m : Machine) (d e : Dialect) {es : List Event}
    (h : ∀ k ∈ (m.speaking d).beginnings es, ∀ t, d.has t ≠ e.has t → k.sensitiveTo t = false) :
    (m.speaking e).after es = ((m.speaking d).after es).speaking e ∧
      ((m.speaking d).after es).dialect = d ∧
      (m.speaking e).outcomes es = (m.speaking d).outcomes es := by
  obtain ⟨hafter, houtcomes⟩ := after_speaking (m := m.speaking d) h
  exact ⟨hafter, dialect_after _ es, houtcomes⟩

/-- Two dialects that differ on every trait. The program combines registers while the flag is zero,
draws a glyph that meets no edge, shifts a register in place, and jumps by a register that is as
great as `V0`. -/
theorem dialects_indistinguishable_inside :
    let program : List UInt8 :=
      [0x80, 0x11, 0xA0, 0x50, 0x61, 0x38, 0xD1, 0x05, 0x80, 0x06, 0xB2, 0x0C, 0xC1, 0xFF]
    let m := { fresh .plain (.constant 7) with memory := Memory.fresh.writeBlock 0x200 program }
    let e : Dialect := ⟨true, true, true, true, true, true⟩
    let es : List Event :=
      [.cycle, .cycle, .cycle, .input (.key 3 true), .cycle, .cycle, .input .tick, .cycle, .cycle]
    (∀ k ∈ (m.speaking .plain).beginnings es, ∀ t, Dialect.plain.has t ≠ e.has t →
        k.sensitiveTo t = false) ∧
      (m.speaking e).after es = ((m.speaking .plain).after es).speaking e ∧
      (m.speaking e).outcomes es = (m.speaking .plain).outcomes es ∧
      ((m.speaking .plain).after es).registers.get 1 = 7 ∧
      ((m.speaking .plain).after es).display.pixel ⟨56, 0⟩ = true := by
  intro program m e es
  have h : ∀ k ∈ (m.speaking .plain).beginnings es, ∀ t ∈ Trait.all,
      Dialect.plain.has t ≠ e.has t → k.sensitiveTo t = false := by decide +kernel
  have hall : ∀ k ∈ (m.speaking .plain).beginnings es, ∀ t, Dialect.plain.has t ≠ e.has t →
      k.sensitiveTo t = false := fun k hk t => h k hk t (Trait.mem_all t)
  obtain ⟨hafter, -, houtcomes⟩ := dialects_indistinguishable m .plain e hall
  exact ⟨hall, hafter, houtcomes, by decide +kernel, by decide +kernel⟩

end Machine

end ChipEight
