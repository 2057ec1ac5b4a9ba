import ChipEight.Proofs.Machine.Blocks
import ChipEight.Proofs.Machine.Fault
import ChipEight.Proofs.Machine.History
import Mathlib.Data.List.Forall2

/-!
# The address space has twelve bits

The program counter, the index register and the return addresses have sixteen bits, and arithmetic
on them wraps at 65536. Memory has 4096 cells, and whoever follows an address takes it modulo 4096.
So the four highest bits of an address are never looked at: they are carried along, and no
instruction lets them touch anything else.

Two machines that differ in nothing but such bits are congruent. Congruence is kept by every event,
whatever the program: the two machines run in step, draw the same pictures and take the same bytes
from their random sources. A fault of a return tells an address, and the two addresses may differ in
the bits that nobody looks at. Everything else about the two runs is the same.

## Main definitions

- `SameCell`: two addresses that name the same cell.
- `Registers.Congruent`, `Machine.Congruent`: equal but for the high bits of addresses.

## Main results

- `Instr.exec_congruent`: an instruction takes congruent machines to congruent machines.
- `Machine.Congruent.cycle`: a cycle fails in both or completes the same instruction in both.
- `Machine.Congruent.lockstep`: congruent machines stay congruent along every history.
-/

namespace ChipEight

/-! ### Addresses -/

/-- Two addresses name the same cell: they agree modulo 4096. -/
def SameCell (a b : UInt16) : Prop :=
  a.toNat % 4096 = b.toNat % 4096

namespace SameCell

instance (a b : UInt16) : Decidable (SameCell a b) :=
  inferInstanceAs (Decidable (_ = _))

theorem refl (a : UInt16) : SameCell a a := rfl

/-- 65536 is a multiple of 4096, so an addition that wraps keeps the cell. -/
theorem add {a b : UInt16} (h : SameCell a b) (c : UInt16) : SameCell (a + c) (b + c) := by
  rw [SameCell] at *
  rw [UInt16.toNat_add, UInt16.toNat_add]
  omega

theorem sub {a b : UInt16} (h : SameCell a b) (c : UInt16) : SameCell (a - c) (b - c) := by
  rw [SameCell] at *
  rw [UInt16.toNat_sub, UInt16.toNat_sub]
  omega

/-- The cells at the same distance behind two addresses of one cell are the same. -/
theorem emod_add {a b : UInt16} (h : SameCell a b) (k : Int) :
    ((a.toNat : Int) + k) % 4096 = ((b.toNat : Int) + k) % 4096 := by
  rw [SameCell] at h
  omega

end SameCell

/-! ### Registers -/

/-- Two register files that differ at most in the high bits of addresses. -/
structure Registers.Congruent (r s : Registers) : Prop where
  v : r.v = s.v
  pc : SameCell r.pc s.pc
  index : SameCell r.index s.index
  stack : List.Forall₂ SameCell r.stack s.stack

namespace Registers.Congruent

variable {r s : Registers}

theorem get (h : r.Congruent s) (x : Reg) : r.get x = s.get x := by
  rw [Registers.get, Registers.get, h.v]

theorem set (h : r.Congruent s) (x : Reg) (b : UInt8) : (r.set x b).Congruent (s.set x b) := by
  refine ⟨?_, h.pc, h.index, h.stack⟩
  simp only [Registers.set, h.v]

theorem goto (h : r.Congruent s) {a b : UInt16} (hab : SameCell a b) :
    (r.goto a).Congruent (s.goto b) :=
  ⟨h.v, hab, h.index, h.stack⟩

theorem point (h : r.Congruent s) {a b : UInt16} (hab : SameCell a b) :
    (r.point a).Congruent (s.point b) :=
  ⟨h.v, h.pc, hab, h.stack⟩

theorem push (h : r.Congruent s) {a b : UInt16} (hab : SameCell a b) :
    (r.push a).Congruent (s.push b) :=
  ⟨h.v, h.pc, h.index, .cons hab h.stack⟩

theorem advance (h : r.Congruent s) : r.advance.Congruent s.advance :=
  h.goto (h.pc.add 2)

theorem skipIf (h : r.Congruent s) (c : Bool) : (r.skipIf c).Congruent (s.skipIf c) := by
  cases c
  · exact h
  · exact h.advance

theorem withGeneral (h : r.Congruent s) (v : Vector UInt8 16) :
    ({ r with v := v } : Registers).Congruent { s with v := v } :=
  ⟨rfl, h.pc, h.index, h.stack⟩

/-- Taking a return address succeeds in both register files or in neither. -/
theorem pop? (h : r.Congruent s) {a : UInt16} {r' : Registers} (hr : r.pop? = some (a, r')) :
    ∃ b s', s.pop? = some (b, s') ∧ SameCell a b ∧ r'.Congruent s' := by
  obtain ⟨rv, rpc, ri, rstack⟩ := r
  obtain ⟨sv, spc, si, sstack⟩ := s
  obtain ⟨hv, hpc, hi, hstack⟩ := h
  cases hstack with
  | nil => cases hr
  | cons hab hrest =>
    cases hr
    exact ⟨_, _, rfl, hab, hv, hpc, hi, hrest⟩

theorem stack_eq_nil_iff (h : r.Congruent s) : r.stack = [] ↔ s.stack = [] := by
  rw [← List.length_eq_zero_iff, ← List.length_eq_zero_iff, h.stack.length_eq]

theorem setWithFlag (h : r.Congruent s) (x : Reg) (b : UInt8) (flag : Bool) :
    (r.setWithFlag x b flag).Congruent (s.setWithFlag x b flag) :=
  (h.set x b).set flagReg _

theorem forBitwise (h : r.Congruent s) (d : Dialect) :
    (r.forBitwise d).Congruent (s.forBitwise d) := by
  rw [Registers.forBitwise, Registers.forBitwise]
  split
  · exact h.set flagReg 0
  · exact h

theorem operate (h : r.Congruent s) (d : Dialect) (f : Alu) (x y : Reg) :
    (r.operate d f x y).Congruent (s.operate d f x y) := by
  have hb := h.forBitwise d
  have hsource : r.shiftSource d x y = s.shiftSource d x y := by
    simp only [Registers.shiftSource, h.get]
  cases f with
  | copy => simpa only [Registers.operate, h.get] using h.set x _
  | or | and | xor => simpa only [Registers.operate, hb.get] using hb.set x _
  | add | sub | subFrom => simpa only [Registers.operate, h.get] using h.setWithFlag x _ _
  | shiftRight | shiftLeft =>
    simp only [Registers.operate, hsource]
    exact h.setWithFlag x _ _

end Registers.Congruent

/-! ### Machines -/

/-- Two machines that differ at most in the high bits of addresses. -/
structure Machine.Congruent (m n : Machine) : Prop where
  dialect : m.dialect = n.dialect
  source : m.source = n.source
  memory : m.memory = n.memory
  registers : m.registers.Congruent n.registers
  display : m.display = n.display
  keypad : m.keypad = n.keypad
  timers : m.timers = n.timers
  cycles : m.cycles = n.cycles

namespace Machine.Congruent

variable {m n : Machine}

/-- Changes that keep the registers congruent keep the machines congruent. -/
theorem onRegisters (h : m.Congruent n) {f g : Registers → Registers}
    (hfg : (f m.registers).Congruent (g n.registers)) :
    (m.onRegisters f).Congruent (n.onRegisters g) :=
  { h with registers := hfg }

theorem fetched (h : m.Congruent n) : m.fetched.Congruent n.fetched :=
  h.onRegisters h.registers.advance

theorem settled (h : m.Congruent n) : m.settled.Congruent n.settled where
  __ := h
  keypad := by simp only [Machine.settled, h.keypad]
  cycles := by simp only [Machine.settled, h.cycles]

/-- The word at the program counter is read from two cells, and these are the same. -/
theorem word (h : m.Congruent n) : m.word = n.word := by
  have h0 : m.memory.read m.registers.pc.toNat = n.memory.read n.registers.pc.toNat := by
    rw [h.memory]
    exact n.memory.read_congr (by simpa using h.registers.pc.emod_add 0)
  have h1 : m.memory.read (m.registers.pc.toNat + 1) =
      n.memory.read (n.registers.pc.toNat + 1) := by
    rw [h.memory]
    exact n.memory.read_congr (h.registers.pc.emod_add 1)
  simp only [Machine.word, h0, h1]

theorem draw (h : m.Congruent n) (x y : Reg) (k : Nat) :
    (m.draw x y k).Congruent (n.draw x y k) := by
  have hcells : m.spriteCells x y k = n.spriteCells x y k := by
    have hrows : m.spriteRows k = n.spriteRows k := by
      rw [Machine.spriteRows, Machine.spriteRows, h.memory]
      exact n.memory.readBlock_congr (by simpa using h.registers.index.emod_add 0) k
    simp only [Machine.spriteCells, h.dialect, h.registers.get, hrows]
  exact { h with
    display := by simp only [Machine.draw, h.display, hcells]
    registers := by
      simpa only [Machine.draw, h.display, hcells] using h.registers.set flagReg _ }

theorem jumpRegister (h : m.Congruent n) (a : Address) : m.jumpRegister a = n.jumpRegister a := by
  simp only [Machine.jumpRegister, h.dialect]

theorem afterBlock (h : m.Congruent n) (x : Reg) : (m.afterBlock x).Congruent (n.afterBlock x) := by
  rw [Machine.afterBlock, Machine.afterBlock]
  rw [h.dialect]
  split
  · exact h.registers.point (h.registers.index.add _)
  · exact h.registers

theorem writeBlock (h : m.Congruent n) (bytes : List UInt8) :
    m.memory.writeBlock m.registers.index.toNat bytes =
      n.memory.writeBlock n.registers.index.toNat bytes := by
  rw [h.memory]
  exact n.memory.writeBlock_congr (by simpa using h.registers.index.emod_add 0) bytes

theorem storeRegs (h : m.Congruent n) (x : Reg) : (m.storeRegs x).Congruent (n.storeRegs x) :=
  { h with
    memory := by simp only [Machine.storeRegs, h.writeBlock, h.registers.v]
    registers := h.afterBlock x }

theorem loadRegs (h : m.Congruent n) (x : Reg) : (m.loadRegs x).Congruent (n.loadRegs x) := by
  have hread : ∀ k : Fin 16, m.memory.read (m.registers.index.toNat + k.val) =
      n.memory.read (n.registers.index.toNat + k.val) := by
    intro k
    rw [h.memory]
    exact n.memory.read_congr (h.registers.index.emod_add k.val)
  simp only [Machine.loadRegs, hread, h.registers.get]
  exact { h with registers := (h.afterBlock x).withGeneral _ }

theorem storeDecimal (h : m.Congruent n) (b : UInt8) :
    (m.storeDecimal b).Congruent (n.storeDecimal b) :=
  { h with memory := h.writeBlock _ }

theorem awaitKey (h : m.Congruent n) (x : Reg) : (m.awaitKey x).Congruent (n.awaitKey x) := by
  rw [Machine.awaitKey, Machine.awaitKey]
  rw [h.keypad]
  split
  · exact h.onRegisters (h.registers.set x _)
  · exact h.onRegisters (h.registers.goto (h.registers.pc.sub 2))

end Machine.Congruent

/-! ### Instructions -/

/-- **An instruction does not look at the high bits.** If it succeeds on one of two congruent
machines, then on the other one as well, and the results are congruent again. -/
theorem Instr.exec_congruent {m n m' : Machine} (h : m.Congruent n) {i : Instr}
    (hm : i.exec m = .ok m') : ∃ n', i.exec n = .ok n' ∧ m'.Congruent n' := by
  have hr := h.registers
  cases i with
  | unknown w =>
    cases hm
    exact ⟨_, rfl, h⟩
  | clear =>
    cases hm
    exact ⟨_, rfl, { h with display := rfl }⟩
  | ret =>
    simp only [Instr.exec, Machine.ret] at hm ⊢
    cases hpop : m.registers.pop? with
    | none => simp [hpop] at hm
    | some p =>
      obtain ⟨b, s', hs, hab, hrs⟩ := hr.pop? hpop
      simp only [hpop, Except.ok.injEq] at hm
      subst hm
      rw [hs]
      exact ⟨_, rfl, { h with registers := hrs.goto hab }⟩
  | jump a =>
    cases hm
    exact ⟨_, rfl, h.onRegisters (hr.goto (.refl _))⟩
  | call a =>
    cases hm
    exact ⟨_, rfl, h.onRegisters ((hr.push hr.pc).goto (.refl _))⟩
  | skipEqImm x b | skipNeImm x b | skipEq x y | skipNe x y =>
    cases hm
    refine ⟨_, rfl, h.onRegisters ?_⟩
    simpa only [hr.get] using hr.skipIf _
  | skipKey x | skipNoKey x =>
    cases hm
    refine ⟨_, rfl, h.onRegisters ?_⟩
    simpa only [hr.get, h.keypad] using hr.skipIf _
  | loadImm x b =>
    cases hm
    exact ⟨_, rfl, h.onRegisters (hr.set x b)⟩
  | addImm x b =>
    cases hm
    refine ⟨_, rfl, h.onRegisters ?_⟩
    simpa only [hr.get] using hr.set x _
  | readDelay x =>
    cases hm
    refine ⟨_, rfl, h.onRegisters ?_⟩
    simpa only [h.timers] using hr.set x _
  | alu f x y =>
    cases hm
    refine ⟨_, rfl, h.onRegisters ?_⟩
    simpa only [h.dialect] using hr.operate _ f x y
  | loadIndex a =>
    cases hm
    exact ⟨_, rfl, h.onRegisters (hr.point (.refl _))⟩
  | addIndex x =>
    cases hm
    refine ⟨_, rfl, h.onRegisters ?_⟩
    simpa only [hr.get] using hr.point (hr.index.add _)
  | glyph x =>
    cases hm
    refine ⟨_, rfl, h.onRegisters ?_⟩
    simpa only [hr.get] using hr.point (.refl _)
  | jumpOffset a =>
    cases hm
    refine ⟨_, rfl, h.onRegisters ?_⟩
    simpa only [hr.get, h.jumpRegister] using hr.goto (.refl _)
  | random x mask =>
    simp only [Instr.exec, Machine.roll, ← h.source] at hm ⊢
    cases hnext : m.source.next with
    | mk draw source =>
      cases draw with
      | error e => simp [hnext] at hm
      | ok b =>
        simp only [hnext, Except.ok.injEq] at hm ⊢
        subst hm
        exact ⟨_, rfl, { h with source := rfl, registers := hr.set x _ }⟩
  | draw x y k =>
    cases hm
    exact ⟨_, rfl, h.draw x y k.val⟩
  | awaitKey x =>
    cases hm
    exact ⟨_, rfl, h.awaitKey x⟩
  | setDelay x | setSound x =>
    cases hm
    refine ⟨_, rfl, { h with timers := ?_ }⟩
    simp only [h.timers, hr.get]
  | decimal x =>
    cases hm
    refine ⟨_, rfl, ?_⟩
    rw [hr.get]
    exact h.storeDecimal _
  | storeRegs x =>
    cases hm
    exact ⟨_, rfl, h.storeRegs x⟩
  | loadRegs x =>
    cases hm
    exact ⟨_, rfl, h.loadRegs x⟩

/-! ### Cycles and histories -/

/-- Two cycles that ended alike: with the same instruction completed, or with a return that found no
return address. The two faults may tell different addresses of one cell. -/
def SameOutcome (r s : Except Fault Instr) : Prop :=
  (∃ i, r = .ok i ∧ s = .ok i) ∨
    ∃ a b : UInt16, SameCell a b ∧
      r = .error (.stackUnderflow a.toNat) ∧ s = .error (.stackUnderflow b.toNat)

namespace Machine.Congruent

variable {m n : Machine}

theorem feed (h : m.Congruent n) (i : Input) : (m.feed i).Congruent (n.feed i) := by
  cases i with
  | key code down =>
    simp only [Machine.feed, h.keypad]
    cases n.keypad.setKey code down with
    | ok p => exact { h with keypad := rfl }
    | error e => exact h
  | releaseAll => exact { h with keypad := by simp only [Machine.feed, h.keypad] }
  | tick => exact { h with timers := by simp only [Machine.feed, Machine.tick, h.timers] }

/-- **One cycle of two congruent machines.** It fails in both or completes the same instruction in
both, and leaves them congruent. -/
theorem cycle (h : m.Congruent n) (hs : m.source.Reliable) :
    SameOutcome m.cycle.result n.cycle.result ∧ m.step.Congruent n.step := by
  have hsn : n.source.Reliable := h.source ▸ hs
  cases hm : m.cycle.result with
  | error f =>
    obtain ⟨hw, hstack, rfl⟩ := (cycle_eq_error_iff hs).1 hm
    have hn : n.cycle.result = .error (.stackUnderflow (n.registers.pc + 2).toNat) :=
      (cycle_eq_error_iff hsn).2 ⟨h.word ▸ hw, h.registers.stack_eq_nil_iff.1 hstack, rfl⟩
    refine ⟨.inr ⟨_, _, h.registers.pc.add 2, rfl, hn⟩, ?_⟩
    rw [step_of_error hs hm, step_of_error hsn hn]
    exact h.fetched
  | ok i =>
    cases he : (decode m.word).exec m.fetched with
    | error f => rw [(cycle_of_exec_error he).1] at hm; cases hm
    | ok m' =>
      obtain ⟨n', hn, hmn⟩ := Instr.exec_congruent h.fetched he
      rw [h.word] at hn
      obtain ⟨hi, hstep⟩ := cycle_of_exec_ok he
      obtain ⟨hj, hstep'⟩ := cycle_of_exec_ok hn
      rw [hi, Except.ok.injEq] at hm
      refine ⟨.inl ⟨i, rfl, ?_⟩, ?_⟩
      · rw [hj, ← h.word, hm]
      · rw [hstep, hstep']
        exact hmn.settled

theorem react (h : m.Congruent n) (hs : m.source.Reliable) (e : Event) :
    (m.react e).Congruent (n.react e) := by
  cases e with
  | cycle => exact (h.cycle hs).2
  | input i => exact h.feed i
  | consume => exact { h with display := by simp only [Machine.react, h.display] }

end Machine.Congruent

/-- An event leaves a reliable source reliable. -/
theorem Machine.reliable_react {m : Machine} (hs : m.source.Reliable) (e : Event) :
    (m.react e).source.Reliable := by
  cases e with
  | cycle => exact reliable_step hs
  | consume => exact hs
  | input i =>
    cases i with
    | key code down =>
      simp only [react, feed]
      cases m.keypad.setKey code down <;> exact hs
    | releaseAll => exact hs
    | tick => exact hs

/-- **The high bits of addresses are never looked at.** Along every history two congruent machines
stay congruent: they hold the same memory, picture, keys and timers, and their sources have yielded
the same bytes. At each point of it the next cycle ends alike in both, and leaves them congruent. -/
theorem Machine.Congruent.lockstep {m n : Machine} (h : m.Congruent n) (hs : m.source.Reliable)
    (es : List Event) :
    (m.after es).Congruent (n.after es) ∧
      SameOutcome (m.after es).cycle.result (n.after es).cycle.result ∧
      (m.after es).step.Congruent (n.after es).step := by
  induction es generalizing m n with
  | nil => exact ⟨h, h.cycle hs⟩
  | cons e es ih =>
    rw [after_cons, after_cons]
    exact ih (h.react hs e) (reliable_react hs e)

/-- A machine that calls and returns in a loop, and its double in the next 4096 addresses. -/
theorem Machine.Congruent.lockstep_call_loop :
    let program : List UInt8 := [0x22, 0x06, 0x12, 0x00, 0x00, 0x00, 0xC1, 0xFF, 0x00, 0xEE]
    let m := { fresh .plain (.constant 7) with memory := Memory.fresh.writeBlock 0x200 program }
    let n := m.onRegisters fun r => (r.goto 0x1200).point 0xF000
    let es : List Event := [.cycle, .input (.key 3 true), .cycle, .input .tick, .cycle]
    m.Congruent n ∧ m.source.Reliable ∧
      (m.after es).Congruent (n.after es) ∧
      SameOutcome (m.after es).cycle.result (n.after es).cycle.result ∧
      (m.after es).step.Congruent (n.after es).step := by
  intro program m n es
  have hpc : SameCell 0x200 0x1200 := by decide
  have hindex : SameCell 0 0xF000 := by decide
  have h : m.Congruent n :=
    { dialect := rfl, source := rfl, memory := rfl, registers := ⟨rfl, hpc, hindex, .nil⟩,
      display := rfl, keypad := rfl, timers := rfl, cycles := rfl }
  have hs : m.source.Reliable := fun _ _ => ⟨7, rfl⟩
  exact ⟨h, hs, Machine.Congruent.lockstep h hs es⟩

end ChipEight
