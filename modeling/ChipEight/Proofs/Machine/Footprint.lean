import ChipEight.Proofs.Instr.Patterns
import ChipEight.Proofs.Machine.Blocks
import ChipEight.Proofs.Machine.CallStack
import ChipEight.Proofs.Machine.Dialects
import ChipEight.Proofs.Machine.Drawing

/-!
# Footprints

An instruction writes to few places, and its word tells which. The rest of the machine is left as it
was: a program that stores to memory does not move its stack, one that draws does not wind its
timers. What a whole cycle changes besides is the same for every word: the program counter, the
snapshot of the keys, and the number of cycles.

An instruction is first told by what it may write, in terms of its own operands. The main result then
says the same of words, digit by digit, so that it can be read beside the table of patterns.

## Main definitions

- `Instr.Writes`, `Instr.MovesIndex`: the registers that an instruction may write.
- `Machine.Footprint`: what may have changed from one machine to another by the cycle of a word.

## Main results

- `Instr.spared_exec`: the registers that it may write, and only those, are changed.
- `Machine.footprint_cycle`: a completed cycle has the footprint of its word, and a word without a
  pattern does nothing.
-/

namespace ChipEight

/-! ### The random source -/

/-- A random byte that is stored was drawn. -/
theorem Instr.next_of_exec_random {m n : Machine} {x : Reg} {mask : UInt8}
    (h : (random x mask).exec m = .ok n) : ∃ b, m.source.next = (.ok b, n.source) := by
  simp only [exec, Machine.roll] at h
  split at h <;> cases h
  next b source hs => exact ⟨b, hs⟩

/-! ### Registers -/

/-- A two-register operation stores a flag besides its result. The bitwise ones do so in dialects
that zero the flag first. -/
def Alu.Flags (d : Dialect) : Alu → Prop
  | .copy => False
  | .or | .and | .xor => d.vfReset = true
  | .add | .sub | .shiftRight | .subFrom | .shiftLeft => True

/-- An instruction may write a general register. -/
def Instr.Writes (d : Dialect) (y : Reg) : Instr → Prop
  | .loadImm x _ | .addImm x _ | .random x _ | .readDelay x | .awaitKey x => y = x
  | .alu f x _ => y = x ∨ y = flagReg ∧ f.Flags d
  | .draw _ _ _ => y = flagReg
  | .loadRegs x => y ≤ x
  | _ => False

/-- An instruction may write the index register. -/
def Instr.MovesIndex (d : Dialect) : Instr → Prop
  | .loadIndex _ | .addIndex _ | .glyph _ => True
  | .storeRegs _ | .loadRegs _ => d.memory = true
  | _ => False

namespace Registers

variable (r : Registers) {x y : Reg}

theorem get_set_of_ne (b : UInt8) (h : y ≠ x) : (r.set x b).get y = r.get y := by
  rw [get_set, if_neg h.symm]

@[simp] theorem get_skipIf (c : Bool) : (r.skipIf c).get y = r.get y := by
  cases c <;> rfl

@[simp] theorem index_skipIf (c : Bool) : (r.skipIf c).index = r.index := by
  cases c <;> rfl

theorem get_forBitwise {d : Dialect} (h : ¬ (y = flagReg ∧ d.vfReset = true)) :
    (r.forBitwise d).get y = r.get y := by
  rw [forBitwise]
  split
  next hd => exact r.get_set_of_ne 0 fun hy => h ⟨hy, hd⟩
  next => rfl

theorem get_setWithFlag (b : UInt8) (flag : Bool) (hx : y ≠ x) (hf : y ≠ flagReg) :
    (r.setWithFlag x b flag).get y = r.get y := by
  rw [setWithFlag, get_set_of_ne _ _ hf, get_set_of_ne _ _ hx]

theorem get_operate {d : Dialect} {f : Alu} {z : Reg}
    (h : ¬ (y = x ∨ y = flagReg ∧ f.Flags d)) : (r.operate d f x z).get y = r.get y := by
  obtain ⟨hx, hf⟩ := not_or.1 h
  cases f with
  | copy => exact r.get_set_of_ne _ hx
  | or | and | xor =>
    have hs := r.get_forBitwise hf
    simp only [operate, get_set_of_ne _ _ hx, hs]
  | add | sub | subFrom | shiftRight | shiftLeft =>
    exact r.get_setWithFlag _ _ hx fun hy => hf ⟨hy, trivial⟩

end Registers

namespace Machine

variable (m : Machine) (x : Reg)

theorem get_afterBlock (y : Reg) : (m.afterBlock x).get y = m.registers.get y :=
  (congrArg (fun r => r.get y) (m.afterBlock_eq x) :)

theorem index_afterBlock (h : ¬ m.dialect.memory = true) :
    (m.afterBlock x).index = m.registers.index := by
  rw [afterBlock, if_neg h]

theorem get_loadRegs {y : Reg} (h : ¬ y ≤ x) :
    (m.loadRegs x).registers.get y = m.registers.get y := by
  simp [loadRegs, Registers.get, h]

end Machine

/-- From `r` to `s`, no register has changed but those that an instruction may write. -/
structure Registers.Spared (d : Dialect) (i : Instr) (r s : Registers) : Prop where
  general : ∀ y, ¬ i.Writes d y → s.get y = r.get y
  index : ¬ i.MovesIndex d → s.index = r.index

/-- **The registers that an instruction changes.** -/
theorem Instr.spared_exec {m n : Machine} {i : Instr} (h : i.exec m = .ok n) :
    m.registers.Spared m.dialect i n.registers := by
  cases i with
  | ret =>
    simp only [exec, Machine.ret, Registers.pop?] at h
    cases hstack : m.registers.stack with
    | nil =>
      rw [hstack] at h
      cases h
    | cons a rest =>
      rw [hstack] at h
      cases h
      exact ⟨fun _ _ => rfl, fun _ => rfl⟩
  | random x mask =>
    simp only [exec, Machine.roll] at h
    split at h <;> cases h
    exact ⟨fun _ hy => Registers.get_set_of_ne _ _ hy, fun _ => rfl⟩
  | awaitKey x =>
    simp only [exec, Machine.awaitKey, Except.ok.injEq] at h
    subst h
    split
    · exact ⟨fun _ hy => Registers.get_set_of_ne _ _ hy, fun _ => rfl⟩
    · exact ⟨fun _ _ => rfl, fun _ => rfl⟩
  | loadImm | addImm | readDelay | draw =>
    cases h
    exact ⟨fun _ hy => Registers.get_set_of_ne _ _ hy, fun _ => rfl⟩
  | skipEqImm | skipNeImm | skipEq | skipNe | skipKey | skipNoKey =>
    cases h
    exact ⟨fun _ _ => Registers.get_skipIf _ _, fun _ => Registers.index_skipIf _ _⟩
  | alu f x z =>
    cases h
    exact ⟨fun _ hy => Registers.get_operate _ hy, fun _ =>
      (congrArg Registers.index (m.registers.operate_eq m.dialect f x z) :)⟩
  | storeRegs x =>
    cases h
    exact ⟨fun y _ => m.get_afterBlock x y, m.index_afterBlock x⟩
  | loadRegs x =>
    cases h
    exact ⟨fun y hy => m.get_loadRegs x hy,
      fun hi => (m.index_loadRegs x).trans (m.index_afterBlock x hi)⟩
  | loadIndex | addIndex | glyph =>
    cases h
    exact ⟨fun _ _ => rfl, fun hi => absurd trivial hi⟩
  | _ =>
    cases h
    exact ⟨fun _ _ => rfl, fun _ => rfl⟩

/-! ### Cycles -/

/-- What may have changed from one machine to another by the cycle of the word that the first one
has come to. The program counter may have moved. -/
structure Machine.Footprint (m n : Machine) : Prop where
  memory : ∀ a, n.memory.read a ≠ m.memory.read a →
    (Word.Fits m.word "FX33" ∧
        ∃ k : Nat, k < 3 ∧ a % 4096 = (m.registers.index.toNat + k) % 4096) ∨
      Word.Fits m.word "FX55" ∧
        ∃ k : Nat, k ≤ (Word.x m.word).val ∧ a % 4096 = (m.registers.index.toNat + k) % 4096
  /-- The picture and its flag. -/
  display : n.display ≠ m.display → Word.FitsAny m.word ["00E0", "DXYN"]
  stack : n.registers.stack ≠ m.registers.stack → Word.FitsAny m.word ["2NNN", "00EE"]
  delay : n.timers.delay ≠ m.timers.delay → Word.Fits m.word "FX15"
  sound : n.timers.sound ≠ m.timers.sound → Word.Fits m.word "FX18"
  index : n.registers.index ≠ m.registers.index →
    Word.FitsAny m.word ["ANNN", "FX1E", "FX29"] ∨
      m.dialect.memory = true ∧ Word.FitsAny m.word ["FX55", "FX65"]
  /-- One random byte is drawn. -/
  draw : Word.Fits m.word "CXNN" → ∃ b, m.source.next = (.ok b, n.source)
  /-- No random byte is drawn. -/
  noDraw : ¬ Word.Fits m.word "CXNN" → n.source = m.source
  /-- The held keys are remembered. -/
  keypad : n.keypad = ⟨m.keypad.live, m.keypad.live⟩
  general : ∀ y, n.registers.get y ≠ m.registers.get y →
    (y = Word.x m.word ∧
        Word.FitsAny m.word
          ["6XNN", "7XNN", "8XY0", "8XY1", "8XY2", "8XY3", "8XY4", "8XY5", "8XY6", "8XY7", "8XYE",
            "CXNN", "FX07", "FX0A"]) ∨
      (y ≤ Word.x m.word ∧ Word.Fits m.word "FX65") ∨
      y = flagReg ∧
        (Word.FitsAny m.word ["8XY4", "8XY5", "8XY6", "8XY7", "8XYE", "DXYN"] ∨
          m.dialect.vfReset = true ∧ Word.FitsAny m.word ["8XY1", "8XY2", "8XY3"])
  cycles : n.cycles = m.cycles + 1
  dialect : n.dialect = m.dialect

namespace Machine

section

variable {m n : Machine} {w : UInt16} {i : Instr}

/-- Memory changes in the three cells of a decimal, or in the cells that registers are stored to. -/
theorem fits_of_memoryAfter_ne {a : Int}
    (h : (m.memoryAfter (decode w)).read a ≠ m.memory.read a) :
    (Word.Fits w "FX33" ∧ ∃ k : Nat, k < 3 ∧ a % 4096 = (m.registers.index.toNat + k) % 4096) ∨
      Word.Fits w "FX55" ∧
        ∃ k : Nat, k ≤ (Word.x w).val ∧ a % 4096 = (m.registers.index.toNat + k) % 4096 := by
  cases hi : decode w with
  | decimal x =>
    rw [hi] at h
    exact .inl ⟨(reads_of_decode hi rfl).fits, Memory.exists_of_read_writeBlock_ne h⟩
  | storeRegs x =>
    have hr := reads_of_decode hi rfl
    rw [hi] at h
    obtain ⟨k, hk, ha⟩ := Memory.exists_of_read_writeBlock_ne h
    obtain rfl := hr.register x rfl
    refine .inr ⟨hr.fits, k, ?_, ha⟩
    simp at hk
    omega
  | _ =>
    rw [hi] at h
    exact absurd rfl h

theorem fits_of_displayAfter_ne (h : m.displayAfter (decode w) ≠ m.display) :
    Word.FitsAny w ["00E0", "DXYN"] := by
  cases hi : decode w with
  | clear | draw => exact fitsAny_of_decode hi rfl (by simp [Instr.op, Op.pattern])
  | _ =>
    rw [hi] at h
    exact absurd rfl h

theorem fits_of_delayAfter_ne (h : (m.timersAfter (decode w)).delay ≠ m.timers.delay) :
    Word.Fits w "FX15" := by
  cases hi : decode w with
  | setDelay => exact (reads_of_decode hi rfl).fits
  | _ =>
    rw [hi] at h
    exact absurd rfl h

theorem fits_of_soundAfter_ne (h : (m.timersAfter (decode w)).sound ≠ m.timers.sound) :
    Word.Fits w "FX18" := by
  cases hi : decode w with
  | setSound => exact (reads_of_decode hi rfl).fits
  | _ =>
    rw [hi] at h
    exact absurd rfl h

theorem fits_of_stack_ne (hrule : (decode w).StackRule m n)
    (h : n.registers.stack ≠ m.registers.stack) : Word.FitsAny w ["2NNN", "00EE"] := by
  cases hi : decode w with
  | call | ret => exact fitsAny_of_decode hi rfl (by simp [Instr.op, Op.pattern])
  | _ =>
    rw [hi] at hrule
    exact absurd hrule h

theorem fits_of_movesIndex {d : Dialect} (h : (decode w).MovesIndex d) :
    Word.FitsAny w ["ANNN", "FX1E", "FX29"] ∨
      d.memory = true ∧ Word.FitsAny w ["FX55", "FX65"] := by
  cases hi : decode w with
  | loadIndex | addIndex | glyph =>
    exact .inl (fitsAny_of_decode hi rfl (by simp [Instr.op, Op.pattern]))
  | storeRegs | loadRegs =>
    rw [hi] at h
    exact .inr ⟨h, fitsAny_of_decode hi rfl (by simp [Instr.op, Op.pattern])⟩
  | _ =>
    rw [hi] at h
    exact h.elim

theorem fits_of_writes {d : Dialect} {y : Reg} (h : (decode w).Writes d y) :
    (y = Word.x w ∧
        Word.FitsAny w
          ["6XNN", "7XNN", "8XY0", "8XY1", "8XY2", "8XY3", "8XY4", "8XY5", "8XY6", "8XY7", "8XYE",
            "CXNN", "FX07", "FX0A"]) ∨
      (y ≤ Word.x w ∧ Word.Fits w "FX65") ∨
      y = flagReg ∧
        (Word.FitsAny w ["8XY4", "8XY5", "8XY6", "8XY7", "8XYE", "DXYN"] ∨
          d.vfReset = true ∧ Word.FitsAny w ["8XY1", "8XY2", "8XY3"]) := by
  cases hi : decode w with
  | loadImm x | addImm x | random x | readDelay x | awaitKey x =>
    rw [hi] at h
    obtain rfl : y = x := h
    exact .inl ⟨(reads_of_decode hi rfl).register y rfl,
      fitsAny_of_decode hi rfl (by simp [Instr.op, Op.pattern])⟩
  | draw =>
    rw [hi] at h
    exact .inr (.inr ⟨h, .inl (fitsAny_of_decode hi rfl (by simp [Instr.op, Op.pattern]))⟩)
  | loadRegs x =>
    have hr := reads_of_decode hi rfl
    rw [hi] at h
    obtain rfl := hr.register x rfl
    exact .inr (.inl ⟨h, hr.fits⟩)
  | alu f x z =>
    rw [hi] at h
    obtain rfl | ⟨hy, hflag⟩ := h
    · refine .inl ⟨(reads_of_decode hi rfl).register y rfl, fitsAny_of_decode hi rfl ?_⟩
      cases f <;> simp [Instr.op, Op.pattern]
    · refine .inr (.inr ⟨hy, ?_⟩)
      cases f with
      | copy => exact hflag.elim
      | or | and | xor =>
        exact .inr ⟨hflag, fitsAny_of_decode hi rfl (by simp [Instr.op, Op.pattern])⟩
      | add | sub | shiftRight | subFrom | shiftLeft =>
        exact .inl (fitsAny_of_decode hi rfl (by simp [Instr.op, Op.pattern]))
  | _ =>
    rw [hi] at h
    exact h.elim

theorem next_of_fits (hexec : (decode w).exec m = .ok n) (h : Word.Fits w "CXNN") :
    ∃ b, m.source.next = (.ok b, n.source) := by
  have hop : (decode w).op = .random := op_decode_of_fits h
  cases hi : decode w with
  | random x mask =>
    rw [hi] at hexec
    exact Instr.next_of_exec_random hexec
  | _ =>
    rw [hi] at hop
    cases hop

theorem sourceAfter_of_not_fits (h : ¬ Word.Fits w "CXNN") :
    m.sourceAfter (decode w) = m.source := by
  cases hi : decode w with
  | random => exact absurd (reads_of_decode hi rfl).fits h
  | _ => rfl

/-- A completed cycle remembers the held keys and is counted. -/
theorem settled_of_ok (h : m.cycle.result = .ok i) :
    m.step.keypad = ⟨m.keypad.live, m.keypad.live⟩ ∧ m.step.cycles = m.cycles + 1 := by
  obtain ⟨n, hexec⟩ := exec_of_ok h
  rw [(cycle_of_exec_ok hexec).2, Instr.exec_frame hexec]
  exact ⟨rfl, rfl⟩

end

/-- **Footprints.** A completed cycle has the footprint of its word, in every dialect. A word that
fits no pattern always completes its cycle, and nothing comes of it. -/
theorem footprint_cycle (m : Machine) :
    (∀ i, m.cycle.result = .ok i → m.Footprint m.step) ∧
      (¬ Word.Listed m.word →
        m.cycle.result = .ok (.unknown m.word) ∧
          m.step =
            { m with
              registers := { m.registers with pc := m.registers.pc + 2 }
              keypad := ⟨m.keypad.live, m.keypad.live⟩
              cycles := m.cycles + 1 }) := by
  refine ⟨fun i h => ?_, fun hword => ?_⟩
  · obtain ⟨n, hexec⟩ := exec_of_ok h
    obtain ⟨hkeypad, hcycles⟩ := settled_of_ok h
    have hframe := Instr.exec_frame hexec
    have hspared := Instr.spared_exec hexec
    have hstep := (cycle_of_exec_ok hexec).2
    exact {
      memory := fun a ha => fits_of_memoryAfter_ne (by rwa [hstep, hframe] at ha)
      display := fun hd => fits_of_displayAfter_ne (by rwa [hstep, hframe] at hd)
      stack := fun hs => fits_of_stack_ne (Instr.stack_exec hexec) (by rwa [hstep] at hs)
      delay := fun hd => fits_of_delayAfter_ne (by rwa [hstep, hframe] at hd)
      sound := fun hd => fits_of_soundAfter_ne (by rwa [hstep, hframe] at hd)
      index := fun hne => fits_of_movesIndex (not_imp_comm.1 hspared.index (by rwa [hstep] at hne))
      draw := fun hw => by rw [hstep]; exact next_of_fits (m := m.fetched) (n := n) hexec hw
      noDraw := fun hw => by rw [hstep, hframe]; exact sourceAfter_of_not_fits hw
      keypad := hkeypad
      general := fun y hne =>
        fits_of_writes (not_imp_comm.1 (hspared.general y) (by rwa [hstep] at hne))
      cycles := hcycles
      dialect := m.dialect_step }
  · have hexec : (decode m.word).exec m.fetched = .ok m.fetched := by
      rw [decode_of_not_listed hword]
      rfl
    obtain ⟨hresult, hstep⟩ := cycle_of_exec_ok hexec
    rw [decode_of_not_listed hword] at hresult
    exact ⟨hresult, hstep⟩

/-- The digits of 254 are stored around the end of memory. The word that follows, `8008`, fits no
pattern. -/
theorem footprint_cycle_around_the_end :
    let m := { fresh .plain (.constant 7) with
      memory := Memory.fresh.writeBlock 0x200 [0xF3, 0x33, 0x80, 0x08]
      registers := (Registers.fresh.set 3 254).point 0xFFF }
    m.cycle.result = .ok (.decimal 3) ∧ m.Footprint m.step ∧
      [0xFFF, 0x000, 0x001].map m.step.memory.read = [2, 5, 4] ∧
      ¬ Word.Listed m.step.word ∧
      m.step.step =
        { m.step with
          registers := { m.step.registers with pc := m.step.registers.pc + 2 }
          keypad := ⟨m.step.keypad.live, m.step.keypad.live⟩
          cycles := m.step.cycles + 1 } := by
  intro m
  have hdecode : decode m.word = .decimal 3 := by decide +kernel
  have hexec : (decode m.word).exec m.fetched =
      .ok (m.fetched.storeDecimal (m.fetched.registers.get 3)) := by
    rw [hdecode]
    rfl
  have hresult : m.cycle.result = .ok (.decimal 3) := by
    rw [(cycle_of_exec_ok hexec).1, hdecode]
  have hword : ¬ Word.Listed m.step.word := by
    rw [Word.listed_iff]
    decide +kernel
  exact ⟨hresult, (footprint_cycle m).1 _ hresult, by decide +kernel, hword,
    ((footprint_cycle m.step).2 hword).2⟩

end Machine

end ChipEight
