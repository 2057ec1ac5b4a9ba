import ChipEight.Proofs.Machine.Footprint

/-!
# Where the program counter goes

A program is executed in the order in which its words stand in memory, but for the words that say
otherwise. There are four kinds of these. Jumps, calls and returns name the place where the program
goes on. Skips leave out one word if a condition holds. A wait for a key comes back to itself as long
as no key was let go. All other words are followed by their neighbour, and so are the words without a
pattern, such as `5XY1`.

Memory has 4096 cells, and program counters have sixteen bits. A word may have its first byte in the
last cell and its second byte in the first one. The program counter wraps at 65536 only.

## Scope

What is told here is told of cycles that are completed. When a cycle fails is the matter of
`Machine.cycle_eq_error_iff`, and what it leaves then that of `Machine.step_of_underflow`.

## Main definitions

- `Machine.pcAfter`: the program counter after an instruction.
- `Machine.Skips`, `Machine.Waits`: the conditions of skips and waits, told by words.
- `Machine.Leads`: the table of successors, told by words.

## Main results

- `Instr.pc_exec`: every instruction leaves the program counter that `pcAfter` tells.
- `Machine.Leads.unique`: the table names one successor only.
- `Machine.pc_successor`: a completed cycle leaves the successor of the table.
-/

namespace ChipEight

/-! ### Instructions -/

namespace Machine

/-- Whether an instruction skips the word that follows it. -/
def skips (m : Machine) : Instr → Bool
  | .skipEqImm x b => m.registers.get x == b
  | .skipNeImm x b => m.registers.get x != b
  | .skipEq x y => m.registers.get x == m.registers.get y
  | .skipNe x y => m.registers.get x != m.registers.get y
  | .skipKey x => m.keypad.isPressed (m.registers.get x).toNat
  | .skipNoKey x => !m.keypad.isPressed (m.registers.get x).toNat
  | _ => false

/-- The program counter after an instruction, on a machine whose program counter stands behind it
already. -/
def pcAfter (m : Machine) : Instr → UInt16
  | .jump a | .call a => UInt16.ofNat a.val
  | .ret => m.registers.stack.headD m.registers.pc
  | .jumpOffset a => UInt16.ofNat a.val + (m.registers.get (m.jumpRegister a)).toUInt16
  | .awaitKey _ => if m.keypad.released? = none then m.registers.pc - 2 else m.registers.pc
  | i => if m.skips i then m.registers.pc + 2 else m.registers.pc

end Machine

theorem Registers.pc_skipIf (r : Registers) (c : Bool) :
    (r.skipIf c).pc = if c then r.pc + 2 else r.pc := by
  cases c <;> rfl

theorem Machine.pc_awaitKey (m : Machine) (x : Reg) :
    (m.awaitKey x).registers.pc =
      if m.keypad.released? = none then m.registers.pc - 2 else m.registers.pc := by
  rw [awaitKey]
  cases m.keypad.released? with
  | some k => simp [onRegisters, Registers.set]
  | none => simp [onRegisters, Registers.goto]

/-- **The program counter that an instruction leaves.** -/
theorem Instr.pc_exec {m n : Machine} {i : Instr} (h : i.exec m = .ok n) :
    n.registers.pc = m.pcAfter i := by
  cases i with
  | ret =>
    simp only [exec, Machine.ret, Registers.pop?] at h
    cases hstack : m.registers.stack with
    | nil =>
      rw [hstack] at h
      cases h
    | cons a rest =>
      rw [hstack] at h
      cases h
      show a = m.registers.stack.headD m.registers.pc
      rw [hstack]
      rfl
  | random x mask =>
    simp only [exec, Machine.roll] at h
    split at h <;> cases h
    rfl
  | awaitKey x =>
    cases h
    exact m.pc_awaitKey x
  | skipEqImm | skipNeImm | skipEq | skipNe | skipKey | skipNoKey =>
    cases h
    exact Registers.pc_skipIf _ _
  | alu f x y =>
    cases h
    exact (congrArg Registers.pc (m.registers.operate_eq m.dialect f x y) :)
  | storeRegs x =>
    cases h
    exact (congrArg Registers.pc (m.afterBlock_eq x) :)
  | loadRegs x =>
    cases h
    exact (congrArg (fun k => k.registers.pc) (m.loadRegs_eq x) :)
  | _ =>
    cases h
    rfl

/-! ### Words -/

/-- A key of the set has this number. No key has a number above fifteen. -/
def KeySet.HasNumber (s : KeySet) (k : Nat) : Prop :=
  ∃ key : Key, key.val = k ∧ s.contains key = true

theorem Keypad.isPressed_iff {p : Keypad} {k : Nat} :
    p.isPressed k = true ↔ p.live.HasNumber k := by
  by_cases hk : k < 16
  · have hkey : Key.ofInt k = .ok ⟨k, hk⟩ := by
      rw [Key.ofInt, dif_pos ⟨by omega, by omega⟩]
      rfl
    rw [isPressed, hkey]
    constructor
    · exact fun h => ⟨⟨k, hk⟩, rfl, h⟩
    · rintro ⟨key, rfl, h⟩
      exact h
  · have hkey : Key.ofInt k = .error ⟨k⟩ := by
      rw [Key.ofInt, dif_neg]
      omega
    rw [isPressed, hkey]
    constructor
    · intro h
      cases h
    · rintro ⟨key, rfl, -⟩
      exact absurd key.isLt hk

namespace Machine

/-- A word tells to skip the one behind it. Of the keypad only the held keys matter. -/
def Skips (m : Machine) (w : UInt16) : Prop :=
  let vx := (m.registers.get (Word.x w)).toNat
  let vy := (m.registers.get (Word.y w)).toNat
  let nn := w.toNat % 256
  (Word.Fits w "3XNN" ∧ vx = nn) ∨ (Word.Fits w "4XNN" ∧ vx ≠ nn) ∨
    (Word.Fits w "5XY0" ∧ vx = vy) ∨ (Word.Fits w "9XY0" ∧ vx ≠ vy) ∨
    (Word.Fits w "EX9E" ∧ m.keypad.live.HasNumber vx) ∨
    (Word.Fits w "EXA1" ∧ ¬ m.keypad.live.HasNumber vx)

/-- A word waits for a key, and no key was let go since the last snapshot. -/
def Waits (m : Machine) (w : UInt16) : Prop :=
  Word.Fits w "FX0A" ∧ ∀ k, ¬ m.keypad.last.LetGo m.keypad.live k

/-- The patterns of the words that name the place where the program goes on. -/
def leaps : List String :=
  ["1NNN", "2NNN", "00EE", "BNNN"]

/-- The table of successors: `next` is where the program goes on from a machine whose program counter
has come to the word `w`. -/
structure Leads (m : Machine) (w next : UInt16) : Prop where
  jump : Word.FitsAny w ["1NNN", "2NNN"] → next.toNat = w.toNat % 4096
  ret : Word.Fits w "00EE" → m.registers.stack.head? = some next
  /-- The register that is added may be named by the first digit of the address. -/
  offset : Word.Fits w "BNNN" →
    next.toNat = (w.toNat % 4096 +
      (m.registers.get (if m.dialect.jumping then Word.x w else 0)).toNat) % 65536
  skip : m.Skips w → next.toNat = (m.registers.pc.toNat + 4) % 65536
  wait : m.Waits w → next = m.registers.pc
  straight : ¬ Word.FitsAny w leaps → ¬ m.Skips w → ¬ m.Waits w →
    next.toNat = (m.registers.pc.toNat + 2) % 65536

section

variable {m n : Machine} {w a b : UInt16} {i : Instr}

/-- The skips of words are those of their instructions. -/
theorem skips_iff : m.Skips w ↔ m.skips (decode w) = true := by
  have hkind : ∀ k : Op, k ≠ .unknown → (Word.Fits w k.pattern ↔ (decode w).op = k) :=
    fun k hk => (op_decode_eq_iff hk).symm
  have h3 : Word.Fits w "3XNN" ↔ (decode w).op = .skipEqImm := hkind .skipEqImm (by decide)
  have h4 : Word.Fits w "4XNN" ↔ (decode w).op = .skipNeImm := hkind .skipNeImm (by decide)
  have h5 : Word.Fits w "5XY0" ↔ (decode w).op = .skipEq := hkind .skipEq (by decide)
  have h9 : Word.Fits w "9XY0" ↔ (decode w).op = .skipNe := hkind .skipNe (by decide)
  have hE : Word.Fits w "EX9E" ↔ (decode w).op = .skipKey := hkind .skipKey (by decide)
  have hE' : Word.Fits w "EXA1" ↔ (decode w).op = .skipNoKey := hkind .skipNoKey (by decide)
  have hnn : w.toNat % 256 = (Word.nn w).toNat := by simp [Word.nn]
  have hread := decode_eq_read w
  rw [Skips, h3, h4, h5, h9, hE, hE', hnn, ← Keypad.isPressed_iff]
  -- both sides depend on the kind of the word, and on operands that are read off it
  generalize (decode w).op = k at hread ⊢
  rw [hread]
  cases k <;> simp [Op.read, skips, UInt8.toNat_inj]

theorem waits_iff :
    m.Waits w ↔ decode w = .awaitKey (Word.x w) ∧ m.keypad.released? = none := by
  rw [Waits, Keypad.released?_eq_none_iff]
  refine and_congr_left fun _ => ⟨fun h => decode_of_fits (k := .awaitKey) h, fun h => ?_⟩
  exact (reads_of_decode h rfl).fits

theorem fitsAny_leaps_iff :
    Word.FitsAny w leaps ↔ (decode w).op ∈ [.jump, .call, .ret, .jumpOffset] :=
  fitsAny_iff [.jump, .call, .ret, .jumpOffset] (by decide)

/-- The table names one successor only. -/
theorem Leads.unique (ha : m.Leads w a) (hb : m.Leads w b) : a = b := by
  by_cases hleap : Word.FitsAny w leaps
  · obtain ⟨p, hp, hfits⟩ := hleap
    simp only [leaps, List.mem_cons, List.not_mem_nil, or_false] at hp
    obtain rfl | rfl | rfl | rfl := hp
    · have hjump : Word.FitsAny w ["1NNN", "2NNN"] := ⟨_, by simp, hfits⟩
      exact UInt16.toNat_inj.1 ((ha.jump hjump).trans (hb.jump hjump).symm)
    · have hcall : Word.FitsAny w ["1NNN", "2NNN"] := ⟨_, by simp, hfits⟩
      exact UInt16.toNat_inj.1 ((ha.jump hcall).trans (hb.jump hcall).symm)
    · exact Option.some.inj ((ha.ret hfits).symm.trans (hb.ret hfits))
    · exact UInt16.toNat_inj.1 ((ha.offset hfits).trans (hb.offset hfits).symm)
  by_cases hskip : m.Skips w
  · exact UInt16.toNat_inj.1 ((ha.skip hskip).trans (hb.skip hskip).symm)
  by_cases hwait : m.Waits w
  · exact (ha.wait hwait).trans (hb.wait hwait).symm
  exact UInt16.toNat_inj.1
    ((ha.straight hleap hskip hwait).trans (hb.straight hleap hskip hwait).symm)

/-! ### Cycles -/

/-- The two bytes of a word, the high one first. -/
theorem toNat_word (m : Machine) :
    m.word.toNat =
      256 * (m.memory.read (m.registers.pc.toNat % 4096 : Nat)).toNat +
        (m.memory.read ((m.registers.pc.toNat + 1) % 4096 : Nat)).toNat := by
  have hhigh : m.memory.read (m.registers.pc.toNat % 4096 : Nat) =
      m.memory.read m.registers.pc.toNat := m.memory.read_congr (by omega)
  have hlow : m.memory.read ((m.registers.pc.toNat + 1) % 4096 : Nat) =
      m.memory.read (m.registers.pc.toNat + 1) := m.memory.read_congr (by omega)
  have hhigh' := (m.memory.read m.registers.pc.toNat).toNat_lt
  have hlow' := (m.memory.read (m.registers.pc.toNat + 1)).toNat_lt
  rw [hhigh, hlow, word, UInt16.toNat_ofNat']
  omega

/-- A completed cycle has executed the instruction of its word, and leaves the program counter that
the instruction leaves. -/
theorem pc_step (h : m.cycle.result = .ok i) :
    i = decode m.word ∧ m.step.registers.pc = m.fetched.pcAfter (decode m.word) := by
  obtain ⟨n, hexec⟩ := exec_of_ok h
  obtain ⟨hresult, hstep⟩ := cycle_of_exec_ok hexec
  rw [hresult, Except.ok.injEq] at h
  have hpc : n.registers.pc = m.fetched.pcAfter (decode m.word) := Instr.pc_exec hexec
  rw [hstep]
  exact ⟨h.symm, hpc⟩

/-- A return that is completed goes to the top of the stack. -/
theorem head?_of_ret (h : m.cycle.result = .ok i) (hw : decode m.word = .ret) :
    m.registers.stack.head? = some m.step.registers.pc := by
  obtain ⟨n, hexec⟩ := exec_of_ok h
  have hrule : (decode m.word).StackRule m.fetched n := Instr.stack_exec hexec
  rw [hw] at hrule
  rw [(cycle_of_exec_ok hexec).2]
  exact (congrArg List.head? hrule :)

/-- The sum of a computed jump does not leave the sixteen bits, but it may leave the memory. -/
theorem toNat_pcAfter_jumpOffset (m : Machine) (w : UInt16) :
    (m.pcAfter (.jumpOffset (Word.nnn w))).toNat =
      (w.toNat % 4096 +
        (m.registers.get (if m.dialect.jumping then Word.x w else 0)).toNat) % 65536 := by
  have hreg : m.jumpRegister (Word.nnn w) = if m.dialect.jumping then Word.x w else 0 := by
    have hx : (⟨(Word.nnn w).val / 256, by omega⟩ : Reg) = Word.x w := by
      apply Fin.ext
      simp only [Word.nnn, Word.x]
      omega
    rw [jumpRegister, hx]
  show (UInt16.ofNat (Word.nnn w).val + (m.registers.get (m.jumpRegister _)).toUInt16).toNat = _
  rw [hreg, UInt16.toNat_add, UInt8.toNat_toUInt16]
  simp [Word.nnn]

theorem pcAfter_of_skips (h : m.skips i = true) : m.pcAfter i = m.registers.pc + 2 := by
  cases i with
  | skipEqImm | skipNeImm | skipEq | skipNe | skipKey | skipNoKey => exact if_pos h
  | _ => cases h

theorem pcAfter_of_straight (hleap : i.op ∉ [.jump, .call, .ret, .jumpOffset])
    (hskip : ¬ m.skips i = true) (hwait : ∀ x, i = .awaitKey x → m.keypad.released? ≠ none) :
    m.pcAfter i = m.registers.pc := by
  cases i with
  | jump | call | ret | jumpOffset => simp [Instr.op] at hleap
  | awaitKey x => exact if_neg (hwait x rfl)
  | _ => exact (if_neg hskip : (if m.skips _ then m.registers.pc + 2 else _) = m.registers.pc)

/-- **A completed cycle leaves the successor of the table.** -/
theorem leads_step (h : m.cycle.result = .ok i) : m.Leads m.word m.step.registers.pc := by
  have hpc := (pc_step h).2
  have hfetched : m.fetched.registers.pc = m.registers.pc + 2 := rfl
  have hskips : m.fetched.skips (decode m.word) = m.skips (decode m.word) := rfl
  have hnnn : (UInt16.ofNat (Word.nnn m.word).val).toNat = m.word.toNat % 4096 := by
    simp only [Word.nnn, UInt16.toNat_ofNat']
    omega
  refine ⟨?_, ?_, ?_, ?_, ?_, ?_⟩
  · rintro ⟨p, hp, hfits⟩
    simp only [List.mem_cons, List.not_mem_nil, or_false] at hp
    obtain rfl | rfl := hp
    · rw [hpc, decode_of_fits (k := .jump) hfits]
      exact hnnn
    · rw [hpc, decode_of_fits (k := .call) hfits]
      exact hnnn
  · intro hfits
    exact head?_of_ret h (decode_of_fits (k := .ret) hfits)
  · intro hfits
    rw [hpc, decode_of_fits (k := .jumpOffset) hfits]
    exact m.fetched.toNat_pcAfter_jumpOffset m.word
  · intro hskip
    rw [hpc, pcAfter_of_skips (hskips.trans (skips_iff.1 hskip)), hfetched]
    simp only [UInt16.toNat_add, UInt16.reduceToNat]
    omega
  · intro hwait
    obtain ⟨hawait, hnone⟩ := waits_iff.1 hwait
    have hback : m.fetched.pcAfter (.awaitKey (Word.x m.word)) = m.registers.pc + 2 - 2 :=
      if_pos hnone
    rw [hpc, hawait, hback]
    simp
  · intro hleap hskip hwait
    have hreleased : ∀ x, decode m.word = .awaitKey x → m.fetched.keypad.released? ≠ none := by
      intro x hx hnone
      obtain rfl := (reads_of_decode hx rfl).register x rfl
      exact hwait (waits_iff.2 ⟨hx, hnone⟩)
    rw [hpc, pcAfter_of_straight (mt fitsAny_leaps_iff.2 hleap) (hskips ▸ mt skips_iff.2 hskip)
      hreleased, hfetched]
    simp only [UInt16.toNat_add, UInt16.reduceToNat]

/-- Words of the families `5` and `9` with a last digit other than zero fit no pattern. -/
theorem not_listed_of_last_ne (hfamily : Word.FitsAny w ["5XYN", "9XYN"])
    (hlast : w.toNat % 16 ≠ 0) : ¬ Word.Listed w := by
  rw [Word.listed_iff, not_not]
  obtain ⟨p, hp, hfits⟩ := hfamily
  simp only [List.mem_cons, List.not_mem_nil, or_false] at hp
  obtain rfl | rfl := hp
  all_goals
    simp [Word.Fits, Text.hexAlphabet] at hfits
    simp [decode, ← hfits, hlast, Instr.op]

/-- **The successor of the program counter.** A completed cycle executes the instruction of the word
whose bytes stand at the program counter, and the table of successors names one address for this
word: the one that the cycle leaves. Words without a pattern are followed by their neighbours. -/
theorem pc_successor (h : m.cycle.result = .ok i) :
    let p := m.registers.pc.toNat
    let w := i.encode
    w.toNat = 256 * (m.memory.read (p % 4096 : Nat)).toNat +
        (m.memory.read ((p + 1) % 4096 : Nat)).toNat ∧
      i = decode w ∧
      (∀ next, m.Leads w next ↔ next = m.step.registers.pc) ∧
      ((Word.FitsAny w ["5XYN", "9XYN"] ∧ w.toNat % 16 ≠ 0) ∨ ¬ Word.Listed w →
        m.step.registers.pc.toNat = (p + 2) % 65536) := by
  intro p w
  obtain ⟨hi, hpc⟩ := pc_step h
  have hw : w = m.word := by
    show i.encode = m.word
    rw [hi, encode_decode]
  have hleads : m.Leads w m.step.registers.pc := hw ▸ leads_step h
  refine ⟨hw ▸ m.toNat_word, hw ▸ hi, fun next => ⟨fun hnext => hnext.unique hleads, ?_⟩, ?_⟩
  · rintro rfl
    exact hleads
  · intro hstray
    have hlisted : ¬ Word.Listed m.word := by
      rw [hw] at hstray
      rcases hstray with ⟨hfamily, hlast⟩ | hlisted
      · exact not_listed_of_last_ne hfamily hlast
      · exact hlisted
    rw [hpc, decode_of_not_listed hlisted]
    exact m.registers.pc.toNat_add 2

end

/-- The word `E1A1` runs around the end of memory, and the program counter around the end of its
sixteen bits. Key 3 is held, but `V1` names no key, so the next word is skipped. -/
theorem pc_successor_around_the_end :
    let m := { fresh .plain (.constant 0) with
      memory := (Memory.fresh.write 0xFFF 0xE1).write 0x1000 0xA1
      registers := (Registers.fresh.set 1 0x13).goto 0xFFFF
      keypad := Keypad.fresh.put 3 true }
    m.cycle.result = .ok (.skipNoKey 1) ∧ (∀ next, m.Leads 0xE1A1 next ↔ next = 3) ∧
      m.step.registers.pc = 3 := by
  intro m
  have hdecode : decode m.word = .skipNoKey 1 := by decide +kernel
  have hexec : (decode m.word).exec m.fetched =
      .ok (m.fetched.onRegisters fun r =>
        r.skipIf (!m.keypad.isPressed (r.get 1).toNat)) := by
    rw [hdecode]
    rfl
  have hresult : m.cycle.result = .ok (.skipNoKey 1) := by
    rw [(cycle_of_exec_ok hexec).1, hdecode]
  have hstep : m.step.registers.pc = 3 := by decide +kernel
  obtain ⟨-, -, hleads, -⟩ := pc_successor hresult
  rw [hstep] at hleads
  exact ⟨hresult, hleads, hstep⟩

end Machine

end ChipEight
