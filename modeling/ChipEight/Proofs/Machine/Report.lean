import ChipEight.Proofs.Instr.Patterns
import ChipEight.Proofs.Pacer.Abort
import ChipEight.Proofs.Text.Digits

/-!
# Where an instruction is reported to stand

A cycle has three occasions to tell the address of its instruction. The trace is written before the
program counter is moved. A word without a pattern is reported when the program counter stands behind
it, and two is taken off again; both count modulo 65536, so this is right at the end of the sixteen
bits as well. A return without a return address is refused at the same moment, and there nothing is
taken off. The fault names the address behind the return, and so does its text.

An address is told as four digits behind a dollar sign. To say that a line tells one address and no
other, the line is read and not written: what stands behind its first dollar sign is the field of one
address only.

## Main definitions

- `Text.ShowsAddress`: the address that a text shows.

## Main results

- `Text.ShowsAddress.unique`: a text shows one address at most.
- `Machine.log_cycle`: the entries of a cycle, told by the address that it fetched from.
- `Machine.log_burst`: a row of cycles reports what its cycles report.
- `Machine.cycle_eq_underflow_iff`: when a return is refused, and with which address.
- `Machine.addresses_reported`: all that is told about the instruction of a cycle.
-/

namespace ChipEight

/-! ### Addresses in a text -/

/-- Addresses are told apart by their four digits. -/
theorem Instr.toList_wordText_inj {a b : UInt16} {s t : List Char}
    (h : (wordText a).toList ++ s = (wordText b).toList ++ t) : a = b := by
  rw [wordText, wordText, String.toList_ofList, String.toList_ofList] at h
  have hfields := (List.append_inj h (by simp)).1
  exact UInt16.toNat_inj.1 ((Text.hexField_inj_of_lt a.toNat_lt b.toNat_lt).1 hfields)

theorem Instr.dollar_not_mem_wordText (a : UInt16) : '$' ∉ (wordText a).toList := by
  intro h
  rw [wordText, String.toList_ofList] at h
  have hdigit := Text.mem_hexAlphabet_of_mem_hexField h
  revert hdigit
  decide

namespace Text

/-- A text shows an address: the four digits of the address stand behind its first dollar sign. -/
def ShowsAddress (s : String) (a : UInt16) : Prop :=
  ∃ before after, s = before ++ "$" ++ Instr.wordText a ++ after ∧ '$' ∉ before.toList

/-- What a text holds from its first dollar sign on. -/
theorem dropWhile_of_dollar {before : String} (hbefore : '$' ∉ before.toList) (rest : String) :
    (before ++ "$" ++ rest).toList.dropWhile (· != '$') = '$' :: rest.toList := by
  have hall : ∀ c ∈ before.toList, (c != '$') = true := by
    intro c hc
    refine bne_iff_ne.2 ?_
    rintro rfl
    exact hbefore hc
  rw [String.toList_append, String.toList_append, List.append_assoc,
    List.dropWhile_append_of_pos hall]
  rfl

/-- **A text shows one address at most.** -/
theorem ShowsAddress.unique {s : String} {a b : UInt16} (ha : ShowsAddress s a)
    (hb : ShowsAddress s b) : a = b := by
  obtain ⟨before, after, rfl, hbefore⟩ := ha
  obtain ⟨before', after', hs, hbefore'⟩ := hb
  have hrest : '$' :: (Instr.wordText a ++ after).toList =
      '$' :: (Instr.wordText b ++ after').toList := by
    rw [← dropWhile_of_dollar hbefore, ← dropWhile_of_dollar hbefore', ← String.append_assoc, hs,
      String.append_assoc]
  rw [String.toList_append, String.toList_append] at hrest
  exact Instr.toList_wordText_inj (List.cons.inj hrest).2

end Text

namespace Entry

/-- A line shows the address that its message shows: its heading has no dollar sign. -/
theorem showsAddress_line {e : Entry} {a : UInt16}
    (hsource : e.source = "chip8emu.core.interpreter") (h : Text.ShowsAddress e.message a) :
    Text.ShowsAddress e.line a := by
  obtain ⟨before, after, hmessage, hbefore⟩ := h
  have hlevel : ∀ l : Level, '$' ∉ ("[" ++ l.name ++ "] ").toList := by
    intro l
    cases l <;> decide +kernel
  refine ⟨"[" ++ e.level.name ++ "] " ++ "chip8emu.core.interpreter: " ++ before, after, ?_, ?_⟩
  · have hheading : "chip8emu.core.interpreter: " = "chip8emu.core.interpreter" ++ ": " := by
      decide +kernel
    rw [line, hsource, hmessage, hheading]
    simp only [String.append_assoc]
  · rw [String.toList_append, String.toList_append]
    exact List.not_mem_append (List.not_mem_append (hlevel _) (by decide +kernel)) hbefore

/-- The line of a trace shows the address that is traced. -/
theorem showsAddress_traced (a : UInt16) (i : Instr) :
    Text.ShowsAddress (traced a i).line a := by
  have hmessage : (traced a i).message =
      "$" ++ Instr.wordText a ++ "  " ++ Instr.wordText i.encode ++ "  " ++ i.mnemonic := rfl
  refine showsAddress_line rfl ⟨"", "  " ++ Instr.wordText i.encode ++ "  " ++ i.mnemonic, ?_, ?_⟩
  · rw [hmessage, String.empty_append]
    simp only [String.append_assoc]
  · exact List.not_mem_nil

/-- The line about a word without a pattern shows the address that is told. -/
theorem showsAddress_skipped (w a : UInt16) : Text.ShowsAddress (skipped w a).line a := by
  have hmessage : (skipped w a).message =
      "Unknown opcode " ++ Instr.wordText w ++ " at $" ++ Instr.wordText a ++ "; skipped" := rfl
  have hdollar : " at $" = " at " ++ "$" := by decide +kernel
  refine showsAddress_line rfl
    ⟨"Unknown opcode " ++ Instr.wordText w ++ " at ", "; skipped", ?_, ?_⟩
  · rw [hmessage, hdollar]
    simp only [String.append_assoc]
  · rw [String.toList_append, String.toList_append]
    exact List.not_mem_append
      (List.not_mem_append (by decide +kernel) (Instr.dollar_not_mem_wordText w))
      (by decide +kernel)

end Entry

/-- The text of a refused return shows the address that the fault names. -/
theorem Fault.showsAddress_stackUnderflow (a : UInt16) :
    Text.ShowsAddress (Fault.stackUnderflow a.toNat).message a := by
  have hdollar : "return with empty stack at $" = "return with empty stack at " ++ "$" := by
    decide +kernel
  have hdigits : Text.hex 4 a.toNat = Instr.wordText a := Text.hex_of_lt (by decide) a.toNat_lt
  have hmessage : (Fault.stackUnderflow a.toNat).message =
      "return with empty stack at $" ++ Text.hex 4 a.toNat := rfl
  refine ⟨"return with empty stack at ", "", ?_, by decide +kernel⟩
  rw [hmessage, hdigits, hdollar, String.append_empty]

/-! ### Cycles -/

namespace Machine

section

variable (m : Machine)

/-- What a word without a pattern is reported with: two below the program counter behind it is the
program counter in front of it, at the end of the sixteen bits as well. -/
theorem report_fetched :
    m.fetched.report (decode m.word) =
      if (decode m.word).op = .unknown then [.skipped m.word m.registers.pc] else [] := by
  have hback : m.fetched.registers.pc - 2 = m.registers.pc := UInt16.add_sub_cancel _ 2
  cases hdecode : decode m.word with
  | unknown w =>
    have hword : w = m.word := by
      have h := encode_decode m.word
      rwa [hdecode] at h
    rw [report, hback, hword]
    rfl
  | _ => rfl

/-- **What a cycle writes down**, told by the address that it fetched from. -/
theorem log_cycle :
    m.cycle.log = .traced m.registers.pc (decode m.word) ::
      (if (decode m.word).op = .unknown then [.skipped m.word m.registers.pc] else []) := by
  rw [← report_fetched, cycle]
  split <;> rfl

/-- Every line that is written of a cycle shows the address that it fetched from. -/
theorem showsAddress_of_mem_written {threshold : Int} {line : String}
    (h : line ∈ m.cycle.log.written threshold) : Text.ShowsAddress line m.registers.pc := by
  obtain ⟨e, he, rfl⟩ := List.mem_map.1 h
  have hmem : e ∈ m.cycle.log := List.mem_of_mem_filter (List.mem_of_mem_filter he)
  rw [log_cycle, List.mem_cons] at hmem
  rcases hmem with rfl | hmem
  · exact Entry.showsAddress_traced _ _
  · split at hmem
    · obtain rfl := List.mem_singleton.1 hmem
      exact Entry.showsAddress_skipped _ _
    · cases hmem

/-- **When a return is refused.** The fault names the address behind the return. -/
theorem cycle_eq_underflow_iff {a : Nat} :
    m.cycle.result = .error (.stackUnderflow a) ↔
      m.word = 0x00EE ∧ m.registers.stack = [] ∧ a = (m.registers.pc + 2).toNat := by
  rw [← decode_eq_ret_iff]
  constructor
  · intro h
    have hexec := exec_of_error h
    obtain ⟨hret, ha⟩ := Instr.exec_eq_underflow hexec
    rw [hret] at hexec
    exact ⟨hret, (ret_eq_error_iff.1 hexec).1, ha⟩
  · rintro ⟨hret, hstack, rfl⟩
    refine (cycle_of_exec_error ?_).1
    rw [hret]
    exact ret_eq_error_iff.2 ⟨hstack, rfl⟩

/-- **A row of cycles reports what its cycles report**, in order, up to the one that fails. -/
theorem log_burst (wait : Bool) (n : Nat) :
    (m.burst wait n).log =
      (m.beginnings (List.replicate (m.burst wait n).begun .cycle)).flatMap fun k => k.cycle.log := by
  induction n generalizing m with
  | zero => rfl
  | succ n ih =>
    cases hresult : m.cycle.result with
    | error f =>
      rw [burst_of_error hresult]
      exact (List.append_nil _).symm
    | ok i =>
      cases hdirty : wait && m.step.display.dirty with
      | true =>
        rw [burst_of_stop hresult hdirty]
        exact (List.append_nil _).symm
      | false =>
        rw [begun_of_go hresult hdirty, burst_of_go hresult hdirty]
        exact congrArg (m.cycle.log ++ ·) (ih m.step)

end

/-- **Where an instruction is reported to stand.** The trace of a cycle and the report of a word
without a pattern tell the address that the cycle fetched from, and so does each line that is written
of them. A refused return is reported at the address behind it, in the fault and in its text. A row of
cycles reports what its cycles report. -/
theorem addresses_reported (m : Machine) :
    let p := m.registers.pc
    m.cycle.log = .traced p (decode m.word) ::
        (if (decode m.word).op = .unknown then [.skipped m.word p] else []) ∧
      ((decode m.word).op = .unknown ↔ ¬ Word.Listed m.word) ∧
      (∀ threshold, ∀ line ∈ m.cycle.log.written threshold,
        ∀ a, Text.ShowsAddress line a ↔ a = p) ∧
      (∀ address, m.cycle.result = .error (.stackUnderflow address) ↔
        m.word = 0x00EE ∧ m.registers.stack = [] ∧ address = (p.toNat + 2) % 65536) ∧
      (∀ a, Text.ShowsAddress (Fault.stackUnderflow ((p.toNat + 2) % 65536)).message a ↔
        a = p + 2) ∧
      ∀ wait n, (m.burst wait n).log =
        (m.beginnings (List.replicate (m.burst wait n).begun .cycle)).flatMap
          fun k => k.cycle.log := by
  intro p
  have hbehind : (p + 2).toNat = (p.toNat + 2) % 65536 := p.toNat_add 2
  refine ⟨m.log_cycle, ?_, fun threshold line hline a => ?_, fun address => ?_, fun a => ?_,
    m.log_burst⟩
  · rw [Word.listed_iff, not_not]
  · have hshows : Text.ShowsAddress line p := m.showsAddress_of_mem_written hline
    constructor
    · exact fun ha => ha.unique hshows
    · rintro rfl
      exact hshows
  · rw [cycle_eq_underflow_iff, ← hbehind]
  · have hshows := Fault.showsAddress_stackUnderflow (p + 2)
    rw [hbehind] at hshows
    constructor
    · exact fun ha => ha.unique hshows
    · rintro rfl
      exact hshows

/-- A word without a pattern runs around the end of memory, fetched at the end of the sixteen bits. A
return that is fetched one byte earlier is refused at address zero. -/
theorem addresses_reported_around_the_end :
    let m := { fresh .plain (.constant 0) with
      memory := (Memory.fresh.write 0xFFF 0x50).write 0 0x01
      registers := Registers.fresh.goto 0xFFFF }
    let n := { fresh .plain (.constant 0) with
      memory := Memory.fresh.writeBlock 0xFFE [0x00, 0xEE]
      registers := Registers.fresh.goto 0xFFFE }
    m.cycle.log = [.traced 0xFFFF (.unknown 0x5001), .skipped 0x5001 0xFFFF] ∧
      n.cycle.log = [.traced 0xFFFE .ret] ∧
      n.cycle.result = .error (.stackUnderflow 0) ∧
      Text.ShowsAddress (Fault.stackUnderflow 0).message 0 := by
  intro m n
  have hm : decode m.word = .unknown 0x5001 ∧ m.word = 0x5001 := by decide +kernel
  have hn : decode n.word = .ret ∧ n.word = 0x00EE := by decide +kernel
  obtain ⟨hlog, -⟩ := addresses_reported m
  obtain ⟨hlog', -, -, hrefused, hshows, -⟩ := addresses_reported n
  rw [hm.1, hm.2] at hlog
  rw [hn.1] at hlog'
  have hbehind : n.registers.pc + 2 = 0 ∧ (n.registers.pc.toNat + 2) % 65536 = 0 := by decide
  rw [hbehind.2] at hrefused hshows
  exact ⟨hlog, hlog', (hrefused 0).2 ⟨hn.2, rfl, rfl⟩, (hshows 0).2 hbehind.1.symm⟩

/-- **A refused return is not reported where it stands.** The return is fetched from `0x200`, and the
trace says so, but the fault and its text say `0x202`. -/
theorem return_reported_behind :
    let m := { fresh .plain (.constant 0) with
      memory := Memory.fresh.writeBlock 0x200 [0x00, 0xEE] }
    m.registers.pc = 0x200 ∧ m.word = 0x00EE ∧
      m.cycle.log = [.traced 0x200 .ret] ∧
      m.cycle.result = .error (.stackUnderflow 0x202) ∧
      (Fault.stackUnderflow 0x202).message = "return with empty stack at $0202" ∧
      ¬ Text.ShowsAddress (Fault.stackUnderflow 0x202).message 0x200 ∧
      ¬ ∀ (k : Machine) (a : Nat), k.cycle.result = .error (.stackUnderflow a) →
        a = k.registers.pc.toNat := by
  intro m
  have hword : decode m.word = .ret ∧ m.word = 0x00EE := by decide +kernel
  have hlog : m.cycle.log = [.traced 0x200 .ret] := by
    rw [log_cycle, hword.1]
    rfl
  have hrefused : m.cycle.result = .error (.stackUnderflow 0x202) :=
    m.cycle_eq_underflow_iff.2 ⟨hword.2, rfl, rfl⟩
  refine ⟨rfl, hword.2, hlog, hrefused, by decide +kernel, ?_, ?_⟩
  · intro hshows
    have h := hshows.unique (Fault.showsAddress_stackUnderflow 0x202)
    revert h
    decide
  · intro hall
    have h := hall m 0x202 hrefused
    revert h
    decide

end Machine

end ChipEight
