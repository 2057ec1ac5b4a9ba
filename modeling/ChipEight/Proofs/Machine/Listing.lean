import ChipEight.ProgramFile
import ChipEight.Proofs.Machine.Load
import ChipEight.Proofs.Machine.Report
import Mathlib.Data.List.TakeDrop

/-!
# What a listing shows is what a machine fetches

The account of a program file and a machine with the program of the file are made by different
means. The account compares the size of the file with a number of its own and puts words together
from the bytes of the file; the machine is refused by the offer of its program, and puts words
together from memory. They agree: the program fits by the account exactly if there is a machine, and
in each line of the listing stands the word that the machine fetches at the address of the line.

An odd byte at the end is in no line, as no word begins with it. It is in memory.

## Main definitions

- `Listing.Shows`: a line shows what a machine fetches at an address.

## Main results

- `Listing.linesOf_int`: the listing for an integer base and an integer count.
- `ProgramFile.create_eq`: the machine with the program of a file, or the complaint.
- `ProgramFile.account_agrees`: the account and the machine agree.
-/

namespace ChipEight

/-! ### Words of a row of bytes -/

/-- A word of a row of bytes is made of two of them, the high one first. -/
theorem getElem?_wordsOfBytes {w : UInt16} : ∀ {bs : List UInt8} {k : Nat},
    (wordsOfBytes bs)[k]? = some w → ∃ hi lo, bs[2 * k]? = some hi ∧ bs[2 * k + 1]? = some lo ∧
      w = UInt16.ofNat (256 * hi.toNat + lo.toNat)
  | [], _, h => by cases h
  | [_], _, h => by cases h
  | hi :: lo :: bs, 0, h => by
    rw [wordsOfBytes, List.getElem?_cons_zero, Option.some.injEq] at h
    exact ⟨hi, lo, rfl, rfl, h.symm⟩
  | hi :: lo :: bs, k + 1, h => by
    rw [wordsOfBytes, List.getElem?_cons_succ] at h
    have hrest : ∃ hi lo, bs[2 * k]? = some hi ∧ bs[2 * k + 1]? = some lo ∧
        w = UInt16.ofNat (256 * hi.toNat + lo.toNat) := getElem?_wordsOfBytes h
    exact hrest

/-- An odd byte at the end is in no word. -/
theorem wordsOfBytes_concat (b : UInt8) : ∀ {bs : List UInt8}, bs.length % 2 = 0 →
    wordsOfBytes (bs ++ [b]) = wordsOfBytes bs
  | [], _ => rfl
  | [_], heven => by cases heven
  | hi :: lo :: bs, heven => by
    have hrest : bs.length % 2 = 0 := by
      simp only [List.length_cons] at heven
      omega
    rw [List.cons_append, List.cons_append, wordsOfBytes, wordsOfBytes,
      wordsOfBytes_concat b hrest]

namespace Listing

/-! ### Lines -/

theorem length_lines (bytes : List UInt8) (base count : Int) :
    ((lines bytes base count).length : Int) =
      max 0 (min ((bytes.length / 2 : Nat) : Int) count) := by
  rw [lines, List.length_map, length_rows]
  omega

/-- The words that begin in front of the last byte and in front of the double of the count are as
many as the count says, as far as there are words. -/
theorem shownWords_int (bytes : List UInt8) (count : Int) :
    shownWords bytes (.int count) =
      .ok ((min ((bytes.length : Int) - 1) (2 * count) + 1) / 2).toNat := by
  have hbelow : (Datum.int (2 * count)).isBelow (bytes.length - 1) =
      .ok (decide (2 * count < (bytes.length : Int) - 1)) := by
    simp [Datum.isBelow, Datum.magnitude?, Datum.integer?, Magnitude.ofInt, Magnitude.lt]
  have htwice : (Datum.int count).twice = .ok (.int (2 * count)) := rfl
  have hcount : (Datum.int (2 * count)).count = .ok (2 * count) := rfl
  simp only [shownWords, htwice, hbelow, bind, Except.bind, pure, Except.pure]
  by_cases hfew : 2 * count < (bytes.length : Int) - 1
  · have hmin : min ((bytes.length : Int) - 1) (2 * count) = 2 * count := by omega
    rw [if_pos (decide_eq_true hfew), hcount, hmin]
  · have hmin : min ((bytes.length : Int) - 1) (2 * count) = bytes.length - 1 := by omega
    rw [decide_eq_false hfew, if_neg Bool.false_ne_true, hmin]

/-- **The listing for an integer base and an integer count.** -/
theorem linesOf_int (bytes : List UInt8) (base count : Int) :
    linesOf bytes (.int base) (.int count) = .ok (lines bytes base count) := by
  have htake : (wordsOfBytes bytes).take
      ((min ((bytes.length : Int) - 1) (2 * count) + 1) / 2).toNat =
        (wordsOfBytes bytes).take count.toNat := by
    rw [List.take_eq_take_iff, length_wordsOfBytes]
    omega
  have hopen : linesOf bytes (.int base) (.int count) =
      (shownWords bytes (.int count)).bind fun shown =>
        ((wordsOfBytes bytes).take shown).zipIdx.mapM fun e =>
          (pure (line (base + 2 * (e.2 : Int)) e.1) : Except OperandFault String) := rfl
  rw [hopen, shownWords_int, Except.bind, htake, List.mapM_pure, lines, rows, List.map_map]
  rfl

/-- The lines of a program, at the addresses where it is placed. -/
theorem getElem?_lines {bytes : List UInt8} {count : Int} {k : Nat} {text : String}
    (h : (lines bytes Memory.programBase count)[k]? = some text) :
    ∃ w, (wordsOfBytes bytes)[k]? = some w ∧
      text = "$" ++ Text.hex 3 (0x200 + 2 * k) ++ "  " ++ Instr.wordText w ++ "  " ++
        (decode w).mnemonic := by
  rw [lines, rows, List.map_map, List.getElem?_map, Option.map_eq_some_iff] at h
  obtain ⟨⟨w, j⟩, he, rfl⟩ := h
  rw [List.getElem?_zipIdx, Option.map_eq_some_iff] at he
  obtain ⟨v, hv, hpair⟩ := he
  obtain ⟨rfl, rfl⟩ := Prod.mk.inj hpair
  have haddress : Text.hexInt 3 ((Memory.programBase : Int) + 2 * ((0 + k : Nat) : Int)) =
      Text.hex 3 (0x200 + 2 * k) := by
    have hnat : (Memory.programBase : Int) + 2 * ((0 + k : Nat) : Int) =
        ((0x200 + 2 * k : Nat) : Int) := by
      simp only [Memory.programBase]
      omega
    rw [hnat, Text.hexInt, if_neg (by omega), Int.natAbs_natCast]
  have hword : (wordsOfBytes bytes)[k]? = some v := by
    rw [List.getElem?_take] at hv
    split at hv
    · exact hv
    · cases hv
  refine ⟨v, hword, ?_⟩
  simp only [Function.comp, line, lineAt, haddress]

/-- A line shows what a machine fetches with its program counter at an address: the word, and the
text of the instruction for which a cycle takes it. -/
def Shows (text : String) (m : Machine) (a : Nat) : Prop :=
  ∃ n, Console.write m (.pc a) = .ok n ∧ n.registers.pc.toNat = a ∧
    text = "$" ++ Text.hex 3 a ++ "  " ++ Instr.wordText n.word ++ "  " ++
      (decode n.word).mnemonic ∧
    n.cycle.log.head? = some (.traced n.registers.pc (decode n.word))

end Listing

namespace ProgramFile

variable {read : FileReader} {path : String} {bytes : List UInt8}

/-- **The machine with the program of a file**, or the complaint about the size of the program. -/
theorem create_eq (hread : read path = .ok bytes) (d : Dialect) {seed : Datum}
    {unseeded source : RandomSource} (hseed : RandomSource.ofSeed unseeded seed = .ok source) :
    create read unseeded path d seed =
      if bytes.length ≤ 3584 then
        .ok ({ Machine.fresh d source with memory := Memory.fresh.writeBlock 0x200 bytes },
          [.loaded bytes.length, .created path d.enabledNames])
      else .error (.program (.tooLarge bytes.length 3584)) := by
  have hopen : create read unseeded path d seed =
      ((read path).mapError .file).bind fun bytes =>
        ((RandomSource.ofSeed unseeded seed).mapError .seed).bind fun source =>
          (((Machine.fresh d source).load (.offer (.raw bytes))).mapError .program).map fun m =>
            (m, [.loaded bytes.length, .created path d.enabledNames]) := by
    simp only [create, bind, Except.bind, pure, Except.pure, Except.map]
  rw [hopen, hread, hseed]
  simp only [Except.mapError, Except.bind]
  by_cases hfits : bytes.length ≤ 3584
  · have haccept : (Offer.raw bytes).accept = .ok bytes := Offer.accept_of_fits rfl hfits
    rw [if_pos hfits, Machine.load_of_bytes (p := .offer (.raw bytes)) haccept]
    rfl
  · have haccept : (Offer.raw bytes).accept = .error (.tooLarge bytes.length 3584) :=
      Offer.accept_of_tooLarge rfl (Nat.not_le.1 hfits)
    rw [if_neg hfits, Machine.load_of_error (p := .offer (.raw bytes)) haccept]
    rfl

/-- A program that fits is found in memory, byte by byte. -/
theorem read_program {k : Nat} {b : UInt8} (hfits : bytes.length ≤ 3584)
    (hb : bytes[k]? = some b) :
    (Memory.fresh.writeBlock 0x200 bytes).read (0x200 + k : Nat) = b := by
  obtain ⟨hk, rfl⟩ := List.getElem?_eq_some_iff.1 hb
  have hread := Memory.fresh.read_writeBlock (a := 0x200) (by omega) hk
  rw [← hread]
  rfl

/-- A line of the program shows what is fetched at its address. -/
theorem shows_of_getElem? {m : Machine} {count : Int} {k : Nat} {text : String}
    (hfits : bytes.length ≤ 3584) (hmemory : m.memory = Memory.fresh.writeBlock 0x200 bytes)
    (h : (Listing.lines bytes Memory.programBase count)[k]? = some text) :
    Listing.Shows text m (0x200 + 2 * k) := by
  obtain ⟨w, hw, htext⟩ := Listing.getElem?_lines h
  obtain ⟨hi, lo, hhi, hlo, hword⟩ := getElem?_wordsOfBytes hw
  have hk : 2 * k + 1 < bytes.length := (List.getElem?_eq_some_iff.1 hlo).1
  have hpc : (UInt16.ofInt ((0x200 + 2 * k : Nat) : Int)).toNat = 0x200 + 2 * k := by
    have hmod := toNat_word_ofInt ((0x200 + 2 * k : Nat) : Int)
    omega
  let n := m.onRegisters fun r => r.goto (UInt16.ofInt ((0x200 + 2 * k : Nat) : Int))
  have hfetch : n.word = w := by
    have hplace : ((0x200 + 2 * k : Nat) : Int) + 1 = (0x200 + (2 * k + 1) : Nat) := by omega
    have hn : n.word = UInt16.ofNat (256 * (m.memory.read (0x200 + 2 * k : Nat)).toNat +
        (m.memory.read (((0x200 + 2 * k : Nat) : Int) + 1)).toNat) := by
      rw [← hpc]
      rfl
    rw [hn, hplace, hmemory, read_program hfits hhi, read_program hfits hlo, hword]
  refine ⟨n, rfl, hpc, ?_, ?_⟩
  · rw [hfetch]
    exact htext
  · rw [Machine.log_cycle, List.head?_cons]

theorem fits_mem_entries : ("fits", "yes") ∈ (account path bytes).entries ↔
    bytes.length ≤ 3584 := by
  have hcapacity : Memory.programCapacity = 3584 := rfl
  simp only [Account.entries, account, hcapacity]
  by_cases hfits : bytes.length ≤ 3584 <;> simp [hfits]

/-- **The account of a file and the machine with its program agree**, for every file that can be
read, every dialect and every seed; a seed may be nothing or any integer, and without a seed random
bytes may come from anywhere.

By the account the program fits exactly if there is a machine, and otherwise it is refused for its
size. Each line of a listing shows what the machine fetches with its program counter at the address
of the line. A listing has as many lines as there are whole words, but no more than asked for, for
any base and any count. An odd byte at the end is in no line, and it is in memory. -/
theorem account_agrees (read : FileReader) (unseeded : RandomSource) (path : String)
    (bytes : List UInt8) (hread : read path = .ok bytes) :
    (∃ a, describe read path = .ok a ∧
      Listing.linesOf bytes (.int 0x200) (.int 16) = .ok a.listing ∧
      ∀ (d : Dialect) (seed : Datum) (source : RandomSource),
        RandomSource.ofSeed unseeded seed = .ok source →
          (("fits", "yes") ∈ a.entries ↔
            ∃ m log, create read unseeded path d seed = .ok (m, log)) ∧
          (("fits", "yes") ∉ a.entries →
            create read unseeded path d seed = .error (.program (.tooLarge bytes.length 3584))) ∧
          ∀ m log, create read unseeded path d seed = .ok (m, log) →
            (∀ count lines k text, Listing.linesOf bytes (.int 0x200) (.int count) = .ok lines →
              lines[k]? = some text → Listing.Shows text m (0x200 + 2 * k)) ∧
            ∀ bs b, bytes = bs ++ [b] → m.memory.read (0x200 + bs.length : Nat) = b) ∧
    (∀ base count : Int, ∃ lines, Listing.linesOf bytes (.int base) (.int count) = .ok lines ∧
      (lines.length : Int) = max 0 (min ((bytes.length / 2 : Nat) : Int) count)) ∧
    (∀ bs b, bytes = bs ++ [b] → bs.length % 2 = 0 → ∀ base count : Int,
      Listing.linesOf bytes (.int base) (.int count) =
        Listing.linesOf bs (.int base) (.int count)) ∧
    (∃ source, RandomSource.ofSeed unseeded .null = .ok source) ∧
    ∀ k : Int, ∃ source, RandomSource.ofSeed unseeded (.int k) = .ok source := by
  refine ⟨⟨account path bytes, ?_, ?_, ?_⟩, ?_, ?_, ⟨_, rfl⟩, fun k => ⟨_, rfl⟩⟩
  · rw [describe, hread]
    rfl
  · exact Listing.linesOf_int bytes 0x200 16
  · intro d seed source hseed
    have hcreate := create_eq hread d hseed
    refine ⟨?_, ?_, ?_⟩
    · rw [fits_mem_entries, hcreate]
      split
      case isTrue hfits => exact ⟨fun _ => ⟨_, _, rfl⟩, fun _ => hfits⟩
      case isFalse hlong => exact ⟨fun hfits => absurd hfits hlong, by rintro ⟨m, log, ⟨⟩⟩⟩
    · intro hno
      rw [fits_mem_entries] at hno
      rw [hcreate, if_neg hno]
    · intro m log hmade
      rw [hcreate] at hmade
      split at hmade
      case isFalse => cases hmade
      case isTrue hfits =>
        cases hmade
        refine ⟨?_, ?_⟩
        · intro count lines k text hlines htext
          have hlist := (Listing.linesOf_int bytes 0x200 count).symm.trans hlines
          cases hlist
          exact shows_of_getElem? hfits rfl htext
        · rintro bs b rfl
          refine read_program hfits ?_
          rw [List.getElem?_append_right (Nat.le_refl _), Nat.sub_self]
          rfl
  · intro base count
    exact ⟨_, Listing.linesOf_int bytes base count, Listing.length_lines bytes base count⟩
  · rintro bs b rfl heven base count
    rw [Listing.linesOf_int, Listing.linesOf_int, Listing.lines, Listing.lines, Listing.rows,
      Listing.rows, wordsOfBytes_concat b heven]

/-- A file of three bytes: one line, and the third byte in memory. -/
theorem account_agrees_three_bytes :
    let read : FileReader := fun _ => .ok [0x00, 0xE0, 0x12]
    read "three" = .ok [0x00, 0xE0, 0x12] ∧
      ∃ a, describe read "three" = .ok a ∧ a.listing = ["$200  00E0  CLS"] ∧
        ∃ m log, create read (.constant 0) "three" .plain .null = .ok (m, log) ∧
          Listing.Shows "$200  00E0  CLS" m 0x200 ∧ m.memory.read 0x202 = 0x12 := by
  intro read
  have hread : read "three" = .ok [0x00, 0xE0, 0x12] := rfl
  obtain ⟨⟨a, hdescribe, hlisting, hagree⟩, -⟩ := account_agrees read (.constant 0) "three" _ hread
  have hlines : Listing.lines [0x00, 0xE0, 0x12] 0x200 16 = ["$200  00E0  CLS"] := by decide
  rw [Listing.linesOf_int, hlines, Except.ok.injEq] at hlisting
  obtain ⟨-, -, hmade⟩ := hagree .plain .null _ rfl
  obtain ⟨m, log, hcreate⟩ :
      ∃ m log, create read (.constant 0) "three" .plain .null = .ok (m, log) :=
    ⟨_, _, create_eq hread .plain rfl⟩
  obtain ⟨hshows, hodd⟩ := hmade m log hcreate
  refine ⟨hread, a, hdescribe, hlisting.symm, m, log, hcreate, ?_, ?_⟩
  · exact hshows 16 ["$200  00E0  CLS"] 0 _ (by rw [Listing.linesOf_int, hlines]) rfl
  · exact hodd [0x00, 0xE0] 0x12 rfl

end ProgramFile

end ChipEight
