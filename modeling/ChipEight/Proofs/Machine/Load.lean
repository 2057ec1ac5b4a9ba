import ChipEight.Console
import ChipEight.Program.Host
import ChipEight.Proofs.Machine.Slices

/-!
# Loading a program

A machine takes what is a row of bytes and fits behind the program base. Everything else is refused,
and for what it is refused is a matter of order: what is no sequence is refused for its kind, what is
too long for its length, what is arranged in a grid for its dimensions, and what is left for the first
of its values that is no byte. A refusal leaves everything as it was. A program that is taken changes
memory and nothing else, and memory only in the cells that it fills. These do not run around the end
of memory: a program of the greatest length ends in the last cell.

Raw bytes are not looked at one by one. They are taken as the same bytes in a list would be.

There are exceptions. A view in a format that cannot be read is refused for its format, packed
characters among them, and a view that was given back is refused for that. A complaint shows the value
that it is about, and where that has an integer with too many digits, the digits are complained about
instead. And a view of the machine's own memory is overwritten while it is read: where it overlaps the
program, a value may come out as one that was stored before.

## Main definitions

- `Datum.IsByte`: an integer from 0 to 255.
- `Offer.values`, `Offer.Readable`: the values at the places of an offer that can be looked at.
- `Offer.FirstNoByte`: the first value that is no byte, and its place.
- `Program.Timely`: no element of the program is overwritten before it is read.
- `Machine.Loaded`: an offer was placed in memory.
- `Machine.Copied`: the elements of a slice of memory were stored one after another.
- `Console.Refuses`, `Console.Takes`: the answer to a program.

## Main results

- `Offer.contents_eq`: raw bytes are treated as a row of values.
- `Machine.copied_copy`, `Machine.Copied.loaded`: what a slice of memory leaves.
- `Console.load_in_order`: which programs are taken, and for what the others are refused.
- `Console.packed_letters_unreadable`: packed characters are not refused for a character.
- `Console.overlapping_slice_repeats`: a view of the machine's own memory that is not placed there.
-/

namespace ChipEight

/-! ### Values and bytes -/

namespace Datum

/-- An integer from 0 to 255. A truth value is none. -/
def IsByte (d : Datum) : Prop :=
  ∃ k : Int, d = .int k ∧ 0 ≤ k ∧ k ≤ 255

theorem byte?_toNat (b : UInt8) : (int b.toNat).byte? = some b := by
  have hb := b.toNat_lt
  rw [byte?, if_pos (by omega)]
  exact congrArg some (byte_ofInt_eq (by omega))

/-- A byte as a value is the number of that byte. -/
theorem IsByte.exists_toNat {d : Datum} (h : d.IsByte) : ∃ b : UInt8, d = .int b.toNat := by
  obtain ⟨k, rfl, hlow, hhigh⟩ := h
  have hk := toNat_byte_ofInt k
  exact ⟨UInt8.ofInt k, congrArg int (by omega)⟩

theorem byte?_eq_none {d : Datum} (h : ¬ d.IsByte) : d.byte? = none := by
  cases d with
  | int k => exact if_neg fun hk => h ⟨k, rfl, hk⟩
  | _ => rfl

end Datum

/-! ### Offers -/

namespace Offer

/-- The values at the places of an offer, as far as they can be looked at. -/
def values : Offer → List Datum
  | .raw bytes => bytes.map fun b => .int b.toNat
  | .items ds => ds
  | .progression start stop step =>
    (List.range (progressionLength start stop step)).map fun (k : Nat) => .int (start + step * k)
  | .packed row _ => row.elements
  | .other _ | .sealed _ _ | .grid _ _ _ | .released => []

/-- An offer is a row of values that can be looked at, from the first to the last. A view without
elements may be one in a format that cannot be read. -/
def Readable : Offer → Prop
  | .raw _ | .items _ | .progression _ _ _ | .packed _ _ => True
  | .sealed format n => format.single?.isSome ∧ n = 0
  | .other _ | .grid _ _ _ | .released => False

/-- The value at the place `k` is `d`, which is no byte. All values before it are bytes. -/
def FirstNoByte (ds : List Datum) (k : Nat) (d : Datum) : Prop :=
  ds[k]? = some d ∧ ¬ d.IsByte ∧ ∀ j < k, ∀ e, ds[j]? = some e → e.IsByte

theorem length_values {o : Offer} (h : o.Readable) : o.values.length = o.length := by
  cases o with
  | raw | items | progression | packed => simp [values, length, PackedRow.elements]
  | «sealed» format n => exact h.2.symm
  | other | grid | released => exact h.elim

/-! ### Values one by one -/

theorem bytesFrom_toNat (offset : Nat) (bs : List UInt8) :
    bytesFrom offset (bs.map fun b => .int b.toNat) = .ok bs := by
  induction bs generalizing offset with
  | nil => rfl
  | cons b bs ih =>
    rw [List.map_cons, bytesFrom, Datum.byte?_toNat]
    simp only [ih, Except.map]

theorem exists_bytes {ds : List Datum} (h : ∀ d ∈ ds, d.IsByte) :
    ∃ bs : List UInt8, ds = bs.map fun b => .int b.toNat := by
  induction ds with
  | nil => exact ⟨[], rfl⟩
  | cons d ds ih =>
    obtain ⟨b, rfl⟩ := (h d List.mem_cons_self).exists_toNat
    obtain ⟨bs, rfl⟩ := ih fun e he => h e (List.mem_cons_of_mem _ he)
    exact ⟨b :: bs, rfl⟩

/-- The first value that is no byte is refused, with its place. -/
theorem bytesFrom_of_firstNoByte {ds : List Datum} {k : Nat} {d : Datum} (offset : Nat)
    (h : FirstNoByte ds k d) : bytesFrom offset ds = .error (.invalidByte (offset + k) d) := by
  obtain ⟨hd, hno, hbefore⟩ := h
  induction ds generalizing offset k with
  | nil => simp at hd
  | cons e ds ih =>
    cases k with
    | zero =>
      obtain rfl : e = d := Option.some.inj hd
      rw [bytesFrom, Datum.byte?_eq_none hno]
      rfl
    | succ k =>
      obtain ⟨b, rfl⟩ := (hbefore 0 (Nat.zero_lt_succ k) e rfl).exists_toNat
      have hrest := ih (offset + 1) hd fun j hj => hbefore (j + 1) (Nat.succ_lt_succ hj)
      rw [bytesFrom, Datum.byte?_toNat]
      simp only [hrest, Except.map]
      rw [Nat.add_right_comm, Nat.add_assoc]

/-- The bytes of a row of raw bytes are its elements. -/
theorem map_toNat_bytes {row : PackedRow} (h : row.format = .raw) :
    (row.bytes.map fun b => Datum.int b.toNat) = row.elements := by
  obtain ⟨format, cells, hwhole⟩ := row
  obtain rfl : format = .raw := h
  induction cells with
  | nil => rfl
  | cons cell cells ih =>
    obtain ⟨b, rfl⟩ := List.length_eq_one_iff.1 (hwhole cell List.mem_cons_self)
    have hrest := ih fun cell' hcell => hwhole cell' (List.mem_cons_of_mem _ hcell)
    exact congrArg (Datum.int b.toNat :: ·) hrest

/-- **Raw bytes are treated as a row of values**, and so is every other offer that can be looked
at. -/
theorem contents_eq {o : Offer} (h : o.Readable) : o.contents = bytesFrom 0 o.values := by
  cases o with
  | raw bytes => exact (bytesFrom_toNat 0 bytes).symm
  | items | progression => rfl
  | packed row hlegible =>
    rw [contents]
    split
    next hraw => rw [values, ← map_toNat_bytes hraw, bytesFrom_toNat]
    next => rfl
  | «sealed» format n => exact if_pos h
  | other | grid | released => exact h.elim

/-! ### What is accepted -/

section

variable {o : Offer}

theorem accept_of_fits (hcount : o.countable = true) (hfits : o.length ≤ 3584) :
    o.accept = o.contents := by
  have hcapacity : ¬ Memory.programCapacity < o.length := Nat.not_lt.2 hfits
  simp [accept, hcount, hcapacity]

theorem accept_of_tooLarge (hcount : o.countable = true) (hlong : 3584 < o.length) :
    o.accept = .error (.tooLarge o.length 3584) := by
  have hcapacity : Memory.programCapacity < o.length := hlong
  simp only [accept, hcount, hcapacity, Bool.not_true, Bool.false_eq_true, if_true, if_false]
  rfl

/-- Packed elements are accepted as the same values in a list would be. -/
theorem accept_packed (row : PackedRow) (h : row.format ≠ .letter) :
    (packed row h).accept = (items row.elements).accept := by
  have hcontents : (packed row h).contents = (items row.elements).contents := contents_eq trivial
  have hlength : (packed row h).length = (items row.elements).length :=
    (length_values (o := packed row h) trivial).symm
  rw [accept, accept, hcontents, hlength]
  rfl

end

end Offer

/-! ### Programs -/

/-- No element of a program is read too late. An offer of the host does not lie in the memory that it
is stored in. -/
def Program.Timely : Program → Prop
  | .offer _ => True
  | .own s => ∀ k < s.count, ¬ s.IsLate k

/-- From `m` to `n` the values of an offer were placed in memory from the program base on. -/
structure Machine.Loaded (m : Machine) (o : Offer) (n : Machine) : Prop where
  placed : ∀ i < o.length, o.values[i]? = some (.int (n.memory.read (0x200 + i : Nat)).toNat)
  /-- The cells before and behind the program are what they were. -/
  outside : ∀ a : Nat, a < 4096 → a < 0x200 ∨ 0x200 + o.length ≤ a →
    n.memory.read a = m.memory.read a
  /-- So is everything else. -/
  rest : n = { m with memory := n.memory }

/-- From `m` to `n` the elements of a slice of memory were stored from the program base on, one after
another. -/
structure Machine.Copied (m : Machine) (s : Slice) (n : Machine) : Prop where
  /-- What was read too late is what was stored in its place. -/
  placed : ∀ k < s.count, n.memory.read (0x200 + k : Nat) =
    if s.IsLate k then n.memory.read (s.address k) else m.memory.read (s.address k)
  outside : ∀ a : Nat, a < 4096 → a < 0x200 ∨ 0x200 + s.count ≤ a →
    n.memory.read a = m.memory.read a
  rest : n = { m with memory := n.memory }

/-- A slice of memory is accepted as the values of its elements in a list would be. -/
theorem Program.accept_own (m : Memory) (s : Slice) : ((own s).seen m).accept =
    (Offer.items ((List.range s.count).map (s.element m))).accept := by
  rw [← Slice.elements_row]
  exact Offer.accept_packed _ _

namespace Machine

variable {m n : Machine} {p : Program} {s : Slice}

theorem load_of_bytes {bs : List UInt8} (h : (p.seen m.memory).accept = .ok bs) :
    m.load p = .ok { m with memory := p.store m.memory bs } := by
  rw [load, h]
  rfl

theorem load_of_error {f : Fault} (h : (p.seen m.memory).accept = .error f) :
    m.load p = .error f := by
  rw [load, h]
  rfl

/-- A program that fits is found in its cells, and nothing else has changed. -/
theorem loaded_writeBlock {o : Offer} {bs : List UInt8}
    (hvalues : o.values = bs.map fun b => .int b.toNat)
    (hlength : bs.length = o.length) (hfits : o.length ≤ 3584) :
    m.Loaded o { m with memory := m.memory.writeBlock 0x200 bs } := by
  refine ⟨fun i hi => ?_, fun a ha hout => ?_, rfl⟩
  · have hi' : i < bs.length := hlength ▸ hi
    have hread := m.memory.read_writeBlock (a := 0x200) (by omega) hi'
    have hplace : ((0x200 + i : Nat) : Int) = 0x200 + i := by omega
    rw [hvalues, List.getElem?_map, List.getElem?_eq_getElem hi', hplace, hread]
    rfl
  · refine m.memory.read_writeBlock_of_ne fun k hk => ?_
    rw [hlength] at hk
    omega

/-- Where one element of a slice is a byte, all of them are integers. -/
theorem exists_integer_of_isByte {k : Nat} (h : (s.element m.memory k).IsByte) :
    ∃ g, s.format = .integer g := by
  obtain ⟨b, hb⟩ := h.exists_toNat
  rw [Slice.element] at hb
  cases hformat : s.format with
  | integer g => exact ⟨g, rfl⟩
  | letter => exact absurd hformat s.isLegible
  | _ =>
    rw [hformat] at hb
    cases hb

/-- **What a slice of memory leaves**, if its elements were bytes when they were checked. -/
theorem copied_copy (hfits : s.count ≤ 3584) (hbytes : ∀ d ∈ (s.row m.memory).elements, d.IsByte) :
    m.Copied s { m with memory := m.memory.copy s s.count } := by
  refine ⟨fun k hk => ?_, fun a ha hout => ?_, rfl⟩
  · have helement : s.element m.memory k ∈ (s.row m.memory).elements := by
      rw [Slice.elements_row]
      exact List.mem_map_of_mem (List.mem_range.2 hk)
    obtain ⟨g, hg⟩ := exists_integer_of_isByte (hbytes _ helement)
    rw [Nat.cast_add]
    exact m.memory.read_copy hg hfits hk hk
  · exact m.memory.read_copy_of_ne fun k hk => by omega

/-- A slice that is never read too late is placed in memory as it was. -/
theorem Copied.loaded (h : m.Copied s n) (htimely : ∀ k < s.count, ¬ s.IsLate k)
    (hbytes : ∀ d ∈ (s.row m.memory).elements, d.IsByte) :
    m.Loaded (.packed (s.row m.memory) s.isLegible) n := by
  have hlength : (Offer.packed (s.row m.memory) s.isLegible).length = s.count := Slice.length_row s _
  refine ⟨fun k hk => ?_, fun a ha hout => ?_, h.rest⟩
  · rw [hlength] at hk
    have hvalue : (s.row m.memory).elements[k]? = some (s.element m.memory k) := by
      rw [Slice.elements_row, List.getElem?_map, List.getElem?_range hk]
      rfl
    have hbyte := hbytes _ (List.mem_of_getElem? hvalue)
    obtain ⟨g, hg⟩ := exists_integer_of_isByte hbyte
    obtain ⟨b, hb⟩ := hbyte.exists_toNat
    have hround : UInt8.ofInt b.toNat = b := by
      have hlt := b.toNat_lt
      exact byte_ofInt_eq (by omega)
    have hlow := Slice.lowByte_element hg m.memory k
    rw [hb, Datum.integer?, Option.getD_some, hround] at hlow
    rw [h.placed k hk, if_neg (htimely k hk), ← hlow, ← hb]
    exact hvalue
  · rw [hlength] at hout
    exact h.outside a ha hout

end Machine

/-! ### Consoles -/

namespace Console

/-- A program is refused, and nothing has changed. -/
def Refuses (c : Console) (p : Program) (f : Fault) : Prop :=
  (c.perform (.load p)).1 = c ∧ (c.perform (.load p)).2.refusal = some (.fault f)

/-- A program is taken. The pacer is as it was, and the machine is another one. -/
def Takes (c : Console) (p : Program) (n : Machine) : Prop :=
  (c.perform (.load p)).1 = { c with machine := n } ∧ (c.perform (.load p)).2.refusal = none

variable {c : Console} {p : Program}

theorem refuses_of_error {f : Fault} (h : (p.seen c.machine.memory).accept = .error f) :
    c.Refuses p f := by
  have hload : c.perform (.load p) = c.refuse (.fault f) := by
    simp only [perform, Machine.load_of_error h]
  rw [Refuses, hload]
  exact ⟨rfl, rfl⟩

theorem takes_of_bytes {bs : List UInt8} (h : (p.seen c.machine.memory).accept = .ok bs) :
    c.Takes p { c.machine with memory := p.store c.machine.memory bs } := by
  have hload := Machine.load_of_bytes h
  simp only [Takes, perform, hload, and_self]

/-- A row of bytes that fits is taken. Unless it is a slice of memory that is read too late, it is
placed in memory as it was. -/
theorem takes_of_isByte (hcount : (p.seen c.machine.memory).countable = true)
    (hrow : (p.seen c.machine.memory).Readable) (hfits : (p.seen c.machine.memory).length ≤ 3584)
    (hbytes : ∀ d ∈ (p.seen c.machine.memory).values, d.IsByte) :
    ∃ n, c.Takes p n ∧ (p.Timely → c.machine.Loaded (p.seen c.machine.memory) n) ∧
      ∀ s, p = .own s → c.machine.Copied s n := by
  obtain ⟨bs, hvalues⟩ := Offer.exists_bytes hbytes
  have haccept : (p.seen c.machine.memory).accept = .ok bs := by
    rw [Offer.accept_of_fits hcount hfits, Offer.contents_eq hrow, hvalues, Offer.bytesFrom_toNat]
  refine ⟨_, takes_of_bytes haccept, ?_⟩
  cases p with
  | offer o =>
    have hlength : bs.length = o.length := by
      rw [← Offer.length_values (o := o) hrow, show o.values = _ from hvalues, List.length_map]
    exact ⟨fun _ => Machine.loaded_writeBlock hvalues hlength hfits, nofun⟩
  | own s =>
    have hcount : s.count ≤ 3584 := Slice.length_row s c.machine.memory ▸ hfits
    have hcopied := Machine.copied_copy hcount hbytes
    refine ⟨fun htimely => hcopied.loaded htimely hbytes, ?_⟩
    rintro s ⟨⟩
    exact hcopied

/-- **Which programs are taken**, by any machine at any time. What is no sequence is refused for its
kind, whatever else may be said of it. What can be counted is refused for its length if it does not
fit, then for its dimensions, then for the first of its values that is no byte; if the complaint cannot
show this value, it is about the digits. What is left is taken and placed in memory. Where it is a view
of that same memory, it is copied element by element, and what is read too late was overwritten.

A view in a format that cannot be read is refused for its format, unless there is nothing to be read.
A view that was given back is refused for that. -/
theorem load_in_order (c : Console) (p : Program) :
    let o := p.seen c.machine.memory
    (∀ typeName, o = .other typeName → c.Refuses p (.notBytes (.kind typeName))) ∧
    (o.countable = false → c.Refuses p .uncountable) ∧
    (o.countable = true → 3584 < o.length → c.Refuses p (.tooLarge o.length 3584)) ∧
    (∀ dimensions length h, o = .grid dimensions length h → length ≤ 3584 →
      c.Refuses p (.notBytes (.dimensions dimensions))) ∧
    (o.countable = true → o.Readable → o.length ≤ 3584 →
      (∀ k d, Offer.FirstNoByte o.values k d → c.Refuses p (.invalidByte k d) ∧
        ∀ limit : DigitLimit, (Refusal.fault (.invalidByte k d)).kind limit =
          if d.isShown limit then .invalidByte else .senseless) ∧
      ((∀ d ∈ o.values, d.IsByte) → ∃ n, c.Takes p n ∧ (p.Timely → c.machine.Loaded o n) ∧
        ∀ s, p = .own s → c.machine.Copied s n)) ∧
    (∀ format count, o = .sealed format count → ¬ o.Readable → count ≤ 3584 →
      c.Refuses p (.unreadable format)) ∧
    (o = .released → c.Refuses p .released) := by
  intro o
  refine ⟨?_, fun hcount => ?_, fun hcount hlong => ?_, ?_, fun hcount hrow hfits => ⟨?_, ?_⟩, ?_, ?_⟩
  · intro typeName ho
    exact refuses_of_error (congrArg Offer.accept ho)
  · refine refuses_of_error ?_
    rw [Offer.accept, hcount]
    rfl
  · exact refuses_of_error (Offer.accept_of_tooLarge hcount hlong)
  · intro dimensions length h ho hfits
    refine refuses_of_error ((congrArg Offer.accept ho).trans ?_)
    exact Offer.accept_of_fits rfl hfits
  · intro k d hfirst
    constructor
    · refine refuses_of_error ?_
      rw [Offer.accept_of_fits hcount hfits, Offer.contents_eq hrow,
        Offer.bytesFrom_of_firstNoByte 0 hfirst, Nat.zero_add]
    · intro limit
      rw [Refusal.kind, Refusal.shown, Fault.shown, Datum.allShown, Datum.allShown, Bool.and_true]
      rfl
  · exact takes_of_isByte hcount hrow hfits
  · intro format count ho hsealed hfits
    refine refuses_of_error ((congrArg Offer.accept ho).trans ?_)
    rw [ho] at hsealed
    exact (Offer.accept_of_fits (o := .sealed format count) rfl hfits).trans (if_neg hsealed)
  · intro ho
    exact refuses_of_error (congrArg Offer.accept ho)

/-- A program of the greatest length ends in the last cell. One byte more is one too many. -/
theorem load_in_order_to_the_last_cell :
    let c : Console := ⟨.fresh .plain (.constant 0), .new 11 true true⟩
    (∃ n, c.Takes (.offer (.raw (List.replicate 3584 7))) n ∧ n.memory.read 0xFFF = 7 ∧
      n.memory.read 0 = 0 ∧ n.registers = .fresh) ∧
    c.Refuses (.offer (.raw (List.replicate 3585 7))) (.tooLarge 3585 3584) ∧
    c.Refuses (.offer (.items [.int 0, .flag true, .int 256])) (.invalidByte 1 (.flag true)) ∧
    c.Refuses (.offer (.grid 2 64 (by decide))) (.notBytes (.dimensions 2)) ∧
    c.Refuses (.offer (.ofDatum (.text "program"))) (.notBytes (.kind "str")) := by
  intro c
  have hfull : (Offer.raw (List.replicate 3584 7)).length = 3584 := List.length_replicate
  have hlonger : (Offer.raw (List.replicate 3585 7)).length = 3585 := List.length_replicate
  have hbytes : ∀ d ∈ (Offer.raw (List.replicate 3584 7)).values, d.IsByte := by
    intro d hd
    obtain ⟨b, hb, rfl⟩ := List.mem_map.1 hd
    obtain rfl := List.eq_of_mem_replicate hb
    exact ⟨7, rfl, by decide, by decide⟩
  refine ⟨?_, ?_, ?_, ?_, ?_⟩
  · obtain ⟨-, -, -, -, hrow, -⟩ := load_in_order c (.offer (.raw (List.replicate 3584 7)))
    obtain ⟨n, htakes, htimely, -⟩ := (hrow rfl trivial hfull.le).2 hbytes
    have hloaded := htimely trivial
    have hlast := hloaded.placed 3583 (hfull.symm ▸ by decide)
    have hseven : (7 : UInt8) = n.memory.read (0x200 + 3583 : Nat) := by
      rw [Program.seen, Offer.values, List.getElem?_map,
        List.getElem?_replicate_of_lt (by decide)] at hlast
      have hvalue := Datum.int.inj (Option.some.inj hlast)
      exact UInt8.toNat_inj.1 (Int.ofNat.inj hvalue)
    exact ⟨n, htakes, hseven.symm, hloaded.outside 0 (by decide) (.inl (by decide)),
      congrArg Machine.registers hloaded.rest⟩
  · have hlong := (load_in_order c (.offer (.raw (List.replicate 3585 7)))).2.2.1 rfl
    rw [Program.seen, hlonger] at hlong
    exact hlong (by decide)
  · obtain ⟨-, -, -, -, hrow, -⟩ := load_in_order c (.offer (.items [.int 0, .flag true, .int 256]))
    refine ((hrow rfl trivial (by decide)).1 1 (.flag true) ⟨rfl, ?_, ?_⟩).1
    · rintro ⟨k, hk, -⟩
      cases hk
    · intro j hj e he
      obtain rfl : j = 0 := by omega
      cases he
      exact ⟨0, rfl, by decide, by decide⟩
  · exact (load_in_order c (.offer (.grid 2 64 (by decide)))).2.2.2.1 2 64 (by decide) rfl (by decide)
  · exact (load_in_order c (.offer (.ofDatum (.text "program")))).1 "str" rfl

/-- **Packed characters are not refused for a character.** The one character here is the first value
that is no byte, but it is not looked at. -/
theorem packed_letters_unreadable :
    let c : Console := ⟨.fresh .plain (.constant 0), .new 11 true true⟩
    ∃ v, Offer.pack (.text "u") (.list [.text "a"]) = .ok v ∧ v.elements = [.text "a"] ∧
      Offer.FirstNoByte v.elements 0 (.text "a") ∧ v.toOffer.length = 1 ∧
      c.Refuses (.offer v.toOffer) (.unreadable .letters) ∧
      ¬ c.Refuses (.offer v.toOffer) (.invalidByte 0 (.text "a")) ∧
      (Fault.unreadable .letters).kind ≠ FaultKind.invalidByte := by
  intro c
  refine ⟨{ PackedRow.ofValues .letter [.text "a"] with }, rfl, rfl, ?_, rfl, ?_, ?_, ?_⟩
  · refine ⟨rfl, ?_, ?_⟩
    · rintro ⟨k, hk, -⟩
      cases hk
    · intro j hj
      exact absurd hj (Nat.not_lt_zero j)
  · exact refuses_of_error rfl
  · rintro ⟨-, hrefusal⟩
    cases hrefusal
  · decide

/-- **A view of the machine's own memory is not always placed there as it was.** Every second cell from
`0x1FE` on is offered, with the values 1, 3, 5, 7 and 9. The first store overwrites the second value
before it is read. -/
theorem overlapping_slice_repeats :
    let c : Console := ⟨.fresh .plain (.constant 0), .new 11 true true⟩
    let before := (c.perform (.poke 0x1FE [1, 0, 3, 0, 5, 0, 7, 0, 9, 0])).1
    let s : Slice := ⟨.raw, 5, 0x1FE, 2, by decide, by decide⟩
    let after := (before.perform (.load (.own s))).1
    (s.row before.machine.memory).bytes = [1, 3, 5, 7, 9] ∧
      after.machine.memory.readBlock 0x200 5 = [1, 1, 5, 7, 9] := by
  decide +kernel

end Console

end ChipEight
