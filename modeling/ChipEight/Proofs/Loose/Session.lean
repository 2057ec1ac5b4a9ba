import ChipEight.Proofs.Loose.Agreement
import ChipEight.Proofs.Machine.Load
import ChipEight.Proofs.Machine.TimerRange

/-!
# A session with the loose machine

A host may ask anything of a console. The loose machine, asked the same, holds the same values and
is refused for the same reasons, also where a command fails halfway. So it stays in bounds for ever,
as far as it was held there by its operations. The timers are held in bounds by nothing but what is
stored in them: a host may store any integer, and then they leave their bounds.

## Main definitions

- `Loose.InBounds`: every value of a loose machine is in its range.

## Main results

- `Loose.does_frame`: frames agree.
- `Loose.does_perform`: every command agrees.
- `Loose.session_in_bounds`: whole sessions agree and stay in bounds, and when a cycle fails.
-/

namespace ChipEight

namespace Loose

variable {m n : Machine}

/-! ### Sequences -/

/-- The result of an operation that may be refused. -/
def resultOf : Option Refusal → Except Refusal Unit
  | none => .ok ()
  | some e => .error e

/-- What is not asked for is dropped. -/
theorem Op.Does.ignore {α : Type} {x : Op α} {r : Except Refusal α} (hx : x.Does m r n) :
    Op.Does (do let _ ← x) m (r.map fun _ => ()) n := by
  cases r with
  | ok a => exact hx.bind (does_pure () n)
  | error e => exact hx.stop _

theorem does_tickTimes (m : Machine) (count : Nat) :
    (inOrder (List.replicate count tick)).Does m (.ok ()) (Console.tickTimes count m) := by
  induction count generalizing m with
  | zero => exact does_pure () m
  | succ count ih =>
    rw [List.replicate_succ]
    have htick : tick.Does m (.ok ()) m.tick := rfl
    exact htick.bind (ih m.tick)

theorem does_runCycles (m : Machine) (count : Nat) :
    (inOrder (List.replicate count do let _ ← cycle)).Does m
      (resultOf ((Console.runCycles count m).2.2.1.map .fault))
      (Console.runCycles count m).1 := by
  induction count generalizing m with
  | zero => exact does_pure () m
  | succ count ih =>
    have hcycle := (does_cycle m).ignore
    rw [List.replicate_succ]
    simp only [Console.runCycles]
    cases hr : m.cycle.result with
    | error f =>
      rw [hr] at hcycle
      exact hcycle.stop _
    | ok i =>
      rw [hr] at hcycle
      exact hcycle.bind (ih m.step)

/-! ### Frames -/

theorem does_burst (m : Machine) (wait : Bool) (count : Nat) :
    (burst wait count).Does m (resultOf ((m.burst wait count).fault.map .fault))
      (m.burst wait count).machine := by
  induction count generalizing m with
  | zero => exact does_pure () m
  | succ count ih =>
    have hcycle := does_cycle m
    simp only [Machine.burst]
    cases hr : m.cycle.result with
    | error f =>
      rw [hr] at hcycle
      exact hcycle.stop _
    | ok i =>
      rw [hr] at hcycle
      refine hcycle.bind ((does_see dirty m.step).bind ?_)
      show Op.Does (if (wait && m.cycle.machine.display.dirty) = true then pure ()
        else burst wait count) m.step _ _
      by_cases hw : (wait && m.cycle.machine.display.dirty) = true
      · simp only [if_pos hw]
        exact does_pure () m.step
      · simp only [if_neg hw]
        exact ih m.step

/-- A frame agrees: it comes to the same fault or is completed. -/
theorem does_frame (p : Pacer) (m : Machine) :
    (frame p.budget).Does m (((p.frame m).result.map fun _ => ()).mapError .fault)
      (p.frame m).machine := by
  have hburst := does_burst m m.dialect.displayWait p.budget.toNat
  refine (does_see _ m).bind ?_
  rcases p.frame_cases m with ⟨f, hf, hframe⟩ | ⟨hf, hframe⟩
  · rw [hframe]
    rw [show (m.burst _ _).fault = some f from hf] at hburst
    exact hburst.stop _
  · rw [hframe, Pacer.close_machine, Pacer.close_result]
    rw [show (m.burst _ _).fault = none from hf] at hburst
    have htick : tick.Does (p.cyclesOf m).machine (.ok ()) (p.cyclesOf m).machine.tick := rfl
    refine hburst.bind (htick.bind ((does_see dirty _).bind ?_))
    show Op.Does (if (p.cyclesOf m).machine.display.dirty = true then
      change fun s => { s with dirty := false } else pure ()) _ _ _
    cases hd : (p.cyclesOf m).machine.display.dirty with
    | true => exact does_lower (p.cyclesOf m).machine.tick
    | false =>
      rw [Display.consume_of_not_dirty hd]
      exact does_pure () _

theorem does_runFrames (c : Console) (count : Nat) :
    (inOrder (List.replicate count (frame c.pacer.budget))).Does c.machine
        (resultOf ((Console.runFrames count c).2.2.1.map .fault))
        (Console.runFrames count c).1.machine ∧
      (Console.runFrames count c).1.pacer.budget = c.pacer.budget := by
  induction count generalizing c with
  | zero => exact ⟨does_pure () c.machine, rfl⟩
  | succ count ih =>
    have hframe := does_frame c.pacer c.machine
    have hbudget := c.pacer.budget_frame c.machine
    obtain ⟨hrest, hlast⟩ :=
      ih ⟨(c.pacer.frame c.machine).machine, (c.pacer.frame c.machine).pacer⟩
    rw [hbudget] at hrest hlast
    rw [List.replicate_succ]
    simp only [Console.runFrames]
    cases hr : (c.pacer.frame c.machine).result with
    | error f =>
      rw [hr] at hframe
      exact ⟨hframe.stop _, hbudget⟩
    | ok stats =>
      rw [hr] at hframe
      exact ⟨hframe.bind hrest, hlast⟩

/-! ### Direct writes -/

/-- A place among sixteen is a general register. -/
theorem place?_sixteen (k : Int) :
    place? 16 k = (Console.register? k).map fun x => x.val := by
  rw [place?, Console.register?]
  by_cases hk : 0 ≤ k ∧ k < 16
  · rw [if_pos (by omega), dif_pos hk]
    rfl
  · by_cases hneg : -16 ≤ k ∧ k < 0
    · rw [if_neg (by omega), if_pos (by omega), dif_neg hk, dif_pos hneg]
      rfl
    · rw [if_neg (by omega), if_neg (by omega), dif_neg hk, dif_neg hneg]
      rfl

/-- A direct write to a register is refused in the same order of reasons. -/
theorem storeAt_writeGeneral (m : Machine) (k b : Int) :
    storeAt m.loose.v k b = (Console.writeGeneral m k b).map fun n => n.loose.v := by
  have hlen : m.loose.v.length = 16 := by simp [Machine.loose, looseBytes]
  have hpow : Int.pow 2 63 = 2 ^ 63 := rfl
  rw [storeAt, Console.writeGeneral, hpow]
  by_cases hhuge : k < -2 ^ 63 ∨ 2 ^ 63 ≤ k
  · rw [if_pos hhuge, if_pos hhuge]
    rfl
  by_cases hbyte : b < 0 ∨ 256 ≤ b
  · rw [if_neg hhuge, if_pos hbyte, if_neg hhuge, if_pos hbyte]
    rfl
  rw [if_neg hhuge, if_neg hbyte, if_neg hhuge, if_neg hbyte, hlen, place?_sixteen]
  cases Console.register? k with
  | none => rfl
  | some x =>
    have hb : b = (UInt8.ofInt b).toNat := by
      rw [toNat_byte_ofInt]
      omega
    have hset : ∀ u : UInt8, m.loose.v.set x.val u.toNat =
        (m.onRegisters fun r => r.set x u).loose.v := by
      intro u
      simp only [Machine.loose, Machine.onRegisters, Registers.set, looseBytes, Vector.toList_set,
        List.map_set]
    have hstore := hset (UInt8.ofInt b)
    rw [← hb] at hstore
    exact congrArg Except.ok hstore

theorem does_assign_ok {w : Assignment} (h : Console.write m w = .ok n) :
    (assign w).Does m (.ok ()) n := by
  cases w with
  | pc a =>
    cases h
    exact does_setPc m (toNat_word_ofInt a).symm
  | index a =>
    cases h
    exact does_setIndex m (toNat_word_ofInt a).symm
  | flag b =>
    cases h
    exact does_setFlag m (toNat_byte_ofInt b).symm
  | delay t =>
    cases h
    rfl
  | sound t =>
    cases h
    rfl
  | general k b =>
    have hgeneral : Console.writeGeneral m k b = .ok n := h
    have hstore := storeAt_writeGeneral m k b
    rw [hgeneral] at hstore
    refine does_write hstore ?_
    obtain ⟨x, rfl⟩ := writeGeneral_eq_ok hgeneral
    rfl

theorem does_assign_error {w : Assignment} {e : Refusal} (h : Console.write m w = .error e) :
    (assign w).Does m (.error e) m := by
  cases w with
  | general k b =>
    have hstore := storeAt_writeGeneral m k b
    rw [show Console.writeGeneral m k b = .error e from h] at hstore
    refine (does_see _ m).bind (Op.Does.stop ?_ _)
    show (demand (storeAt m.loose.v k b)).Does m (.error e) m
    rw [hstore]
    exact does_demand _ m
  | _ => cases h

theorem does_writeAll (m : Machine) (ws : List Assignment) :
    (inOrder (ws.map assign)).Does m (resultOf (Console.writeAll m ws).2)
      (Console.writeAll m ws).1 := by
  induction ws generalizing m with
  | nil => exact does_pure () m
  | cons w ws ih =>
    simp only [Console.writeAll, List.map_cons]
    cases hw : Console.write m w with
    | error e => exact (does_assign_error hw).stop _
    | ok n => exact (does_assign_ok hw).bind (ih n)

/-! ### Keys -/

theorem codes_empty : KeySet.empty.codes = ∅ := by
  rw [Finset.eq_empty_iff_forall_notMem]
  intro code hcode
  obtain ⟨k, hk, -⟩ := KeySet.mem_codes.1 hcode
  rw [KeySet.contains_empty] at hk
  cases hk

theorem codes_put (s : KeySet) (k : Key) (down : Bool) :
    (s.put k down).codes =
      if down then insert (k.val : Int) s.codes else s.codes.erase k.val := by
  ext code
  have hval : ∀ j : Key, (j.val : Int) = k.val ↔ k = j := by
    intro j
    rw [Fin.ext_iff]
    omega
  cases down with
  | true =>
    simp only [KeySet.mem_codes, KeySet.contains_put, if_true, Finset.mem_insert]
    constructor
    · rintro ⟨j, hj, rfl⟩
      by_cases hjk : k = j
      · exact .inl ((hval j).2 hjk)
      · rw [if_neg hjk] at hj
        exact .inr ⟨j, hj, rfl⟩
    · rintro (rfl | ⟨j, hj, rfl⟩)
      · exact ⟨k, if_pos rfl, rfl⟩
      · refine ⟨j, ?_, rfl⟩
        split
        · rfl
        · exact hj
  | false =>
    simp only [KeySet.mem_codes, KeySet.contains_put, Bool.false_eq_true, if_false,
      Finset.mem_erase]
    constructor
    · rintro ⟨j, hj, rfl⟩
      by_cases hjk : k = j
      · rw [if_pos hjk] at hj
        cases hj
      · rw [if_neg hjk] at hj
        exact ⟨fun h => hjk ((hval j).1 h), j, hj, rfl⟩
    · rintro ⟨hne, j, hj, rfl⟩
      exact ⟨j, by rwa [if_neg fun h => hne ((hval j).2 h)], rfl⟩

/-- A key of the keypad. -/
theorem does_setKey_ok {code : Int} {down : Bool} {p : Keypad}
    (h : m.keypad.setKey code down = .ok p) :
    (setKey code down).Does m (.ok ()) { m with keypad := p } := by
  rw [Keypad.setKey, Key.ofInt] at h
  split at h
  next hcode =>
    cases h
    have hval : ((⟨code.toNat, by omega⟩ : Key).val : Int) = code := by
      simp only
      omega
    have hlive := codes_put m.keypad.live ⟨code.toNat, by omega⟩ down
    rw [hval] at hlive
    have hloose : { m.loose with live := (m.keypad.live.put ⟨code.toNat, by omega⟩ down).codes } =
        Machine.loose { m with keypad := m.keypad.put ⟨code.toNat, by omega⟩ down } := rfl
    rw [hlive] at hloose
    rw [setKey, if_pos hcode]
    exact congrArg (Prod.mk (Except.ok ())) hloose
  next => cases h

/-- A code that names no key. -/
theorem does_setKey_error {code : Int} {down : Bool} {e : NoSuchKey}
    (h : m.keypad.setKey code down = .error e) :
    (setKey code down).Does m (.error (.key e)) m := by
  rw [Keypad.setKey, Key.ofInt] at h
  split at h
  next => cases h
  next hcode =>
    cases h
    rw [setKey, if_neg hcode]
    exact does_refuse _ m

theorem does_releaseAll (m : Machine) :
    (change fun s => { s with live := ∅ }).Does m (.ok ())
      { m with keypad := m.keypad.releaseAll } := by
  rw [← codes_empty]
  rfl

/-! ### Commands -/

/-- Loading is refused for the same reason, if it is, and leaves what the machine leaves. -/
theorem does_load (m : Machine) (p : Program) :
    match m.load p with
    | .ok n => (load p).Does m (.ok ()) n
    | .error f => (load p).Does m (.error (.fault f)) m := by
  cases p with
  | offer o =>
    rw [Machine.load, Program.seen, load]
    cases o.accept with
    | error f => exact does_refuse _ m
    | ok bytes =>
      have hwrite := does_writeBlock m Memory.programBase (looseBytes bytes)
      rw [poke_looseBytes] at hwrite
      exact hwrite
  | own s =>
    have hlook := does_elements m s s.count
    rw [Machine.load, Program.accept_own, load]
    cases h : (Offer.items ((List.range s.count).map (s.element m.memory))).accept with
    | error f =>
      refine hlook.bind ?_
      rw [h]
      exact does_refuse _ m
    | ok bytes =>
      refine hlook.bind ?_
      rw [h]
      exact does_copy m s s.count

theorem does_execute (c : Console) (word : Int) :
    Op.Does (do exec (← decoded word)) c.machine (resultOf (c.perform (.execute word)).2.refusal)
      (c.perform (.execute word)).1.machine := by
  have hdecoded := does_demand ((decodeInt word).mapError Refusal.word) c.machine
  simp only [Console.perform]
  cases hw : decodeInt word with
  | error e =>
    rw [hw] at hdecoded
    refine Op.Does.stop (e := .word e) ?_ _
    rw [decoded, hw]
    exact hdecoded
  | ok i =>
    rw [hw] at hdecoded
    refine Op.Does.bind (a := i) (n := c.machine) ?_ ?_
    · rw [decoded, hw]
      exact hdecoded
    · simp only
      cases h : i.exec c.machine with
      | ok m => exact does_exec_ok h
      | error f => exact does_exec_error h

/-- **Every command agrees.** The loose machine is refused for the same reason, if it is, and leaves
the loose counterpart of the machine that the console leaves. -/
theorem does_perform (c : Console) (k : Command) :
    (perform c.pacer.budget k).Does c.machine (resultOf (c.perform k).2.refusal)
      (c.perform k).1.machine := by
  cases k with
  | load p =>
    have hload := does_load c.machine p
    simp only [perform, Console.perform]
    cases h : c.machine.load p with
    | ok m =>
      rw [h] at hload
      exact hload
    | error f =>
      rw [h] at hload
      exact hload
  | poke a data => exact does_writeBlock c.machine a data
  | writeCell a b => exact does_writeCell c.machine a b
  | readCell a => exact (does_readCell c.machine a).ignore
  | peek a count => exact (does_readBlock c.machine a count.toNat).ignore
  | assign ws => exact does_writeAll c.machine ws
  | readFlag => exact (does_reg c.machine flagReg).ignore
  | push a => exact does_push c.machine (toNat_word_ofInt a).symm
  | pop =>
    simp only [perform, Console.perform]
    cases h : c.machine.registers.pop? with
    | some ar => exact (does_pop_some h).ignore
    | none => exact (does_pop_none h).ignore
  | fetch => exact (does_fetch c.machine).ignore
  | cycles count => exact does_runCycles c.machine count.toNat
  | execute word => exact does_execute c word
  | tick count => exact does_tickTimes c.machine count.toNat
  | setKey code down =>
    simp only [perform, Console.perform]
    cases h : c.machine.keypad.setKey code down with
    | ok p => exact does_setKey_ok h
    | error e => exact does_setKey_error h
  | releaseAll => exact does_releaseAll c.machine
  | xorPixel x y bit =>
    simp only [perform, Console.perform]
    cases h : c.machine.display.xor x y bit with
    | ok dh => exact (does_xorPixel_ok h).ignore
    | error e => exact (does_xorPixel_error h).ignore
  | readPixel x y =>
    have hread := (does_readPixel c.machine x y).ignore
    simp only [perform, Console.perform]
    cases h : c.machine.display.get x y with
    | ok b =>
      rw [h] at hread
      exact hread
    | error e =>
      rw [h] at hread
      exact hread
  | clear => exact does_clear c.machine
  | consume => exact does_lower c.machine
  | frames count => exact (does_runFrames c count.toNat).1
  | snapshot => exact rfl
  | _ => exact does_pure () c.machine

/-- Only one command changes the budget of a frame. -/
theorem budget_perform (c : Console) (k : Command) :
    (c.perform k).1.pacer.budget = budgetAfter c.pacer.budget k := by
  cases k with
  | frames count => exact (does_runFrames c count.toNat).2
  | load p =>
    simp only [Console.perform]
    cases c.machine.load p <;> rfl
  | pop =>
    simp only [Console.perform]
    cases c.machine.registers.pop? <;> rfl
  | execute word =>
    simp only [Console.perform]
    cases decodeInt word with
    | error e => rfl
    | ok i =>
      simp only
      cases i.exec c.machine <;> rfl
  | setKey code down =>
    simp only [Console.perform]
    cases c.machine.keypad.setKey code down <;> rfl
  | xorPixel x y bit =>
    simp only [Console.perform]
    cases c.machine.display.xor x y bit <;> rfl
  | readPixel x y =>
    simp only [Console.perform]
    cases c.machine.display.get x y <;> rfl
  | hush =>
    have hp : (c.perform .hush).1.pacer = (c.pacer.switchSound false).1 := rfl
    rw [hp, Pacer.switchSound_pacer]
    rfl
  | _ => rfl

theorem performAll_eq (c : Console) (ks : List Command) :
    performAll c.pacer.budget c.machine.loose ks =
      ((c.performAll ks).1.machine.loose, (c.performAll ks).2.map fun r => r.refusal) := by
  induction ks generalizing c with
  | nil => rfl
  | cons k ks ih =>
    have hperform : perform c.pacer.budget k c.machine.loose = _ := does_perform c k
    have hrefusal : refusal? (resultOf (c.perform k).2.refusal) = (c.perform k).2.refusal := by
      cases (c.perform k).2.refusal <;> rfl
    have hrest := ih (c.perform k).1
    rw [budget_perform] at hrest
    simp only [performAll, hperform, hrest, hrefusal]
    rfl

/-! ### Bounds -/

/-- Every value of a loose machine is in its range. -/
structure InBounds (s : Loose) : Prop where
  ram_length : s.ram.length = 4096
  ram_byte : ∀ b ∈ s.ram, 0 ≤ b ∧ b < 256
  v_length : s.v.length = 16
  v_byte : ∀ b ∈ s.v, 0 ≤ b ∧ b < 256
  pc_word : 0 ≤ s.pc ∧ s.pc < 65536
  index_word : 0 ≤ s.index ∧ s.index < 65536
  stack_word : ∀ a ∈ s.stack, 0 ≤ a ∧ a < 65536
  pixels_length : s.pixels.length = 2048
  pixels_bit : ∀ p ∈ s.pixels, p = 0 ∨ p = 1
  live_key : ∀ k ∈ s.live, 0 ≤ k ∧ k < 16
  last_key : ∀ k ∈ s.last, 0 ≤ k ∧ k < 16
  delay_byte : 0 ≤ s.delay ∧ s.delay < 256
  sound_byte : 0 ≤ s.sound ∧ s.sound < 256

theorem looseBytes_byte {bs : List UInt8} {b : Int} (h : b ∈ looseBytes bs) : 0 ≤ b ∧ b < 256 := by
  obtain ⟨u, -, rfl⟩ := List.mem_map.1 h
  have hu := u.toNat_lt
  omega

theorem word_range (u : UInt16) : 0 ≤ (u.toNat : Int) ∧ (u.toNat : Int) < 65536 := by
  have hu := u.toNat_lt
  omega

theorem codes_range {s : KeySet} {code : Int} (h : code ∈ s.codes) : 0 ≤ code ∧ code < 16 := by
  obtain ⟨k, -, rfl⟩ := KeySet.mem_codes.1 h
  have hk := k.isLt
  omega

/-- A loose counterpart is in bounds if the timers are. -/
theorem inBounds_loose {m : Machine} (h : m.timers.InRange) : m.loose.InBounds where
  ram_length := by simp [Machine.loose, looseBytes]
  ram_byte _ hb := looseBytes_byte hb
  v_length := by simp [Machine.loose, looseBytes]
  v_byte _ hb := looseBytes_byte hb
  pc_word := word_range m.registers.pc
  index_word := word_range m.registers.index
  stack_word a ha := by
    obtain ⟨u, -, rfl⟩ := List.mem_map.1 ha
    exact word_range u
  pixels_length := m.display.length_loosePixels
  pixels_bit p hp := by
    have hmem : p ∈ m.display.loosePixels := hp
    rw [Display.loosePixels_eq_map] at hmem
    obtain ⟨k, -, rfl⟩ := List.mem_map.1 hmem
    cases m.display.pixel (.ofPlace k)
    · exact .inl rfl
    · exact .inr rfl
  live_key _ hk := codes_range hk
  last_key _ hk := codes_range hk
  delay_byte := h.1
  sound_byte := h.2

/-! ### The whole session -/

/-- A block that stays below the end of memory is laid over what is there. -/
theorem toList_writeBlock (memory : Memory) {a : Nat} (us : List UInt8)
    (h : a + us.length ≤ 4096) :
    (memory.writeBlock a us).cells.toList =
      memory.cells.toList.take a ++ us ++ memory.cells.toList.drop (a + us.length) := by
  induction us generalizing memory a with
  | nil => simp [Memory.writeBlock]
  | cons u us ih =>
    rw [List.length_cons] at h
    have hcell : (Memory.cell a).val = a := by
      simp only [Memory.cell]
      omega
    have hwrite : (memory.write a u).cells.toList = memory.cells.toList.set a u := by
      simp only [Memory.write, hcell, Vector.toList_set]
    have hlen : a < memory.cells.toList.length := by
      rw [Vector.length_toList]
      omega
    have htake : (memory.cells.toList.set a u).take (a + 1) =
        memory.cells.toList.take a ++ [u] := by
      rw [List.take_set, List.take_add_one, List.getElem?_eq_getElem hlen,
        List.set_append_right _ _ (by simp)]
      have hmin : min a 4096 = a := by omega
      simp [hmin]
    have hrest := ih (memory.write a u) (a := a + 1) (by omega)
    rw [hwrite, htake, List.drop_set_of_lt (by omega)] at hrest
    rw [Memory.writeBlock, ← Nat.cast_succ, hrest, List.length_cons]
    simp [Nat.add_assoc, Nat.add_comm 1]

theorem looseBytes_fresh : looseBytes Memory.fresh.cells.toList = freshRam := by
  have hfont := toList_writeBlock ⟨Vector.replicate 4096 0⟩ (a := Memory.fontBase) Memory.font
    (by decide)
  rw [Memory.fresh, hfont, Vector.toList_replicate, looseBytes, List.map_append, List.map_append,
    List.map_take, List.map_drop, List.map_replicate]
  rfl

theorem loose_fresh (dialect : Dialect) (source : RandomSource) :
    (Machine.fresh dialect source).loose = fresh dialect source := by
  have hpixels : Display.fresh.loosePixels = List.replicate 2048 0 :=
    Display.loosePixels_of_dark Display.fresh.pixel_clear
  have h : (Machine.fresh dialect source).loose =
      { fresh dialect source with
        ram := looseBytes Memory.fresh.cells.toList
        pixels := Display.fresh.loosePixels
        live := KeySet.empty.codes
        last := KeySet.empty.codes } := rfl
  rw [h, looseBytes_fresh, hpixels, codes_empty]
  rfl

/-- When a cycle of a loose counterpart stops, told by the loose machine alone. -/
theorem cycle_loose_eq_error_iff {m : Machine} (hs : m.source.Reliable) (e : Refusal) :
    (cycle m.loose).1 = .error e ↔
      (fetch m.loose).1 = .ok 0x00EE ∧ m.loose.stack = [] ∧
        e = .fault (.stackUnderflow ((m.loose.pc + 2) % 65536).toNat) := by
  have hcycle : (cycle m.loose).1 = m.cycle.result.mapError .fault :=
    congrArg Prod.fst (does_cycle m)
  have hfetch : (fetch m.loose).1 = .ok (m.word.toNat : Int) :=
    congrArg Prod.fst (does_fetch m)
  have hword : (m.word.toNat : Int) = 0x00EE ↔ m.word = 0x00EE := by
    rw [← UInt16.toNat_inj]
    show _ ↔ m.word.toNat = 238
    omega
  have hstack : m.loose.stack = [] ↔ m.registers.stack = [] := List.map_eq_nil_iff
  have hpc : ((m.loose.pc + 2) % 65536).toNat = (m.registers.pc + 2).toNat := by
    have h := word_add m.registers.pc 2
    show (((m.registers.pc.toNat : Int) + 2) % 65536).toNat = _
    rw [show ((m.registers.pc.toNat : Int) + 2) % 65536 = _ from h, Int.toNat_natCast]
  rw [hcycle, hfetch, hstack, hpc, Except.ok.injEq, hword]
  constructor
  · intro h
    cases hr : m.cycle.result with
    | ok i =>
      rw [hr] at h
      cases h
    | error f =>
      rw [hr] at h
      cases h
      obtain ⟨hw, hempty, rfl⟩ := (Machine.cycle_eq_error_iff hs).1 hr
      exact ⟨hw, hempty, rfl⟩
  · rintro ⟨hw, hempty, rfl⟩
    rw [(Machine.cycle_eq_error_iff hs).2 ⟨hw, hempty, rfl⟩]
    rfl

/-- **A session stays in bounds.** The host begins with a fresh machine and a random source that
yields bytes, and it never sets a timer itself. Whatever else it asks for, and whatever of that is
refused, the loose machine comes through with the values of the console and with the same refusals,
and every value is in its range.

From there a cycle fails exactly if a return stands at the program counter and no return address is
left, and the fault says so. -/
theorem session_in_bounds (dialect : Dialect) {source : RandomSource} (hs : source.Reliable)
    (budget : Int) (screen speaker : Bool) {ks : List Command}
    (hks : ∀ k ∈ ks, k.SparesTimers) :
    let start : Console := ⟨.fresh dialect source, .new budget screen speaker⟩
    let last := (start.performAll ks).1.machine
    let run := performAll start.pacer.budget (fresh dialect source) ks
    run = (last.loose, (start.performAll ks).2.map fun r => r.refusal) ∧
      run.1.InBounds ∧
      (∀ e, (cycle run.1).1 = .error e ↔
        (fetch run.1).1 = .ok 0x00EE ∧ run.1.stack = [] ∧
          e = .fault (.stackUnderflow ((run.1.pc + 2) % 65536).toNat)) ∧
      ∀ f, last.cycle.result = .error f ↔
        last.word = 0x00EE ∧ last.registers.stack = [] ∧
          f = .stackUnderflow (last.registers.pc + 2).toNat := by
  intro start last run
  have hrun : run = (last.loose, (start.performAll ks).2.map fun r => r.refusal) := by
    have h := performAll_eq start ks
    rwa [show start.machine.loose = _ from loose_fresh dialect source] at h
  have hstart : start.machine.Steady := ⟨Timers.inRange_fresh, hs⟩
  have hlast : last.Steady := Console.steady_performAll hstart hks
  rw [hrun]
  exact ⟨rfl, inBounds_loose hlast.timers, fun e => cycle_loose_eq_error_iff hlast.source e,
    fun f => Machine.cycle_eq_error_iff hlast.source⟩

/-- The program rolls a die and returns to nowhere. The host tries a key, a register and a pixel
that do not exist, and sends the program back to its return. -/
theorem session_in_bounds_bare_return :
    let source : RandomSource := .constant 7
    let ks : List Command :=
      [.load (.offer (.raw [0xC0, 0xFF, 0x00, 0xEE])), .frames 1, .setKey 16 true, .xorPixel 64 0 1,
        .assign [.index (-1), .general 16 0], .assign [.pc 0x10202]]
    let start : Console := ⟨.fresh .plain source, .new 11 true true⟩
    let last := (start.performAll ks).1.machine
    let run := performAll start.pacer.budget (fresh .plain source) ks
    source.Reliable ∧ (∀ k ∈ ks, k.SparesTimers) ∧ run.1 = last.loose ∧ run.1.InBounds ∧
      last.registers.index = 0xFFFF ∧ last.registers.get 0 = 7 ∧
      last.cycle.result = .error (.stackUnderflow 0x204) := by
  intro source ks start last run
  have hs : source.Reliable := fun _ _ => ⟨7, rfl⟩
  have hks : ∀ k ∈ ks, k.SparesTimers := by
    simp [ks, Command.SparesTimers, Assignment.SparesTimers]
  have hword : last.word = 0x00EE := by decide +kernel
  have hstack : last.registers.stack = [] := by decide +kernel
  have hpc : (last.registers.pc + 2).toNat = 0x204 := by decide +kernel
  have hindex : last.registers.index = 0xFFFF := by decide +kernel
  have hzero : last.registers.get 0 = 7 := by decide +kernel
  subst run last start
  obtain ⟨hrun, hbounds, -, hfail⟩ := session_in_bounds .plain hs 11 true true hks
  exact ⟨hs, hks, congrArg Prod.fst hrun, hbounds, hindex, hzero,
    (hfail _).2 ⟨hword, hstack, by rw [hpc]⟩⟩

end Loose

end ChipEight
