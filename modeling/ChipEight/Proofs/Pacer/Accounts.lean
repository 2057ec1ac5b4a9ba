import ChipEight.Proofs.Pacer.Abort
import ChipEight.Proofs.Pacer.Sound
import Mathlib.Algebra.Ring.Nat

/-!
# Frame accounting

How fast a program runs is a matter of counting: the cycles of a frame, the frames, and the steps of
the timers, which come one to a frame. A host changes the budget between frames as it likes, and may
make it zero or less. A frame that waits for the display ends early. A frame that fails ends in the
middle, is not counted and does not step the timers, but its cycles are completed all the same, and
they may have written to a timer.

All of this is kept in a ledger with an entry for each frame. The accounts of a run are read off its
ledger: the number of frames, the number of cycles, and what is left on each timer.

## Timers

A timer is settled by the last byte that was written to it and by the completed frames since then.
The frame of the write is one of them, as its end is still to come; a frame that fails is none of
them, but the write remains. So what is left does not depend on where in the frame the write was.

## Main definitions

- `Timer`, `Machine.written?`: one of the two timers, and what a cycle writes to it.
- `LedgerEntry`, `Console.ledger`: what is noted down of a frame, and of all frames of a run.
- `Timer.lastWrite?`, `Timer.owed`: the last write in a ledger, and what it leaves on the timer.
- `Act.SparesCounts`: the host runs no cycles and sets no timers itself.
- `Console.Accounts`: the accounts of a run.

## Main results

- `Timer.owed_append`: what is left on a timer may be worked out part by part.
- `Console.accounts_act`: the accounts of one act.
- `Console.frame_accounting`: the accounts of every run.
-/

namespace ChipEight

/-! ### Timers, one by one -/

/-- One of the two timers. -/
inductive Timer where
  | delay
  | sound

/-- The kind of the instructions that write to a timer. -/
def Timer.op : Timer → Op
  | .delay => .setDelay
  | .sound => .setSound

/-- The value of a timer. -/
def Timers.get (ts : Timers) : Timer → Int
  | .delay => ts.delay
  | .sound => ts.sound

@[simp] theorem Timers.get_tick (ts : Timers) (t : Timer) :
    ts.tick.get t = countDown (ts.get t) := by
  cases t <;> rfl

namespace Machine

/-- The byte that the next cycle writes to a timer, if it writes one. -/
def written? (m : Machine) (t : Timer) : Option UInt8 :=
  if (decode m.word).op = t.op then some (m.registers.get (Word.x m.word)) else none

/-- The next cycle completes. -/
def completes (m : Machine) : Bool :=
  m.cycle.result.isOk

variable {m : Machine} {t : Timer}

/-- A timer is written to by the words of its pattern. -/
theorem written?_eq_some_iff {b : UInt8} :
    m.written? t = some b ↔
      Word.Fits m.word t.op.pattern ∧ b = m.registers.get (Word.x m.word) := by
  have hop : (decode m.word).op = t.op ↔ Word.Fits m.word t.op.pattern :=
    op_decode_eq_iff (by cases t <;> decide)
  rw [written?, ← hop]
  split <;> simp_all [eq_comm]

/-- A cycle leaves the timers that its instruction leaves, completed or not: the instructions that
set them do not fail. -/
theorem timers_step (m : Machine) : m.step.timers = m.timersAfter (decode m.word) := by
  cases hresult : m.cycle.result with
  | error f =>
    have hkept : m.step.timers = m.timers := (kept_of_error hresult).2.1
    have hexec := exec_of_error hresult
    cases hi : decode m.word with
    | setDelay | setSound =>
      rw [hi] at hexec
      cases hexec
    | _ => exact hkept
  | ok i =>
    obtain ⟨n, hexec⟩ := exec_of_ok hresult
    have hn : n.timers = m.fetched.timersAfter (decode m.word) := Instr.timersAfter_exec hexec
    have hfetched : m.fetched.timersAfter (decode m.word) = m.timersAfter (decode m.word) := by
      cases decode m.word <;> rfl
    rw [(cycle_of_exec_ok hexec).2, ← hfetched]
    exact hn

/-- An instruction of another kind leaves a timer alone. -/
theorem get_timersAfter_of_op_ne {i : Instr} (h : i.op ≠ t.op) :
    (m.timersAfter i).get t = m.timers.get t := by
  cases i with
  | setDelay x =>
    cases t with
    | delay => exact absurd rfl h
    | sound => rfl
  | setSound x =>
    cases t with
    | delay => rfl
    | sound => exact absurd rfl h
  | _ => rfl

theorem timer_step (m : Machine) (t : Timer) :
    m.step.timers.get t = (m.written? t).elim (m.timers.get t) fun b => b.toNat := by
  rw [timers_step, written?]
  split
  next hop =>
    have hread : decode m.word = t.op.read m.word := hop ▸ decode_eq_read m.word
    rw [hread]
    cases t <;> rfl
  next hop => exact get_timersAfter_of_op_ne hop

theorem completes_of_ok {i : Instr} (h : m.cycle.result = .ok i) : m.completes = true := by
  rw [completes, h]
  rfl

theorem completes_of_error {f : Fault} (h : m.cycle.result = .error f) : m.completes = false := by
  rw [completes, h]
  rfl

theorem cycles_step (m : Machine) :
    m.step.cycles = m.cycles + if m.completes then 1 else 0 := by
  cases hresult : m.cycle.result with
  | error f =>
    rw [completes_of_error hresult, (kept_of_error hresult).2.2]
    rfl
  | ok i =>
    rw [completes_of_ok hresult, (settled_of_ok hresult).2]
    rfl

/-! ### Cycles in a row -/

/-- The bytes that cycles write to a timer, in order. -/
def writes (t : Timer) (ks : List Machine) : List UInt8 :=
  ks.filterMap fun k => k.written? t

/-- A row of cycles leaves the byte on a timer that it has written there last. -/
theorem timer_after_cycles (m : Machine) (t : Timer) (n : Nat) :
    (m.after (List.replicate n .cycle)).timers.get t =
      (writes t (m.beginnings (List.replicate n .cycle))).getLast?.elim (m.timers.get t)
        fun b => b.toNat := by
  induction n generalizing m with
  | zero => rfl
  | succ n ih =>
    have hrest := ih m.step
    rw [timer_step] at hrest
    rw [List.replicate_succ, after_cons, react, hrest, beginnings, writes, writes,
      List.filterMap_cons]
    cases m.written? t with
    | none => rfl
    | some b =>
      -- the byte of this cycle remains, unless a later cycle writes another one
      rw [List.getLast?_cons]
      cases List.getLast? _ <;> rfl

/-- **Cycles are counted** if they complete, and nothing else is counted. -/
theorem cycles_after (m : Machine) (es : List Event) :
    (m.after es).cycles = m.cycles + (m.beginnings es).countP completes := by
  induction es generalizing m with
  | nil => rfl
  | cons e es ih =>
    rw [after_cons, ih]
    cases e with
    | cycle =>
      rw [beginnings, List.countP_cons, react, cycles_step]
      omega
    | consume => rfl
    | input i =>
      have hfeed : (m.feed i).cycles = m.cycles := by
        cases i with
        | key code down =>
          rw [feed]
          split <;> rfl
        | releaseAll | tick => rfl
      rw [beginnings, react, hfeed]

/-- A row of cycles tells how many of those that it has begun were completed. -/
theorem countP_completes_burst (m : Machine) (wait : Bool) (n : Nat) :
    (m.beginnings (List.replicate (m.burst wait n).begun .cycle)).countP completes =
      (m.burst wait n).cycles := by
  induction n generalizing m with
  | zero => rfl
  | succ n ih =>
    cases hresult : m.cycle.result with
    | error f =>
      rw [burst_of_error hresult]
      simp [Burst.begun, beginnings, completes_of_error hresult]
    | ok i =>
      have hcompletes := completes_of_ok hresult
      cases hdirty : wait && m.step.display.dirty with
      | true =>
        rw [burst_of_stop hresult hdirty]
        simp [Burst.begun, beginnings, hcompletes]
      | false =>
        rw [begun_of_go hresult hdirty, burst_of_go hresult hdirty, List.replicate_succ, beginnings,
          List.countP_cons_of_pos hcompletes, ih]

/-- How many cycles a row takes that does not fail: no more than it may, all of them unless it waits
for the display, and always one if it may take any. -/
theorem cycles_burst {wait : Bool} {n : Nat} (h : (m.burst wait n).fault = none) :
    (m.burst wait n).cycles ≤ n ∧ (wait = false → (m.burst wait n).cycles = n) ∧
      (1 ≤ n → 1 ≤ (m.burst wait n).cycles) := by
  induction n generalizing m with
  | zero => exact ⟨Nat.le_refl 0, fun _ => rfl, fun h => h⟩
  | succ n ih =>
    cases hresult : m.cycle.result with
    | error f =>
      rw [burst_of_error hresult] at h
      cases h
    | ok i =>
      cases hdirty : wait && m.step.display.dirty with
      | true =>
        have hwait : wait = true := (Bool.and_eq_true_iff.1 hdirty).1
        rw [burst_of_stop hresult hdirty, hwait]
        exact ⟨Nat.succ_le_succ n.zero_le, fun h => absurd h (by decide),
          fun _ => Nat.le_refl 1⟩
      | false =>
        rw [burst_of_go hresult hdirty] at h ⊢
        obtain ⟨hle, hall, -⟩ := ih h
        exact ⟨Nat.succ_le_succ hle, fun hwait => congrArg (· + 1) (hall hwait),
          fun _ => Nat.succ_pos _⟩

end Machine

/-! ### The ledger -/

/-- What is noted down of a frame. -/
structure LedgerEntry where
  /-- The most cycles that it might take. -/
  budget : Int
  /-- Whether it was to wait for the display. -/
  wait : Bool
  /-- The machines at which its cycles began, in order. -/
  begun : List Machine
  /-- Its report, or the fault that ended it. -/
  result : Except Fault FrameStats

namespace LedgerEntry

/-- The frame was completed. -/
def completed (e : LedgerEntry) : Bool :=
  e.result.isOk

/-- The cycles of a frame: those that it reports, or those that were completed before it failed. -/
def cycles (e : LedgerEntry) : Nat :=
  match e.result with
  | .ok stats => stats.cycles
  | .error _ => e.begun.countP Machine.completes

/-- The cycles that a completed frame reports, held against its budget. -/
structure Reports (e : LedgerEntry) (stats : FrameStats) : Prop where
  begun : stats.cycles = e.begun.length
  /-- A frame that does not wait uses its budget up. -/
  full : e.wait = false → (stats.cycles : Int) = max 0 e.budget
  /-- A frame that waits takes at least one cycle, if it may. -/
  waiting : e.wait = true → 1 ≤ e.budget → 1 ≤ stats.cycles ∧ (stats.cycles : Int) ≤ e.budget

end LedgerEntry

/-- What is noted down of a frame when it is run. -/
def Pacer.entry (p : Pacer) (m : Machine) : LedgerEntry where
  budget := p.budget
  wait := m.dialect.displayWait
  begun := m.beginnings (p.history m)
  result := (p.frame m).result

namespace Console

/-- The entries that an act makes in the ledger. -/
def entriesOf (c : Console) : Act → List LedgerEntry
  | .frame => [c.pacer.entry c.machine]
  | .hush | .budget _ | .machine _ => []

/-- The ledger of acts in order. -/
def ledger (c : Console) : List Act → List LedgerEntry
  | [] => []
  | a :: as => c.entriesOf a ++ (c.act a).ledger as

end Console

/-! ### What is left on a timer -/

namespace Timer

/-- The byte that was written to a timer last, and the frames from that of the write on. -/
def lastWrite? (t : Timer) : List LedgerEntry → Option (UInt8 × List LedgerEntry)
  | [] => none
  | e :: es =>
    match t.lastWrite? es with
    | some last => some last
    | none => (Machine.writes t e.begun).getLast?.map fun b => (b, e :: es)

/-- What is left on a timer: of the last byte written to it, or else of what was there, one is gone
for each completed frame, down to zero. A timer that a host has set below zero stands still until it
is written to. -/
def owed (t : Timer) (initial : Int) (es : List LedgerEntry) : Int :=
  match t.lastWrite? es with
  | some (b, since) => max 0 (b.toNat - since.countP LedgerEntry.completed)
  | none => max (min 0 initial) (initial - es.countP LedgerEntry.completed)

variable (t : Timer) (v : Int) (e : LedgerEntry) (es fs : List LedgerEntry)

theorem owed_nil : t.owed v [] = v := by
  simp only [owed, lastWrite?, List.countP_nil]
  omega

/-- One frame leaves the byte that it has written last, or else what was there, and steps it if it
is completed. -/
theorem owed_singleton :
    t.owed v [e] =
      let written := (Machine.writes t e.begun).getLast?.elim v fun b => b.toNat
      if e.completed then Timers.countDown written else written := by
  simp only [owed, lastWrite?, Timers.countDown]
  cases (Machine.writes t e.begun).getLast? <;> cases hc : e.completed <;> simp [hc] <;> omega

theorem owed_cons : t.owed v (e :: es) = t.owed (t.owed v [e]) es := by
  rw [owed, lastWrite?, owed]
  cases hlast : t.lastWrite? es with
  | some last =>
    -- a later write hides what the first frame has left
    rfl
  | none =>
    simp only [owed, lastWrite?]
    cases (Machine.writes t e.begun).getLast? with
    | some b =>
      simp only [Option.map_some, List.countP_cons, List.countP_nil]
      omega
    | none =>
      simp only [Option.map_none, List.countP_cons, List.countP_nil]
      omega

/-- **What is left on a timer may be worked out part by part.** -/
theorem owed_append : t.owed v (es ++ fs) = t.owed (t.owed v es) fs := by
  induction es generalizing v with
  | nil => rw [List.nil_append, owed_nil]
  | cons e es ih => rw [List.cons_append, owed_cons, ih, ← owed_cons]

end Timer

/-! ### One frame -/

namespace Pacer

variable {p : Pacer} {m : Machine}

/-- The entry of a frame tells whether it was aborted or closed. -/
theorem entry_cases (p : Pacer) (m : Machine) :
    ((p.entry m).completed = false ∧ ∃ f, p.frame m = p.abort (p.cyclesOf m) f) ∨
      (p.entry m).completed = true ∧ p.frame m = p.close (p.cyclesOf m) := by
  rcases p.frame_cases m with ⟨f, -, hframe⟩ | ⟨-, hframe⟩
  · refine .inl ⟨?_, f, hframe⟩
    rw [LedgerEntry.completed, entry, hframe]
    rfl
  · refine .inr ⟨?_, hframe⟩
    rw [LedgerEntry.completed, entry, hframe, close_result]
    rfl

/-- The cycles of an entry are those that were completed, in a frame of either kind. -/
theorem cycles_entry (p : Pacer) (m : Machine) :
    (p.entry m).cycles = (p.entry m).begun.countP Machine.completes := by
  rcases p.frame_cases m with ⟨f, -, hframe⟩ | ⟨-, hframe⟩
  · have hresult : (p.entry m).result = .error f := by
      rw [entry, hframe]
      rfl
    simp only [LedgerEntry.cycles, hresult]
  · have hresult : ∃ stats, (p.entry m).result = .ok stats ∧
        stats.cycles = (p.cyclesOf m).cycles := by
      rw [entry, hframe, close_result]
      exact ⟨_, rfl, rfl⟩
    obtain ⟨stats, hstats, hcycles⟩ := hresult
    simp only [LedgerEntry.cycles, hstats, hcycles]
    rw [entry, beginnings_history]
    exact (m.countP_completes_burst _ _).symm

theorem cycles_frame (p : Pacer) (m : Machine) :
    (p.frame m).machine.cycles = m.cycles + (p.entry m).cycles := by
  rw [cycles_entry, machine_frame, Machine.cycles_after, entry]

/-- What a completed frame reports is within its budget. -/
theorem reports_entry {stats : FrameStats} (h : (p.entry m).result = .ok stats) :
    (p.entry m).Reports stats := by
  obtain ⟨hfault, hframe⟩ := frame_of_ok h
  have hstats : stats.cycles = (p.cyclesOf m).cycles := by
    rw [entry, hframe, close_result, Except.ok.injEq] at h
    rw [← h]
  obtain ⟨hle, hfull, hone⟩ := Machine.cycles_burst hfault
  refine ⟨?_, fun hwait => ?_, fun hwait hbudget => ?_⟩
  · rw [entry, length_beginnings_history, Burst.begun, hfault, hstats]
    rfl
  · have : stats.cycles = p.budget.toNat := hstats.trans (hfull hwait)
    show (stats.cycles : Int) = max 0 p.budget
    omega
  · have hle' : stats.cycles ≤ p.budget.toNat := hstats ▸ hle
    have hone' : 1 ≤ p.budget.toNat → 1 ≤ stats.cycles := hstats ▸ hone
    have : 1 ≤ p.budget := hbudget
    exact ⟨hone' (by omega), by show (stats.cycles : Int) ≤ p.budget; omega⟩

/-- A frame leaves on a timer what its entry tells. -/
theorem timer_frame (p : Pacer) (m : Machine) (t : Timer) :
    (p.frame m).machine.timers.get t = t.owed (m.timers.get t) [p.entry m] := by
  have hrow : (p.cyclesOf m).machine.timers.get t =
      (Machine.writes t (p.entry m).begun).getLast?.elim (m.timers.get t) fun b => b.toNat := by
    rw [machine_cyclesOf, Machine.timer_after_cycles, ← beginnings_history]
    rfl
  rw [t.owed_singleton, ← hrow]
  rcases p.entry_cases m with ⟨haborted, f, hframe⟩ | ⟨hcompleted, hframe⟩
  · rw [haborted, hframe]
    rfl
  · rw [hcompleted, hframe, close_timers, Timers.get_tick]
    rfl

theorem frames_frame (p : Pacer) (m : Machine) :
    (p.frame m).pacer.frames = p.frames + [p.entry m].countP LedgerEntry.completed := by
  rw [List.countP_singleton]
  rcases p.entry_cases m with ⟨haborted, f, hframe⟩ | ⟨hcompleted, hframe⟩
  · rw [haborted, hframe]
    rfl
  · rw [hcompleted, hframe, close_pacer]
    rfl

end Pacer

/-! ### Runs -/

namespace Console

/-- The host neither counts cycles nor sets timers itself. -/
def Act.SparesCounts : Act → Prop
  | .machine f => ∀ m, (f m).cycles = m.cycles ∧ (f m).timers = m.timers
  | .frame | .hush | .budget _ => True

/-- The accounts from one console to another, read off a ledger. -/
structure Accounts (c : Console) (es : List LedgerEntry) (d : Console) : Prop where
  /-- The frames that were completed are counted. -/
  frames : d.pacer.frames = c.pacer.frames + es.countP LedgerEntry.completed
  /-- The cycles of all frames are counted, those of the frames that failed among them. -/
  cycles : d.machine.cycles = c.machine.cycles + (es.map LedgerEntry.cycles).sum
  /-- Every report is within the budget of its frame. -/
  reports : ∀ e ∈ es, ∀ stats, e.result = .ok stats → e.Reports stats
  /-- Of the last byte written to a timer, or else of what was there, one is gone for each completed
  frame, that of the write among them. -/
  timers : ∀ t : Timer, d.machine.timers.get t = t.owed (c.machine.timers.get t) es

variable {c d e : Console} {es fs : List LedgerEntry}

theorem Accounts.trans (hcd : c.Accounts es d) (hde : d.Accounts fs e) :
    c.Accounts (es ++ fs) e where
  frames := by
    rw [hde.frames, hcd.frames, List.countP_append, Nat.add_assoc]
  cycles := by
    rw [hde.cycles, hcd.cycles, List.map_append, List.sum_append, Nat.add_assoc]
  reports x hx := (List.mem_append.1 hx).elim (hcd.reports x) (hde.reports x)
  timers t := by rw [hde.timers, hcd.timers, Timer.owed_append]

/-- What does not count leaves the accounts as they are. -/
theorem Accounts.of_same (hframes : d.pacer.frames = c.pacer.frames)
    (hcycles : d.machine.cycles = c.machine.cycles)
    (htimers : d.machine.timers = c.machine.timers) : c.Accounts [] d where
  frames := hframes
  cycles := hcycles
  reports _ hx := absurd hx List.not_mem_nil
  timers t := by rw [htimers, t.owed_nil]

/-- **The accounts of one act.** -/
theorem accounts_act (c : Console) {a : Act} (ha : a.SparesCounts) :
    c.Accounts (c.entriesOf a) (c.act a) := by
  cases a with
  | frame =>
    exact {
      frames := c.pacer.frames_frame c.machine
      cycles := c.pacer.cycles_frame c.machine
      reports := fun x hx stats hstats => by
        rw [List.mem_singleton.1 hx] at hstats ⊢
        exact Pacer.reports_entry hstats
      timers := c.pacer.timer_frame c.machine }
  | hush => exact .of_same (by rw [act, Pacer.hush, Pacer.switchSound_pacer]) rfl rfl
  | budget n => exact .of_same rfl rfl rfl
  | machine f => exact .of_same rfl (ha c.machine).1 (ha c.machine).2

theorem accounts_acts (c : Console) {as : List Act} (has : ∀ a ∈ as, a.SparesCounts) :
    c.Accounts (c.ledger as) (c.acts as) := by
  induction as generalizing c with
  | nil => exact .of_same rfl rfl rfl
  | cons a as ih =>
    obtain ⟨ha, hrest⟩ := List.forall_mem_cons.1 has
    exact (c.accounts_act ha).trans (ih (c.act a) hrest)

/-- **Frame accounting.** A host runs frames at any console, and in between it does anything but run
cycles, step the timers or set them. Then the ledger of the run tells the number of frames, the
number of cycles, and what is left on each timer, and each report in it is within the budget of its
frame. The writes in the ledger are those of `FX15` and `FX18`, and what they write is `VX`. -/
theorem frame_accounting (c : Console) (as : List Act) (has : ∀ a ∈ as, a.SparesCounts) :
    c.Accounts (c.ledger as) (c.acts as) ∧
      ∀ (m : Machine) (b : UInt8),
        (m.written? .delay = some b ↔
          Word.Fits m.word "FX15" ∧ b = m.registers.get (Word.x m.word)) ∧
        (m.written? .sound = some b ↔
          Word.Fits m.word "FX18" ∧ b = m.registers.get (Word.x m.word)) :=
  ⟨c.accounts_acts has, fun _ _ =>
    ⟨Machine.written?_eq_some_iff (t := .delay), Machine.written?_eq_some_iff (t := .sound)⟩⟩

/-- A program sets the delay timer and clears the screen, which ends its frame. In the next one it
sets the sound timer and fails. The two frames that follow have a budget below zero and a small
one. -/
theorem frame_accounting_across_a_failure :
    let m := { Machine.fresh { displayWait := true } (.constant 0) with
      memory := Memory.fresh.writeBlock 0x200
        [0x60, 0x05, 0xF0, 0x15, 0x00, 0xE0, 0xF0, 0x18, 0x00, 0xEE] }
    let c : Console := ⟨m, ⟨9, true, true, 7, false⟩⟩
    let as : List Act := [.frame, .frame, .budget (-1), .frame, .budget 2, .frame]
    let d := c.acts as
    c.Accounts (c.ledger as) d ∧
      (c.ledger as).map LedgerEntry.completed = [true, false, true, true] ∧
      (c.ledger as).map LedgerEntry.cycles = [3, 1, 0, 2] ∧
      d.pacer.frames = 10 ∧ d.machine.cycles = 6 ∧ d.machine.timers = ⟨2, 3⟩ := by
  intro m c as d
  have has : ∀ a ∈ as, a.SparesCounts := by simp [as, Act.SparesCounts]
  obtain ⟨haccounts, -⟩ := frame_accounting c as has
  have hcompleted : (c.ledger as).map LedgerEntry.completed = [true, false, true, true] := by
    decide +kernel
  have hcycles : (c.ledger as).map LedgerEntry.cycles = [3, 1, 0, 2] := by decide +kernel
  refine ⟨haccounts, hcompleted, hcycles, ?_, ?_, by decide +kernel⟩
  · rw [haccounts.frames, ← Function.id_comp LedgerEntry.completed, ← List.countP_map, hcompleted]
    rfl
  · rw [haccounts.cycles, hcycles]
    rfl

end Console

end ChipEight
