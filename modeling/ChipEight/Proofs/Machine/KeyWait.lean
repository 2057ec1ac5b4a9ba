import ChipEight.Proofs.Machine.Fault
import ChipEight.Proofs.Machine.History
import Mathlib.Data.List.FinRange

/-!
# Waiting for a key

`FX0A` waits until a key is let go. The machine does not stop for that: the instruction moves the
program counter back, so that it is fetched again in the next cycle. What counts as let go is a key
that was held when the last cycle ended and is held no longer when the next one begins. A key that
is tapped in between is never seen, nor is one that is let go and pressed again.

The host and the machine take turns. In each round the host presses and lets go keys and steps the
timers as it likes, and then a cycle runs. What is held when the cycle of a round runs depends on
the inputs alone, and so does what the machine remembers: the keys held in the round before, and in
the first round the keys of its last snapshot. The main result tells a whole wait in these terms.

## Main definitions

- `KeySet.feedAll`, `Timers.feedAll`: what inputs do to the held keys and to the timers.
- `Machine.rounds`: the machine after rounds, each of inputs and a cycle.
- `Machine.heldAt`, `Machine.seenAt`: the keys held in a round, and those remembered when it begins.
- `KeySet.LetGo`: a key that is in the first set and not in the second.

## Main results

- `Machine.feedAll_eq`: inputs change the held keys and the timers, and nothing else.
- `Machine.step_of_no_release`, `Machine.step_of_release`: one cycle of a wait.
- `Machine.wait_rounds`: every round of a wait, up to the first release and including it.
-/

namespace ChipEight

/-! ### What inputs do -/

/-- The held keys after an input. -/
def KeySet.feed (s : KeySet) : Input → KeySet
  | .key code down =>
    match Key.ofInt code with
    | .ok k => s.put k down
    | .error _ => s
  | .releaseAll => .empty
  | .tick => s

/-- The held keys after inputs in order. -/
def KeySet.feedAll (s : KeySet) (is : List Input) : KeySet :=
  is.foldl feed s

/-- The timers after an input. -/
def Timers.feed (t : Timers) : Input → Timers
  | .tick => t.tick
  | _ => t

/-- The timers after inputs in order. -/
def Timers.feedAll (t : Timers) (is : List Input) : Timers :=
  is.foldl feed t

namespace Machine

theorem feed_eq (m : Machine) (i : Input) :
    m.feed i =
      { m with keypad := ⟨m.keypad.live.feed i, m.keypad.last⟩, timers := m.timers.feed i } := by
  cases i with
  | key code down =>
    simp only [feed, Keypad.setKey, KeySet.feed, Timers.feed]
    cases Key.ofInt code <;> rfl
  | releaseAll => rfl
  | tick => rfl

/-- Inputs change the held keys and the timers, and leave everything else as it is. -/
theorem feedAll_eq (m : Machine) (is : List Input) :
    m.feedAll is =
      { m with
        keypad := ⟨m.keypad.live.feedAll is, m.keypad.last⟩
        timers := m.timers.feedAll is } := by
  induction is generalizing m with
  | nil => rfl
  | cons i is ih =>
    rw [feedAll_cons, ih, feed_eq]
    rfl

end Machine

/-! ### Keys that were let go -/

/-- A key that was in the first set and is not in the second. -/
def KeySet.LetGo (s t : KeySet) (k : Key) : Prop :=
  s.contains k = true ∧ t.contains k = false

instance (s t : KeySet) (k : Key) : Decidable (s.LetGo t k) :=
  inferInstanceAs (Decidable (_ ∧ _))

theorem KeySet.mem_missing {s t : KeySet} {k : Key} : k ∈ s.missing t ↔ s.LetGo t k := by
  simp [missing, LetGo]

/-- The keys of one set that are not in another are listed in ascending order. -/
theorem KeySet.missing_pairwise (s t : KeySet) : (s.missing t).Pairwise (· < ·) :=
  ((List.pairwise_lt_finRange 16).filter _).filter _

/-- No key counts as released when none was let go since the last snapshot. -/
theorem Keypad.released?_eq_none_iff {p : Keypad} :
    p.released? = none ↔ ∀ k, ¬ p.last.LetGo p.live k := by
  simp only [released?, List.head?_eq_none_iff, List.eq_nil_iff_forall_not_mem, KeySet.mem_missing]

/-- If any key was let go since the last snapshot, then one of them counts as released. -/
theorem Keypad.exists_released? {p : Keypad} (h : ∃ k, p.last.LetGo p.live k) :
    ∃ k, p.released? = some k := by
  cases hr : p.released? with
  | some k => exact ⟨k, rfl⟩
  | none =>
    obtain ⟨k, hk⟩ := h
    exact absurd hk (released?_eq_none_iff.1 hr k)

/-- The key that counts as released is the least of those let go since the last snapshot. -/
theorem Keypad.released?_eq_some_iff {p : Keypad} {k : Key} :
    p.released? = some k ↔
      p.last.LetGo p.live k ∧ ∀ j, p.last.LetGo p.live j → k ≤ j := by
  have hsorted := KeySet.missing_pairwise p.last p.live
  simp only [released?, ← KeySet.mem_missing]
  cases hl : p.last.missing p.live with
  | nil => simp
  | cons a rest =>
    rw [hl, List.pairwise_cons] at hsorted
    have ha : ∀ j ∈ a :: rest, a ≤ j := by
      intro j hj
      rcases List.mem_cons.1 hj with rfl | hj
      · exact Fin.le_refl j
      · exact Fin.le_of_lt (hsorted.1 j hj)
    rw [List.head?_cons, Option.some.injEq]
    constructor
    · rintro rfl
      exact ⟨List.mem_cons_self, ha⟩
    · rintro ⟨hk, hle⟩
      exact Fin.le_antisymm (ha k hk) (hle a List.mem_cons_self)

/-! ### One cycle of a wait -/

namespace Machine

/-- An `FX0A` that finds no key let go leaves the registers as they were before its fetch: the
program counter goes back as far as the fetch moved it, also where that wraps around. -/
theorem step_of_no_release {m : Machine} {x : Reg} (h : decode m.word = .awaitKey x)
    (hk : ∀ k, ¬ m.keypad.last.LetGo m.keypad.live k) :
    m.cycle.result = .ok (.awaitKey x) ∧ m.step = m.settled := by
  have hn : m.keypad.released? = none := Keypad.released?_eq_none_iff.2 hk
  have hpc : m.registers.pc + 2 - 2 = m.registers.pc := by simp
  have he : (decode m.word).exec m.fetched = .ok m := by
    have hf : m.fetched.keypad.released? = none := hn
    rw [h, Instr.exec, awaitKey, hf]
    simp only [onRegisters, fetched, Registers.goto, Registers.advance, hpc]
  rw [← h]
  exact cycle_of_exec_ok he

/-- An `FX0A` that finds keys let go stores the least of them and goes on. -/
theorem step_of_release {m : Machine} {x : Reg} (h : decode m.word = .awaitKey x) {k : Key}
    (hk : m.keypad.last.LetGo m.keypad.live k)
    (hmin : ∀ j, m.keypad.last.LetGo m.keypad.live j → k ≤ j) :
    m.cycle.result = .ok (.awaitKey x) ∧
      m.step = (m.onRegisters fun r => r.advance.set x (UInt8.ofNat k.val)).settled := by
  have hs : m.keypad.released? = some k := Keypad.released?_eq_some_iff.2 ⟨hk, hmin⟩
  have he : (decode m.word).exec m.fetched =
      .ok (m.onRegisters fun r => r.advance.set x (UInt8.ofNat k.val)) := by
    have hf : m.fetched.keypad.released? = some k := hs
    rw [h, Instr.exec, awaitKey, hf]
    rfl
  rw [← h]
  exact cycle_of_exec_ok he

/-! ### Rounds -/

/-- The machine after a round: inputs of the host, and a cycle. -/
def round (m : Machine) (is : List Input) : Machine :=
  (m.feedAll is).step

/-- The machine after rounds in order. -/
def rounds (m : Machine) (rs : List (List Input)) : Machine :=
  rs.foldl round m

/-- The keys held when the cycle of round `i` runs. -/
def heldAt (m : Machine) (rs : List (List Input)) (i : Nat) : KeySet :=
  m.keypad.live.feedAll (rs.take (i + 1)).flatten

/-- The keys remembered when round `i` begins: those of the last snapshot at first, and later those
held in the round before. -/
def seenAt (m : Machine) (rs : List (List Input)) : Nat → KeySet
  | 0 => m.keypad.last
  | i + 1 => m.heldAt rs i

/-- The machine of a wait when the cycle of round `i` runs. The host has changed the held keys and
stepped the timers; the machine has counted its cycles and remembers the keys of the round before.
-/
def waiting (m : Machine) (rs : List (List Input)) (i : Nat) : Machine :=
  { m with
    keypad := ⟨m.heldAt rs i, m.seenAt rs i⟩
    timers := m.timers.feedAll (rs.take (i + 1)).flatten
    cycles := m.cycles + i }

theorem rounds_take_succ (m : Machine) {rs : List (List Input)} {i : Nat} (hi : i < rs.length) :
    m.rounds (rs.take (i + 1)) = ((m.rounds (rs.take i)).feedAll rs[i]).step := by
  rw [rounds, rounds, List.take_succ_eq_append_getElem hi, List.foldl_append]
  rfl

theorem word_waiting (m : Machine) (rs : List (List Input)) (i : Nat) :
    (m.waiting rs i).word = m.word := rfl

/-- As long as no round sees a key let go, the wait goes on. -/
theorem feedAll_rounds_eq_waiting {m : Machine} {x : Reg} (h : decode m.word = .awaitKey x)
    (rs : List (List Input)) {i : Nat} (hi : i < rs.length)
    (hblocked : ∀ j < i, ∀ k, ¬ (m.seenAt rs j).LetGo (m.heldAt rs j) k) :
    (m.rounds (rs.take i)).feedAll rs[i] = m.waiting rs i := by
  induction i with
  | zero =>
    have htake : rs.take 1 = [rs[0]] := by
      rw [List.take_succ_eq_append_getElem hi]
      rfl
    rw [feedAll_eq]
    simp only [waiting, heldAt, htake, List.flatten_singleton]
    rfl
  | succ i ih =>
    have hi' : i < rs.length := by omega
    have hprev := ih hi' fun j hj => hblocked j (by omega)
    have hstep : m.rounds (rs.take (i + 1)) = (m.waiting rs i).settled := by
      rw [rounds_take_succ m hi', hprev]
      exact (step_of_no_release (by rw [word_waiting, h]) (hblocked i (by omega))).2
    have htake : (rs.take (i + 1 + 1)).flatten = (rs.take (i + 1)).flatten ++ rs[i + 1] := by
      rw [List.take_succ_eq_append_getElem hi, List.flatten_append, List.flatten_singleton]
    rw [hstep, feedAll_eq]
    simp only [waiting, heldAt, seenAt, settled, Keypad.snapshot, htake, KeySet.feedAll,
      Timers.feedAll, List.foldl_append, Nat.add_assoc]

/-! ### A release is delivered once -/

/-- Without a press or a release the held keys stay the same. -/
theorem feedAll_live_of_ticks {m : Machine} {ticks : List Input} (ht : ∀ t ∈ ticks, t = .tick) :
    (m.feedAll ticks).keypad = m.keypad := by
  induction ticks generalizing m with
  | nil => rfl
  | cons t ticks ih =>
    have htick : t = .tick := ht t List.mem_cons_self
    rw [feedAll_cons, ih fun u hu => ht u (List.mem_cons_of_mem t hu), htick]
    rfl

/-- The snapshot at the end of a cycle takes note of every release. An `FX0A` that comes next waits,
unless the host moves a key before. -/
theorem step_of_settled {m : Machine} {y : Reg} {ticks : List Input} (ht : ∀ t ∈ ticks, t = .tick)
    (h : decode (m.settled.feedAll ticks).word = .awaitKey y) :
    (m.settled.feedAll ticks).step = (m.settled.feedAll ticks).settled := by
  refine (step_of_no_release h fun k hk => ?_).2
  rw [feedAll_live_of_ticks ht] at hk
  have heq : m.settled.keypad.last = m.settled.keypad.live := rfl
  rw [heq] at hk
  exact absurd (hk.1.symm.trans hk.2) (by decide)

/-! ### The whole wait -/

/-- **A wait for a key, round by round.** An `FX0A` stands at the program counter, and up to round
`i` no round has seen a key let go. Then in round `i` the machine is the one that the wait began
with, but for what the host did to the keys and the timers, for the snapshot and for the number of
cycles. If this round sees no key let go either, its cycle changes nothing but the snapshot and the
number of cycles. If it does, its cycle stores the least key let go and moves the program counter on
by two, and the release is used up: should another `FX0A` come next, it waits, however often the
timers are stepped. -/
theorem wait_rounds {m : Machine} {x : Reg} (h : decode m.word = .awaitKey x)
    (rs : List (List Input)) {i : Nat} (hi : i < rs.length)
    (hblocked : ∀ j < i, ∀ k, ¬ (m.seenAt rs j).LetGo (m.heldAt rs j) k) :
    (m.rounds (rs.take i)).feedAll rs[i] = m.waiting rs i ∧
      (m.waiting rs i).cycle.result = .ok (.awaitKey x) ∧
      ((∀ k, ¬ (m.seenAt rs i).LetGo (m.heldAt rs i) k) →
        m.rounds (rs.take (i + 1)) = (m.waiting rs i).settled) ∧
      ((∃ k, (m.seenAt rs i).LetGo (m.heldAt rs i) k) →
        ∃ k, (m.seenAt rs i).LetGo (m.heldAt rs i) k ∧
          (∀ j, (m.seenAt rs i).LetGo (m.heldAt rs i) j → k ≤ j) ∧
          let done := m.rounds (rs.take (i + 1))
          done = ((m.waiting rs i).onRegisters fun r =>
            r.advance.set x (UInt8.ofNat k.val)).settled ∧
          ∀ (y : Reg) (ticks : List Input), (∀ t ∈ ticks, t = .tick) →
            decode (done.feedAll ticks).word = .awaitKey y →
            (done.feedAll ticks).step = (done.feedAll ticks).settled) := by
  have hword : decode (m.waiting rs i).word = .awaitKey x := by rw [word_waiting, h]
  have hwait := feedAll_rounds_eq_waiting h rs hi hblocked
  have hdone : m.rounds (rs.take (i + 1)) = (m.waiting rs i).step := by
    rw [rounds_take_succ m hi, hwait]
  refine ⟨hwait, ?_, fun hnone => ?_, fun hsome => ?_⟩
  · by_cases hsome : ∃ k, (m.seenAt rs i).LetGo (m.heldAt rs i) k
    · obtain ⟨k, hk⟩ := Keypad.exists_released? (p := (m.waiting rs i).keypad) hsome
      obtain ⟨hgo, hmin⟩ := Keypad.released?_eq_some_iff.1 hk
      exact (step_of_release hword hgo hmin).1
    · exact (step_of_no_release hword fun k hk => hsome ⟨k, hk⟩).1
  · rw [hdone]
    exact (step_of_no_release hword hnone).2
  · obtain ⟨k, hk⟩ := Keypad.exists_released? (p := (m.waiting rs i).keypad) hsome
    obtain ⟨hgo, hmin⟩ := Keypad.released?_eq_some_iff.1 hk
    have hstep := (step_of_release hword hgo hmin).2
    refine ⟨k, hgo, hmin, hdone.trans hstep, fun y ticks ht hy => ?_⟩
    rw [hdone, hstep] at hy ⊢
    exact step_of_settled ht hy

/-- The word of a wait runs around the end of memory, and the program counter with it. Two keys are
held, and in the third round both are let go. The lesser one is stored. -/
theorem wait_rounds_around_the_end :
    let memory := (Memory.fresh.write 0xFFF 0xF1).write 0x1000 0x0A
    let m := { fresh .plain (.constant 0) with memory := memory }.onRegisters fun r => r.goto 0xFFFF
    let rs : List (List Input) :=
      [[.key 5 true, .key 3 true], [.tick], [.key 5 false, .key 3 false], []]
    decode m.word = .awaitKey 1 ∧ 2 < rs.length ∧
      (∀ j < 2, ∀ k, ¬ (m.seenAt rs j).LetGo (m.heldAt rs j) k) ∧
      (m.rounds (rs.take 2)).feedAll [.key 5 false, .key 3 false] = m.waiting rs 2 ∧
      (∃ k, (m.seenAt rs 2).LetGo (m.heldAt rs 2) k) ∧
      m.rounds (rs.take 3) =
        ((m.waiting rs 2).onRegisters fun r => r.advance.set 1 3).settled := by
  intro memory m rs
  have hword : decode m.word = .awaitKey 1 := by
    have h : m.word = 0xF10A := by
      simp [m, memory, word, Memory.read_write, onRegisters, Registers.goto]
    rw [h]
    decide
  have hblocked : ∀ j < 2, ∀ k, ¬ (m.seenAt rs j).LetGo (m.heldAt rs j) k := by
    have hlive : m.keypad = .fresh := rfl
    simp only [heldAt, seenAt, hlive]
    decide
  obtain ⟨hw, -, -, hgo⟩ := wait_rounds hword rs (i := 2) (by decide) hblocked
  have hthree : (m.seenAt rs 2).LetGo (m.heldAt rs 2) 3 := by decide
  obtain ⟨k, hk, hleast, hdone, -⟩ := hgo ⟨3, hthree⟩
  have hk3 : k = 3 := by
    have hmin : ∀ k, (m.seenAt rs 2).LetGo (m.heldAt rs 2) k → 3 ≤ k := by decide
    exact Fin.le_antisymm (hleast 3 hthree) (hmin k hk)
  rw [hk3] at hdone
  exact ⟨hword, by decide, hblocked, hw, ⟨3, hthree⟩, hdone⟩

end Machine

end ChipEight
