import ChipEight.Proofs.Machine.KeyWait
import Mathlib.Data.List.DropRight
import Mathlib.Data.Nat.Find

/-!
# Calls and returns

A program has no other way to the stack than calls and returns: whatever words it comes across, and
however it got there, each cycle puts the address behind a call on the top, takes the top away, or
leaves the stack alone. So what lies deep in the stack stays there until the stack has shrunk to it,
and a call finds its way back.

A run here is a sequence of machines, each of which comes from the one before by a cycle, completed
or not, or by something that a host does. A host may do what it likes between two cycles, such as
write to the memory and to the program counter, as long as it does not push or pop itself. Runs have
no end, but a run may stand still: so what is said about all positions of a run is said about runs of
every length.

## Main definitions

- `Machine.Moves`, `Machine.IsRun`: one move, and runs of them.
- `Machine.depth`, `Machine.bottom`: how many return addresses there are, and the lowest of them.
- `Machine.CallsAt`, `Machine.Returns`: a call, and the first time that the stack is as deep again as
  it was before it.

## Main results

- `Machine.stack_step`: what one cycle does to the stack.
- `Console.moves_perform`, `Machine.isRun_history`: the commands of a host that are moves, and
  histories as runs.
- `Machine.IsRun.bottom_eq`: what lies below all depths of a run stays as it is.
- `Machine.calls_return_in_order`: where calls return to, and in which order.
-/

namespace ChipEight

/-! ### One cycle -/

/-- How the stack changes with an instruction: a call puts the program counter on the top, a return
moves the top to the program counter. -/
def Instr.StackRule (m n : Machine) : Instr → Prop
  | .call _ => n.registers.stack = m.registers.pc :: m.registers.stack
  | .ret => m.registers.stack = n.registers.pc :: n.registers.stack
  | _ => n.registers.stack = m.registers.stack

theorem Registers.stack_skipIf (r : Registers) (c : Bool) : (r.skipIf c).stack = r.stack := by
  cases c <;> rfl

theorem Machine.stack_awaitKey (m : Machine) (x : Reg) :
    (m.awaitKey x).registers.stack = m.registers.stack := by
  rw [awaitKey]
  split <;> rfl

theorem Instr.stack_exec {m n : Machine} {i : Instr} (h : i.exec m = .ok n) : i.StackRule m n := by
  cases i with
  | ret =>
    simp only [Instr.exec, Machine.ret, Registers.pop?] at h
    cases hstack : m.registers.stack with
    | nil =>
      rw [hstack] at h
      cases h
    | cons a rest =>
      rw [hstack] at h
      cases h
      exact hstack
  | random x mask =>
    simp only [Instr.exec, Machine.roll] at h
    split at h
    · cases h
      rfl
    · cases h
  | awaitKey x =>
    cases h
    exact m.stack_awaitKey x
  | skipEqImm | skipNeImm | skipEq | skipNe | skipKey | skipNoKey =>
    simp only [Instr.exec, Except.ok.injEq] at h
    subst h
    exact Registers.stack_skipIf _ _
  | alu f x y =>
    cases h
    exact (congrArg Registers.stack (m.registers.operate_eq m.dialect f x y) :)
  | storeRegs x =>
    cases h
    exact (congrArg Registers.stack (m.afterBlock_eq x) :)
  | loadRegs x =>
    cases h
    exact (congrArg (fun k => k.registers.stack) (m.loadRegs_eq x) :)
  | _ =>
    cases h
    rfl

namespace Machine

variable {m n : Machine}

/-- **What a cycle does to the stack.** It leaves the stack alone, or it executes a call and puts the
address behind it on the top, or it completes a return and takes the new program counter from
there. -/
theorem stack_step (m : Machine) :
    m.step.registers.stack = m.registers.stack ∨
      (∃ a, decode m.word = .call a ∧
        m.step.registers.stack = (m.registers.pc + 2) :: m.registers.stack) ∨
      (m.cycle.result = .ok .ret ∧
        m.registers.stack = m.step.registers.pc :: m.step.registers.stack) := by
  cases h : (decode m.word).exec m.fetched with
  | error f =>
    rw [(cycle_of_exec_error h).2]
    refine .inl ?_
    cases decode m.word <;> rfl
  | ok n =>
    obtain ⟨hresult, hstep⟩ := cycle_of_exec_ok h
    have hrule : (decode m.word).StackRule m.fetched n := Instr.stack_exec h
    rw [hresult, hstep]
    cases hi : decode m.word with
    | call a =>
      rw [hi] at hrule
      exact .inr (.inl ⟨a, rfl, hrule⟩)
    | ret =>
      rw [hi] at hrule
      exact .inr (.inr ⟨rfl, hrule⟩)
    | _ =>
      rw [hi] at hrule
      exact .inl hrule

/-- A call always succeeds. -/
theorem stack_step_of_call {a : Address} (h : decode m.word = .call a) :
    m.step.registers.stack = (m.registers.pc + 2) :: m.registers.stack := by
  have hexec : (decode m.word).exec m.fetched = (Instr.call a).exec m.fetched := by rw [h]
  rw [(cycle_of_exec_ok hexec).2]
  rfl

/-! ### Moves -/

/-- One move of a run: a cycle, or something that a host does without pushing or popping. -/
inductive Moves (m : Machine) : Machine → Prop
  | cycle : m.Moves m.step
  | host {n : Machine} (h : n.registers.stack = m.registers.stack) : m.Moves n

/-- How many return addresses there are. -/
def depth (m : Machine) : Nat :=
  m.registers.stack.length

/-- The lowest return addresses, so many of them. -/
def bottom (m : Machine) (d : Nat) : List UInt16 :=
  m.registers.stack.rtake d

theorem bottom_depth (m : Machine) : m.bottom m.depth = m.registers.stack := by
  rw [bottom, depth, List.rtake, Nat.sub_self, List.drop_zero]

/-- An address more on the top changes nothing further down. -/
theorem bottom_of_stack_eq_cons {a : UInt16} (h : n.registers.stack = a :: m.registers.stack)
    {d : Nat} (hd : d ≤ m.depth) : n.bottom d = m.bottom d := by
  rw [depth] at hd
  rw [bottom, bottom, List.rtake, List.rtake, h, List.length_cons, Nat.succ_sub hd,
    List.drop_succ_cons]

namespace Moves

/-- Everything that a move can do to the stack. -/
theorem stack (h : m.Moves n) :
    n.registers.stack = m.registers.stack ∨
      (∃ a, n.registers.stack = a :: m.registers.stack) ∨
      (m.cycle.result = .ok .ret ∧ n = m.step ∧
        m.registers.stack = n.registers.pc :: n.registers.stack) := by
  cases h with
  | host h => exact .inl h
  | cycle =>
    rcases m.stack_step with hsame | ⟨-, -, hcall⟩ | ⟨hresult, hret⟩
    · exact .inl hsame
    · exact .inr (.inl ⟨_, hcall⟩)
    · exact .inr (.inr ⟨hresult, rfl, hret⟩)

/-- A move takes one address away at most. -/
theorem depth_le (h : m.Moves n) : m.depth ≤ n.depth + 1 := by
  rw [depth, depth]
  rcases h.stack with hsame | ⟨a, hcall⟩ | ⟨-, -, hret⟩
  · rw [hsame]
    exact Nat.le_succ _
  · rw [hcall, List.length_cons]
    omega
  · rw [hret, List.length_cons]

/-- Only a return makes the stack less deep. -/
theorem return_of_depth_lt (h : m.Moves n) (hlt : n.depth < m.depth) :
    m.cycle.result = .ok .ret ∧ n = m.step ∧
      m.registers.stack = n.registers.pc :: n.registers.stack := by
  rw [depth, depth] at hlt
  rcases h.stack with hsame | ⟨a, hcall⟩ | hret
  · rw [hsame] at hlt
    exact absurd hlt (Nat.lt_irrefl _)
  · rw [hcall, List.length_cons] at hlt
    omega
  · exact hret

/-- A move changes nothing below the two depths that it leads from and to. -/
theorem bottom_eq (h : m.Moves n) {d : Nat} (hm : d ≤ m.depth) (hn : d ≤ n.depth) :
    n.bottom d = m.bottom d := by
  rcases h.stack with hsame | ⟨a, hcall⟩ | ⟨-, -, hret⟩
  · rw [bottom, hsame, bottom]
  · exact bottom_of_stack_eq_cons hcall hm
  · exact (bottom_of_stack_eq_cons hret hn).symm

end Moves

/-! ### What is a move -/

/-- An event of a history is a move. -/
theorem moves_react (m : Machine) (e : Event) : m.Moves (m.react e) := by
  cases e with
  | cycle => exact .cycle
  | consume => exact .host rfl
  | input i =>
    rw [react, feed_eq]
    exact .host rfl

end Machine

/-- A command that neither pushes nor pops, nor executes instructions. -/
def Command.SparesStack : Command → Prop
  | .push _ | .pop | .cycles _ | .execute _ | .frames _ => False
  | _ => True

namespace Console

theorem stack_write {m n : Machine} {w : Assignment} (h : write m w = .ok n) :
    n.registers.stack = m.registers.stack := by
  cases w with
  | general k b =>
    obtain ⟨x, rfl⟩ := writeGeneral_eq_ok (show writeGeneral m k b = .ok n from h)
    rfl
  | _ =>
    cases h
    rfl

/-- What a host does by any other command is a move, whether it is refused or not. -/
theorem moves_perform (c : Console) {k : Command} (hk : k.SparesStack) :
    c.machine.Moves (c.perform k).1.machine := by
  refine .host ?_
  cases k with
  | push | pop | cycles | execute | frames => exact hk.elim
  | load p =>
    simp only [perform, Machine.load]
    cases (p.seen c.machine.memory).accept <;> rfl
  | assign ws =>
    exact writeAll_preserves (P := fun n => n.registers.stack = c.machine.registers.stack)
      (fun _ _ _ _ h hn => (stack_write h).trans hn) rfl
  | tick n =>
    exact tickTimes_preserves (P := fun n => n.registers.stack = c.machine.registers.stack)
      (fun _ hm => hm) n.toNat rfl
  | setKey key down =>
    simp only [perform]
    cases c.machine.keypad.setKey key down <;> rfl
  | xorPixel x y bit =>
    simp only [perform]
    cases c.machine.display.xor x y bit <;> rfl
  | readPixel x y =>
    simp only [perform]
    cases c.machine.display.get x y <;> rfl
  | _ => rfl

end Console

namespace Machine

/-! ### Runs -/

/-- A sequence of machines, each of which comes from the one before by a move. -/
def IsRun (ms : Nat → Machine) : Prop :=
  ∀ i, (ms i).Moves (ms (i + 1))

/-- The machines that a history goes through are a run, which stands still at its end. -/
theorem isRun_history (m : Machine) (es : List Event) : IsRun fun i => m.after (es.take i) := by
  intro i
  cases he : es[i]? with
  | none =>
    have hle : es.length ≤ i := List.getElem?_eq_none_iff.1 he
    simp only [List.take_of_length_le hle, List.take_of_length_le (Nat.le_succ_of_le hle)]
    exact .host rfl
  | some e =>
    simp only [List.take_add_one, he, after_append]
    exact moves_react _ e

variable {ms : Nat → Machine}

/-- A call is executed at a position of a run. -/
def CallsAt (ms : Nat → Machine) (i : Nat) : Prop :=
  ∃ a, decode (ms i).word = .call a ∧ ms (i + 1) = (ms i).step

/-- After position `i`, the stack is deeper up to `j`, and with the next move it is as deep again as
it was at `i`. -/
structure Returns (ms : Nat → Machine) (i j : Nat) : Prop where
  lt : i < j
  above : ∀ k, i < k → k ≤ j → (ms i).depth < (ms k).depth
  back : (ms (j + 1)).depth = (ms i).depth

/-- There is only one first time. -/
theorem Returns.unique {i j k : Nat} (hj : Returns ms i j) (hk : Returns ms i k) : j = k := by
  rcases Nat.lt_trichotomy j k with h | h | h
  · have habove := hk.above (j + 1) (Nat.lt_succ_of_lt hj.lt) h
    rw [hj.back] at habove
    exact absurd habove (Nat.lt_irrefl _)
  · exact h
  · have habove := hj.above (k + 1) (Nat.lt_succ_of_lt hk.lt) h
    rw [hk.back] at habove
    exact absurd habove (Nat.lt_irrefl _)

theorem CallsAt.stack {i : Nat} (h : CallsAt ms i) :
    (ms (i + 1)).registers.stack = ((ms i).registers.pc + 2) :: (ms i).registers.stack := by
  obtain ⟨a, hcall, hstep⟩ := h
  rw [hstep]
  exact stack_step_of_call hcall

theorem CallsAt.depth {i : Nat} (h : CallsAt ms i) : (ms (i + 1)).depth = (ms i).depth + 1 :=
  congrArg List.length h.stack

namespace IsRun

/-- **What lies deep stays.** As long as a run does not go below some depth, the return addresses
below it are not changed. -/
theorem bottom_eq (h : IsRun ms) {i j d : Nat} (hij : i ≤ j)
    (hd : ∀ k, i ≤ k → k ≤ j → d ≤ (ms k).depth) : (ms j).bottom d = (ms i).bottom d := by
  induction j, hij using Nat.le_induction with
  | base => rfl
  | succ j hij ih =>
    have hbefore : d ≤ (ms j).depth := hd j hij (Nat.le_succ j)
    have hafter : d ≤ (ms (j + 1)).depth := hd (j + 1) (Nat.le_succ_of_le hij) (Nat.le_refl _)
    rw [(h j).bottom_eq hbefore hafter]
    exact ih fun k hik hkj => hd k hik (Nat.le_succ_of_le hkj)

/-- When the stack is as deep again as it was before a call, a return was executed. It has led
behind the call, and left the stack that the call had found. -/
theorem returns (h : IsRun ms) {i j : Nat} (hcall : CallsAt ms i) (hret : Returns ms i j) :
    (ms j).cycle.result = .ok .ret ∧ ms (j + 1) = (ms j).step ∧
      (ms (j + 1)).registers.pc = (ms i).registers.pc + 2 ∧
      (ms (j + 1)).registers.stack = (ms i).registers.stack := by
  have hlt : (ms (j + 1)).depth < (ms j).depth := by
    rw [hret.back]
    exact hret.above j hret.lt (Nat.le_refl j)
  obtain ⟨hresult, hstep, hpop⟩ := (h j).return_of_depth_lt hlt
  have hdepth : (ms j).depth = (ms (i + 1)).depth := by
    rw [hcall.depth, ← hret.back]
    exact congrArg List.length hpop
  -- The stack that the call has left is untouched, and it is the whole stack once more.
  have hbottom : (ms j).bottom (ms (i + 1)).depth = (ms (i + 1)).bottom (ms (i + 1)).depth := by
    refine h.bottom_eq hret.lt fun k hik hkj => ?_
    rw [hcall.depth]
    exact hret.above k hik hkj
  have hstack : (ms j).registers.stack = (ms (i + 1)).registers.stack := by
    rw [← bottom_depth, hdepth, hbottom, bottom_depth]
  rw [hpop, hcall.stack, List.cons_eq_cons] at hstack
  exact ⟨hresult, hstep, hstack⟩

/-- A call has returned by the time at which the stack is no deeper than before it. -/
theorem exists_returns (h : IsRun ms) {k t : Nat} (hcall : CallsAt ms k) (hkt : k < t)
    (hdepth : (ms t).depth ≤ (ms k).depth) : ∃ l, k < l ∧ l < t ∧ Returns ms k l := by
  have hex : ∃ s, k < s ∧ (ms s).depth ≤ (ms k).depth := ⟨t, hkt, hdepth⟩
  obtain ⟨hks, hle⟩ := Nat.find_spec hex
  have hst : Nat.find hex ≤ t := Nat.find_min' hex ⟨hkt, hdepth⟩
  have hmin : ∀ s, k < s → s < Nat.find hex → (ms k).depth < (ms s).depth := by
    intro s hs hlt
    by_contra hno
    exact Nat.find_min hex hlt ⟨hs, Nat.not_lt.1 hno⟩
  obtain ⟨l, hl⟩ : ∃ l, Nat.find hex = l + 1 := Nat.exists_eq_succ_of_ne_zero (by omega)
  rw [hl] at hks hle hst hmin
  have hkl : k < l := by
    rcases Nat.lt_succ_iff_lt_or_eq.1 hks with hlt | rfl
    · exact hlt
    · rw [hcall.depth] at hle
      omega
  have hback : (ms (l + 1)).depth = (ms k).depth := by
    have hone := (h l).depth_le
    have habove := hmin l hkl (Nat.lt_succ_self l)
    omega
  exact ⟨l, hkl, hst, hkl, fun s hs hsl => hmin s hs (Nat.lt_succ_of_le hsl), hback⟩

/-- Calls that are made before another one has returned return before it does. -/
theorem exists_returns_of_nested (h : IsRun ms) {i j k : Nat} (hret : Returns ms i j)
    (hcall : CallsAt ms k) (hik : i < k) (hkj : k ≤ j) :
    ∃ l, k < l ∧ l < j ∧ Returns ms k l := by
  have hdeeper : (ms (j + 1)).depth < (ms k).depth := by
    rw [hret.back]
    exact hret.above k hik hkj
  obtain ⟨l, hkl, hlj, hl⟩ := h.exists_returns hcall (Nat.lt_succ_of_le hkj) (Nat.le_of_lt hdeeper)
  refine ⟨l, hkl, Nat.lt_of_le_of_ne (Nat.le_of_lt_succ hlj) ?_, hl⟩
  rintro rfl
  rw [hl.back] at hdeeper
  exact absurd hdeeper (Nat.lt_irrefl _)

end IsRun

/-- **Calls return in order.** Let a run consist of cycles, of any program, and of what a host does
without pushing or popping.

- The return addresses below the least depth of the first moves of the run are not changed by them.
- If a call is executed, and the stack stays deeper than before the call until it is just as deep for
  the first time, then it has become so by a return. After this return the program counter is behind
  the call, modulo 65536, and the stack is what it was before the call.
- A call that is made in between has returned before, and just once. -/
theorem calls_return_in_order {ms : Nat → Machine} (h : IsRun ms) :
    (∀ n d, (∀ i ≤ n, d ≤ (ms i).depth) → ∀ i ≤ n, (ms i).bottom d = (ms 0).bottom d) ∧
      ∀ i j, CallsAt ms i → Returns ms i j →
        ((ms j).cycle.result = .ok .ret ∧ ms (j + 1) = (ms j).step ∧
          (ms (j + 1)).registers.pc.toNat = ((ms i).registers.pc.toNat + 2) % 65536 ∧
          (ms (j + 1)).registers.stack = (ms i).registers.stack) ∧
        ∀ k, i < k → k ≤ j → CallsAt ms k →
          ∃ l, k < l ∧ l < j ∧ Returns ms k l ∧ ∀ l', Returns ms k l' → l' = l := by
  refine ⟨?_, fun i j hcall hret => ⟨?_, ?_⟩⟩
  · intro n d hd i hi
    exact h.bottom_eq (Nat.zero_le i) fun k _ hki => hd k (Nat.le_trans hki hi)
  · obtain ⟨hresult, hstep, hpc, hstack⟩ := h.returns hcall hret
    refine ⟨hresult, hstep, ?_, hstack⟩
    rw [hpc]
    exact UInt16.toNat_add _ _
  · intro k hik hkj hk
    obtain ⟨l, hkl, hlj, hl⟩ := h.exists_returns_of_nested hret hk hik hkj
    exact ⟨l, hkl, hlj, hl, fun l' hl' => hl'.unique hl⟩

/-- A subroutine that calls another one, with a key and a step of the timers in between, on a stack
that holds an address already. -/
theorem calls_return_in_order_nested :
    let program : List UInt8 := [0x22, 0x04, 0x12, 0x02, 0x22, 0x08, 0x00, 0xEE, 0x00, 0xEE]
    let m := { fresh .plain (.constant 0) with
      memory := Memory.fresh.writeBlock 0x200 program
      registers := Registers.fresh.push 0x300 }
    let es : List Event := [.cycle, .input (.key 3 true), .cycle, .cycle, .input .tick, .cycle]
    let ms := fun i => m.after (es.take i)
    IsRun ms ∧ (∀ i ≤ 6, 1 ≤ (ms i).depth) ∧ CallsAt ms 0 ∧ Returns ms 0 5 ∧ CallsAt ms 2 ∧
      (∀ i ≤ 6, (ms i).bottom 1 = (ms 0).bottom 1) ∧
      (ms 6).registers.pc.toNat = (0x200 + 2) % 65536 ∧ (ms 6).registers.stack = [0x300] ∧
      ∃ l, 2 < l ∧ l < 5 ∧ Returns ms 2 l := by
  intro program m es ms
  have hrun : IsRun ms := isRun_history m es
  have hdepth : ∀ i ≤ 6, 1 ≤ (ms i).depth := by decide +kernel
  have houter : CallsAt ms 0 := ⟨⟨0x204, by decide⟩, by decide +kernel, rfl⟩
  have hinner : CallsAt ms 2 := ⟨⟨0x208, by decide⟩, by decide +kernel, rfl⟩
  have habove : ∀ k ≤ 5, 0 < k → (ms 0).depth < (ms k).depth := by decide +kernel
  have hreturns : Returns ms 0 5 :=
    ⟨by decide, fun k hk hle => habove k hle hk, by decide +kernel⟩
  have hfirst : (ms 0).registers = Registers.fresh.push 0x300 := rfl
  obtain ⟨hbottom, horder⟩ := calls_return_in_order hrun
  obtain ⟨⟨-, -, hpc, hstack⟩, hnested⟩ := horder 0 5 houter hreturns
  rw [hfirst] at hpc hstack
  obtain ⟨l, hl, hl5, hinside, -⟩ := hnested 2 (by decide) (by decide) hinner
  exact ⟨hrun, hdepth, houter, hreturns, hinner, hbottom 6 1 hdepth, hpc, hstack, l, hl, hl5,
    hinside⟩

end Machine

end ChipEight
