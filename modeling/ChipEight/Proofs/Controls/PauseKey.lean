import ChipEight.Proofs.Window.Pause
import Mathlib.Algebra.BigOperators.Group.List.Basic
import Mathlib.Algebra.Ring.Parity

/-!
# Presses of the pause key

Whether the pause key was pressed is remembered in one bit. The bit is set by a press and cleared when
it is asked for, so that a press is answered once and then forgotten. Presses are not counted: all
that fall between two asks are answered together.

A window asks once in each turn. So it does not matter how often the pause key is pressed in a turn,
and two quick presses that come with one batch of events do not undo each other.

## Main definitions

- `Controls.Act`: an event, or somebody asks whether the pause key was pressed.
- `Controls.attend`: events and asks in order, with the answers.
- `Controls.drain`: asking until the answer is no.

## Main results

- `Controls.count_attend`: how often the answer is yes, from any controls on.
- `countP_any_eq_sum_iff`: counting the parts with something in them counts all if none has two things.
- `Window.turn_of_open`: what a turn does about the pause key.
- `pause_presses_merge`: the presses that are noticed, and the turns that pause or go on.
-/

namespace ChipEight

namespace Controls

/-! ### Asking -/

/-- What happens to the controls: an event, or somebody asks whether the pause key was pressed. -/
inductive Act where
  | event (e : HostEvent)
  | ask
  deriving DecidableEq, Repr

/-- The pause key is pressed. -/
def Act.pauses : Act → Bool
  | .event e => e.pauses
  | .ask => false

/-- Events and asks in order, with the answers. -/
def attend (c : Controls) (p : Keypad) : List Act → Controls × Keypad × List Bool
  | [] => (c, p, [])
  | .event e :: as => (c.handle p e).1.attend (c.handle p e).2.1 as
  | .ask :: as =>
    let done := c.consumePause.1.attend p as
    (done.1, done.2.1, c.consumePause.2 :: done.2.2)

/-- The answers when it is asked until the answer is no. An ask clears the bit, so that the second one
is the last at the latest. -/
def drain (c : Controls) : List Bool :=
  if c.consumePause.2 then true :: c.consumePause.1.drain else [false]
termination_by c.pausePressed.toNat
decreasing_by
  rename_i hpressed
  have hpressed : c.pausePressed = true := hpressed
  rw [hpressed]
  exact Nat.zero_lt_one

theorem drain_eq (c : Controls) : c.drain = if c.pausePressed then [true, false] else [false] := by
  have hcleared : c.consumePause.1.drain = [false] := by
    rw [drain]
    exact if_neg Bool.false_ne_true
  rw [drain, hcleared]
  rfl

/-- An ask begins a new stretch. -/
theorem splitOn_ask (as : List Act) : (Act.ask :: as).splitOn .ask = [] :: as.splitOn .ask := by
  rw [List.splitOn, List.splitOnP_cons_eq_if_modifyHead, if_pos (beq_self_eq_true Act.ask)]
  rfl

/-- An event is the first thing in its stretch. -/
theorem splitOn_event (e : HostEvent) (as : List Act) :
    (.event e :: as).splitOn Act.ask = (as.splitOn .ask).modifyHead (.event e :: ·) := by
  rw [List.splitOn, List.splitOnP_cons_eq_if_modifyHead, if_neg (by simp)]
  rfl

/-- **How often the answer is yes**, when it is asked until the answer is no at the end. Each stretch
between two asks counts once if the pause key is pressed in it. The first stretch counts as well if
the key was pressed before. -/
theorem count_attend (c : Controls) (p : Keypad) (as : List Act) :
    ((c.attend p as).2.2 ++ (c.attend p as).1.drain).count true =
      if c.pausePressed then (as.splitOn .ask).tail.countP (·.any Act.pauses) + 1
      else (as.splitOn .ask).countP (·.any Act.pauses) := by
  induction as generalizing c p with
  | nil =>
    rw [attend, drain_eq]
    cases c.pausePressed <;> rfl
  | cons a as ih =>
    cases a with
    | ask =>
      -- The ask answers for what was pressed before, and clears it.
      have hcount := ih c.consumePause.1 p
      rw [if_neg (show ¬c.consumePause.1.pausePressed = true from Bool.false_ne_true)] at hcount
      rw [attend, splitOn_ask, List.cons_append, List.count_cons, hcount]
      cases hpressed : c.pausePressed <;> simp [consumePause, hpressed]
    | event e =>
      have hcount := ih (c.handle p e).1 (c.handle p e).2.1
      have hpressed : (c.handle p e).1.pausePressed = (c.pausePressed || e.pauses) := by
        rw [(c.handle_eq p e).1]
      rw [attend, splitOn_event, hcount, hpressed]
      obtain ⟨first, rest, hsplit⟩ := List.exists_cons_of_ne_nil (List.splitOn_ne_nil Act.ask as)
      rw [hsplit]
      cases c.pausePressed <;> cases hpauses : e.pauses <;>
        simp [List.countP_cons, Act.pauses, hpauses]

/-- The presses of the stretches are all presses. -/
theorem sum_presses (as : List Act) :
    ((as.splitOn .ask).map (List.countP Act.pauses)).sum = as.countP Act.pauses := by
  induction as with
  | nil => rfl
  | cons a as ih =>
    rw [List.countP_cons, ← ih]
    cases a with
    | ask => simp [splitOn_ask, Act.pauses]
    | event e =>
      obtain ⟨first, rest, hsplit⟩ := List.exists_cons_of_ne_nil (List.splitOn_ne_nil Act.ask as)
      rw [splitOn_event, hsplit, List.modifyHead_cons]
      simp only [List.map_cons, List.sum_cons, List.countP_cons]
      omega

end Controls

/-! ### Counting parts -/

section

variable {α : Type*} (p : α → Bool) (xss : List (List α))

/-- There are no more parts with something in them than there are things in all parts. -/
theorem countP_any_le_sum : xss.countP (·.any p) ≤ (xss.map (List.countP p)).sum := by
  induction xss with
  | nil => exact Nat.le_refl 0
  | cons xs xss ih =>
    rw [List.countP_cons, List.map_cons, List.sum_cons]
    split
    next hany =>
      have hpos : 0 < xs.countP p := List.countP_pos_iff.2 (List.any_eq_true.1 hany)
      omega
    next => omega

/-- There are as many if no part has more than one thing in it. -/
theorem countP_any_eq_sum_iff :
    xss.countP (·.any p) = (xss.map (List.countP p)).sum ↔ ∀ xs ∈ xss, xs.countP p ≤ 1 := by
  induction xss with
  | nil => simp
  | cons xs xss ih =>
    have hle := countP_any_le_sum p xss
    rw [List.countP_cons, List.map_cons, List.sum_cons, List.forall_mem_cons, ← ih]
    split
    next hany =>
      have hpos : 0 < xs.countP p := List.countP_pos_iff.2 (List.any_eq_true.1 hany)
      omega
    next hnone =>
      have hzero : xs.countP p = 0 := by
        rw [List.countP_eq_zero]
        exact fun x hx hpx => hnone (List.any_eq_true.2 ⟨x, hx, hpx⟩)
      omega

end

/-! ### Turns -/

namespace Window

variable {w : Window}

/-- **What a turn does about the pause key**, if nobody asked to quit. The window pauses or goes on if
the key is pressed in the turn, however often, or was pressed before. Nothing is left pending. -/
theorem turn_of_open {t : Tick} (hw : w.controls.quit = false) (hquit : t.quits = false) :
    (w.turn t).paused = (w.paused ^^ (w.controls.pausePressed || t.pauses)) ∧
      (w.turn t).controls = .fresh := by
  have h := Scene.turn_of_open (s := w.scene) hw hquit
  rw [← w.scene_turn t] at h
  exact h

/-- The window pauses or goes on once for each turn in which the key is pressed. -/
theorem paused_turns (hw : w.controls = .fresh) {ts : List Tick} (hts : ∀ t ∈ ts, t.quits = false) :
    (w.turns ts).paused = (w.paused ^^ decide (Odd (ts.countP Tick.pauses))) := by
  induction ts generalizing w with
  | nil => simp
  | cons t ts ih =>
    obtain ⟨hpaused, hcontrols⟩ :=
      turn_of_open (congrArg Controls.quit hw) (hts t List.mem_cons_self)
    have hpressed : w.controls.pausePressed = false := congrArg Controls.pausePressed hw
    rw [turns_cons, ih hcontrols fun u hu => hts u (List.mem_cons_of_mem t hu), hpaused, hpressed,
      Bool.false_or, Bool.xor_assoc, List.countP_cons]
    cases t.pauses with
    | true => simp [Nat.odd_add_one, -Nat.not_odd_iff_even]
    | false => simp

/-- A window at rest, on a machine without a program. -/
def atRest : Window where
  machine := .fresh .plain (.constant 0)
  pacer := .new 1 true true
  controls := .fresh
  beeper := ⟨false, Beeper.defaultTone, false, false, .standard⟩
  renderer := .new .standard .standard
  shown := Display.blankRows
  scale := .int 1
  size := (64, 32)
  rate := .int 60
  budget := .int 1
  title := "CHIP-8"
  caption := "CHIP-8"
  running := true
  paused := false
  now := .zero
  marked := .zero
  counted := 0

end Window

/-! ### Presses -/

/-- **Presses between two asks are noticed once.** From fresh controls on, events are handled, and it
is asked now and then whether the pause key was pressed, and at the end until the answer is no. The
answer is yes once for each stretch between two asks in which the key is pressed. So it is never yes
more often than the key is pressed, and as often only if no stretch has two presses.

In a turn in which nobody quits, a window pauses or goes on if the key is pressed at least once, or
was pressed before and not acted on. Afterwards nothing is pending. So the number of presses decides
by its parity only if it is odd or zero. Over turns the window pauses or goes on once for each turn
with a press. -/
theorem pause_presses_merge (p : Keypad) (as : List Controls.Act) (w : Window) (ts : List Tick) :
    let done := Controls.fresh.attend p as
    let noticed := (done.2.2 ++ done.1.drain).count true
    (noticed = (as.splitOn .ask).countP (·.any Controls.Act.pauses) ∧
      noticed ≤ as.countP Controls.Act.pauses ∧
      (noticed = as.countP Controls.Act.pauses ↔
        ∀ stretch ∈ as.splitOn .ask, stretch.countP Controls.Act.pauses ≤ 1)) ∧
    (∀ t : Tick, w.controls.quit = false → t.quits = false →
      let presses := t.events.countP HostEvent.pauses
      ((w.turn t).paused ≠ w.paused ↔ w.controls.pausePressed = true ∨ 1 ≤ presses) ∧
        (w.turn t).controls = .fresh ∧
        (w.controls.pausePressed = false →
          (((w.turn t).paused ≠ w.paused ↔ Odd presses) ↔ presses = 0 ∨ Odd presses))) ∧
    (w.controls = .fresh → (∀ t ∈ ts, t.quits = false) →
      ((w.turns ts).paused ≠ w.paused ↔ Odd (ts.countP Tick.pauses))) := by
  intro done noticed
  have hflip : ∀ a b : Bool, (a ^^ b) ≠ a ↔ b = true := by decide
  refine ⟨?_, fun t hw hquit => ?_, fun hw hts => ?_⟩
  · have hnoticed : noticed = (as.splitOn .ask).countP (·.any Controls.Act.pauses) :=
      Controls.fresh.count_attend p as
    rw [hnoticed, ← Controls.sum_presses as]
    exact ⟨rfl, countP_any_le_sum _ _, countP_any_eq_sum_iff _ _⟩
  · intro presses
    obtain ⟨hpaused, hcontrols⟩ := Window.turn_of_open hw hquit
    have hpresses : 1 ≤ presses ↔ t.pauses = true :=
      List.countP_pos_iff.trans List.any_eq_true.symm
    have hturn : (w.turn t).paused ≠ w.paused ↔ w.controls.pausePressed = true ∨ 1 ≤ presses := by
      rw [hpaused, hpresses, hflip, Bool.or_eq_true]
    refine ⟨hturn, hcontrols, fun hnone => ?_⟩
    rw [hturn, hnone, Nat.odd_iff]
    simp only [Bool.false_eq_true, false_or]
    omega
  · rw [Window.paused_turns hw hts, hflip, decide_eq_true_iff]

/-- Three presses in two stretches are noticed twice. A window that is paused by two presses in one
turn goes on at the next press. -/
theorem pause_presses_merge_in_a_batch :
    let press : HostEvent := .keyDown .pause
    let as : List Controls.Act := [.event press, .event press, .ask, .ask, .event press]
    let done := Controls.fresh.attend ⟨.empty, .empty⟩ as
    let twice : Tick := ⟨[press, press], .zero⟩
    let once : Tick := ⟨[press], .zero⟩
    done.2.2 = [true, false] ∧ (done.2.2 ++ done.1.drain).count true = 2 ∧
      (Window.atRest.turn twice).paused = true ∧
      (Window.atRest.turns [twice, once]).paused = false := by
  intro press as done twice once
  obtain ⟨⟨hnoticed, -⟩, hturn, hturns⟩ :=
    pause_presses_merge ⟨.empty, .empty⟩ as Window.atRest [twice, once]
  have hpaused : (Window.atRest.turn twice).paused ≠ false :=
    (hturn twice rfl rfl).1.2 (.inr (by decide))
  refine ⟨rfl, hnoticed, eq_true_of_ne_false hpaused, ?_⟩
  by_contra hstill
  exact absurd ((hturns rfl (by decide)).1 hstill) (by decide)

/-- Two presses with no ask between them are noticed once. Two presses in one turn pause a window. -/
theorem second_press_forgotten :
    let press : HostEvent := .keyDown .pause
    let as : List Controls.Act := [.event press, .event press]
    let done := Controls.fresh.attend ⟨.empty, .empty⟩ as
    let twice : Tick := ⟨[press, press], .zero⟩
    ¬(done.2.2 ++ done.1.drain).count true = as.countP Controls.Act.pauses ∧
      ¬((Window.atRest.turn twice).paused ≠ Window.atRest.paused ↔
        Odd (twice.events.countP HostEvent.pauses)) := by
  intro press as done twice
  have hpaused : (Window.atRest.turn twice).paused = true :=
    (Window.turn_of_open (w := Window.atRest) (t := twice) rfl rfl).1
  constructor
  · have hanswers : done.2.2 ++ done.1.drain = [true, false] := by
      rw [Controls.drain_eq]
      rfl
    rw [hanswers]
    decide
  · rw [hpaused]
    decide

end ChipEight
