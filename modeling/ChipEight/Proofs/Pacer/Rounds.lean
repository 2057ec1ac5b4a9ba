import ChipEight.Proofs.Pacer.LastPicture

/-!
# Frames as histories

A frame does nothing to its machine that a history does not do. It runs cycles one after the other,
and unless one of them fails it steps the timers once and consumes the picture. Consuming a picture
whose flag is down changes nothing, so nothing has to be said about the flag.

A host that drives a pacer takes turns with it. In each round it gives inputs as it likes, and then
a frame runs. A frame that fails ends there, and the next round begins with what it left. So a row
of rounds is one long history, and everything that is known of histories is known of rounds.

## Main definitions

- `Burst.begun`: the number of cycles that a row has begun.
- `Pacer.history`: what a frame does to its machine, event by event.
- `Console.round`, `Console.rounds`: inputs and a frame, once and in a row.
- `Console.history`, `Console.cues`: what rounds do to the machine, and what they tell the screen and
  the speaker.

## Main results

- `Machine.burst_machine`: a row of cycles leaves the machine that its cycles leave one by one.
- `Pacer.machine_frame`, `Console.machine_rounds`: frames and rounds leave the machine that their
  history leaves.
-/

namespace ChipEight

/-! ### Rows of cycles -/

/-- The number of cycles that a row has begun: those that it completed, and one more if it
failed. -/
def Burst.begun (b : Burst) : Nat :=
  b.cycles + if b.fault.isSome then 1 else 0

namespace Machine

section

variable {m : Machine} {wait : Bool} {f : Fault} {i : Instr}

/-- A row ends with the first cycle that fails. -/
theorem burst_of_error (h : m.cycle.result = .error f) (wait : Bool) (n : Nat) :
    m.burst wait (n + 1) = ⟨m.step, 0, some f, m.cycle.log⟩ := by
  simp only [burst, h]
  rfl

/-- A row that waits for the display ends with the first cycle that leaves the flag up. -/
theorem burst_of_stop (h : m.cycle.result = .ok i) (hstop : (wait && m.step.display.dirty) = true)
    (n : Nat) : m.burst wait (n + 1) = ⟨m.step, 1, none, m.cycle.log⟩ := by
  simp only [burst, h]
  exact if_pos hstop

/-- Otherwise it goes on. -/
theorem burst_of_go (h : m.cycle.result = .ok i) (hgo : (wait && m.step.display.dirty) = false)
    (n : Nat) :
    m.burst wait (n + 1) =
      { m.step.burst wait n with
        cycles := (m.step.burst wait n).cycles + 1
        log := m.cycle.log ++ (m.step.burst wait n).log } := by
  have hgo' : ¬ (wait && m.cycle.machine.display.dirty) = true := by
    rw [show m.cycle.machine = m.step from rfl, hgo]
    exact Bool.false_ne_true
  simp only [burst, h]
  exact if_neg hgo'

theorem begun_of_go (h : m.cycle.result = .ok i) (hgo : (wait && m.step.display.dirty) = false)
    (n : Nat) : (m.burst wait (n + 1)).begun = (m.step.burst wait n).begun + 1 := by
  rw [burst_of_go h hgo]
  simp only [Burst.begun]
  omega

end

/-- A row of cycles runs them one by one, whatever may end it. -/
theorem burst_machine (m : Machine) (wait : Bool) (n : Nat) :
    (m.burst wait n).machine = m.after (List.replicate (m.burst wait n).begun .cycle) := by
  induction n generalizing m with
  | zero => rfl
  | succ n ih =>
    cases hresult : m.cycle.result with
    | error f =>
      rw [burst_of_error hresult]
      rfl
    | ok i =>
      cases hdirty : wait && m.step.display.dirty with
      | true =>
        rw [burst_of_stop hresult hdirty]
        rfl
      | false =>
        rw [begun_of_go hresult hdirty, burst_of_go hresult hdirty]
        exact ih m.step

theorem length_beginnings_cycles (m : Machine) (n : Nat) :
    (m.beginnings (List.replicate n .cycle)).length = n := by
  induction n generalizing m with
  | zero => rfl
  | succ n ih => exact congrArg (· + 1) (ih m.step)

end Machine

/-! ### Frames -/

namespace Pacer

/-- What follows the cycles of a frame, event by event: nothing if one of them has failed. -/
def closing (b : Burst) : List Event :=
  if b.fault.isSome then [] else [.input .tick, .consume]

/-- What a frame does to its machine, event by event. -/
def history (p : Pacer) (m : Machine) : List Event :=
  List.replicate (p.cyclesOf m).begun .cycle ++ closing (p.cyclesOf m)

theorem machine_cyclesOf (p : Pacer) (m : Machine) :
    (p.cyclesOf m).machine = m.after (List.replicate (p.cyclesOf m).begun .cycle) :=
  m.burst_machine _ _

/-- A frame leaves the machine that its history leaves. -/
theorem machine_frame (p : Pacer) (m : Machine) :
    (p.frame m).machine = m.after (p.history m) := by
  rw [history, Machine.after_append, ← machine_cyclesOf, closing]
  rcases p.frame_cases m with ⟨f, hf, hframe⟩ | ⟨hf, hframe⟩
  · rw [hframe, hf]
    rfl
  · rw [hframe, hf, close_machine]
    rfl

/-- The cycles of a frame are those that its row has begun. -/
theorem beginnings_history (p : Pacer) (m : Machine) :
    m.beginnings (p.history m) =
      m.beginnings (List.replicate (p.cyclesOf m).begun .cycle) := by
  have hclosing : ∀ k : Machine, k.beginnings (closing (p.cyclesOf m)) = [] := by
    intro k
    rw [closing]
    split <;> rfl
  rw [history, Machine.beginnings_append, hclosing, List.append_nil]

theorem length_beginnings_history (p : Pacer) (m : Machine) :
    (m.beginnings (p.history m)).length = (p.cyclesOf m).begun := by
  rw [beginnings_history, Machine.length_beginnings_cycles]

end Pacer

/-! ### Rounds -/

namespace Console

/-- The console with inputs given to its machine. -/
def fed (c : Console) (is : List Input) : Console :=
  c.onMachine fun m => m.feedAll is

/-- The console after a round: inputs, and then a frame. -/
def round (c : Console) (is : List Input) : Console :=
  (c.fed is).afterFrame

/-- The console after rounds in order; one whose frame fails does not stop the next. -/
def rounds (c : Console) (rs : List (List Input)) : Console :=
  rs.foldl round c

/-- What rounds do to the machine, event by event. -/
def history (c : Console) : List (List Input) → List Event
  | [] => []
  | is :: rs =>
    is.map .input ++ c.pacer.history (c.fed is).machine ++ (c.round is).history rs

/-- What rounds tell the screen and the speaker, in order. -/
def cues (c : Console) : List (List Input) → List Cue
  | [] => []
  | is :: rs => (c.pacer.frame (c.fed is).machine).cues ++ (c.round is).cues rs

@[simp] theorem rounds_nil (c : Console) : c.rounds [] = c := rfl

@[simp] theorem rounds_cons (c : Console) (is : List Input) (rs : List (List Input)) :
    c.rounds (is :: rs) = (c.round is).rounds rs := rfl

theorem machine_round (c : Console) (is : List Input) :
    (c.round is).machine =
      c.machine.after (is.map .input ++ c.pacer.history (c.fed is).machine) := by
  have hframe : (c.round is).machine = (c.pacer.frame (c.fed is).machine).machine := rfl
  have hfed : (c.fed is).machine = c.machine.feedAll is := rfl
  rw [Machine.after_append, Machine.after_inputs, hframe, Pacer.machine_frame, hfed]

/-- Rounds leave the machine that their history leaves. -/
theorem machine_rounds (c : Console) (rs : List (List Input)) :
    (c.rounds rs).machine = c.machine.after (c.history rs) := by
  induction rs generalizing c with
  | nil => rfl
  | cons is rs ih =>
    rw [rounds_cons, ih, history, Machine.after_append, machine_round]

/-- The cycles of rounds are those of their frames. -/
theorem beginnings_history_cons (c : Console) (is : List Input) (rs : List (List Input)) :
    c.machine.beginnings (c.history (is :: rs)) =
      (c.fed is).machine.beginnings (c.pacer.history (c.fed is).machine) ++
        (c.round is).machine.beginnings ((c.round is).history rs) := by
  have hfed : (c.fed is).machine = c.machine.feedAll is := rfl
  rw [history, Machine.beginnings_append, ← machine_round, Machine.beginnings_append,
    Machine.beginnings_inputs, Machine.after_inputs, List.nil_append, ← hfed]

end Console

end ChipEight
