import ChipEight.Console

/-!
# Histories

A machine does not only run. Between its cycles a host presses and lets go keys and steps the
timers, and whoever shows the picture lowers the dirty flag. A history is a list of such events, in
the order in which they happen, with the cycles among them.

A host that names a key that does not exist is refused, and nothing changes. So every list of events
is a history: there is no notion of a well-formed one.

## Main definitions

- `Input`, `Machine.feed`: what a host does between two cycles.
- `Event`, `Machine.react`: inputs, cycles, and the consumption of the picture.
- `Machine.after`: the machine after a history.
- `Machine.beginnings`, `Machine.outcomes`: the cycles of a history, told by the machines at which
  they begin, and what they end with.

## Main results

- `Machine.burst_preserves`, `runCycles_preserves`: what each cycle keeps, rows of cycles keep; and
  likewise `tickTimes_preserves`, `writeAll_preserves`.
- `perform_command`: each event is a command of the console, and does the same there.
-/

namespace ChipEight

/-- What a host does to a machine between two cycles. -/
inductive Input where
  /-- Press or release the key of an integer code. -/
  | key (code : Int) (down : Bool)
  /-- Let every key go. -/
  | releaseAll
  /-- Step the timers. -/
  | tick

/-- What happens to a machine. -/
inductive Event where
  /-- One cycle, completed or not. -/
  | cycle
  /-- Something that a host does. -/
  | input (i : Input)
  /-- The dirty flag is lowered. -/
  | consume

namespace Machine

/-- The machine after an input; a code that names no key changes nothing. -/
def feed (m : Machine) : Input → Machine
  | .key code down =>
    match m.keypad.setKey code down with
    | .ok p => { m with keypad := p }
    | .error _ => m
  | .releaseAll => { m with keypad := m.keypad.releaseAll }
  | .tick => m.tick

/-- The machine after inputs in order. -/
def feedAll (m : Machine) (is : List Input) : Machine :=
  is.foldl feed m

/-- The machine after an event. -/
def react (m : Machine) : Event → Machine
  | .cycle => m.step
  | .input i => m.feed i
  | .consume => { m with display := m.display.consume }

/-- The machine after a history. -/
def after (m : Machine) (es : List Event) : Machine :=
  es.foldl react m

@[simp] theorem feedAll_nil (m : Machine) : m.feedAll [] = m := rfl

@[simp] theorem feedAll_cons (m : Machine) (i : Input) (is : List Input) :
    m.feedAll (i :: is) = (m.feed i).feedAll is := rfl

@[simp] theorem after_nil (m : Machine) : m.after [] = m := rfl

@[simp] theorem after_cons (m : Machine) (e : Event) (es : List Event) :
    m.after (e :: es) = (m.react e).after es := rfl

theorem after_append (m : Machine) (es fs : List Event) :
    m.after (es ++ fs) = (m.after es).after fs :=
  List.foldl_append

theorem after_inputs (m : Machine) (is : List Input) :
    m.after (is.map .input) = m.feedAll is :=
  List.foldl_map

/-! ### The cycles of a history -/

/-- The machines at which the cycles of a history begin, in order. -/
def beginnings (m : Machine) : List Event → List Machine
  | [] => []
  | .cycle :: es => m :: m.step.beginnings es
  | .input i :: es => (m.feed i).beginnings es
  | .consume :: es => (m.react .consume).beginnings es

/-- What the cycles of a history end with, in order. -/
def outcomes (m : Machine) (es : List Event) : List (Except Fault Instr) :=
  (m.beginnings es).map fun k => k.cycle.result

theorem beginnings_append (m : Machine) (es fs : List Event) :
    m.beginnings (es ++ fs) = m.beginnings es ++ (m.after es).beginnings fs := by
  induction es generalizing m with
  | nil => rfl
  | cons e es ih =>
    cases e with
    | cycle => exact congrArg (m :: ·) (ih m.step)
    | input i => exact ih (m.feed i)
    | consume => exact ih (m.react .consume)

/-- Inputs begin no cycle. -/
theorem beginnings_inputs (m : Machine) (is : List Input) :
    m.beginnings (is.map .input) = [] := by
  induction is generalizing m with
  | nil => rfl
  | cons i is ih => exact ih (m.feed i)

end Machine

/-! ### Rows of cycles, and of what a host does -/

section Rows

variable {P : Machine → Prop}

/-- What each cycle keeps, a row of cycles keeps. -/
theorem Machine.burst_preserves (hstep : ∀ m, P m → P m.step) (wait : Bool) (n : Nat)
    {m : Machine} (hm : P m) : P (m.burst wait n).machine := by
  induction n generalizing m with
  | zero => exact hm
  | succ n ih =>
    have hnext : P m.cycle.machine := hstep m hm
    simp only [Machine.burst]
    split
    · exact hnext
    · split
      · exact hnext
      · exact ih hnext

theorem runCycles_preserves (hstep : ∀ m, P m → P m.step) (n : Nat) {m : Machine} (hm : P m) :
    P (Console.runCycles n m).1 := by
  induction n generalizing m with
  | zero => exact hm
  | succ n ih =>
    have hnext : P m.cycle.machine := hstep m hm
    simp only [Console.runCycles]
    split
    · exact hnext
    · exact ih hnext

/-- What each step of the timers keeps, a row of them keeps. -/
theorem tickTimes_preserves (htick : ∀ m, P m → P m.tick) (n : Nat) {m : Machine} (hm : P m) :
    P (Console.tickTimes n m) := by
  induction n generalizing m with
  | zero => exact hm
  | succ n ih => exact ih (htick m hm)

/-- What each of some direct writes keeps, they keep in a row, up to the one that is refused. -/
theorem writeAll_preserves {ws : List Assignment}
    (hws : ∀ w ∈ ws, ∀ m n, Console.write m w = .ok n → P m → P n) {m : Machine} (hm : P m) :
    P (Console.writeAll m ws).1 := by
  induction ws generalizing m with
  | nil => exact hm
  | cons w ws ih =>
    simp only [Console.writeAll]
    split
    next n h =>
      have hn : P n := hws w List.mem_cons_self m n h hm
      exact ih (fun v hv => hws v (List.mem_cons_of_mem w hv)) hn
    next => exact hm

end Rows

/-! ### Histories at a console -/

/-- The command by which a console brings an event about. -/
def Event.command : Event → Command
  | .cycle => .cycles 1
  | .input (.key code down) => .setKey code down
  | .input .releaseAll => .releaseAll
  | .input .tick => .tick 1
  | .consume => .consume

/-- A single cycle at a console leaves the machine that the cycle leaves. -/
theorem runCycles_one (m : Machine) : (Console.runCycles 1 m).1 = m.step := by
  simp only [Console.runCycles, Machine.step]
  cases m.cycle.result <;> rfl

/-- **Events are commands.** A console that is given the command of an event does to its machine
what the event does. -/
theorem perform_command (c : Console) (e : Event) :
    (c.perform e.command).1 = c.onMachine fun m => m.react e := by
  cases e with
  | cycle =>
    have h : (c.perform (.cycles 1)).1 = { c with machine := (Console.runCycles 1 c.machine).1 } :=
      rfl
    rw [Event.command, h, runCycles_one]
    rfl
  | consume => rfl
  | input i =>
    cases i with
    | releaseAll => rfl
    | tick => rfl
    | key code down =>
      simp only [Event.command, Console.perform, Console.onMachine, Machine.react, Machine.feed]
      cases c.machine.keypad.setKey code down <;> rfl

/-- A direct write to a general register stores a byte there. -/
theorem writeGeneral_eq_ok {m n : Machine} {k b : Int} (h : Console.writeGeneral m k b = .ok n) :
    ∃ x, n = m.onRegisters fun r => r.set x (UInt8.ofInt b) := by
  rw [Console.writeGeneral] at h
  split at h
  · cases h
  · split at h
    · cases h
    · split at h
      next x _ =>
        cases h
        exact ⟨x, rfl⟩
      next => cases h

end ChipEight
