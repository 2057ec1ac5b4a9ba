import ChipEight.Session.Basic

/-!
# Running a machine with leftovers

While a host has left values in the machine, an instruction may come upon one of them: the delay
timer is read, or a released key is stored. A register takes integers only, so that such a cycle may
fail where otherwise it would not. A timer that holds no number cannot be stepped. Where nothing is
left, a session runs as its console does.

## Main definitions

- `Session.obstacle`: the value that an instruction cannot take.
- `Session.execute`, `Session.cycle`, `Session.frame`: an instruction, a cycle and a frame.
- `Session.cycles`, `Session.ticks`, `Session.frames`: many of them, up to the first that fails.

## Main statements

- `Session.obstacle_eq_none`: where nothing is left, no instruction meets an obstacle.
- `Session.cycle_eq`, `Session.tick_eq`: where nothing is left, a cycle is a cycle of the machine,
  and a step of the timers is one of the machine's.
-/

namespace ChipEight

/-- What a part of a run leaves behind. -/
structure Outcome (α : Type) where
  session : Session
  result : Except Fault α
  cues : List Cue := []
  log : Log := []

namespace Session

/-- The complaint of an instruction about a value that it cannot take. -/
def obstacle (s : Session) : Instr → Option OperandFault
  | .readDelay _ =>
    match s.delay.bits "&" with
    | .error e => some e
    | .ok _ => none
  | .awaitKey _ =>
    match s.left.released? s.machine.keypad with
    | some (.real _) => some (.noInteger "float")
    | _ => none
  | _ => none

/-- The session after an instruction that stores a byte into a timer: nothing is left there. -/
def overwritten (s : Session) : Instr → Session
  | .setDelay _ => { s with left := { s.left with delay := none } }
  | .setSound _ => { s with left := { s.left with sound := none } }
  | _ => s

/-- The instruction of a word, executed without a fetch. -/
def execute (s : Session) (w : UInt16) : Session × HostReport :=
  let instr := decode w
  match s.obstacle instr with
  | some e => s.refuse (.operand e)
  | none =>
    let (next, report) := s.forward (.execute w.toNat)
    if report.fault.isNone then (next.overwritten instr, report) else (next, report)

/-! ### Cycles -/

/-- One cycle. -/
def cycle (s : Session) : Outcome Instr :=
  let instr := decode s.machine.word
  match s.obstacle instr with
  | some e =>
    { session := s.onMachine Machine.fetched
      result := .error (.operand e)
      log := [.traced s.machine.registers.pc instr] }
  | none =>
    let turn := s.machine.cycle
    let next := s.onMachine fun _ => turn.machine
    match turn.result with
    | .ok _ =>
      let done := next.overwritten instr
      { session := { done with left := done.left.snapshot }
        result := turn.result
        log := turn.log }
    | .error _ => { session := next, result := turn.result, log := turn.log }

/-- Cycles in order, up to the first one that fails. -/
def cycles : Nat → Session → List (Instr × Registers) × Outcome Unit
  | 0, s => ([], { session := s, result := .ok () })
  | n + 1, s =>
    let turn := s.cycle
    match turn.result with
    | .error f => ([], { session := turn.session, result := .error f, log := turn.log })
    | .ok instr =>
      let (done, rest) := cycles n turn.session
      ((instr, turn.session.machine.registers) :: done, { rest with log := turn.log ++ rest.log })

/-! ### Timers -/

/-- Both timers one step further, the delay timer first. -/
def tick (s : Session) : Session × Option OperandFault :=
  match Leftovers.countDown s.left.delay with
  | .error e => (s, some e)
  | .ok delay =>
    let timers := s.machine.timers
    let t : Session :=
      { s.onMachine fun m =>
          { m with timers := { timers with delay := Timers.countDown timers.delay } } with
        left := { s.left with delay := delay } }
    match Leftovers.countDown s.left.sound with
    | .error e => (t, some e)
    | .ok sound =>
      ({ t.onMachine fun m => { m with timers := timers.tick } with
          left := { t.left with sound := sound } }, none)

/-- The timers stepped so many times, up to the first step that fails. -/
def ticks : Nat → Session → Session × Option OperandFault
  | 0, s => (s, none)
  | n + 1, s =>
    match s.tick with
    | (t, none) => ticks n t
    | failed => failed

/-! ### Frames -/

/-- Up to `n` cycles with their number; when told to wait for the display, none after one that
leaves the picture written to. -/
def burst (wait : Bool) : Nat → Session → Nat × Outcome Unit
  | 0, s => (0, { session := s, result := .ok () })
  | n + 1, s =>
    let turn := s.cycle
    match turn.result with
    | .error f => (0, { session := turn.session, result := .error f, log := turn.log })
    | .ok _ =>
      if wait && turn.session.machine.display.dirty then
        (1, { session := turn.session, result := .ok (), log := turn.log })
      else
        let (k, rest) := turn.session.burst wait n
        (k + 1, { rest with log := turn.log ++ rest.log })

/-- The end of a frame behind its cycles, for a machine whose timers can be stepped: a frame of the
pacer without a cycle. -/
def closing (s : Session) : Frame :=
  ({ s.console.pacer with budget := 0 } : Pacer).frame s.machine

/-- One frame of a machine with leftovers. -/
def frameAmong (s : Session) (budget : Nat) : Outcome FrameStats :=
  let (count, run) := s.burst s.machine.dialect.displayWait budget
  match run.result with
  | .error f => { session := run.session, result := .error f, log := run.log }
  | .ok () =>
    match run.session.tick with
    | (t, some e) => { session := t, result := .error (.operand e), log := run.log }
    | (t, none) =>
      let close := run.session.closing
      let pacer := { close.pacer with budget := s.console.pacer.budget }
      { session := { t with console := ⟨close.machine, pacer⟩ }
        result := close.result.map fun stats => { stats with cycles := count }
        cues := close.cues
        log := run.log ++ close.log }

/-- One frame. A budget that is no number cannot be counted up to. -/
def frame (s : Session) : Outcome FrameStats :=
  match s.budget.reaches with
  | .error e => { session := s, result := .error (.operand e) }
  | .ok n =>
    if s.left.isEmpty then
      let frame := s.console.pacer.frame s.machine
      { session := { s with console := ⟨frame.machine, frame.pacer⟩ }
        result := frame.result
        cues := frame.cues
        log := frame.log }
    else s.frameAmong n

/-- Frames in order, up to the first one that fails. -/
def frames : Nat → Session → List FrameStats × Outcome Unit
  | 0, s => ([], { session := s, result := .ok () })
  | n + 1, s =>
    let turn := s.frame
    match turn.result with
    | .error f =>
      ([], { session := turn.session, result := .error f, cues := turn.cues, log := turn.log })
    | .ok stats =>
      let (done, rest) := frames n turn.session
      (stats :: done, { rest with cues := turn.cues ++ rest.cues, log := turn.log ++ rest.log })

/-! ### Where nothing is left -/

/-- The lowest released key is an integer. -/
theorem released?_eq_int (keypad : Keypad) (d : Datum)
    (h : ({} : Leftovers).released? keypad = some d) : ∃ k, d = .int k := by
  have member := List.mem_of_mem_head? (Option.mem_def.2 h)
  have shown := (List.mem_filter.1 member).1
  rw [Leftovers.shown, List.mem_mergeSort, List.append_nil] at shown
  obtain ⟨key, -, rfl⟩ := List.mem_map.1 (List.mem_filter.1 shown).1
  exact ⟨_, rfl⟩

theorem obstacle_eq_none (s : Session) (h : s.left = {}) (instr : Instr) :
    s.obstacle instr = none := by
  cases instr with
  | readDelay x => simp [obstacle, delay, Leftovers.timer, h, Datum.bits, Datum.integer?]
  | awaitKey x =>
    cases hd : s.left.released? s.machine.keypad with
    | none => simp [obstacle, hd]
    | some d =>
      rw [h] at hd
      obtain ⟨k, rfl⟩ := released?_eq_int _ _ hd
      simp [obstacle, h, hd]
  | _ => rfl

theorem overwritten_eq (s : Session) (h : s.left = {}) (instr : Instr) :
    s.overwritten instr = s := by
  obtain ⟨console, budget, left, words⟩ := s
  obtain rfl : left = {} := h
  cases instr <;> rfl

theorem cycle_eq (s : Session) (h : s.left = {}) :
    s.cycle =
      { session := s.onMachine Machine.step
        result := s.machine.cycle.result
        log := s.machine.cycle.log } := by
  obtain ⟨console, budget, left, words⟩ := s
  obtain rfl : left = {} := h
  rw [cycle, obstacle_eq_none _ rfl]
  cases hr : (machine ⟨console, budget, {}, words⟩).cycle.result with
  | error f => simp only [hr]; rfl
  | ok instr =>
    simp only [hr]
    rw [overwritten_eq _ rfl]
    rfl

theorem tick_eq (s : Session) (h : s.left = {}) : s.tick = (s.onMachine Machine.tick, none) := by
  obtain ⟨console, budget, left, words⟩ := s
  obtain rfl : left = {} := h
  rfl

end Session

end ChipEight
