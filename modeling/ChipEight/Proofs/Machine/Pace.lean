import ChipEight.Proofs.Machine.Drawing
import ChipEight.Proofs.Machine.KeyWait

/-!
# Programs do not see the pace

Whoever drives a machine decides when its timers are stepped, when its picture is consumed, and
whether a row of cycles ends with a draw. A program can read none of this but the delay timer, and
for that it has one instruction, `FX07`. The sound timer and the dirty flag are written by programs
and never read.

So two machines that differ only in their timers, their dirty flags and the trait that ends a row of
cycles make the same progress, for as long as no `FX07` is executed: their cycles end alike and
leave them with such a difference only. It does not matter, then, at which points of a history the
timers are stepped and the picture is consumed.

## Main definitions

- `Machine.SameProgress`: equal but for what sets the pace.
- `Machine.unpaced`: a machine with all of that forgotten.
- `withoutPace`: a history without the steps of the timers and the consumption of pictures.
- `Machine.IgnoresDelay`: a history whose cycles execute no `FX07`.

## Main results

- `Instr.map_exec_unpaced`: only `FX07` looks at what sets the pace.
- `Machine.SameProgress.cycle`: so every other cycle ends alike, and leaves the same progress.
- `Machine.SameProgress.after`: histories that are the same without their pace leave the same
  progress.
-/

namespace ChipEight

/-! ### What sets the pace -/

/-- Two machines that differ at most in their timers, their dirty flags and the trait that ends a
row of cycles with a draw. -/
structure Machine.SameProgress (m n : Machine) : Prop where
  dialect : ∀ t, t ≠ .displayWait → m.dialect.has t = n.dialect.has t
  source : m.source = n.source
  memory : m.memory = n.memory
  registers : m.registers = n.registers
  pixels : m.display.rows = n.display.rows
  keypad : m.keypad = n.keypad
  cycles : m.cycles = n.cycles

namespace Machine

/-- The machine with its timers at zero, its flag down, and the trait that ends a row of cycles
taken away. -/
def unpaced (m : Machine) : Machine :=
  { m with
    dialect := m.dialect.put .displayWait false
    display := m.display.consume
    timers := .fresh }

variable {m n k : Machine}

/-- Machines of the same progress are those that forgetting the pace makes equal. -/
theorem sameProgress_iff : m.SameProgress n ↔ m.unpaced = n.unpaced := by
  constructor
  · intro h
    have hdialect : m.dialect.put .displayWait false = n.dialect.put .displayWait false := by
      refine Dialect.ext_has fun t => ?_
      rw [Dialect.has_put, Dialect.has_put]
      split
      next => rfl
      next ht => exact h.dialect t (Ne.symm ht)
    exact Machine.ext hdialect h.source h.memory h.registers (Display.ext h.pixels rfl) h.keypad rfl
      h.cycles
  · intro h
    refine
      { dialect := fun t ht => ?_
        source := (congrArg Machine.source h :)
        memory := (congrArg Machine.memory h :)
        registers := (congrArg Machine.registers h :)
        pixels := (congrArg (fun k => k.display.rows) h :)
        keypad := (congrArg Machine.keypad h :)
        cycles := (congrArg Machine.cycles h :) }
    have hput : (m.dialect.put .displayWait false).has t = (n.dialect.put .displayWait false).has t :=
      congrArg (fun k => k.dialect.has t) h
    rwa [Dialect.has_put, Dialect.has_put, if_neg ht.symm, if_neg ht.symm] at hput

namespace SameProgress

theorem refl (m : Machine) : m.SameProgress m :=
  sameProgress_iff.2 rfl

theorem symm (h : m.SameProgress n) : n.SameProgress m :=
  sameProgress_iff.2 (sameProgress_iff.1 h).symm

theorem trans (h : m.SameProgress n) (h' : n.SameProgress k) : m.SameProgress k :=
  sameProgress_iff.2 ((sameProgress_iff.1 h).trans (sameProgress_iff.1 h'))

/-- The next word is read from the same memory at the same place. -/
theorem word (h : m.SameProgress n) : m.word = n.word := by
  simp only [Machine.word, h.memory, h.registers]

end SameProgress

end Machine

/-! ### Instructions -/

/-- Flipping pixels does not look at the flag. -/
theorem Display.flipAll_consume (d : Display) (cs : List Cell) :
    (d.consume.flipAll cs).1.consume = (d.flipAll cs).1.consume ∧
      (d.consume.flipAll cs).2 = (d.flipAll cs).2 := by
  cases cs with
  | nil => exact ⟨rfl, rfl⟩
  | cons c cs =>
    -- The first flip raises the flag, and from then on the two displays are the same.
    have hflip : d.consume.flip c = d.flip c := rfl
    simp only [flipAll, hflip, pixel_consume, and_self]

theorem Machine.unpaced_draw (m : Machine) (x y : Reg) (n : Nat) :
    (m.unpaced.draw x y n).unpaced = (m.draw x y n).unpaced := by
  have hcells : m.unpaced.spriteCells x y n = m.spriteCells x y n := rfl
  have hdisplay : m.unpaced.display = m.display.consume := rfl
  obtain ⟨hpicture, hhit⟩ := m.display.flipAll_consume (m.spriteCells x y n)
  have hregisters : (m.unpaced.draw x y n).registers = (m.draw x y n).registers := by
    simp only [draw, hcells, hdisplay, hhit]
    rfl
  have hconsumed : (m.unpaced.draw x y n).display.consume = (m.draw x y n).display.consume := by
    simp only [draw, hcells, hdisplay, hpicture]
  exact Machine.ext (Dialect.ext_has fun t => by cases t <;> rfl) rfl rfl hregisters hconsumed rfl
    rfl rfl

/-- **Only `FX07` looks at what sets the pace.** Every other instruction ends on a machine that has
forgotten it as it does on the machine itself, and leaves the same behind. -/
theorem Instr.map_exec_unpaced (m : Machine) {i : Instr} (hi : ∀ x, i ≠ .readDelay x) :
    (i.exec m.unpaced).map Machine.unpaced = (i.exec m).map Machine.unpaced := by
  cases i with
  | readDelay x => exact absurd rfl (hi x)
  | ret =>
    simp only [Instr.exec, Machine.ret, Machine.unpaced]
    cases m.registers.pop? <;> rfl
  | random x mask =>
    simp only [Instr.exec, Machine.roll, Machine.unpaced]
    rcases m.source.next with ⟨b | e, source⟩ <;> rfl
  | awaitKey x =>
    simp only [Instr.exec, Machine.awaitKey, Machine.unpaced]
    cases m.keypad.released? <;> rfl
  | draw x y rows => exact congrArg Except.ok (m.unpaced_draw x y rows.val)
  | _ => rfl

/-! ### Cycles -/

namespace Machine

variable {m n : Machine}

theorem unpaced_spent (m : Machine) (i : Instr) :
    (m.unpaced.spent i).unpaced = (m.spent i).unpaced := by
  cases i <;> rfl

/-- A cycle that does not read the delay timer ends alike once the pace is forgotten. -/
theorem cycle_unpaced (hm : ∀ x, decode m.word ≠ .readDelay x) :
    m.unpaced.cycle.result = m.cycle.result ∧ m.unpaced.step.unpaced = m.step.unpaced := by
  have hexec := Instr.map_exec_unpaced m.fetched hm
  have hfetched : m.fetched.unpaced = m.unpaced.fetched := rfl
  have hword : m.unpaced.word = m.word := rfl
  rw [hfetched] at hexec
  cases h : (decode m.word).exec m.fetched with
  | error f =>
    cases h' : (decode m.word).exec m.unpaced.fetched with
    | ok k => simp [h, h', Except.map] at hexec
    | error g =>
      simp only [h, h', Except.map, Except.error.injEq] at hexec
      rw [← hword] at h'
      rw [(cycle_of_exec_error h).1, (cycle_of_exec_error h').1, (cycle_of_exec_error h).2,
        (cycle_of_exec_error h').2, hexec]
      exact ⟨rfl, unpaced_spent m.fetched (decode m.word)⟩
  | ok k =>
    cases h' : (decode m.word).exec m.unpaced.fetched with
    | error g => simp [h, h', Except.map] at hexec
    | ok k' =>
      simp only [h, h', Except.map, Except.ok.injEq] at hexec
      rw [← hword] at h'
      rw [(cycle_of_exec_ok h).1, (cycle_of_exec_ok h').1, (cycle_of_exec_ok h).2,
        (cycle_of_exec_ok h').2]
      exact ⟨rfl, congrArg settled hexec⟩

namespace SameProgress

/-- **A cycle keeps the progress the same**, and ends alike on both machines, unless it reads the
delay timer. -/
theorem cycle (h : m.SameProgress n) (hm : ∀ x, decode m.word ≠ .readDelay x) :
    m.cycle.result = n.cycle.result ∧ m.step.SameProgress n.step := by
  have hn : ∀ x, decode n.word ≠ .readDelay x := h.word ▸ hm
  obtain ⟨hresult, hstep⟩ := cycle_unpaced hm
  obtain ⟨hresult', hstep'⟩ := cycle_unpaced hn
  rw [sameProgress_iff.1 h] at hresult hstep
  exact ⟨hresult.symm.trans hresult', sameProgress_iff.2 (hstep.symm.trans hstep')⟩

theorem feed (h : m.SameProgress n) (i : Input) : (m.feed i).SameProgress (n.feed i) := by
  rw [feed_eq, feed_eq, h.keypad]
  exact { h with keypad := rfl }

end SameProgress

end Machine

/-! ### Histories -/

/-- Whether an event belongs to the pace: the timers are stepped, or the picture is consumed. -/
def Event.isPace : Event → Bool
  | .input .tick | .consume => true
  | _ => false

/-- A history without its pace. -/
def withoutPace (es : List Event) : List Event :=
  es.filter fun e => !e.isPace

theorem withoutPace_cons_of_isPace {e : Event} (he : e.isPace = true) (es : List Event) :
    withoutPace (e :: es) = withoutPace es := by
  simp [withoutPace, he]

theorem withoutPace_cons {e : Event} (he : e.isPace = false) (es : List Event) :
    withoutPace (e :: es) = e :: withoutPace es := by
  simp [withoutPace, he]

namespace Machine

variable {m n : Machine}

/-- The cycles of a history execute no `FX07`. -/
def IgnoresDelay (m : Machine) (es : List Event) : Prop :=
  ∀ k ∈ m.beginnings es, ∀ x, decode k.word ≠ .readDelay x

theorem ignoresDelay_cycle {es : List Event} :
    m.IgnoresDelay (.cycle :: es) ↔ (∀ x, decode m.word ≠ .readDelay x) ∧ m.step.IgnoresDelay es :=
  List.forall_mem_cons

theorem IgnoresDelay.of_isPrefix {es fs : List Event} (h : m.IgnoresDelay fs) (hes : es <+: fs) :
    m.IgnoresDelay es := by
  obtain ⟨gs, rfl⟩ := hes
  intro k hk
  refine h k ?_
  rw [beginnings_append]
  exact List.mem_append_left _ hk

/-- What belongs to the pace makes no progress. -/
theorem sameProgress_react (m : Machine) {e : Event} (he : e.isPace = true) :
    (m.react e).SameProgress m := by
  cases e with
  | cycle => cases he
  | consume => exact { SameProgress.refl m with }
  | input i =>
    cases i with
    | tick => exact { SameProgress.refl m with }
    | key code down => cases he
    | releaseAll => cases he

/-- What belongs to the pace begins no cycle. -/
theorem beginnings_cons_of_isPace (m : Machine) {e : Event} (he : e.isPace = true)
    (es : List Event) : m.beginnings (e :: es) = (m.react e).beginnings es := by
  cases e with
  | cycle => cases he
  | input i => rfl
  | consume => rfl

namespace SameProgress

/-- A history reads the delay timer exactly if it does so once its pace is taken out. -/
theorem ignoresDelay_withoutPace (h : m.SameProgress n) (es : List Event) :
    m.IgnoresDelay es ↔ n.IgnoresDelay (withoutPace es) := by
  induction es generalizing m n with
  | nil => exact Iff.rfl
  | cons e es ih =>
    by_cases he : e.isPace = true
    · rw [withoutPace_cons_of_isPace he, IgnoresDelay, beginnings_cons_of_isPace m he]
      exact ih ((m.sameProgress_react he).trans h)
    · rw [withoutPace_cons (by simpa using he)]
      cases e with
      | cycle =>
        rw [ignoresDelay_cycle, ignoresDelay_cycle, h.word]
        refine and_congr_right fun hn => ih (h.cycle ?_).2
        rwa [h.word]
      | input i => exact ih (h.feed i)
      | consume => exact absurd rfl he

/-- Taking the pace out of a history leaves its progress as it is, unless the delay timer is
read. -/
theorem after_withoutPace (h : m.SameProgress n) {es : List Event} (hd : m.IgnoresDelay es) :
    (m.after es).SameProgress (n.after (withoutPace es)) ∧
      m.outcomes es = n.outcomes (withoutPace es) := by
  induction es generalizing m n with
  | nil => exact ⟨h, rfl⟩
  | cons e es ih =>
    by_cases he : e.isPace = true
    · rw [IgnoresDelay, beginnings_cons_of_isPace m he] at hd
      rw [withoutPace_cons_of_isPace he, outcomes, beginnings_cons_of_isPace m he]
      exact ih ((m.sameProgress_react he).trans h) hd
    · rw [withoutPace_cons (by simpa using he)]
      cases e with
      | cycle =>
        obtain ⟨hm, hrest⟩ := ignoresDelay_cycle.1 hd
        obtain ⟨hresult, hstep⟩ := h.cycle hm
        obtain ⟨hafter, houtcomes⟩ := ih hstep hrest
        exact ⟨hafter, List.cons_eq_cons.2 ⟨hresult, houtcomes⟩⟩
      | input i => exact ih (h.feed i) hd
      | consume => exact absurd rfl he

/-- **The pace does not matter.** Two histories that are the same without their pace lead machines
of the same progress to the same progress, and their cycles end alike, as long as one of the two
does not read the delay timer. -/
theorem after (h : m.SameProgress n) {es fs : List Event} (heq : withoutPace es = withoutPace fs)
    (hd : m.IgnoresDelay es) :
    (m.after es).SameProgress (n.after fs) ∧ m.outcomes es = n.outcomes fs := by
  have hd' : n.IgnoresDelay fs := by
    rw [(SameProgress.refl n).ignoresDelay_withoutPace, ← heq, ← h.ignoresDelay_withoutPace]
    exact hd
  obtain ⟨hm, hresults⟩ := h.after_withoutPace hd
  obtain ⟨hn, hresults'⟩ := (SameProgress.refl n).after_withoutPace hd'
  rw [← heq] at hn hresults'
  exact ⟨hm.trans hn.symm, hresults.trans hresults'.symm⟩

end SameProgress

end Machine

end ChipEight
