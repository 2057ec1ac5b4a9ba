import ChipEight.Proofs.Machine.Fault
import ChipEight.Proofs.Machine.History
import ChipEight.Proofs.Pacer.Frame

/-!
# The range of the timers

The timers are integers, and nothing keeps a host from storing any integer in them. A program can
only store bytes there, and stepping a timer keeps it where it is or moves it towards zero. So as
long as the host leaves the timers alone, they stay in the range of a byte.

## Main definitions

- `Timers.InRange`: both timers are in the range of a byte.
- `Machine.Steady`: that, and a random source that does not fail.
- `Command.SparesTimers`: a command by which the host does not set a timer itself.

## Main results

- `Machine.Steady.step`: a cycle keeps a machine steady.
- `Console.steady_perform`: so does every command that spares the timers.
-/

namespace ChipEight

/-- Both timers are in the range of a byte. -/
def Timers.InRange (t : Timers) : Prop :=
  (0 ≤ t.delay ∧ t.delay < 256) ∧ 0 ≤ t.sound ∧ t.sound < 256

theorem Timers.inRange_fresh : Timers.fresh.InRange :=
  ⟨⟨by decide, by decide⟩, by decide, by decide⟩

theorem Timers.InRange.tick {t : Timers} (h : t.InRange) : t.tick.InRange := by
  have hdown : ∀ k : Int, 0 ≤ k ∧ k < 256 → 0 ≤ countDown k ∧ countDown k < 256 := by
    intro k hk
    rw [countDown]
    split <;> omega
  exact ⟨hdown _ h.1, hdown _ h.2⟩

/-- A timer takes a byte. -/
theorem Timers.InRange.withDelay {t : Timers} (h : t.InRange) (b : UInt8) :
    Timers.InRange { t with delay := b.toNat } := by
  have hb := b.toNat_lt
  exact ⟨⟨by simp only; omega, by simp only; omega⟩, h.2⟩

theorem Timers.InRange.withSound {t : Timers} (h : t.InRange) (b : UInt8) :
    Timers.InRange { t with sound := b.toNat } := by
  have hb := b.toNat_lt
  exact ⟨h.1, by simp only; omega, by simp only; omega⟩

/-- An instruction stores bytes in the timers. -/
theorem Instr.timers_exec {m n : Machine} (hm : m.timers.InRange) {i : Instr}
    (h : i.exec m = .ok n) : n.timers.InRange := by
  rw [timersAfter_exec h]
  cases i with
  | setDelay x => exact hm.withDelay (m.registers.get x)
  | setSound x => exact hm.withSound (m.registers.get x)
  | _ => exact hm

/-! ### Steady machines -/

namespace Machine

/-- The timers are in range and the random source does not fail. -/
structure Steady (m : Machine) : Prop where
  timers : m.timers.InRange
  source : m.source.Reliable

namespace Steady

variable {m n : Machine}

theorem onRegisters (hm : m.Steady) (f : Registers → Registers) : (m.onRegisters f).Steady :=
  ⟨hm.timers, hm.source⟩

theorem exec (hm : m.Steady) {i : Instr} (h : i.exec m = .ok n) : n.Steady :=
  ⟨Instr.timers_exec hm.timers h, Instr.reliable_exec hm.source h⟩

/-- A steady machine fails only at a return, which changes nothing then. -/
theorem spent (hm : m.Steady) {i : Instr} {f : Fault} (h : i.exec m = .error f) :
    (m.spent i).Steady := by
  obtain ⟨rfl, -, -⟩ := (Instr.exec_eq_error_iff hm.source).1 h
  exact hm

theorem step (hm : m.Steady) : m.step.Steady := by
  have hfetched : m.fetched.Steady := hm.onRegisters _
  cases h : (decode m.word).exec m.fetched with
  | error f =>
    rw [(cycle_of_exec_error h).2]
    exact hfetched.spent h
  | ok n =>
    have hn := hfetched.exec h
    rw [(cycle_of_exec_ok h).2]
    exact ⟨hn.timers, hn.source⟩

theorem tick (hm : m.Steady) : m.tick.Steady :=
  ⟨hm.timers.tick, hm.source⟩

theorem frame (hm : m.Steady) (p : Pacer) : (p.frame m).machine.Steady := by
  have hcycles : (p.cyclesOf m).machine.Steady :=
    burst_preserves (fun _ h => Steady.step h) _ _ hm
  rcases p.frame_cases m with ⟨f, -, hframe⟩ | ⟨-, hframe⟩
  · rw [hframe]
    exact hcycles
  · rw [hframe, Pacer.close_machine]
    exact ⟨hcycles.timers.tick, hcycles.source⟩

end Steady

end Machine

/-! ### Commands that spare the timers -/

/-- A direct write that does not set a timer. -/
def Assignment.SparesTimers : Assignment → Prop
  | .delay _ | .sound _ => False
  | _ => True

/-- A command by which the host does not set a timer itself. -/
def Command.SparesTimers : Command → Prop
  | .assign ws => ∀ w ∈ ws, w.SparesTimers
  | _ => True

namespace Console

theorem steady_write {m n : Machine} (hm : m.Steady) {w : Assignment} (hw : w.SparesTimers)
    (h : write m w = .ok n) : n.Steady := by
  cases w with
  | delay t => exact hw.elim
  | sound t => exact hw.elim
  | general k b =>
    obtain ⟨x, rfl⟩ := writeGeneral_eq_ok (show writeGeneral m k b = .ok n from h)
    exact hm.onRegisters _
  | _ =>
    cases h
    exact hm.onRegisters _

theorem steady_writeAll {m : Machine} (hm : m.Steady) {ws : List Assignment}
    (hws : ∀ w ∈ ws, w.SparesTimers) : (writeAll m ws).1.Steady :=
  writeAll_preserves (fun w hw _ _ h hn => steady_write hn (hws w hw) h) hm

theorem steady_tickTimes {m : Machine} (hm : m.Steady) (n : Nat) : (tickTimes n m).Steady :=
  tickTimes_preserves (fun _ h => h.tick) n hm

theorem steady_runFrames {c : Console} (hc : c.machine.Steady) (n : Nat) :
    (runFrames n c).1.machine.Steady := by
  induction n generalizing c with
  | zero => exact hc
  | succ n ih =>
    have hnext := hc.frame c.pacer
    simp only [runFrames]
    split
    · exact hnext
    · exact ih (c := ⟨_, _⟩) hnext

/-- A command that spares the timers keeps the machine steady, whether it is refused or not. -/
theorem steady_perform {c : Console} (hc : c.machine.Steady) {k : Command} (hk : k.SparesTimers) :
    (c.perform k).1.machine.Steady := by
  cases k with
  | load p =>
    simp only [perform, Machine.load]
    cases (p.seen c.machine.memory).accept with
    | ok bytes => exact ⟨hc.timers, hc.source⟩
    | error f => exact hc
  | assign ws => exact steady_writeAll hc hk
  | pop =>
    simp only [perform]
    cases c.machine.registers.pop? with
    | some ar => exact ⟨hc.timers, hc.source⟩
    | none => exact hc
  | cycles n => exact runCycles_preserves (fun _ h => Machine.Steady.step h) n.toNat hc
  | execute w =>
    simp only [perform]
    cases decodeInt w with
    | error e => exact hc
    | ok i =>
      simp only
      cases h : i.exec c.machine with
      | ok m => exact hc.exec h
      | error f => exact hc.spent h
  | tick n => exact steady_tickTimes hc n.toNat
  | setKey code down =>
    simp only [perform]
    cases c.machine.keypad.setKey code down with
    | ok p => exact ⟨hc.timers, hc.source⟩
    | error e => exact hc
  | xorPixel x y bit =>
    simp only [perform]
    cases c.machine.display.xor x y bit with
    | ok dh => exact ⟨hc.timers, hc.source⟩
    | error e => exact hc
  | readPixel x y =>
    simp only [perform]
    cases c.machine.display.get x y with
    | ok b => exact hc
    | error e => exact hc
  | frames n => exact steady_runFrames hc n.toNat
  | _ => exact ⟨hc.timers, hc.source⟩

theorem steady_performAll {c : Console} (hc : c.machine.Steady) {ks : List Command}
    (hks : ∀ k ∈ ks, k.SparesTimers) : (c.performAll ks).1.machine.Steady := by
  induction ks generalizing c with
  | nil => exact hc
  | cons k ks ih =>
    have hnext := steady_perform hc (hks k List.mem_cons_self)
    exact ih hnext fun j hj => hks j (List.mem_cons_of_mem k hj)

end Console

end ChipEight
