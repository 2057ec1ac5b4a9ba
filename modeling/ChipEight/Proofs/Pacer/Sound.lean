import ChipEight.Console
import ChipEight.Proofs.Pacer.LastPicture
import Mathlib.Data.List.Iterate

/-!
# The speaker is told in turn

A speaker that is told to play twice, or to stop while it is silent, may do anything. A pacer never
does that to it. Whatever a host does with the machine between frames, and inside of a frame
whatever a program does with the sound timer, the speaker is told to play, to stop, to play, and so
on, because the pacer remembers what it told last and speaks only to tell the opposite.

The memory is one bit, `soundOn`. It is kept by a pacer without a speaker in just the same way.

## Main definitions

- `speakerCalls`: what a speaker is told by cues.
- `Console.Act`: what a host may do to a console. Changes of the machine are any at all.
- `Console.acts`, `Console.told`: the console after acts, and what they tell.
- `Console.Heard`: what is told between two consoles goes by turns.

## Main results

- `Console.heard_acts`: acts go by turns, from any console.
- `Console.exists_acts_performAll`: a session of commands is a row of acts.
- `Console.sound_protocol`: the calls of a new pacer, its bit, and its frames.
-/

namespace ChipEight

/-- What a cue tells the speaker: to play, or to stop. -/
def Cue.sound? : Cue → Option Bool
  | .render _ => none
  | .play => some true
  | .stop => some false

/-- What a speaker is told by cues, in order. -/
def speakerCalls (cues : List Cue) : List Bool :=
  cues.filterMap Cue.sound?

@[simp] theorem speakerCalls_append (as bs : List Cue) :
    speakerCalls (as ++ bs) = speakerCalls as ++ speakerCalls bs :=
  List.filterMap_append

namespace Console

/-- What a host may do to a console. -/
inductive Act where
  /-- Run a frame. -/
  | frame
  /-- Silence the speaker. -/
  | hush
  /-- Change the budget of a frame. -/
  | budget (n : Int)
  /-- Change the machine in any way. -/
  | machine (f : Machine → Machine)

/-- The console after an act. -/
def act (c : Console) : Act → Console
  | .frame => c.afterFrame
  | .hush => { c with pacer := c.pacer.hush.1 }
  | .budget n => { c with pacer := { c.pacer with budget := n } }
  | .machine f => c.onMachine f

/-- What an act tells the screen and the speaker. -/
def cuesOf (c : Console) : Act → List Cue
  | .frame => (c.pacer.frame c.machine).cues
  | .hush => c.pacer.hush.2.1
  | .budget _ | .machine _ => []

/-- The console after acts in order; a frame that fails does not stop the next. -/
def acts (c : Console) (as : List Act) : Console :=
  as.foldl act c

/-- What acts tell, in order. -/
def told (c : Console) : List Act → List Cue
  | [] => []
  | a :: as => c.cuesOf a ++ (c.act a).told as

@[simp] theorem acts_nil (c : Console) : c.acts [] = c := rfl

@[simp] theorem acts_cons (c : Console) (a : Act) (as : List Act) :
    c.acts (a :: as) = (c.act a).acts as := rfl

theorem acts_append (c : Console) (as bs : List Act) :
    c.acts (as ++ bs) = (c.acts as).acts bs :=
  List.foldl_append

theorem told_append (c : Console) (as bs : List Act) :
    c.told (as ++ bs) = c.told as ++ (c.acts as).told bs := by
  induction as generalizing c with
  | nil => rfl
  | cons a as ih => rw [List.cons_append, told, told, ih, acts_cons, List.append_assoc]

end Console

/-! ### Switching -/

namespace Pacer

/-- A pacer with a speaker speaks only to tell the opposite of what it told last. -/
theorem speakerCalls_switchSound (p : Pacer) (wanted : Bool) :
    speakerCalls (p.switchSound wanted).2.1 =
      if wanted = p.soundOn ∨ p.speaker = false then [] else [wanted] := by
  rw [switchSound_cues]
  split
  · rfl
  · cases wanted <;> rfl

/-- At the end of a frame the sound is switched to what the sound timer asks for. -/
theorem speakerCalls_close (p : Pacer) (b : Burst) :
    speakerCalls (p.close b).cues = speakerCalls (p.switchSound (soundsAfter b)).2.1 := by
  have hpicture : speakerCalls (p.pictureCues b) = [] := by
    rw [pictureCues]
    split <;> rfl
  rw [close_cues, speakerCalls_append, hpicture, List.nil_append, switchSound_cues]
  rfl

end Pacer

/-! ### Turns -/

namespace Console

/-- From a console to another, the speaker is told the opposite of what it was told last, again and
again, and the bit is what it was told then. -/
def Heard (c d : Console) (cues : List Cue) : Prop :=
  ∃ n : Nat, speakerCalls cues = List.iterate not (!c.pacer.soundOn) n ∧
    d.pacer.soundOn = not^[n] c.pacer.soundOn

variable {c d e : Console}

theorem Heard.of_silent {cues : List Cue} (hcues : speakerCalls cues = [])
    (hd : d.pacer.soundOn = c.pacer.soundOn) : c.Heard d cues :=
  ⟨0, hcues, hd⟩

theorem Heard.trans {as bs : List Cue} (hcd : c.Heard d as) (hde : d.Heard e bs) :
    c.Heard e (as ++ bs) := by
  obtain ⟨m, has, hd⟩ := hcd
  obtain ⟨n, hbs, he⟩ := hde
  have hnot : (!d.pacer.soundOn) = not^[m] (!c.pacer.soundOn) := by
    rw [hd, ← Function.iterate_succ_apply, Function.iterate_succ_apply']
  refine ⟨m + n, ?_, ?_⟩
  · rw [speakerCalls_append, has, hbs, hnot, List.iterate_add]
  · rw [he, hd, ← Function.iterate_add_apply, Nat.add_comm]

/-- A switch is heard as one turn or as none. -/
theorem Heard.of_switch {cues : List Cue} {wanted : Bool} (hs : c.pacer.speaker = true)
    (hcues : speakerCalls cues = speakerCalls (c.pacer.switchSound wanted).2.1)
    (hd : d.pacer.soundOn = wanted) : c.Heard d cues := by
  rw [Pacer.speakerCalls_switchSound] at hcues
  by_cases hw : wanted = c.pacer.soundOn
  · rw [if_pos (.inl hw)] at hcues
    exact .of_silent hcues (hd.trans hw)
  · have hopposite : wanted = !c.pacer.soundOn := Bool.eq_not_of_ne hw
    rw [if_neg (by simp [hw, hs]), hopposite] at hcues
    exact ⟨1, hcues, hd.trans hopposite⟩

theorem speaker_act (c : Console) (a : Act) : (c.act a).pacer.speaker = c.pacer.speaker := by
  cases a with
  | frame =>
    rw [act, afterFrame]
    rcases c.pacer.frame_cases c.machine with ⟨f, -, hframe⟩ | ⟨-, hframe⟩
    · rw [hframe]
      rfl
    · rw [hframe, Pacer.close_pacer]
  | hush => rw [act, Pacer.hush, Pacer.switchSound_pacer]
  | budget | machine => rfl

theorem heard_act (hs : c.pacer.speaker = true) (a : Act) : c.Heard (c.act a) (c.cuesOf a) := by
  cases a with
  | frame =>
    rw [act, afterFrame, cuesOf]
    rcases c.pacer.frame_cases c.machine with ⟨f, -, hframe⟩ | ⟨-, hframe⟩
    · rw [hframe]
      exact .of_silent rfl rfl
    · rw [hframe, Pacer.close_pacer]
      exact .of_switch hs (c.pacer.speakerCalls_close _) rfl
  | hush => exact .of_switch hs rfl (by rw [act, Pacer.hush, Pacer.switchSound_pacer])
  | budget | machine => exact .of_silent rfl rfl

/-- **The speaker is told in turn**, from any console that has one. -/
theorem heard_acts (hs : c.pacer.speaker = true) (as : List Act) :
    c.Heard (c.acts as) (c.told as) := by
  induction as generalizing c with
  | nil => exact .of_silent rfl rfl
  | cons a as ih => exact (heard_act hs a).trans (ih ((c.speaker_act a).trans hs))

/-! ### Without a speaker -/

/-- The console with its speaker taken away. -/
def muted (c : Console) : Console :=
  { c with pacer := { c.pacer with speaker := false } }

/-- An act does the same without a speaker. -/
theorem act_muted (c : Console) (a : Act) : c.muted.act a = (c.act a).muted := by
  cases a with
  | frame =>
    have hcycles : c.muted.pacer.cyclesOf c.muted.machine = c.pacer.cyclesOf c.machine := rfl
    rw [act, act, afterFrame, afterFrame]
    rcases c.pacer.frame_cases c.machine with ⟨f, hf, hframe⟩ | ⟨hf, hframe⟩
    · rw [hframe, Pacer.frame_of_fault (hcycles ▸ hf)]
      rfl
    · rw [hframe, Pacer.frame_of_no_fault (hcycles ▸ hf), hcycles, Pacer.close_pacer,
        Pacer.close_pacer, Pacer.close_machine, Pacer.close_machine]
      rfl
  | hush =>
    rw [act, act, Pacer.hush, Pacer.hush, Pacer.switchSound_pacer, Pacer.switchSound_pacer]
    rfl
  | budget | machine => rfl

theorem acts_muted (c : Console) (as : List Act) : c.muted.acts as = (c.acts as).muted := by
  induction as generalizing c with
  | nil => rfl
  | cons a as ih => rw [acts_cons, acts_cons, act_muted, ih]

/-! ### Sessions -/

/-- Frames in a row, up to the first one that fails, are acts. -/
theorem exists_acts_runFrames (n : Nat) (c : Console) :
    ∃ as, (runFrames n c).1 = c.acts as ∧ (runFrames n c).2.2.2.1 = c.told as := by
  induction n generalizing c with
  | zero => exact ⟨[], rfl, rfl⟩
  | succ n ih =>
    rw [runFrames]
    cases hresult : (c.pacer.frame c.machine).result with
    | error f => exact ⟨[.frame], rfl, (List.append_nil _).symm⟩
    | ok stats =>
      obtain ⟨as, hlast, hcues⟩ := ih c.afterFrame
      exact ⟨.frame :: as, hlast, congrArg _ hcues⟩

theorem exists_acts_of_pacer {r : Console × Report} (hp : r.1.pacer = c.pacer)
    (hc : r.2.cues = []) : ∃ as, r.1 = c.acts as ∧ r.2.cues = c.told as :=
  ⟨[.machine fun _ => r.1.machine], congrArg (Console.mk r.1.machine) hp, hc⟩

/-- A command is a row of acts. -/
theorem exists_acts_perform (c : Console) (k : Command) :
    ∃ as, (c.perform k).1 = c.acts as ∧ (c.perform k).2.cues = c.told as := by
  cases k with
  | frames n => exact exists_acts_runFrames n.toNat c
  | hush => exact ⟨[.hush], rfl, (List.append_nil _).symm⟩
  | setBudget n => exact ⟨[.budget n], rfl, rfl⟩
  | load | pop | setKey | xorPixel | readPixel =>
    rw [perform]
    split <;> exact exists_acts_of_pacer rfl rfl
  | execute w =>
    rw [perform]
    split
    · exact exists_acts_of_pacer rfl rfl
    · split <;> exact exists_acts_of_pacer rfl rfl
  | _ => exact exists_acts_of_pacer rfl rfl

/-- **A session is a row of acts.** -/
theorem exists_acts_performAll (c : Console) (ks : List Command) :
    ∃ as, (c.performAll ks).1 = c.acts as ∧
      (c.performAll ks).2.flatMap Report.cues = c.told as := by
  induction ks generalizing c with
  | nil => exact ⟨[], rfl, rfl⟩
  | cons k ks ih =>
    obtain ⟨as, hnext, hcues⟩ := c.exists_acts_perform k
    obtain ⟨bs, hlast, hrest⟩ := ih (c.perform k).1
    rw [hnext] at hlast hrest
    refine ⟨as ++ bs, ?_, ?_⟩
    · rw [acts_append, ← hlast, ← hnext]
      rfl
    · rw [told_append, ← hcues, ← hrest, ← hnext]
      rfl

/-! ### The protocol -/

/-- After silence, the first call is to play. -/
theorem Heard.alternate {cues : List Cue} (h : c.Heard d cues) (hc : c.pacer.soundOn = false) :
    speakerCalls cues = List.iterate not true (speakerCalls cues).length := by
  obtain ⟨n, hcalls, -⟩ := h
  rw [hcalls, List.length_iterate, hc]
  rfl

/-- After silence, the bit says what the speaker was told last. -/
theorem Heard.soundOn_iff {cues : List Cue} (h : c.Heard d cues) (hc : c.pacer.soundOn = false) :
    d.pacer.soundOn = true ↔ (speakerCalls cues).getLast? = some true := by
  obtain ⟨n, hcalls, hd⟩ := h
  rw [hcalls, hd, hc]
  cases n with
  | zero => simp
  | succ n =>
    have hlast : (List.iterate not true (n + 1)).getLast? = some (not^[n] true) := by
      rw [List.getLast?_eq_getElem?, List.length_iterate, Nat.add_sub_cancel,
        List.getElem?_iterate _ _ _ _ n.lt_succ_self]
    rw [Bool.not_false, hlast, Function.iterate_succ_apply, Bool.not_false, Option.some.injEq]

/-- A completed frame has stepped the timers, and the sound is on while the sound timer runs. -/
theorem sound_of_completed {p : Pacer} {m : Machine} {stats : FrameStats}
    (h : (p.frame m).result = .ok stats) :
    (p.frame m).machine.timers = (p.cyclesOf m).machine.timers.tick ∧
      (p.frame m).pacer.soundOn = stats.soundOn ∧
      (stats.soundOn = true ↔ 0 < (p.frame m).machine.timers.sound) := by
  obtain ⟨-, hframe⟩ := Pacer.frame_of_ok h
  rw [hframe, Pacer.close_result, Except.ok.injEq] at h
  subst h
  rw [hframe, Pacer.close_timers, Pacer.close_pacer]
  exact ⟨rfl, rfl, decide_eq_true_iff⟩

/-- **The sound protocol.** A new pacer with a speaker is given any machine, and a host does
anything for a while. Then the speaker was told to play, to stop, and so on in turn, and the bit says
what it was told last. A frame that is completed next leaves the bit as the sound timer asks for when
it has been stepped, and reports it; one that fails says nothing to the speaker and leaves the bit.
Silencing turns it off. Without a speaker, machine and bit are the same. -/
theorem sound_protocol (m : Machine) (budget : Int) (screen : Bool) (as : List Act) :
    let c : Console := ⟨m, .new budget screen true⟩
    let d := c.acts as
    let calls := speakerCalls (c.told as)
    let frame := d.pacer.frame d.machine
    calls = List.iterate not true calls.length ∧
      (d.pacer.soundOn = true ↔ calls.getLast? = some true) ∧
      (∀ stats, frame.result = .ok stats →
        frame.machine.timers = (d.pacer.cyclesOf d.machine).machine.timers.tick ∧
          frame.pacer.soundOn = stats.soundOn ∧
          (stats.soundOn = true ↔ 0 < frame.machine.timers.sound)) ∧
      (∀ f, frame.result = .error f →
        speakerCalls frame.cues = [] ∧ frame.pacer.soundOn = d.pacer.soundOn) ∧
      d.pacer.hush.1.soundOn = false ∧
      (Console.mk m (.new budget screen false)).acts as =
        ⟨d.machine, { d.pacer with speaker := false }⟩ := by
  intro c d calls frame
  have hheard : c.Heard d (c.told as) := heard_acts rfl as
  refine ⟨hheard.alternate rfl, hheard.soundOn_iff rfl, fun stats h => sound_of_completed h,
    fun f herror => ?_, ?_, c.acts_muted as⟩
  · have hframe : frame = d.pacer.abort _ f := (Pacer.frame_of_error herror).2
    rw [hframe]
    exact ⟨rfl, rfl⟩
  · rw [Pacer.hush, Pacer.switchSound_pacer]

/-- The sound timer runs out and is set again; a frame fails, the speaker is silenced, and sounds once
more. -/
theorem sound_protocol_set_again :
    let m := { Machine.fresh .plain (.constant 0) with
      memory := Memory.fresh.writeBlock 0x200 [0x12, 0x00, 0x00, 0xEE] }
    let sound (t : Int) : Act := .machine fun m => { m with timers := { m.timers with sound := t } }
    let goto (a : UInt16) : Act := .machine fun m => m.onRegisters fun r => r.goto a
    let as : List Act :=
      [sound 2, .frame, .frame, sound 9, .frame, goto 0x202, .frame, goto 0x200, .hush, .budget 3,
        .frame]
    let c : Console := ⟨m, .new 1 true true⟩
    let calls := speakerCalls (c.told as)
    calls = [true, false, true, false, true] ∧ calls = List.iterate not true calls.length ∧
      (c.acts as).pacer.soundOn = true ∧ (c.acts as).machine.timers.sound = 7 ∧
      (Console.mk m (.new 1 true false)).acts as =
        ⟨(c.acts as).machine, { (c.acts as).pacer with speaker := false }⟩ := by
  intro m sound goto as c calls
  have hcalls : calls = [true, false, true, false, true] := by decide +kernel
  obtain ⟨hturns, hon, -, -, -, hmuted⟩ := sound_protocol m 1 true as
  exact ⟨hcalls, hturns, hon.2 (congrArg List.getLast? hcalls), by decide +kernel, hmuted⟩

end Console

end ChipEight
