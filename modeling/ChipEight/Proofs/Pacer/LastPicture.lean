import ChipEight.Proofs.Machine.History
import ChipEight.Proofs.Pacer.Frame

/-!
# No picture is lost

A pacer with a screen hands over the picture after a frame that left the flag up, and lowers it. In
between anybody may write to the picture: instructions, the host, a frame that fails halfway and
shows nothing. What keeps the screen honest is that every writer raises the flag. So where the flag
is down, the picture is the one that the screen was handed last.

The host must not lower the flag itself: a picture that it consumes is one that the screen never
gets to see.

## Main definitions

- `lastPicture`: the picture that a screen shows after cues, if it showed another one before.
- `Console.UpToDate`: where the flag is down, the picture is the one that is shown.

## Main results

- `Console.UpToDate.frame`: a frame keeps the screen up to date, whether it is completed or not.
- `Console.upToDate_perform`: so does every command, but for consuming the picture.
- `Console.picture_never_lost`: a whole session, and each frame that may follow it.
-/

namespace ChipEight

/-- The pixels of a picture, by rows. -/
abbrev Rows := Vector (Vector Bool 64) 32

/-- The picture that a cue hands to the screen. -/
def Cue.picture? : Cue → Option Rows
  | .render d => some d.rows
  | _ => none

/-- What a screen shows after cues: the last picture that it was handed, or else what it showed
before. -/
def lastPicture (shown : Rows) (cues : List Cue) : Rows :=
  (cues.filterMap Cue.picture?).getLastD shown

theorem lastPicture_append (shown : Rows) (as bs : List Cue) :
    lastPicture shown (as ++ bs) = lastPicture (lastPicture shown as) bs := by
  simp only [lastPicture, List.filterMap_append, List.getLastD_eq_getLast?, List.getLast?_append]
  cases (bs.filterMap Cue.picture?).getLast? <;> rfl

/-! ### Rows of cycles -/

namespace Machine

/-- A row of cycles changes the display only in a way that can be noticed. -/
theorem marks_burst (m : Machine) (wait : Bool) (n : Nat) :
    m.display.Marks (m.burst wait n).machine.display :=
  burst_preserves (P := fun k => m.display.Marks k.display) (fun k hk => hk.trans k.marks_step)
    wait n (.refl _)

theorem marks_runCycles (m : Machine) (n : Nat) :
    m.display.Marks (Console.runCycles n m).1.display :=
  runCycles_preserves (P := fun k => m.display.Marks k.display)
    (fun k hk => hk.trans k.marks_step) n (.refl _)

end Machine

/-! ### Frames -/

/-- A closed frame hands over one picture at most. -/
theorem Pacer.pictures_close (p : Pacer) (b : Burst) :
    (p.close b).cues.filterMap Cue.picture? =
      if b.machine.display.dirty && p.screen then [b.machine.display.rows] else [] := by
  have hsound : (p.soundCues b).filterMap Cue.picture? = [] := by
    rw [soundCues]
    split
    · rfl
    · cases soundsAfter b <;> rfl
  rw [close_cues, List.filterMap_append, hsound, List.append_nil]
  rw [pictureCues]
  split <;> rfl

/-- A picture that is handed over has the flag up. -/
theorem Pacer.dirty_of_render_mem_close {p : Pacer} {b : Burst} {d : Display}
    (h : .render d ∈ (p.close b).cues) : d.dirty = true := by
  rw [close_cues, List.mem_append] at h
  rcases h with h | h
  · rw [pictureCues] at h
    split at h
    next hb =>
      cases List.mem_singleton.1 h
      exact (Bool.and_eq_true_iff.1 hb).1
    next => cases h
  · rw [soundCues] at h
    split at h
    · cases h
    · cases hs : soundsAfter b <;> rw [hs] at h <;> cases List.mem_singleton.1 h

/-! ### A screen that is up to date -/

namespace Console

/-- The screen of a console is up to date: where the flag is down, the picture is the one shown. -/
def UpToDate (c : Console) (shown : Rows) : Prop :=
  c.machine.display.dirty = false → c.machine.display.rows = shown

/-- The console after one frame. -/
def afterFrame (c : Console) : Console :=
  ⟨(c.pacer.frame c.machine).machine, (c.pacer.frame c.machine).pacer⟩

/-- A change that can be noticed, without a picture handed over, keeps the screen up to date. -/
theorem UpToDate.of_marks {c d : Console} {shown : Rows} (h : c.UpToDate shown)
    (hm : c.machine.display.Marks d.machine.display) : d.UpToDate shown := by
  intro hd
  have heq := hm.eq_of_not_dirty hd
  rw [heq] at hd ⊢
  exact h hd

/-- The row of cycles of a frame keeps the screen up to date. -/
theorem UpToDate.cyclesOf {c : Console} {shown : Rows} (h : c.UpToDate shown) :
    UpToDate ⟨(c.pacer.cyclesOf c.machine).machine, c.pacer⟩ shown :=
  h.of_marks (c.machine.marks_burst _ _)

/-- A closed frame shows the picture that it leaves. -/
theorem UpToDate.rows_close {c : Console} {shown : Rows} (h : c.UpToDate shown)
    (hs : c.pacer.screen = true) :
    (c.pacer.close (c.pacer.cyclesOf c.machine)).machine.display.rows =
      lastPicture shown (c.pacer.close (c.pacer.cyclesOf c.machine)).cues := by
  rw [Pacer.close_machine, lastPicture, Pacer.pictures_close, hs, Bool.and_true]
  cases hd : (c.pacer.cyclesOf c.machine).machine.display.dirty with
  | true => rfl
  | false => exact h.cyclesOf hd

/-- **A frame keeps the screen up to date**, whether it is completed or not. -/
theorem UpToDate.frame {c : Console} {shown : Rows} (h : c.UpToDate shown)
    (hs : c.pacer.screen = true) :
    c.afterFrame.UpToDate (lastPicture shown (c.pacer.frame c.machine).cues) := by
  rw [afterFrame]
  rcases c.pacer.frame_cases c.machine with ⟨f, -, hf⟩ | ⟨-, hf⟩
  · rw [hf]
    exact h.cyclesOf
  · rw [hf]
    exact fun _ => h.rows_close hs

theorem screen_afterFrame (c : Console) : c.afterFrame.pacer.screen = c.pacer.screen := by
  rw [afterFrame]
  rcases c.pacer.frame_cases c.machine with ⟨f, -, hf⟩ | ⟨-, hf⟩
  · rw [hf]
    rfl
  · rw [hf, Pacer.close_pacer]

theorem upToDate_runFrames (n : Nat) {c : Console} {shown : Rows} (h : c.UpToDate shown)
    (hs : c.pacer.screen = true) :
    (runFrames n c).1.UpToDate (lastPicture shown (runFrames n c).2.2.2.1) ∧
      (runFrames n c).1.pacer.screen = true := by
  induction n generalizing c shown with
  | zero => exact ⟨h, hs⟩
  | succ n ih =>
    have hnext := h.frame hs
    have hscreen : c.afterFrame.pacer.screen = true := by rw [screen_afterFrame, hs]
    simp only [runFrames]
    cases hr : (c.pacer.frame c.machine).result with
    | error f => exact ⟨hnext, hscreen⟩
    | ok stats =>
      simp only [lastPicture_append]
      exact ih hnext hscreen

/-! ### Every other command -/

theorem display_write {m n : Machine} {w : Assignment} (h : write m w = .ok n) :
    n.display = m.display := by
  cases w with
  | general k b =>
    obtain ⟨x, rfl⟩ := writeGeneral_eq_ok (show writeGeneral m k b = .ok n from h)
    rfl
  | _ =>
    cases h
    rfl

theorem display_writeAll (m : Machine) (ws : List Assignment) :
    (writeAll m ws).1.display = m.display :=
  writeAll_preserves (P := fun n => n.display = m.display)
    (fun _ _ _ _ h hn => (display_write h).trans hn) rfl

theorem display_tickTimes (n : Nat) (m : Machine) : (tickTimes n m).display = m.display :=
  tickTimes_preserves (P := fun k => k.display = m.display) (fun _ hk => hk) n rfl

/-- A command that does not run frames hands over no picture, leaves the screen attached, and
changes the picture only in a way that can be noticed, but for the one that consumes it. -/
theorem marks_perform (c : Console) {k : Command} (hframes : ∀ n, k ≠ .frames n)
    (hconsume : k ≠ .consume) :
    (c.perform k).2.cues.filterMap Cue.picture? = [] ∧
      (c.perform k).1.pacer.screen = c.pacer.screen ∧
      c.machine.display.Marks (c.perform k).1.machine.display := by
  cases k with
  | frames n => exact absurd rfl (hframes n)
  | consume => exact absurd rfl hconsume
  | load p =>
    simp only [perform, Machine.load]
    cases (p.seen c.machine.memory).accept with
    | ok bytes => exact ⟨rfl, rfl, .refl _⟩
    | error f => exact ⟨rfl, rfl, .refl _⟩
  | assign ws => exact ⟨rfl, rfl, .inl (display_writeAll c.machine ws)⟩
  | pop =>
    simp only [perform]
    cases c.machine.registers.pop? with
    | some ar => exact ⟨rfl, rfl, .refl _⟩
    | none => exact ⟨rfl, rfl, .refl _⟩
  | cycles n => exact ⟨rfl, rfl, c.machine.marks_runCycles n.toNat⟩
  | execute w =>
    simp only [perform]
    cases decodeInt w with
    | error e => exact ⟨rfl, rfl, .refl _⟩
    | ok i =>
      simp only
      cases h : i.exec c.machine with
      | ok m => exact ⟨rfl, rfl, Instr.marks_exec h⟩
      | error f => exact ⟨rfl, rfl, .inl (c.machine.display_spent i)⟩
  | tick n => exact ⟨rfl, rfl, .inl (display_tickTimes n.toNat c.machine)⟩
  | setKey key down =>
    simp only [perform]
    cases c.machine.keypad.setKey key down with
    | ok p => exact ⟨rfl, rfl, .refl _⟩
    | error e => exact ⟨rfl, rfl, .refl _⟩
  | xorPixel x y bit =>
    simp only [perform]
    cases h : c.machine.display.xor x y bit with
    | ok dh => exact ⟨rfl, rfl, Display.marks_xor h⟩
    | error e => exact ⟨rfl, rfl, .refl _⟩
  | readPixel x y =>
    simp only [perform]
    cases c.machine.display.get x y with
    | ok b => exact ⟨rfl, rfl, .refl _⟩
    | error e => exact ⟨rfl, rfl, .refl _⟩
  | clear => exact ⟨rfl, rfl, Display.marks_clear _⟩
  | hush =>
    have hp : (c.perform .hush).1.pacer = (c.pacer.switchSound false).1 := rfl
    have hc : (c.perform .hush).2.cues = (c.pacer.switchSound false).2.1 := rfl
    refine ⟨?_, ?_, .refl _⟩
    · rw [hc, Pacer.switchSound_cues]
      split <;> rfl
    · rw [hp, Pacer.switchSound_pacer]
  | _ => exact ⟨rfl, rfl, .refl _⟩

/-- **A command keeps the screen up to date**, unless it consumes the picture behind its back. -/
theorem upToDate_perform {c : Console} {shown : Rows} (h : c.UpToDate shown)
    (hs : c.pacer.screen = true) {k : Command} (hk : k ≠ .consume) :
    (c.perform k).1.UpToDate (lastPicture shown (c.perform k).2.cues) ∧
      (c.perform k).1.pacer.screen = true := by
  by_cases hframes : ∃ n, k = .frames n
  · obtain ⟨n, rfl⟩ := hframes
    exact upToDate_runFrames n.toNat h hs
  · obtain ⟨hcues, hscreen, hmarks⟩ := c.marks_perform (fun n hn => hframes ⟨n, hn⟩) hk
    rw [lastPicture, hcues]
    exact ⟨h.of_marks hmarks, hscreen.trans hs⟩

theorem upToDate_performAll {ks : List Command} (hks : ∀ k ∈ ks, k ≠ .consume) {c : Console}
    {shown : Rows} (h : c.UpToDate shown) (hs : c.pacer.screen = true) :
    (c.performAll ks).1.UpToDate
        (lastPicture shown ((c.performAll ks).2.flatMap fun r => r.cues)) ∧
      (c.performAll ks).1.pacer.screen = true := by
  induction ks generalizing c shown with
  | nil => exact ⟨h, hs⟩
  | cons k ks ih =>
    obtain ⟨hnext, hscreen⟩ := upToDate_perform h hs (hks k List.mem_cons_self)
    simp only [performAll, List.flatMap_cons, lastPicture_append]
    exact ih (fun j hj => hks j (List.mem_cons_of_mem k hj)) hnext hscreen

/-! ### Sessions -/

/-- **No picture is lost.** A session begins with a fresh machine and a screen that shows a blank
picture, and the host never consumes the picture itself. Whatever else it does, where the flag is
down at the end, the picture is the one that the screen was handed last.

So if a frame follows and is completed, then the screen shows the picture that the frame leaves, and
the flag is down. In this frame the screen was told at most once, with the flag still up, and the
report says that it was time to tell it exactly if the cycles of the frame left the flag up. -/
theorem picture_never_lost (dialect : Dialect) (source : RandomSource) (budget : Int)
    (speaker : Bool) (ks : List Command) (hks : ∀ k ∈ ks, k ≠ .consume) :
    let start : Console := ⟨.fresh dialect source, .new budget true speaker⟩
    let c := (start.performAll ks).1
    let shown := lastPicture Display.blankRows ((start.performAll ks).2.flatMap fun r => r.cues)
    let frame := c.pacer.frame c.machine
    (c.machine.display.dirty = false → c.machine.display.rows = shown) ∧
      ∀ stats, frame.result = .ok stats →
        frame.machine.display.dirty = false ∧
        frame.machine.display.rows = lastPicture shown frame.cues ∧
        (frame.cues.filterMap Cue.picture?).length ≤ 1 ∧
        (∀ d, .render d ∈ frame.cues → d.dirty = true) ∧
        (stats.rendered = true ↔ (c.pacer.cyclesOf c.machine).machine.display.dirty = true) := by
  intro start c shown frame
  have hstart : start.UpToDate Display.blankRows := fun _ => rfl
  obtain ⟨hc, hscreen⟩ := upToDate_performAll hks hstart rfl
  refine ⟨hc, fun stats hr => ?_⟩
  rcases c.pacer.frame_cases c.machine with ⟨f, -, hf⟩ | ⟨-, hf⟩
  · rw [show frame = _ from hf] at hr
    cases hr
  rw [show frame = _ from hf] at hr ⊢
  refine ⟨?_, hc.rows_close hscreen, ?_, fun d => Pacer.dirty_of_render_mem_close, ?_⟩
  · rw [Pacer.close_machine]
    rfl
  · rw [Pacer.pictures_close]
    split
    · exact Nat.le_refl 1
    · exact Nat.zero_le 1
  · rw [Pacer.close_result] at hr
    cases hr
    rfl

/-- The host has lit the last pixel, which is shown, and has failed to light one beyond it. The
frame that follows draws the glyph of zero. -/
theorem picture_never_lost_glyph :
    let ks : List Command :=
      [.poke 0x200 [0xA0, 0x50, 0xD0, 0x15], .xorPixel 63 31 1, .xorPixel 64 31 1, .frames 1]
    let start : Console := ⟨.fresh .plain (.constant 0), .new 1 true false⟩
    let c := (start.performAll ks).1
    let shown := lastPicture Display.blankRows ((start.performAll ks).2.flatMap fun r => r.cues)
    let frame := c.pacer.frame c.machine
    (∀ k ∈ ks, k ≠ .consume) ∧
      c.machine.display.pixel ⟨63, 31⟩ = true ∧ c.machine.display.rows = shown ∧
      (∃ stats, frame.result = .ok stats ∧ stats.rendered = true) ∧
      frame.machine.display.pixel ⟨0, 0⟩ = true ∧ frame.machine.display.dirty = false ∧
      frame.machine.display.rows = lastPicture shown frame.cues := by
  intro ks start c shown frame
  have hks : ∀ k ∈ ks, k ≠ .consume := by simp [ks]
  have hdirty : c.machine.display.dirty = false := by decide +kernel
  have hfault : (c.pacer.cyclesOf c.machine).fault = none :=
    Option.isNone_iff_eq_none.1 (by decide +kernel)
  have hdrawn : (c.pacer.cyclesOf c.machine).machine.display.dirty = true := by decide +kernel
  have hrun : ∃ stats, frame.result = .ok stats :=
    ⟨_, (congrArg Frame.result (Pacer.frame_of_no_fault hfault)).trans (Pacer.close_result _ _)⟩
  obtain ⟨stats, hresult⟩ := hrun
  subst frame shown c start
  obtain ⟨hshown, hframe⟩ := picture_never_lost .plain (.constant 0) 1 false ks hks
  obtain ⟨hflag, hrows, -, -, hrendered⟩ := hframe stats hresult
  refine ⟨hks, by decide +kernel, hshown hdirty, ⟨stats, hresult, hrendered.2 hdrawn⟩, ?_, hflag,
    hrows⟩
  decide +kernel

end Console

end ChipEight
