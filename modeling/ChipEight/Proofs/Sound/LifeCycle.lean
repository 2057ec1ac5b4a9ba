import ChipEight.Proofs.Except
import ChipEight.Sound.Beeper
import ChipEight.Sound.Tiling
import Mathlib.Data.List.Basic
import Mathlib.Data.List.Induction

/-!
# The life of a beeper

A beeper remembers three things that drift apart: whether it was told to play, whether it has a
channel, and whether its mixer is started. What it was told is a matter of the last order. The other
two change together, as both end with the first shutdown: a beeper is *attached* to a live channel,
or its mixer is down, silent, and left alone.

Of a mixer no more is assumed than what it answers: that its channel is busy after it was told to
play and not after it was told to stop or fell silent by itself, and that it is started from a start
that did not fail until it is told to quit. The beeper's own record of the mixer agrees with these
answers after every history, hence so does what the beeper does by asking.

## Main definitions

- `Beeper.Event`: what can happen to a beeper, with `Beeper.meet`, `Beeper.after`.
- `MixerEvent`: what happens to its mixer, with `Beeper.atMixer`, `Beeper.trace`, `Made.history`.
- `MixerAnswers`: what a mixer answers after each history.
- `Beeper.Attached`: the channel, the mixer and its silence agree.

## Main results

- `Beeper.Attached.after`: how attachment ends.
- `MixerAnswers.Follow.history`: the record of the mixer agrees with its answers.
- `Beeper.life_cycle`: what a beeper does over its whole life.
-/

namespace ChipEight

variable {lib : SampleLibrary}

/-! ### Mixers -/

/-- What happens to a mixer. -/
inductive MixerEvent where
  /-- The beeper makes a call. -/
  | call (c : MixerCall)
  /-- The channel falls silent by itself. -/
  | lapse
  deriving DecidableEq, Repr

@[simp]
theorem MixerEvent.call_mem_map {c : MixerCall} {cs : List MixerCall} :
    MixerEvent.call c ∈ cs.map .call ↔ c ∈ cs :=
  List.mem_map_of_injective fun _ _ => MixerEvent.call.inj

/-- What a mixer answers after each history, from the first event to the last. It either refuses to
start or it does not. Nothing else is assumed of it. -/
structure MixerAnswers (refuses : Bool) where
  /-- Whether the channel is busy. -/
  busy : List MixerEvent → Bool
  /-- Whether the mixer is started. -/
  started : List MixerEvent → Bool
  busy_nil : busy [] = false
  busy_play (t : List MixerEvent) : busy (t ++ [.call .play]) = true
  busy_stop (t : List MixerEvent) : busy (t ++ [.call .stop]) = false
  busy_lapse (t : List MixerEvent) : busy (t ++ [.lapse]) = false
  busy_of_ne {t : List MixerEvent} {e : MixerEvent} :
    e ≠ .call .play → busy (t ++ [e]) = true → busy t = true
  started_nil : started [] = false
  started_init (t : List MixerEvent) : started (t ++ [.call .init]) = (started t || !refuses)
  started_quit (t : List MixerEvent) : started (t ++ [.call .quit]) = false
  started_of_ne {t : List MixerEvent} {e : MixerEvent} :
    e ≠ .call .init → e ≠ .call .quit → started (t ++ [e]) = started t

namespace MixerAnswers

variable {refuses : Bool} (M : MixerAnswers refuses)

/-- Without being told to play, a mixer that was silent stays silent. -/
theorem busy_append_of_not_mem {t u : List MixerEvent} (hu : .call .play ∉ u)
    (ht : M.busy t = false) : M.busy (t ++ u) = false := by
  induction u using List.reverseRecOn with
  | nil => rwa [List.append_nil]
  | append_singleton u e ih =>
    obtain ⟨hu, he⟩ := not_or.1 (List.mem_append.not.1 hu)
    rw [← List.append_assoc, Bool.eq_false_iff]
    intro hbusy
    exact Bool.eq_false_iff.1 (ih hu)
      (M.busy_of_ne (fun heq => he (heq ▸ List.mem_singleton_self e)) hbusy)

/-- A mixer that does what it is told, and that is silent once it has quit. -/
def obedient (refuses : Bool) : MixerAnswers refuses where
  busy t := t.foldl (fun b e => match e with
    | .call .play => true
    | .call .stop | .call .quit | .lapse => false
    | _ => b) false
  started t := t.foldl (fun b e => match e with
    | .call .init => b || !refuses
    | .call .quit => false
    | _ => b) false
  busy_nil := rfl
  busy_play t := by rw [List.foldl_concat]
  busy_stop t := by rw [List.foldl_concat]
  busy_lapse t := by rw [List.foldl_concat]
  busy_of_ne := by
    intro t e he
    rw [List.foldl_concat]
    rcases e with (_ | _ | _ | _ | _ | _) | _ <;> simp at he ⊢
  started_nil := rfl
  started_init t := by rw [List.foldl_concat]
  started_quit t := by rw [List.foldl_concat]
  started_of_ne := by
    intro t e hinit hquit
    rw [List.foldl_concat]
    rcases e with (_ | _ | _ | _ | _ | _) | _ <;> simp at hinit hquit ⊢

end MixerAnswers

namespace Beeper

/-! ### Orders and their effects -/

/-- What can happen to a beeper. -/
inductive Event where
  | play
  | stop
  | shutdown
  /-- The channel falls silent by itself. -/
  | lapse
  deriving DecidableEq, Repr

/-- What comes of an event: the beeper after it, and the calls it makes. -/
def meet (b : Beeper) : Event → Beeper × List MixerCall
  | .play => b.play
  | .stop => b.stop
  | .shutdown => b.shutdown
  | .lapse => (b.lapse, [])

/-- The beeper after some events. -/
def after (b : Beeper) (es : List Event) : Beeper :=
  es.foldl (fun b e => (b.meet e).1) b

/-- What happens to the mixer at an event. -/
def atMixer (b : Beeper) (e : Event) : List MixerEvent :=
  match e with
  | .lapse => [.lapse]
  | e => (b.meet e).2.map .call

/-- What happens to the mixer over some events. -/
def trace (b : Beeper) : List Event → List MixerEvent
  | [] => []
  | e :: es => b.atMixer e ++ (b.meet e).1.trace es

/-- All that has happened to the mixer of a new beeper after some events. -/
def Made.history (m : Made) (es : List Event) : List MixerEvent :=
  m.calls.map .call ++ m.beeper.trace es

variable (b : Beeper)

theorem after_concat (es : List Event) (e : Event) :
    b.after (es ++ [e]) = ((b.after es).meet e).1 :=
  List.foldl_concat ..

theorem trace_append (es fs : List Event) :
    b.trace (es ++ fs) = b.trace es ++ (b.after es).trace fs := by
  induction es generalizing b with
  | nil => rfl
  | cons e es ih =>
    rw [List.cons_append, trace, trace, ih, List.append_assoc]
    rfl

theorem trace_concat (es : List Event) (e : Event) :
    b.trace (es ++ [e]) = b.trace es ++ (b.after es).atMixer e := by
  rw [trace_append, trace, trace, List.append_nil]

theorem Made.history_concat (m : Made) (es : List Event) (e : Event) :
    m.history (es ++ [e]) = m.history es ++ (m.beeper.after es).atMixer e := by
  rw [history, history, trace_concat, List.append_assoc]

/-- After a play the channel is busy, if there is one. It is told so only if it was not. -/
theorem play_eq :
    b.play = ({ b with
        playing := true
        mixer := { b.mixer with busy := b.mixer.busy || b.holding } },
      if b.holding && !b.mixer.busy then [.play] else []) := by
  obtain ⟨enabled, tone, playing, holding, mixer⟩ := b
  obtain ⟨report, failure, volume, started, busy⟩ := mixer
  cases holding <;> cases busy <;> rfl

/-- After a stop the channel is silent, if there is one. -/
theorem stop_eq :
    b.stop = ({ b with
        playing := false
        mixer := { b.mixer with busy := b.mixer.busy && !b.holding } },
      if b.holding then [.stop] else []) := by
  obtain ⟨enabled, tone, playing, holding, mixer⟩ := b
  obtain ⟨report, failure, volume, started, busy⟩ := mixer
  cases holding <;> cases busy <;> rfl

/-- A shutdown is a stop, after which the channel is given up and a started mixer is quit. -/
theorem shutdown_eq :
    b.shutdown = ({ b.stop.1 with
        holding := false
        mixer := { b.stop.1.mixer with started := false } },
      b.stop.2 ++ if b.mixer.started then [.quit] else []) :=
  rfl

/-! ### How a beeper is made -/

/-- A beeper is made in one of three ways: disabled, with a mixer that refuses to start, or with a
channel of a mixer that has started. -/
theorem new_cases {enabled : Bool} {tone : Datum} {mixer : Mixer} {made : Made}
    (h : new lib enabled tone mixer = .ok made) :
    (enabled = false ∧ made.beeper = ⟨false, tone, false, false, mixer⟩ ∧ made.calls = []) ∨
    (enabled = true ∧ mixer.failure.isSome ∧
      made.beeper = ⟨false, tone, false, false, mixer⟩ ∧ made.calls = [.init]) ∨
    (enabled = true ∧ mixer.failure = none ∧
      made.beeper = ⟨true, tone, false, true, { mixer with started := true }⟩ ∧
      ∃ samples, made.calls = [.init, .sound samples, .channel]) := by
  rw [new] at h
  split at h
  case isTrue hdisabled =>
    cases h
    exact .inl ⟨by simpa using hdisabled, rfl, rfl⟩
  case isFalse henabled =>
    have henabled : enabled = true := by simpa using henabled
    split at h
    case h_1 hrefuses =>
      cases h
      exact .inr (.inl ⟨henabled, by rw [hrefuses, Option.isSome_some], rfl, rfl⟩)
    case h_2 hstarts =>
      simp only [sounding, bind_eq_ok_iff] at h
      obtain ⟨format, -, samples, -, entry, -, h⟩ := h
      cases h
      exact .inr (.inr ⟨henabled, hstarts, rfl, samples, rfl⟩)

/-- A new beeper is silent. -/
theorem silent_of_new {enabled : Bool} {tone : Datum} {mixer : Mixer} {made : Made}
    (h : new lib enabled tone mixer = .ok made) : made.beeper.playing = false := by
  obtain ⟨-, hb, -⟩ | ⟨-, -, hb, -⟩ | ⟨-, -, hb, -⟩ := new_cases h <;> rw [hb]

/-- Making a beeper neither plays nor quits. -/
theorem not_mem_calls_of_new {enabled : Bool} {tone : Datum} {mixer : Mixer} {made : Made}
    (h : new lib enabled tone mixer = .ok made) : .play ∉ made.calls ∧ .quit ∉ made.calls := by
  obtain ⟨-, -, hc⟩ | ⟨-, -, -, hc⟩ | ⟨-, -, -, samples, hc⟩ := new_cases h <;> simp [hc]

/-! ### How long a beeper has its channel -/

/-- A beeper has the channel of a started mixer as long as it is live. If it is not, it has no
channel, and the mixer is down and silent. -/
structure Attached (live : Prop) (b : Beeper) : Prop where
  holding : b.holding = true ↔ live
  started : b.mixer.started = true ↔ live
  busy : b.mixer.busy = true → live

namespace Attached

variable {b : Beeper} {live : Prop}

theorem of_iff {other : Prop} (h : b.Attached live) (hiff : live ↔ other) : b.Attached other :=
  propext hiff ▸ h

theorem of_new {enabled : Bool} {tone : Datum} {mixer : Mixer} {made : Made}
    (h : new lib enabled tone mixer = .ok made) (hstarted : mixer.started = false)
    (hbusy : mixer.busy = false) :
    made.beeper.Attached (enabled = true ∧ mixer.failure = none) := by
  obtain ⟨he, hb, -⟩ | ⟨-, hf, hb, -⟩ | ⟨he, hf, hb, -⟩ := new_cases h
  · rw [hb, he]
    exact ⟨by simp, by simp [hstarted], by simp [hbusy]⟩
  · rw [hb]
    have hlive : mixer.failure ≠ none := Option.isSome_iff_ne_none.1 hf
    exact ⟨by simp [hlive], by simp [hlive, hstarted], by simp [hbusy]⟩
  · rw [hb]
    exact ⟨by simp [he, hf], by simp [he, hf], by simp [hbusy]⟩

/-- A stop leaves the channel silent in any case: there is nothing to silence without one. -/
theorem busy_stop (h : b.Attached live) : b.stop.1.mixer.busy = false := by
  rw [stop_eq]
  have hbusy : b.mixer.busy = true → b.holding = true := fun hb => h.holding.2 (h.busy hb)
  show (b.mixer.busy && !b.holding) = false
  simpa using hbusy

/-- The beeper gives its channel up when it is shut down, and only then. -/
theorem meet (h : b.Attached live) (e : Event) :
    (b.meet e).1.Attached (live ∧ e ≠ .shutdown) := by
  have hkept {c : Beeper} (hc : c.Attached live) (he : e ≠ .shutdown) :
      c.Attached (live ∧ e ≠ .shutdown) :=
    hc.of_iff (and_iff_left he).symm
  cases e with
  | play =>
    refine hkept ?_ (by simp)
    rw [Beeper.meet, play_eq]
    refine ⟨h.holding, h.started, fun hbusy => ?_⟩
    exact (Bool.or_eq_true_iff.1 hbusy).elim h.busy h.holding.1
  | stop =>
    refine hkept ?_ (by simp)
    rw [Beeper.meet, stop_eq]
    exact ⟨h.holding, h.started, fun hbusy => h.busy (Bool.and_eq_true_iff.1 hbusy).1⟩
  | shutdown =>
    rw [Beeper.meet, shutdown_eq]
    exact ⟨by simp, by simp, fun hbusy => absurd hbusy (Bool.eq_false_iff.1 h.busy_stop)⟩
  | lapse =>
    exact hkept ⟨h.holding, h.started, fun hbusy => absurd hbusy Bool.false_ne_true⟩ (by simp)

/-- **A beeper has its channel until it is shut down**, if it ever had one. -/
theorem after (h : b.Attached live) (es : List Event) :
    (b.after es).Attached (live ∧ .shutdown ∉ es) := by
  induction es using List.reverseRecOn with
  | nil => exact h.of_iff (by simp)
  | append_singleton es e ih =>
    rw [after_concat]
    refine (ih.meet e).of_iff ?_
    rw [List.mem_append, List.mem_singleton, not_or, and_assoc, ne_comm]

end Attached

/-! ### What a beeper asks of its mixer -/

theorem atMixer_play :
    b.atMixer .play = if b.holding && !b.mixer.busy then [.call .play] else [] := by
  show (b.play.2.map _ : List MixerEvent) = _
  rw [play_eq, apply_ite (List.map MixerEvent.call)]
  rfl

theorem atMixer_stop : b.atMixer .stop = if b.holding then [.call .stop] else [] := by
  show (b.stop.2.map _ : List MixerEvent) = _
  rw [stop_eq, apply_ite (List.map MixerEvent.call)]
  rfl

theorem atMixer_shutdown :
    b.atMixer .shutdown =
      b.atMixer .stop ++ if b.mixer.started then [.call .quit] else [] := by
  show (b.shutdown.2.map _ : List MixerEvent) = _
  rw [shutdown_eq, List.map_append, apply_ite (List.map MixerEvent.call)]
  rfl

/-- A beeper tells the channel to play only while it is not busy, and makes no other call then. -/
theorem atMixer_of_play {e : Event} (h : .call .play ∈ b.atMixer e) :
    b.mixer.busy = false ∧ b.atMixer e = [.call .play] := by
  cases e with
  | play =>
    rw [atMixer_play] at h ⊢
    split at h
    case isTrue hplays => exact ⟨by simp_all, if_pos hplays⟩
    case isFalse => exact absurd h List.not_mem_nil
  | stop =>
    rw [atMixer_stop] at h
    split at h <;> simp at h
  | shutdown =>
    rw [atMixer_shutdown, atMixer_stop] at h
    split at h <;> split at h <;> simp at h
  | lapse => simp [atMixer] at h

/-- A mixer is quit by a shutdown that finds it started. -/
theorem quit_mem_atMixer {e : Event} :
    .call .quit ∈ b.atMixer e ↔ e = .shutdown ∧ b.mixer.started = true := by
  cases e with
  | play =>
    rw [atMixer_play]
    split <;> simp
  | stop =>
    rw [atMixer_stop]
    split <;> simp
  | shutdown =>
    rw [atMixer_shutdown, atMixer_stop]
    split <;> split <;> simp_all
  | lapse => simp [atMixer]

/-- A beeper quits its mixer at the price of its being started. -/
theorem count_quit_atMixer (e : Event) :
    (b.atMixer e).count (.call .quit) + (b.meet e).1.mixer.started.toNat =
      b.mixer.started.toNat := by
  cases e with
  | play =>
    rw [atMixer_play, meet, play_eq]
    split <;> simp
  | stop =>
    rw [atMixer_stop, meet, stop_eq]
    split <;> simp
  | shutdown =>
    rw [atMixer_shutdown, atMixer_stop, meet, shutdown_eq]
    split <;> split <;> simp_all
  | lapse => simp [atMixer, meet, lapse]

theorem count_quit_trace (es : List Event) :
    (b.trace es).count (.call .quit) + (b.after es).mixer.started.toNat =
      b.mixer.started.toNat := by
  induction es generalizing b with
  | nil => exact Nat.zero_add _
  | cons e es ih =>
    have hrest : ((b.meet e).1.trace es).count (.call .quit) +
        (b.after (e :: es)).mixer.started.toNat = (b.meet e).1.mixer.started.toNat := ih _
    rw [trace, List.count_append, Nat.add_assoc, hrest, count_quit_atMixer]

/-- Without a channel a beeper makes no call, whatever it is told. -/
theorem Attached.call_not_mem_atMixer {b : Beeper} {live : Prop} (h : b.Attached live)
    (hlive : ¬live) (e : Event) (c : MixerCall) : .call c ∉ b.atMixer e := by
  have hholding : b.holding = false := Bool.eq_false_iff.2 (hlive ∘ h.holding.1)
  have hstarted : b.mixer.started = false := Bool.eq_false_iff.2 (hlive ∘ h.started.1)
  cases e with
  | play => simp [atMixer_play, hholding]
  | stop => simp [atMixer_stop, hholding]
  | shutdown => simp [atMixer_shutdown, atMixer_stop, hholding, hstarted]
  | lapse => simp [atMixer]

theorem Attached.call_not_mem_trace {b : Beeper} {live : Prop} (h : b.Attached live)
    (hlive : ¬live) (es : List Event) (c : MixerCall) : .call c ∉ b.trace es := by
  induction es generalizing b live with
  | nil => exact List.not_mem_nil
  | cons e es ih =>
    have hrest := ih (h.meet e) (hlive ∘ And.left)
    exact List.not_mem_append (h.call_not_mem_atMixer hlive e c) hrest

/-- Whether a beeper is playing is the matter of the last order. -/
theorem playing_after (h : b.playing = false) (es : List Event) :
    (b.after es).playing = true ↔ (es.filter (· ≠ .lapse)).getLast? = some .play := by
  induction es using List.reverseRecOn with
  | nil => simp [after, h]
  | append_singleton es e ih =>
    rw [after_concat, List.filter_append]
    cases e with
    | play => simp [meet, play_eq]
    | stop => simp [meet, stop_eq]
    | shutdown => simp [meet, shutdown_eq, stop_eq]
    | lapse => simpa [meet, lapse] using ih

end Beeper

/-! ### The beeper's record of its mixer -/

namespace MixerAnswers

variable {refuses : Bool} {M : MixerAnswers refuses} {t : List MixerEvent} {b : Beeper}
  {live : Prop}

/-- What a beeper keeps of its mixer is what the mixer answers after a history. -/
structure Agrees (M : MixerAnswers refuses) (t : List MixerEvent) (b : Beeper) : Prop where
  busy : M.busy t = b.mixer.busy
  started : M.started t = b.mixer.started

namespace Agrees

theorem of_new {enabled : Bool} {tone : Datum} {mixer : Mixer} {made : Beeper.Made}
    (h : Beeper.new lib enabled tone mixer = .ok made) (hstarted : mixer.started = false)
    (hbusy : mixer.busy = false) (M : MixerAnswers mixer.failure.isSome) :
    M.Agrees (made.history []) made.beeper := by
  rw [Beeper.Made.history, Beeper.trace, List.append_nil]
  have hplay : MixerEvent.call .play ∉ made.calls.map .call :=
    MixerEvent.call_mem_map.not.2 (Beeper.not_mem_calls_of_new h).1
  have hquiet : M.busy (made.calls.map .call) = false :=
    M.busy_append_of_not_mem (t := []) hplay M.busy_nil
  obtain ⟨-, hb, hc⟩ | ⟨-, hf, hb, hc⟩ | ⟨-, hf, hb, samples, hc⟩ := Beeper.new_cases h
  · rw [hb, hc]
    exact ⟨M.busy_nil.trans hbusy.symm, M.started_nil.trans hstarted.symm⟩
  · refine ⟨by rw [hquiet, hb, hbusy], ?_⟩
    rw [hb, hc]
    calc M.started [.call .init]
        = (M.started [] || !mixer.failure.isSome) := M.started_init []
      _ = mixer.started := by simp [M.started_nil, hf, hstarted]
  · refine ⟨by rw [hquiet, hb, hbusy], ?_⟩
    rw [hb, hc]
    calc M.started [.call .init, .call (.sound samples), .call .channel]
        = M.started [.call .init, .call (.sound samples)] :=
          M.started_of_ne (t := [.call .init, .call (.sound samples)]) (by simp) (by simp)
      _ = M.started [.call .init] := M.started_of_ne (t := [.call .init]) (by simp) (by simp)
      _ = (M.started [] || !mixer.failure.isSome) := M.started_init []
      _ = true := by simp [hf]

theorem stop (h : M.Agrees t b) : M.Agrees (t ++ b.atMixer .stop) b.stop.1 := by
  rw [Beeper.atMixer_stop, Beeper.stop_eq]
  split
  case isTrue hholding =>
    exact ⟨by simp [M.busy_stop, hholding],
      (M.started_of_ne (by simp) (by simp)).trans h.started⟩
  case isFalse hholding =>
    rw [List.append_nil]
    exact ⟨by simp [h.busy, hholding], h.started⟩

/-- Over an event the record stays true. -/
theorem meet (h : M.Agrees t b) (hb : b.Attached live) (e : Beeper.Event) :
    M.Agrees (t ++ b.atMixer e) (b.meet e).1 := by
  cases e with
  | play =>
    rw [Beeper.atMixer_play, Beeper.meet, Beeper.play_eq]
    split
    case isTrue hplays =>
      have hholding : b.holding = true := (Bool.and_eq_true_iff.1 hplays).1
      exact ⟨by simp [M.busy_play, hholding],
        (M.started_of_ne (by simp) (by simp)).trans h.started⟩
    case isFalse hplays =>
      rw [List.append_nil]
      refine ⟨?_, h.started⟩
      rw [h.busy]
      cases hbusy : b.mixer.busy <;> simp_all
  | stop => exact h.stop
  | shutdown =>
    have hstop := h.stop
    have hquiet : M.busy (t ++ b.atMixer .stop) = false := hstop.busy.trans hb.busy_stop
    rw [Beeper.atMixer_shutdown, Beeper.meet, Beeper.shutdown_eq, ← List.append_assoc]
    split
    case isTrue =>
      exact ⟨(M.busy_append_of_not_mem (by simp) hquiet).trans hb.busy_stop.symm, M.started_quit _⟩
    case isFalse hdown =>
      rw [List.append_nil]
      refine ⟨hstop.busy, hstop.started.trans ?_⟩
      rw [Beeper.stop_eq]
      exact Bool.eq_false_iff.2 hdown
  | lapse => exact ⟨M.busy_lapse t, (M.started_of_ne (by simp) (by simp)).trans h.started⟩

/-- The record is true over the whole history. -/
theorem history {made : Beeper.Made} (h : M.Agrees (made.history []) made.beeper)
    (hb : made.beeper.Attached live) (es : List Beeper.Event) :
    M.Agrees (made.history es) (made.beeper.after es) := by
  induction es using List.reverseRecOn with
  | nil => exact h
  | append_singleton es e ih =>
    rw [Beeper.Made.history_concat, Beeper.after_concat]
    exact ih.meet (hb.after es) e

end Agrees

/-! ### Sparing a busy channel -/

/-- At no time of a history the channel was told to play while it was busy. -/
def SparesBusy (M : MixerAnswers refuses) (t : List MixerEvent) : Prop :=
  ∀ before behind, t = before ++ .call .play :: behind → M.busy before = false

/-- A history may go on with a play if the channel is not busy then. -/
theorem SparesBusy.append {u : List MixerEvent} (ht : M.SparesBusy t)
    (hu : ∀ before behind, u = before ++ .call .play :: behind → M.busy (t ++ before) = false) :
    M.SparesBusy (t ++ u) := by
  intro before behind h
  obtain ⟨start, rfl, hstart⟩ | ⟨rest, hrest, hplay⟩ := List.append_eq_append_iff.1 h
  · exact hu start behind hstart
  · -- the play stands in the older part, or it is the first event of the newer one
    cases rest with
    | nil =>
      rw [List.append_nil] at hrest
      have := hu [] behind hplay.symm
      rwa [List.append_nil, hrest] at this
    | cons e rest =>
      obtain ⟨rfl, -⟩ := List.cons.inj hplay
      exact ht before rest hrest

/-- The beeper spares a busy channel, as its record of the mixer is true at every event. -/
theorem sparesBusy_history {made : Beeper.Made} (h : M.Agrees (made.history []) made.beeper)
    (hb : made.beeper.Attached live) (hcalls : .play ∉ made.calls) (es : List Beeper.Event) :
    M.SparesBusy (made.history es) := by
  induction es using List.reverseRecOn with
  | nil =>
    intro before behind heq
    have hmem : MixerEvent.call .play ∈ made.calls.map .call := by
      rw [Beeper.Made.history, Beeper.trace, List.append_nil] at heq
      exact heq ▸ List.mem_append_right _ List.mem_cons_self
    exact absurd (MixerEvent.call_mem_map.1 hmem) hcalls
  | append_singleton es e ih =>
    rw [Beeper.Made.history_concat]
    refine ih.append fun before behind heq => ?_
    have hmem : .call .play ∈ (made.beeper.after es).atMixer e :=
      heq ▸ List.mem_append_right _ List.mem_cons_self
    obtain ⟨hquiet, honly⟩ := Beeper.atMixer_of_play _ hmem
    have hnil : before = [] := by
      have hlength := congrArg List.length (honly.symm.trans heq)
      rw [List.length_singleton, List.length_append, List.length_cons] at hlength
      exact List.eq_nil_of_length_eq_zero (by omega)
    rw [hnil, List.append_nil, (h.history hb es).busy, hquiet]

end MixerAnswers

namespace Beeper

/-- **The life of a beeper.** However a beeper is made and whatever happens to it then, it is
playing exactly if the last order was to play, and it knows of its mixer what the mixer would answer.
The channel is never told to play while it is busy. It is busy after a play as long as the beeper is
live: enabled, with a mixer that started, and not shut down. It is not busy after a stop or a
shutdown. A beeper that is not live makes no call any more, and its volume is full. The mixer is
quit exactly by a shutdown that finds it started, so at most once. -/
theorem life_cycle {enabled : Bool} {tone : Datum} {mixer : Mixer} {made : Made}
    (hnew : new lib enabled tone mixer = .ok made) (hstarted : mixer.started = false)
    (hbusy : mixer.busy = false) (M : MixerAnswers mixer.failure.isSome) (es : List Event) :
    let live := enabled = true ∧ mixer.failure = none ∧ .shutdown ∉ es
    let b := made.beeper.after es
    let t := made.history es
    (b.playing = true ↔ (es.filter (· ≠ .lapse)).getLast? = some .play) ∧
    M.Agrees t b ∧ M.SparesBusy t ∧
    (live → M.busy (made.history (es ++ [.play])) = true) ∧
    M.busy (made.history (es ++ [.stop])) = false ∧
    M.busy (made.history (es ++ [.shutdown])) = false ∧
    (¬live → ∀ more, (b.after more).volume = .one ∧ ∀ c, .call c ∉ b.trace more) ∧
    (∀ e, .call .quit ∈ b.atMixer e ↔ e = .shutdown ∧ M.started t = true) ∧
    t.count (.call .quit) ≤ 1 := by
  intro live b t
  have hattached := Attached.of_new hnew hstarted hbusy
  have hagrees := MixerAnswers.Agrees.of_new hnew hstarted hbusy M
  have hb : b.Attached live := (hattached.after es).of_iff and_assoc
  have ht : M.Agrees t b := hagrees.history hattached es
  have hnext (e : Event) : M.busy (made.history (es ++ [e])) = (b.meet e).1.mixer.busy := by
    rw [Made.history_concat]
    exact (ht.meet hb e).busy
  obtain ⟨hplay, hquit⟩ := not_mem_calls_of_new hnew
  refine ⟨playing_after _ (silent_of_new hnew) es, ht,
    MixerAnswers.sparesBusy_history hagrees hattached hplay es, fun hlive => ?_, ?_, ?_,
    fun hlive more => ⟨?_, hb.call_not_mem_trace hlive more⟩, fun e => ?_, ?_⟩
  · rw [hnext, meet, play_eq, hb.holding.2 hlive]
    exact Bool.or_true _
  · exact (hnext .stop).trans hb.busy_stop
  · exact (hnext .shutdown).trans hb.busy_stop
  · have hmore : (b.after more).holding ≠ true := fun h => hlive ((hb.after more).holding.1 h).1
    rw [volume, if_neg hmore]
  · rw [quit_mem_atMixer, ht.started]
  · have hcalls : (made.calls.map MixerEvent.call).count (.call .quit) = 0 := by
      rw [List.count_eq_zero, MixerEvent.call_mem_map]
      exact hquit
    have htrace := made.beeper.count_quit_trace es
    have hone := made.beeper.mixer.started.toNat_le
    show (made.history es).count _ ≤ 1
    rw [Made.history, List.count_append, hcalls]
    omega

/-- With memory without an end and the mixer that answers as it was asked, a beeper gets a channel. -/
theorem exists_new_standard : ∃ (made : Made) (samples : List Int),
    new (.standard fun _ => true) true defaultTone .standard = .ok made ∧
      made.beeper = ⟨true, defaultTone, false, true, { Mixer.standard with started := true }⟩ ∧
      made.calls = [.init, .sound samples, .channel] := by
  have hok : (new (.standard fun _ => true) true defaultTone .standard).isOk = true := by
    decide +kernel
  cases hnew : new (.standard fun _ => true) true defaultTone .standard with
  | error e =>
    rw [hnew] at hok
    cases hok
  | ok made =>
    obtain ⟨h, -⟩ | ⟨-, h, -⟩ | ⟨-, -, hbeeper, samples, hcalls⟩ := new_cases hnew
    · cases h
    · cases h
    · exact ⟨made, samples, rfl, hbeeper, hcalls⟩

/-- A beeper plays, falls silent, plays again, and is told to play once more, which tells its mixer
nothing. After a shutdown it remembers that it is told to play, and a second shutdown has nothing to
quit. -/
theorem life_cycle_past_a_shutdown :
    ∃ (made : Made) (samples : List Int),
      new (.standard fun _ => true) true defaultTone .standard = .ok made ∧
      let M := MixerAnswers.obedient false
      let es : List Event := [.play, .lapse, .play, .play]
      let late := es ++ [.shutdown, .play, .shutdown, .play]
      let b := made.beeper.after es
      made.history es =
        [.call .init, .call (.sound samples), .call .channel, .call .play, .lapse,
          .call .play] ∧
      M.Agrees (made.history es) b ∧ M.SparesBusy (made.history es) ∧
      M.busy (made.history (es ++ [.play])) = true ∧
      M.busy (made.history (es ++ [.stop])) = false ∧
      M.busy (made.history (es ++ [.shutdown])) = false ∧
      .call .quit ∈ b.atMixer .shutdown ∧ (made.history late).count (.call .quit) = 1 ∧
      (made.beeper.after late).playing = true ∧
      ∀ more, ((made.beeper.after late).after more).volume = .one ∧
        ∀ c, .call c ∉ (made.beeper.after late).trace more := by
  obtain ⟨made, samples, hnew, hbeeper, hcalls⟩ := exists_new_standard
  refine ⟨made, samples, hnew, ?_⟩
  intro M es late b
  obtain ⟨-, hagrees, hspares, hplay, hstop, hshutdown, -, hquit, -⟩ :=
    life_cycle hnew rfl rfl M es
  obtain ⟨hplaying, -, -, -, -, -, hsilent, -, hcount⟩ := life_cycle hnew rfl rfl M late
  have hhistory : made.history es =
      [.call .init, .call (.sound samples), .call .channel, .call .play, .lapse,
        .call .play] := by
    rw [Made.history, hcalls, hbeeper]
    rfl
  refine ⟨hhistory, hagrees, hspares, hplay ⟨rfl, rfl, by decide⟩, hstop, hshutdown,
    (hquit _).2 ⟨rfl, ?_⟩, Nat.le_antisymm hcount ?_, hplaying.2 (by decide),
    hsilent (by simp [late])⟩
  · rw [hhistory]
    rfl
  · rw [Made.history, hcalls, hbeeper]
    exact Nat.le_refl 1

end Beeper

end ChipEight
