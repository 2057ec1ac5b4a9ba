import ChipEight.Proofs.Sound.Library
import ChipEight.Proofs.Sound.Period
import ChipEight.Proofs.Sound.Samples
import ChipEight.Sound.Beeper

/-!
# The wave of a tone

A wave is made over a library of sample arrays of which no more is known than what is documented. Of
the new samples of a period the first half is set to the high level and the rest to the low one, so
that nothing is left of what they were. Copies of the period by an integer are then laid out in one
row.

A mixer of several channels is given every sample of the wave once for each channel.

## Main results

- `squareWave_eq_ok_iff`: the wave is copies of a period.
- `Beeper.new_of_channels`: what a beeper gives to a mixer of several channels.
- `exact_wave`: the wave, its samples, and the buffer of the mixer.
-/

namespace ChipEight

variable {lib : SampleLibrary} {room : Nat → Prop}

/-! ### The period in samples -/

/-- Samples of which one half is set to the high level and the rest to the low one are a period,
whatever they were. -/
theorem SampleLibrary.Documented.fill_halves (hlib : lib.Documented room) (fresh : List Int) :
    lib.fill (lib.fill fresh 0 (fresh.length / 2) amplitude) (fresh.length / 2) fresh.length
      (-amplitude) = onePeriod fresh.length := by
  have hhalf : fresh.length / 2 ≤ fresh.length := Nat.div_le_self _ _
  have hhigh : lib.fill fresh 0 (fresh.length / 2) amplitude =
      List.replicate (fresh.length / 2) amplitude ++ fresh.drop (fresh.length / 2) := by
    rw [hlib.fill_eq (Nat.zero_le _) hhalf]
    simp
  have hlength : (List.replicate (fresh.length / 2) amplitude ++
      fresh.drop (fresh.length / 2)).length = fresh.length := by
    simp only [List.length_append, List.length_replicate, List.length_drop]
    omega
  rw [hhigh, hlib.fill_eq hhalf hlength.ge, List.take_left' (List.length_replicate ..),
    List.drop_of_length_le hlength.le, List.append_nil, onePeriod]

/-- **The wave is copies of a period**, if there is a period and there are new samples for it. -/
theorem squareWave_eq_ok_iff (hlib : lib.Documented room) {tone rate periods : Datum}
    {a : SampleArray} :
    squareWave lib tone rate periods = .ok a ↔
      ∃ p, period tone rate = .ok p ∧ (∃ fresh, lib.empty p = .ok fresh) ∧
        lib.tile (onePeriod p) periods = .ok a := by
  rw [squareWave]
  simp only [bind_eq_ok_iff]
  refine exists_congr fun p => and_congr_right fun _ => ?_
  constructor
  · rintro ⟨fresh, hfresh, htile⟩
    obtain rfl := hlib.length_empty hfresh
    rw [hlib.fill_halves] at htile
    exact ⟨⟨fresh, hfresh⟩, htile⟩
  · rintro ⟨⟨fresh, hfresh⟩, htile⟩
    obtain rfl := hlib.length_empty hfresh
    refine ⟨fresh, hfresh, ?_⟩
    rwa [hlib.fill_halves]

/-- A wave of `n` periods is one row of samples, and these are a square wave. -/
theorem isSquareWave_of_squareWave (hlib : lib.Documented room) {tone rate : Datum} {n p : Nat}
    {a : SampleArray} (h : squareWave lib tone rate (.int n) = .ok a)
    (hperiod : period tone rate = .ok p) :
    a.sides = [n * p] ∧ IsSquareWave a.samples p n := by
  obtain ⟨q, hq, -, htile⟩ := (squareWave_eq_ok_iff hlib).1 h
  obtain rfl : q = p := Except.ok.inj (hq.symm.trans hperiod)
  rw [hlib.tile_eq htile]
  have hwave := isSquareWave_flatten q n
  exact ⟨congrArg (fun k => [k]) hwave.length, hwave⟩

/-- Where there is room for one period and for all of them, there is a wave. -/
theorem exists_squareWave (hlib : lib.Documented room) {tone rate : Datum} {n p : Nat}
    (hperiod : period tone rate = .ok p) (hone : room p) (hall : room (n * p)) :
    ∃ a, squareWave lib tone rate (.int n) = .ok a := by
  have hne : onePeriod p ≠ [] := by
    rw [← List.length_pos_iff, length_onePeriod]
    exact Nat.lt_of_lt_of_le Nat.zero_lt_two (two_le_period hperiod)
  obtain ⟨a, htile⟩ := hlib.exists_tile (n := n) hne (by rwa [length_onePeriod])
    (by rwa [length_onePeriod])
  exact ⟨a, (squareWave_eq_ok_iff hlib).2 ⟨p, hperiod, hlib.exists_empty hone, htile⟩⟩

/-! ### Several channels -/

namespace Beeper

/-- **What a beeper gives to a mixer** of several channels: the samples of the wave for the frequency
that the mixer reports, each of them as many times as the mixer has channels. -/
theorem new_of_channels {tone frequency size : Datum} {channels : Int} {mixer : Mixer}
    {made : Made} (hfailure : mixer.failure = none)
    (hreport : mixer.report = .list [frequency, size, .int channels]) (hc : 1 < channels) :
    new lib true tone mixer = .ok made ↔
      ∃ a, squareWave lib tone frequency defaultPeriods = .ok a ∧
        ∃ b, lib.repeatEach a.samples (.int channels) = .ok b ∧
          ∃ entry, readyEntry tone ⟨frequency, size, .int channels⟩ = .ok entry ∧
            ⟨⟨true, tone, false, true, { mixer with started := true }⟩,
              [.init, .sound b, .channel], [entry]⟩ = made := by
  have hformat : MixerFormat.ofReport mixer.report = .ok ⟨frequency, size, .int channels⟩ := by
    rw [hreport]
    rfl
  have habove : (Datum.int channels).isAbove 1 = .ok true := by
    simp [Datum.isAbove, Datum.magnitude?, Datum.integer?, Magnitude.ofInt, Magnitude.lt, hc]
  have hnew : new lib true tone mixer = sounding lib tone mixer := by
    rw [new, hfailure]
    rfl
  rw [hnew, sounding, hformat]
  simp [samplesFor, habove, bind_eq_ok_iff, mapError_eq_ok_iff, pure, Except.pure]

theorem readyEntry_int (tone rate size channels : Int) :
    readyEntry (.int tone) ⟨.int rate, .int size, .int channels⟩ =
      .ok (.mixerReady rate size channels tone) := by
  simp [readyEntry, Datum.magnitude?, Datum.integer?, Datum.truncated_int, pure, Except.pure,
    bind, Except.bind]

end Beeper

/-- **The wave of a tone is exact**, over any library that does as documented.

For a rate below `2 ^ 52` that is at least twice the frequency, a period has as many samples as the
whole number nearest to their quotient, of two equally near ones the even one. Where there is room for
one period and for all of them, the wave is made. It has as many periods as asked for. The first half
of each is high and the rest low, also where the wave is repeated end to end, and an odd period has
one low sample more.

For integers of any size, if a wave is made at all, a period has at least two samples, and both
levels occur unless there are no periods.

A mixer of several channels gets the wave for the frequency it reports, every sample once for each
channel, and it does so where there is room. -/
theorem exact_wave (hlib : lib.Documented room) :
    (∀ tone rate periods : Int, 1 ≤ tone → 2 * tone ≤ rate → rate < 2 ^ 52 → 0 ≤ periods →
      ∃ p : Nat, IsNearest rate tone p ∧
        (room p → room (periods.toNat * p) →
          ∃ a, squareWave lib (.int tone) (.int rate) (.int periods) = .ok a) ∧
        ∀ a, squareWave lib (.int tone) (.int rate) (.int periods) = .ok a →
          a.sides = [periods.toNat * p] ∧ IsSquareWave a.samples p periods.toNat) ∧
    (∀ tone rate periods : Int, ∀ a : SampleArray,
      squareWave lib (.int tone) (.int rate) (.int periods) = .ok a →
        ∃ p, period (.int tone) (.int rate) = .ok p ∧ 2 ≤ p ∧
          (0 ≤ periods → IsSquareWave a.samples p periods.toNat) ∧
          (0 < periods → 8000 ∈ a.samples ∧ -8000 ∈ a.samples)) ∧
    (∀ (tone frequency size : Datum) (c : Int) (mixer : Mixer) (made : Beeper.Made),
      mixer.failure = none → mixer.report = .list [frequency, size, .int c] → 1 < c →
      Beeper.new lib true tone mixer = .ok made →
        ∃ a b, squareWave lib tone frequency defaultPeriods = .ok a ∧
          made.calls = [.init, .sound b, .channel] ∧ IsInterleaved b a.samples c.toNat) ∧
    (∀ (tone rate size c : Int) (mixer : Mixer) (a : SampleArray),
      mixer.failure = none → mixer.report = .list [.int rate, .int size, .int c] → 1 < c →
      squareWave lib (.int tone) (.int rate) defaultPeriods = .ok a →
      room a.samples.length → room (a.samples.length * c.toNat) →
        ∃ made, Beeper.new lib true (.int tone) mixer = .ok made) := by
  refine ⟨?_, ?_, ?_, ?_⟩
  · intro tone rate periods htone hrate hbound hperiods
    obtain ⟨p, hperiod, hnearest⟩ := exists_period htone hrate hbound
    obtain ⟨n, rfl⟩ := Int.eq_ofNat_of_zero_le hperiods
    rw [Int.toNat_natCast]
    exact ⟨p, hnearest, exists_squareWave hlib hperiod,
      fun a ha => isSquareWave_of_squareWave hlib ha hperiod⟩
  · intro tone rate periods a h
    obtain ⟨p, hperiod, -⟩ := (squareWave_eq_ok_iff hlib).1 h
    have htwo := two_le_period hperiod
    have hwave (hnonneg : 0 ≤ periods) : IsSquareWave a.samples p periods.toNat := by
      obtain ⟨n, rfl⟩ := Int.eq_ofNat_of_zero_le hnonneg
      exact (isSquareWave_of_squareWave hlib h hperiod).2
    exact ⟨p, hperiod, htwo, hwave, fun hpos => (hwave hpos.le).mem htwo (by omega)⟩
  · intro tone frequency size c mixer made hfailure hreport hc hnew
    obtain ⟨a, ha, b, hb, entry, -, rfl⟩ := (Beeper.new_of_channels hfailure hreport hc).1 hnew
    obtain ⟨n, rfl⟩ := Int.eq_ofNat_of_zero_le (by omega : 0 ≤ c)
    refine ⟨a, b, ha, rfl, ?_⟩
    rw [hlib.repeatEach_eq hb]
    exact isInterleaved_flatMap a.samples n
  · intro tone rate size c mixer a hfailure hreport hc ha hone hall
    obtain ⟨p, hperiod, -⟩ := (squareWave_eq_ok_iff hlib).1 ha
    obtain ⟨n, rfl⟩ := Int.eq_ofNat_of_zero_le (by omega : 0 ≤ c)
    have hlevels := (isSquareWave_of_squareWave hlib (n := 20) ha hperiod).2.mem
      (two_le_period hperiod) (by decide)
    obtain ⟨b, hb⟩ := hlib.exists_repeatEach (n := n) (List.ne_nil_of_mem hlevels.1) hone hall
    exact ⟨_, (Beeper.new_of_channels hfailure hreport hc).2
      ⟨a, ha, b, hb, _, Beeper.readyEntry_int tone rate size n, rfl⟩⟩

/-- The usual tone at the usual rate, in memory without an end, for a mixer of two channels. -/
theorem exact_wave_stereo :
    let lib := SampleLibrary.standard fun _ => true
    (∃ p : Nat, IsNearest 44100 440 p ∧
      ∃ a, squareWave lib (.int 440) (.int 44100) (.int 3) = .ok a ∧ a.sides = [3 * p] ∧
        IsSquareWave a.samples p 3 ∧ 8000 ∈ a.samples ∧ -8000 ∈ a.samples) ∧
    ∃ made, Beeper.new lib true (.int 440)
        { Mixer.standard with report := .list [.int 44100, .int (-16), .int 2] } = .ok made ∧
      ∃ a b, squareWave lib (.int 440) (.int 44100) defaultPeriods = .ok a ∧
        made.calls = [.init, .sound b, .channel] ∧ IsInterleaved b a.samples 2 := by
  intro lib
  have hlimit : 1000000 < countLimit := by decide
  obtain ⟨hexact, hlevels, hmixer, hmade⟩ :=
    exact_wave (SampleLibrary.standard_documented fun _ => true)
  -- A period has at most a hundred samples, so that there is room for a few of them.
  have hwave (n : Nat) (hn : n ≤ 20) : ∃ p : Nat, IsNearest 44100 440 p ∧ p ≤ 100 ∧
      ∃ a, squareWave lib (.int 440) (.int 44100) (.int n) = .ok a ∧ a.sides = [n * p] ∧
        IsSquareWave a.samples p n := by
    obtain ⟨p, hnearest, hexists, hwaves⟩ :=
      hexact 440 44100 n (by decide) (by decide) (by decide) (Int.natCast_nonneg n)
    rw [Int.toNat_natCast] at hexists hwaves
    have hp : p ≤ 100 := by
      have hnear := abs_le.1 (le_of_eq rfl : |(p : Int) * 440 - 44100| ≤ _)
      have hclose := hnearest.near
      omega
    have hall : n * p ≤ 20 * 100 := Nat.mul_le_mul hn hp
    obtain ⟨a, ha⟩ := hexists (claimRoom_endless (by omega)) (claimRoom_endless (by omega))
    exact ⟨p, hnearest, hp, a, ha, hwaves a ha⟩
  constructor
  · obtain ⟨p, hnearest, -, a, ha, hsides, hsquare⟩ := hwave 3 (by decide)
    obtain ⟨-, -, -, -, hboth⟩ := hlevels 440 44100 3 a ha
    exact ⟨p, hnearest, a, ha, hsides, hsquare, hboth (by decide)⟩
  · obtain ⟨p, -, hp, a, ha, -, hsquare⟩ := hwave 20 (by decide)
    have hlength : a.samples.length ≤ 2000 := by
      rw [hsquare.length]
      omega
    have hreport : ({ Mixer.standard with
        report := .list [.int 44100, .int (-16), .int 2] } : Mixer).report =
          .list [.int 44100, .int (-16), .int 2] := rfl
    obtain ⟨made, hnew⟩ := hmade 440 44100 (-16) 2 _ a rfl hreport (by decide) ha
      (claimRoom_endless (by omega)) (claimRoom_endless (n := a.samples.length * 2) (by omega))
    exact ⟨made, hnew, hmixer (.int 440) (.int 44100) (.int (-16)) 2 _ made rfl hreport (by decide)
      hnew⟩

end ChipEight
