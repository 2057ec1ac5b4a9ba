import ChipEight.Proofs.Machine.Drawing
import ChipEight.Proofs.Window.Views
import Mathlib.Algebra.Ring.Parity
import Mathlib.Data.List.DropRight
import Mathlib.Data.Nat.Digits.Lemmas

/-!
# Pixels by tally

A host combines bits into pixels, clears the picture now and then, and lowers the dirty flag. None
of this is remembered but in the pixels and the flag. A record of what the host did tells the same.
A pixel is lit if an odd number of odd bits was combined into it since the picture was last cleared,
and the flag is up if anything was cleared or flipped since it was last lowered.

The answers tell it as well. Each odd bit that finds a place is answered by whether it turned its
pixel off, so that the number of lit pixels is the difference between the two answers.

Counting does not depend on order, and so neither does the picture, as long as nothing is moved past
a clear.

## Main definitions

- `Stroke`: what a host may do to a display.
- `Stroke.since`: the strokes behind the last one of a kind.
- `Stroke.tally`: how often a cell was hit since the last clear.
- `Console.answered`: how often an odd bit was answered so since the last clear.

## Main results

- `Display.stroked_cases`: a stroke other than a clear flips one pixel or none.
- `Display.pixel_strokeAll`, `Display.dirty_strokeAll`: the pixels and the flag, by the record.
- `Console.litCount_performAll`: the number of lit pixels, by the answers.
- `Stroke.tally_of_perm`: another order.
- `Console.pixels_tallied`: all of this for the commands of a host.
-/

namespace ChipEight

/-- What a host may do to a display. -/
inductive Stroke where
  /-- Combine a bit into a pixel. -/
  | xor (x y bit : Int)
  /-- Turn every pixel off. -/
  | clear
  /-- Lower the dirty flag. -/
  | consume
  deriving DecidableEq, Repr

namespace Stroke

/-- The command by which a host asks for a stroke. -/
def command : Stroke → Command
  | .xor x y bit => .xorPixel x y bit
  | .clear => .clear
  | .consume => .consume

/-- Whether a stroke combines an odd bit. -/
def isOdd : Stroke → Bool
  | .xor _ _ bit => bit % 2 = 1
  | _ => false

/-- Whether a stroke combines an odd bit into the pixel of a cell. -/
def hits (c : Cell) : Stroke → Bool
  | .xor x y bit => x = c.x.val ∧ y = c.y.val ∧ bit % 2 = 1
  | _ => false

/-- The strokes behind the last one that is like `mark`, or all of them if none is. -/
def since (mark : Stroke) (ss : List Stroke) : List Stroke :=
  ss.rtakeWhile (· ≠ mark)

/-- How often a cell was hit since the last clear. -/
def tally (ss : List Stroke) (c : Cell) : Nat :=
  (since .clear ss).countP (hits c)

variable {mark s : Stroke} {ss : List Stroke} {c : Cell}

/-! ### The record -/

theorem since_concat_self (mark : Stroke) (ss : List Stroke) : since mark (ss ++ [mark]) = [] :=
  List.rtakeWhile_concat_neg _ _ _ (by simp)

theorem since_concat_of_ne (h : s ≠ mark) (ss : List Stroke) :
    since mark (ss ++ [s]) = since mark ss ++ [s] :=
  List.rtakeWhile_concat_pos _ _ _ (by simp [h])

theorem tally_concat_clear (ss : List Stroke) (c : Cell) : tally (ss ++ [.clear]) c = 0 := by
  rw [tally, since_concat_self]
  rfl

theorem tally_concat (h : s ≠ .clear) (ss : List Stroke) (c : Cell) :
    tally (ss ++ [s]) c = tally ss c + if hits c s then 1 else 0 := by
  rw [tally, since_concat_of_ne h, List.countP_append, List.countP_singleton]
  rfl

/-- Of two parts of a record, the first one matters only if the second has no stroke of the kind. -/
theorem since_append (mark : Stroke) (ss ts : List Stroke) :
    since mark (ss ++ ts) = if mark ∈ ts then since mark ts else since mark ss ++ ts := by
  induction ts using List.reverseRecOn with
  | nil => simp
  | append_singleton ts t ih =>
    rw [← List.append_assoc]
    by_cases ht : t = mark
    · subst ht
      rw [since_concat_self, since_concat_self, if_pos (by simp)]
    · have hmem : mark ∈ ts ++ [t] ↔ mark ∈ ts := by simp [Ne.symm ht]
      rw [since_concat_of_ne ht, since_concat_of_ne ht, ih]
      simp only [hmem]
      split
      · rfl
      · exact List.append_assoc _ _ _

/-- **Another order** of strokes between two clears makes no difference. -/
theorem tally_of_perm {before middle other after : List Stroke} (hclear : .clear ∉ middle)
    (hperm : middle.Perm other) (c : Cell) :
    tally (before ++ middle ++ after) c = tally (before ++ other ++ after) c := by
  have hother : .clear ∉ other := fun h => hclear (hperm.mem_iff.2 h)
  rw [tally, tally, since_append _ (before ++ middle), since_append _ (before ++ other)]
  split
  · rfl
  · rw [since_append, since_append, if_neg hclear, if_neg hother]
    simp only [List.countP_append, hperm.countP_eq]

end Stroke

/-! ### Strokes on a display -/

namespace Display

/-- The display after a stroke. One that is refused changes nothing. -/
def stroked (d : Display) : Stroke → Display
  | .xor x y bit =>
    match d.xor x y bit with
    | .ok (e, _) => e
    | .error _ => d
  | .clear => d.clear
  | .consume => d.consume

/-- What a stroke is answered: whether it turned a pixel off. -/
def answer? (d : Display) : Stroke → Option Bool
  | .xor x y bit =>
    match d.xor x y bit with
    | .ok (_, hit) => some hit
    | .error _ => none
  | _ => none

/-- The display after strokes in order. -/
def strokeAll (d : Display) (ss : List Stroke) : Display :=
  ss.foldl stroked d

theorem strokeAll_concat (d : Display) (ss : List Stroke) (s : Stroke) :
    d.strokeAll (ss ++ [s]) = (d.strokeAll ss).stroked s := by
  simp [strokeAll]

/-- **A stroke flips one pixel or none**, unless it is a clear. It flips a pixel if it hits a cell,
and then it is answered by what the pixel was. An odd bit that hits none is not answered. -/
theorem stroked_cases (d : Display) {s : Stroke} (hs : s ≠ .clear) :
    ((∀ e, s.hits e = false) ∧ (d.stroked s).rows = d.rows ∧
        (s.isOdd = true → d.answer? s = none) ∧
        (d.stroked s).dirty = (d.dirty && !decide (s = .consume))) ∨
      ∃ c, (∀ e, s.hits e = decide (c = e)) ∧ s.isOdd = true ∧
        d.stroked s = d.flip c ∧ d.answer? s = some (d.pixel c) := by
  cases s with
  | clear => exact absurd rfl hs
  | consume => exact .inl ⟨fun _ => rfl, rfl, fun _ => rfl, (Bool.and_false _).symm⟩
  | xor x y bit =>
    simp only [Stroke.hits, Stroke.isOdd, stroked, answer?]
    rcases d.xor_cases x y bit with ⟨hgrid, hrefused⟩ | ⟨c, rfl, rfl, ⟨hbit, heven⟩ | ⟨hbit, hodd⟩⟩
    · left
      rw [hrefused]
      refine ⟨fun e => ?_, rfl, fun _ => rfl, by simp⟩
      have hx := e.x_lt
      have hy := e.y_lt
      rw [decide_eq_false_iff_not]
      omega
    · left
      rw [heven]
      refine ⟨fun e => ?_, rfl, fun h => ?_, by simp⟩
      · rw [decide_eq_false_iff_not]
        omega
      · rw [decide_eq_true_iff] at h
        omega
    · right
      rw [hodd]
      refine ⟨c, fun e => ?_, by simp [hbit], rfl, rfl⟩
      rw [decide_eq_decide, Cell.ext_iff, Fin.ext_iff, Fin.ext_iff]
      omega

/-! ### The pixels -/

/-- **The pixels, by the record.** -/
theorem pixel_strokeAll (ss : List Stroke) (c : Cell) :
    (fresh.strokeAll ss).pixel c = decide (Odd (Stroke.tally ss c)) := by
  induction ss using List.reverseRecOn with
  | nil => simp [strokeAll, Stroke.tally, Stroke.since, fresh, pixel, blankRows]
  | append_singleton ss s ih =>
    rw [strokeAll_concat]
    by_cases hs : s = .clear
    · subst hs
      rw [Stroke.tally_concat_clear]
      exact pixel_clear (fresh.strokeAll ss) c
    rw [Stroke.tally_concat hs]
    rcases (fresh.strokeAll ss).stroked_cases hs with ⟨hnone, hrows, -⟩ | ⟨e, hhits, -, hflip, -⟩
    · rw [hnone, if_neg Bool.false_ne_true, Nat.add_zero, ← ih, pixel, hrows]
      rfl
    · rw [hhits, hflip, pixel_flip, ih]
      by_cases hc : e = c
      · simp [hc, Nat.odd_add_one, -Nat.not_odd_iff_even]
      · simp [hc]

/-- **The flag, by the record.** -/
theorem dirty_strokeAll (ss : List Stroke) :
    (fresh.strokeAll ss).dirty = true ↔
      ∃ s ∈ Stroke.since .consume ss, s = .clear ∨ ∃ c, s.hits c = true := by
  induction ss using List.reverseRecOn with
  | nil => simp [strokeAll, Stroke.since, fresh]
  | append_singleton ss s ih =>
    rw [strokeAll_concat]
    by_cases hconsume : s = .consume
    · subst hconsume
      rw [Stroke.since_concat_self]
      simp [stroked, consume]
    rw [Stroke.since_concat_of_ne hconsume]
    simp only [List.mem_append, List.mem_singleton, or_and_right, exists_or, exists_eq_left, ← ih]
    by_cases hclear : s = .clear
    · subst hclear
      simp [stroked, clear]
    rcases (fresh.strokeAll ss).stroked_cases hclear with
      ⟨hnone, -, -, hdirty⟩ | ⟨e, hhits, -, hflip, -⟩
    · simp [hdirty, hconsume, hclear, hnone]
    · simp [hflip, hhits]

/-! ### The number of lit pixels -/

theorem finite_lit (d : Display) : {c : Cell | d.pixel c = true}.Finite :=
  (List.finite_toSet Cell.all).subset fun c _ => c.mem_all

/-- Flipping a pixel takes it from the lit ones, or adds it to them. -/
theorem litCount_flip (d : Display) (c : Cell) :
    ((d.flip c).litCount : Int) =
      if d.pixel c then (d.litCount : Int) - 1 else (d.litCount : Int) + 1 := by
  rw [litCount_eq, litCount_eq]
  cases hc : d.pixel c with
  | true =>
    have hset : {e : Cell | (d.flip c).pixel e = true} = {e | d.pixel e = true} \ {c} := by
      ext e
      by_cases he : c = e
      · simp [pixel_flip, ← he, hc]
      · simp [pixel_flip, he, Ne.symm he]
    have hmem : c ∈ {e | d.pixel e = true} := hc
    have hcount := Set.ncard_sdiff_singleton_add_one hmem d.finite_lit
    rw [hset, if_pos rfl]
    omega
  | false =>
    have hset : {e : Cell | (d.flip c).pixel e = true} = insert c {e | d.pixel e = true} := by
      ext e
      by_cases he : c = e
      · simp [pixel_flip, ← he, hc]
      · simp [pixel_flip, he, Ne.symm he]
    have hnew : c ∉ {e | d.pixel e = true} := by simp [hc]
    rw [hset, Set.ncard_insert_of_notMem hnew d.finite_lit, if_neg Bool.false_ne_true]
    rfl

/-- **A stroke changes the number of lit pixels** by its answer, if it combines an odd bit. -/
theorem litCount_stroked (d : Display) {s : Stroke} (hs : s ≠ .clear) :
    ((d.stroked s).litCount : Int) =
      d.litCount + (if s.isOdd ∧ d.answer? s = some false then 1 else 0) -
        (if s.isOdd ∧ d.answer? s = some true then 1 else 0) := by
  rcases d.stroked_cases hs with ⟨-, hrows, hsilent, -⟩ | ⟨c, -, hodd, hflip, hanswer⟩
  · have hnever : ∀ b, ¬(s.isOdd = true ∧ d.answer? s = some b) := by
      rintro b ⟨hodd, hanswer⟩
      rw [hsilent hodd] at hanswer
      cases hanswer
    rw [if_neg (hnever _), if_neg (hnever _), litCount, hrows]
    simp [litCount]
  · rw [hflip, litCount_flip, hanswer, hodd]
    cases d.pixel c <;> simp

/-- A picture without a lit pixel. -/
theorem litCount_of_dark {d : Display} (h : ∀ c, d.pixel c = false) : d.litCount = 0 := by
  have hset : {c : Cell | d.pixel c = true} = ∅ := by
    ext c
    simp [h]
  rw [litCount_eq, hset, Set.ncard_empty]

end Display

/-! ### Strokes as commands -/

/-- The answer in a report, if the question was one of yes or no. -/
def Report.truth? (r : Report) : Option Bool :=
  match r.reply with
  | .truth b => some b
  | _ => none

/-- An integer can be written if it has no more digits than the limit says. -/
theorem DigitLimit.allows_iff_length {limit : DigitLimit} {k : Int} :
    limit.allows k = true ↔ ∀ n, limit = some n → (Nat.digits 10 k.natAbs).length ≤ n := by
  have hdigits : ∀ n m : Nat, m < Nat.pow 10 n ↔ (Nat.digits 10 m).length ≤ n :=
    fun n m => (Nat.digits_length_le_iff (by decide) m).symm
  simp only [allows_iff, hdigits]

/-- Outside the grid it is complained about a place exactly if both coordinates can be written. -/
theorem Refusal.kind_grid_eq_place_iff {limit : DigitLimit} {e : OutsideGrid} :
    (grid e).kind limit = .place ↔ limit.allows e.x = true ∧ limit.allows e.y = true := by
  have hshown : Datum.allShown limit (grid e).shown = (limit.allows e.x && limit.allows e.y) := by
    simp only [shown, Datum.allShown, Datum.isShown, Bool.and_true]
  rw [kind, hshown, ← Bool.and_eq_true]
  split
  next h => exact iff_of_true rfl h
  next h => exact iff_of_false nofun h

/-- A coordinate of 4301 digits is one too many for the standard limit. -/
example : (Refusal.grid ⟨Nat.pow 10 4300, 0⟩).kind .standard = .senseless ∧
    (Refusal.grid ⟨Nat.pow 10 4300 - 1, 0⟩).kind .standard = .place := by
  decide +kernel

namespace Console

/-- How often, since the last clear, a stroke with an odd bit was answered so. -/
def answered (c : Console) (ss : List Stroke) (b : Bool) : Nat :=
  ((ss.zip (c.performAll (ss.map Stroke.command)).2).rtakeWhile fun p => p.1 ≠ .clear).countP
    fun p => p.1.isOdd ∧ p.2.truth? = some b

/-- The console with its display changed. -/
def onDisplay (c : Console) (f : Display → Display) : Console :=
  c.onMachine fun m => { m with display := f m.display }

variable {c : Console} {x y : Int}

theorem perform_xorPixel_of_outside (c : Console)
    (h : ¬((0 ≤ x ∧ x < 64) ∧ (0 ≤ y ∧ y < 32))) (bit : Int) :
    c.perform (.xorPixel x y bit) = (c, { refusal := some (.grid ⟨x, y⟩) }) := by
  have hrefused : c.machine.display.xor x y bit = .error ⟨x, y⟩ := by
    rw [Display.xor, Cell.ofInts, dif_neg h]
    rfl
  simp only [perform, hrefused]
  rfl

/-- **The answer to a bit** at a cell: whether it is odd and the pixel was lit. -/
theorem report_xorPixel (c : Console) (e : Cell) (bit : Int) :
    (c.perform (.xorPixel e.x.val e.y.val bit)).2 =
      { reply := .truth (decide (bit % 2 = 1 ∧ c.machine.display.pixel e = true)) } := by
  have hxor : c.machine.display.xor e.x.val e.y.val bit =
      .ok (if bit % 2 = 0 then (c.machine.display, false)
        else (c.machine.display.flip e, c.machine.display.pixel e)) := by
    rw [Display.xor, Cell.ofInts_val]
    rfl
  simp only [perform, hxor]
  rcases Int.emod_two_eq bit with heven | hodd
  · simp [heven]
  · simp [hodd]

theorem perform_stroke (c : Console) (s : Stroke) :
    (c.perform s.command).1 = c.onDisplay (·.stroked s) := by
  cases s with
  | xor x y bit =>
    simp only [Stroke.command, perform, onDisplay, onMachine, Display.stroked]
    cases c.machine.display.xor x y bit <;> rfl
  | clear | consume => rfl

theorem truth?_stroke (c : Console) (s : Stroke) :
    (c.perform s.command).2.truth? = c.machine.display.answer? s := by
  cases s with
  | xor x y bit =>
    simp only [Stroke.command, perform, Display.answer?]
    cases c.machine.display.xor x y bit <;> rfl
  | clear | consume => rfl

/-- Strokes change a console only by its display. -/
theorem performAll_strokes (c : Console) (ss : List Stroke) :
    (c.performAll (ss.map Stroke.command)).1 = c.onDisplay (·.strokeAll ss) := by
  induction ss generalizing c with
  | nil => rfl
  | cons s ss ih =>
    have hnext := ih (c.perform s.command).1
    rw [perform_stroke] at hnext
    rw [List.map_cons, performAll]
    simp only [perform_stroke, hnext]
    rfl

/-- The record of one more stroke, with what it is answered. -/
theorem zip_reports_concat (c : Console) (ss : List Stroke) (s : Stroke) :
    (ss ++ [s]).zip (c.performAll ((ss ++ [s]).map Stroke.command)).2 =
      ss.zip (c.performAll (ss.map Stroke.command)).2 ++
        [(s, ((c.onDisplay (·.strokeAll ss)).perform s.command).2)] := by
  have hlength : ss.length = (c.performAll (ss.map Stroke.command)).2.length := by
    rw [length_performAll, List.length_map]
  rw [List.map_append, performAll_append, List.zip_append hlength, performAll_strokes]
  rfl

theorem answered_concat_clear (c : Console) (ss : List Stroke) (b : Bool) :
    c.answered (ss ++ [.clear]) b = 0 := by
  rw [answered, zip_reports_concat, List.rtakeWhile_concat_neg _ _ _ (by simp), List.countP_nil]

theorem answered_concat (c : Console) (ss : List Stroke) {s : Stroke} (hs : s ≠ .clear) (b : Bool) :
    c.answered (ss ++ [s]) b = c.answered ss b +
      if s.isOdd ∧ (c.machine.display.strokeAll ss).answer? s = some b then 1 else 0 := by
  rw [answered, zip_reports_concat, List.rtakeWhile_concat_pos _ _ _ (by simp [hs]),
    List.countP_append, List.countP_singleton, truth?_stroke]
  simp only [decide_eq_true_eq]
  rfl

/-- **The number of lit pixels, by the answers.** -/
theorem litCount_performAll (hc : c.machine.display = .fresh) (ss : List Stroke) :
    ((Display.fresh.strokeAll ss).litCount : Int) = c.answered ss false - c.answered ss true := by
  induction ss using List.reverseRecOn with
  | nil =>
    have hdark : ∀ e, (Display.fresh.strokeAll []).pixel e = false := by
      intro e
      rw [Display.pixel_strokeAll]
      rfl
    rw [Display.litCount_of_dark hdark]
    rfl
  | append_singleton ss s ih =>
    rw [Display.strokeAll_concat]
    by_cases hs : s = .clear
    · subst hs
      have hdark : ∀ e, ((Display.fresh.strokeAll ss).stroked .clear).pixel e = false :=
        Display.pixel_clear (Display.fresh.strokeAll ss)
      rw [answered_concat_clear, answered_concat_clear, Display.litCount_of_dark hdark]
      rfl
    · rw [Display.litCount_stroked _ hs, answered_concat c ss hs, answered_concat c ss hs, ih, hc]
      push_cast
      omega

/-- **Pixels by tally.** A host does something to a display that is fresh at first: it combines bits
into pixels, by any integers, clears the picture, and lowers the flag.

The next bit is refused exactly if it is combined outside of the grid, whatever it is, and then
nothing changes. It is complained about the place if both coordinates can be written, for which their
digits must not be more than the limit of the host allows; by the standard limit these are 4300.
Otherwise the answer is yes if the bit is odd and the tally of the cell is.

A pixel is lit if its tally is odd: the number of odd bits that were combined into it since the last
clear. The number of lit pixels is that of the odd bits answered no since then, less that of the odd
bits answered yes. The flag is up if something was cleared or flipped since it was last lowered.
The picture does not depend on the order of what was done between two clears. -/
theorem pixels_tallied (hc : c.machine.display = .fresh) (ss : List Stroke) :
    let after := (c.performAll (ss.map Stroke.command)).1
    let d := after.machine.display
    (∀ x y bit : Int,
      let r := after.perform (.xorPixel x y bit)
      (r.2.refusal ≠ none ↔ ¬((0 ≤ x ∧ x < 64) ∧ (0 ≤ y ∧ y < 32))) ∧
        (∀ limit : DigitLimit, r.2.refusal.map (Refusal.kind limit) = some .place ↔
          ¬((0 ≤ x ∧ x < 64) ∧ (0 ≤ y ∧ y < 32)) ∧ ∀ n, limit = some n →
            (Nat.digits 10 x.natAbs).length ≤ n ∧ (Nat.digits 10 y.natAbs).length ≤ n) ∧
        (r.2.refusal ≠ none → r = (after, { refusal := some (.grid ⟨x, y⟩) })) ∧
        ∀ e : Cell, x = e.x.val → y = e.y.val →
          r.2 = { reply := .truth (decide (bit % 2 = 1 ∧ Odd (Stroke.tally ss e))) }) ∧
    (∀ e, d.pixel e = true ↔ Odd (Stroke.tally ss e)) ∧
    (d.litCount : Int) = c.answered ss false - c.answered ss true ∧
    (d.dirty = true ↔
      ∃ s ∈ Stroke.since .consume ss, s = .clear ∨ ∃ e, s.hits e = true) ∧
    ∀ before middle other behind : List Stroke, ss = before ++ middle ++ behind →
      .clear ∉ middle → middle.Perm other →
        (c.performAll ((before ++ other ++ behind).map Stroke.command)).1.machine.display.rows =
          d.rows := by
  intro after d
  have hstrokes : ∀ ts : List Stroke,
      (c.performAll (ts.map Stroke.command)).1.machine.display = Display.fresh.strokeAll ts := by
    intro ts
    rw [performAll_strokes, ← hc]
    rfl
  have hd : d = Display.fresh.strokeAll ss := hstrokes ss
  have hpixel : ∀ e, d.pixel e = decide (Odd (Stroke.tally ss e)) :=
    fun e => hd ▸ Display.pixel_strokeAll ss e
  have hon : ∀ (e : Cell) (bit : Int), (after.perform (.xorPixel e.x.val e.y.val bit)).2 =
      { reply := .truth (decide (bit % 2 = 1 ∧ Odd (Stroke.tally ss e))) } := by
    intro e bit
    rw [report_xorPixel, show after.machine.display.pixel e = _ from hpixel e]
    simp only [decide_eq_true_eq]
  refine ⟨?_, ?_, ?_, ?_, ?_⟩
  · intro x y bit r
    by_cases hgrid : (0 ≤ x ∧ x < 64) ∧ (0 ≤ y ∧ y < 32)
    · obtain ⟨e, rfl, rfl⟩ := Cell.exists_of_grid hgrid
      have htaken : r.2.refusal = none := by rw [show r.2 = _ from hon e bit]
      refine ⟨?_, ?_, fun hrefused => absurd htaken hrefused, ?_⟩
      · exact iff_of_false (not_not.2 htaken) (not_not.2 hgrid)
      · intro limit
        refine iff_of_false ?_ fun hout => hout.1 hgrid
        rw [htaken]
        exact nofun
      · intro e' hx hy
        obtain rfl : e = e' := Cell.ext (Fin.ext (Int.ofNat.inj hx)) (Fin.ext (Int.ofNat.inj hy))
        exact hon e bit
    · have hr : r = _ := perform_xorPixel_of_outside after hgrid bit
      refine ⟨?_, ?_, fun _ => hr, ?_⟩
      · exact iff_of_true (hr ▸ Option.some_ne_none _) hgrid
      · intro limit
        rw [hr, and_iff_right hgrid]
        simp only [imp_and, forall_and, ← DigitLimit.allows_iff_length]
        exact Option.some_inj.trans Refusal.kind_grid_eq_place_iff
      · rintro e rfl rfl
        exact absurd e.on_grid hgrid
  · intro e
    rw [hpixel, decide_eq_true_iff]
  · rw [hd]
    exact litCount_performAll hc ss
  · rw [hd]
    exact Display.dirty_strokeAll ss
  · rintro before middle other behind rfl hclear hperm
    rw [hd, hstrokes]
    refine Display.rows_ext fun e => ?_
    rw [Display.pixel_strokeAll, Display.pixel_strokeAll, Stroke.tally_of_perm hclear hperm]

/-- After a clear, two odd bits at one corner and one at the other. Then the flag is lowered, and a
bit is refused. -/
theorem pixels_tallied_at_the_corners :
    let start : Console := ⟨.fresh .plain (.constant 0), .new 1 true true⟩
    let a : Stroke := .xor 63 31 3
    let b : Stroke := .xor 0 0 (-1)
    let before : List Stroke := [b, .clear]
    let behind : List Stroke := [.consume, .xor 64 0 1]
    let after := (start.performAll ((before ++ [a, b, a] ++ behind).map Stroke.command)).1
    let other := (start.performAll ((before ++ [a, a, b] ++ behind).map Stroke.command)).1
    let d := after.machine.display
    d.pixel ⟨0, 0⟩ = true ∧ d.pixel ⟨63, 31⟩ = false ∧ d.litCount = 1 ∧ d.dirty = false ∧
      (after.perform (.xorPixel 0 0 5)).2 = { reply := .truth true } ∧
      (after.perform (.xorPixel (-1) 0 5)).2.refusal.map (Refusal.kind .standard) = some .place ∧
      other.machine.display.rows = d.rows := by
  intro start a b before behind after other d
  obtain ⟨hnext, hpixel, hlit, hdirty, horder⟩ :=
    pixels_tallied (c := start) rfl (before ++ [a, b, a] ++ behind)
  refine ⟨?_, ?_, ?_, ?_, ?_, ?_, ?_⟩
  · exact (hpixel ⟨0, 0⟩).2 (by decide)
  · exact Bool.eq_false_iff.2 (mt (hpixel ⟨63, 31⟩).1 (by decide))
  · have hcounts : start.answered (before ++ [a, b, a] ++ behind) false = 2 ∧
        start.answered (before ++ [a, b, a] ++ behind) true = 1 := by decide +kernel
    rw [hcounts.1, hcounts.2] at hlit
    exact Int.ofNat_inj.1 hlit
  · refine Bool.eq_false_iff.2 (mt hdirty.1 ?_)
    rintro ⟨s, hs, hmarks⟩
    obtain rfl : s = .xor 64 0 1 := List.mem_singleton.1 hs
    obtain ⟨e, he⟩ := hmarks.resolve_left (by decide)
    have hx := e.x_lt
    have hplace := of_decide_eq_true he
    omega
  · exact (hnext 0 0 5).2.2.2 ⟨0, 0⟩ rfl rfl
  · refine ((hnext (-1) 0 5).2.1 .standard).2 ⟨by decide, ?_⟩
    rintro n ⟨⟩
    decide
  · exact horder before [a, b, a] [a, a, b] behind rfl (by decide) (.cons a (.swap a b []))

end Console

end ChipEight
