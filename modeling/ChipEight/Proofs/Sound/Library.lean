import ChipEight.Proofs.Except
import ChipEight.Sound.Tiling
import Mathlib.Algebra.Order.Group.Nat
import Mathlib.Data.Nat.Cast.Basic

/-!
# What is documented of a library of sample arrays

A wave is made over any library of sample arrays. What is assumed of it is what its operations are
documented to do with one row of samples, with integers for numbers of copies, and only as far as
there is room. Room is a matter of the host, so it is a parameter too: some lengths have it and
others do not. A library may fail where there is no room, and is asked for nothing then.

The library in memory does as documented, on any host.

## Main definitions

- `SampleLibrary.Documented`: what is documented of a library.

## Main results

- `Tiling.ofDatum_eq_ok_iff`: copies by an integer are one row, where there is room for them.
- `SampleLibrary.standard_documented`: there is such a library.
-/

namespace ChipEight

/-- What is documented of a library of sample arrays, where `room` holds of the lengths of rows that
the host has room for. -/
structure SampleLibrary.Documented (lib : SampleLibrary) (room : Nat → Prop) : Prop where
  exists_empty : ∀ {n : Nat}, room n → ∃ row, lib.empty n = .ok row
  /-- A new row has as many samples as asked for. -/
  length_empty : ∀ {n : Nat} {row : List Int}, lib.empty n = .ok row → row.length = n
  /-- The samples between two places are set, and those around them stay. -/
  fill_eq : ∀ {row : List Int} {start stop : Nat} {level : Int}, start ≤ stop → stop ≤ row.length →
    lib.fill row start stop level =
      row.take start ++ (List.replicate (stop - start) level ++ row.drop stop)
  exists_tile : ∀ {row : List Int} {n : Nat}, row ≠ [] → room row.length → room (n * row.length) →
    ∃ a, lib.tile row (.int n) = .ok a
  /-- Copies by an integer are one row: one copy behind the other. -/
  tile_eq : ∀ {row : List Int} {n : Nat} {a : SampleArray}, lib.tile row (.int n) = .ok a →
    a = .row (List.replicate n row).flatten
  exists_repeatEach : ∀ {row : List Int} {n : Nat}, row ≠ [] → room row.length →
    room (row.length * n) → ∃ b, lib.repeatEach row (.int n) = .ok b
  /-- Every sample comes so many times in succession. -/
  repeatEach_eq : ∀ {row b : List Int} {n : Nat}, lib.repeatEach row (.int n) = .ok b →
    b = row.flatMap fun s => List.replicate n s

variable {allocates : Nat → Bool}

/-! ### Room -/

/-- There is room where every side and the bytes can be counted and the bytes are allocated. -/
theorem claimRoom_eq_ok_iff {sides : List Nat} :
    claimRoom allocates sides = .ok () ↔
      (∀ n ∈ sides, n < countLimit) ∧ sides.foldl Nat.mul sampleWidth < countLimit ∧
        allocates (sides.foldl Nat.mul sampleWidth) = true := by
  have hsides : (sides.any fun n => decide (countLimit ≤ n)) = false ↔
      ∀ n ∈ sides, n < countLimit := by
    simp [List.any_eq_false]
  rw [← hsides, claimRoom]
  cases sides.any fun n => decide (countLimit ≤ n) with
  | true => simp
  | false =>
    simp only [Bool.false_eq_true, if_false, true_and, ← Nat.not_le]
    split
    case isTrue hlong => simp [hlong]
    case isFalse hshort => cases allocates (sides.foldl Nat.mul sampleWidth) <;> simp [hshort]

/-- There is room for so many samples in one row. -/
theorem claimRoom_one_iff {n : Nat} :
    claimRoom allocates [n] = .ok () ↔ 2 * n < countLimit ∧ allocates (2 * n) = true := by
  rw [claimRoom_eq_ok_iff]
  simp only [List.mem_singleton, forall_eq, List.foldl_cons, List.foldl_nil, sampleWidth,
    Nat.mul_eq]
  exact ⟨And.right, fun h => ⟨by omega, h⟩⟩

/-- Where a host has memory without an end, there is room for any row that can be counted. -/
theorem claimRoom_endless {n : Nat} (hn : 2 * n < countLimit) :
    claimRoom (fun _ => true) [n] = .ok () :=
  claimRoom_one_iff.2 ⟨hn, rfl⟩

/-- Where there is room for a row and for its copies in one row, there is room for them as rows. -/
theorem claimRoom_two_of_one {n p : Nat} (hp : 0 < p) (hrow : claimRoom allocates [p] = .ok ())
    (hall : claimRoom allocates [n * p] = .ok ()) : claimRoom allocates [n, p] = .ok () := by
  obtain ⟨hrow, -⟩ := claimRoom_one_iff.1 hrow
  obtain ⟨hfit, hallocates⟩ := claimRoom_one_iff.1 hall
  have hrows : n * 1 ≤ n * p := Nat.mul_le_mul_left n hp
  rw [claimRoom_eq_ok_iff]
  simp only [List.mem_cons, List.not_mem_nil, or_false, forall_eq_or_imp, forall_eq,
    List.foldl_cons, List.foldl_nil, sampleWidth, Nat.mul_eq, Nat.mul_assoc]
  exact ⟨⟨by omega, by omega⟩, hfit, hallocates⟩

theorem countRepetitions_eq_ok_iff {n : Nat} {u : Unit} :
    countRepetitions n = .ok u ↔ n < countLimit := by
  rw [countRepetitions]
  split
  · constructor
    · rintro ⟨⟩
    · intro h
      omega
  · exact ⟨fun _ => by omega, fun _ => rfl⟩

/-- A number that can be counted does not wrap around. -/
theorem wrapCount_natCast {n : Nat} (h : n < countLimit) : wrapCount n = n := by
  rw [wrapCount, Int.emod_eq_of_lt (by omega) (by omega), Int.add_sub_cancel]

/-! ### Copies by an integer -/

theorem Datum.truncated_int (k : Int) : (int k).truncated = .ok k := by
  simp [truncated, magnitude?, integer?, Magnitude.ofInt]

namespace Copies

theorem ofDatum_eq_ok_iff {n : Nat} {copies : Copies} :
    ofDatum (.int n) = .ok copies ↔ n < countLimit ∧ .every n = copies := by
  have hcount {k : Int} : countOf (.int n) = .ok k ↔ n < countLimit ∧ n = k := by
    simp [countOf, Datum.truncated_int, bind_eq_ok_iff, mapError_eq_ok_iff,
      countRepetitions_eq_ok_iff, pure, Except.pure]
  have hopen : ofDatum (.int n) = (countOf (.int n)).map .every := rfl
  rw [hopen, map_eq_ok_iff]
  simp only [hcount, and_assoc, exists_and_left, exists_eq_left']

/-- The rows that one row becomes. -/
theorem rowsFrom_eq_ok_iff {n p rows : Nat} (h : n < countLimit) :
    (every n).rowsFrom allocates p 1 = .ok rows ↔
      claimRoom allocates [n, p] = .ok () ∧ n = rows := by
  have hnonneg : ¬ (n : Int) < 0 := Int.not_lt.2 (Int.natCast_nonneg n)
  rw [rowsFrom]
  simp [wrapCount_natCast h, hnonneg, bind_eq_ok_iff, mapError_eq_ok_iff, Unique.exists_iff,
    pure, Except.pure]

end Copies

namespace Tiling

theorem isOne_int (k : Int) : isOne (.int k) = decide (k = 1) := by
  simp [isOne, Datum.sameNumber, Datum.magnitude?, Datum.integer?, Magnitude.ofInt,
    Magnitude.same]

theorem sideOf_eq_ok_iff {p n : Nat} {side : Int} :
    sideOf p (.int n) = .ok side ↔ n * p < countLimit ∧ (n * p : Nat) = side := by
  have hcount : (Datum.int n).count = .ok (n : Int) := rfl
  have hproduct : (p : Int) * n = (n * p : Nat) := by rw [Int.natCast_mul, Int.mul_comm]
  rw [sideOf, hcount]
  simp only [Except.mapError, bind, Except.bind, hproduct]
  cases hcounted : countRepetitions (n * p : Nat) with
  | error e =>
    have hlong : ¬ n * p < countLimit := by
      rw [← countRepetitions_eq_ok_iff (u := ()), hcounted]
      rintro ⟨⟩
    simp [hlong, throw, throwThe, MonadExceptOf.throw, Except.isOk, Except.toBool]
  | ok => simp [countRepetitions_eq_ok_iff.1 hcounted, pure, Except.pure, Except.isOk, Except.toBool]

/-- Samples along one side have that side. -/
theorem fitShape_one {n : Nat} (h : n < countLimit) : fitShape n [(n : Int)] = .ok [n] := by
  have hneg : ¬ (n : Int) < 0 := by omega
  have hknown : ∀ refusal, knownProduct refusal 1 false [(n : Int)] = .ok n := by
    intro refusal
    simp only [knownProduct, if_neg hneg, Int.toNat_natCast, Nat.one_mul]
    rw [if_neg (Nat.not_le.2 h)]
  simp only [fitShape, hknown, List.any_cons, List.any_nil, decide_eq_false hneg]
  simp [bind, Except.bind, pure, Except.pure]

variable {row : List Int} {n : Nat} {a : SampleArray}

theorem ofDatum_one : ofDatum allocates row (.int 1) = .ok (.row row) :=
  rfl

theorem rowsOf_one {k : Int} (hk : k ≠ 1) {p rows : Nat} :
    rowsOf allocates p [.int k] = .ok rows ↔
      ∃ copies, Copies.ofDatum (.int k) = .ok copies ∧ copies.rowsFrom allocates p 1 = .ok rows := by
  simp [rowsOf, isOne_int, hk, bind_eq_ok_iff]

/-- **Copies by an integer** other than one are one row, one copy behind the other, where there is
room for them. -/
theorem ofDatum_eq_ok_iff (hn : n ≠ 1) :
    ofDatum allocates row (.int n) = .ok a ↔
      n < countLimit ∧ claimRoom allocates [n, row.length] = .ok () ∧
        n * row.length < countLimit ∧ .row (List.replicate n row).flatten = a := by
  have hopen : ofDatum allocates row (.int n) = ofCounts allocates row [.int n] := rfl
  have hn' : (n : Int) ≠ 1 := by omega
  have hfactor : [Datum.int n].forM claimFactor = .ok () := rfl
  have hsteps : ofDatum allocates row (.int n) = .ok a ↔
      ∃ rows, (n < countLimit ∧ (Copies.every n).rowsFrom allocates row.length 1 = .ok rows) ∧
        ∃ side, sideOf row.length (.int n) = .ok side ∧
          ∃ sides, fitShape (rows * row.length) [side] = .ok sides ∧
            ⟨sides, (List.replicate rows row).flatten⟩ = a := by
    rw [hopen, ofCounts, hfactor]
    simp [isOne_int, hn', claimSides, maxSides, bind_eq_ok_iff, mapError_eq_ok_iff, rowsOf_one hn',
      Copies.ofDatum_eq_ok_iff, pure, Except.pure]
  rw [hsteps]
  constructor
  · rintro ⟨rows, ⟨hcount, hrows⟩, side, hside, sides, hfit, rfl⟩
    obtain ⟨hroom, rfl⟩ := (Copies.rowsFrom_eq_ok_iff hcount).1 hrows
    obtain ⟨hlength, rfl⟩ := sideOf_eq_ok_iff.1 hside
    obtain rfl : [n * row.length] = sides := Except.ok.inj ((fitShape_one hlength).symm.trans hfit)
    exact ⟨hcount, hroom, hlength, by simp [SampleArray.row]⟩
  · rintro ⟨hcount, hroom, hlength, rfl⟩
    exact ⟨n, ⟨hcount, (Copies.rowsFrom_eq_ok_iff hcount).2 ⟨hroom, rfl⟩⟩, _,
      sideOf_eq_ok_iff.2 ⟨hlength, rfl⟩, _, fitShape_one hlength, by simp [SampleArray.row]⟩

/-- Where there is room, there are copies. -/
theorem exists_ofDatum (hne : row ≠ []) (hrow : claimRoom allocates [row.length] = .ok ())
    (hall : claimRoom allocates [n * row.length] = .ok ()) :
    ∃ a, ofDatum allocates row (.int n) = .ok a := by
  by_cases hn : n = 1
  · subst hn
    exact ⟨_, ofDatum_one⟩
  have hpos := List.length_pos_iff.2 hne
  obtain ⟨hfit, -⟩ := claimRoom_one_iff.1 hall
  have hcopies : n * 1 ≤ n * row.length := Nat.mul_le_mul_left n hpos
  exact ⟨_, (ofDatum_eq_ok_iff hn).2
    ⟨by omega, claimRoom_two_of_one hpos hrow hall, by omega, rfl⟩⟩

/-- Copies are one behind the other. -/
theorem eq_row_of_ofDatum (h : ofDatum allocates row (.int n) = .ok a) :
    a = .row (List.replicate n row).flatten := by
  by_cases hn : n = 1
  · subst hn
    have hone : ofDatum allocates row (.int 1) = .ok a := h
    rw [ofDatum_one] at hone
    cases hone
    simp
  · exact ((ofDatum_eq_ok_iff hn).1 h).2.2.2.symm

end Tiling

namespace SampleLibrary

/-! ### The library in memory -/

variable {row b : List Int} {n : Nat}

theorem zeros_eq_ok_iff :
    zeros allocates n = .ok row ↔ claimRoom allocates [n] = .ok () ∧ List.replicate n 0 = row := by
  simp [zeros, bind_eq_ok_iff, mapError_eq_ok_iff, Unique.exists_iff, pure, Except.pure]

theorem repeated_eq_ok_iff :
    repeated allocates row (.int n) = .ok b ↔
      repeatRoom allocates row.length n = .ok () ∧
        (row.flatMap fun s => List.replicate n s) = b := by
  simp [repeated, Datum.truncated_int, bind_eq_ok_iff, mapError_eq_ok_iff, Unique.exists_iff, pure,
    Except.pure]

/-- Where there is room for every sample so many times, they can be repeated. -/
theorem repeatRoom_of_room (hne : row ≠ [])
    (hall : claimRoom allocates [row.length * n] = .ok ()) :
    repeatRoom allocates row.length n = .ok () := by
  have hpos := List.length_pos_iff.2 hne
  obtain ⟨hfit, -⟩ := claimRoom_one_iff.1 hall
  have htimes : 1 * n ≤ row.length * n := Nat.mul_le_mul_right n hpos
  have hcount : countRepetitions n = .ok () := countRepetitions_eq_ok_iff.2 (by omega)
  have hwrap : wrapCount (row.length * n : Nat) = (row.length * n : Nat) :=
    wrapCount_natCast (by omega)
  have hnonneg : ¬ ((row.length * n : Nat) : Int) < 0 := Int.not_lt.2 (Int.natCast_nonneg _)
  rw [repeatRoom, hcount, ← Int.natCast_mul, hwrap]
  simp only [bind, Except.bind, if_neg hnonneg, Int.toNat_natCast, hall]

/-- **The library in memory does as documented**, where there is room for what the host allocates. -/
theorem standard_documented (allocates : Nat → Bool) :
    (standard allocates).Documented fun n => claimRoom allocates [n] = .ok () where
  exists_empty hroom := ⟨_, zeros_eq_ok_iff.2 ⟨hroom, rfl⟩⟩
  length_empty h := by
    obtain ⟨-, rfl⟩ := zeros_eq_ok_iff.1 h
    exact List.length_replicate
  fill_eq _ _ := rfl
  exists_tile := Tiling.exists_ofDatum
  tile_eq := Tiling.eq_row_of_ofDatum
  exists_repeatEach hne _ hall := ⟨_, repeated_eq_ok_iff.2 ⟨repeatRoom_of_room hne hall, rfl⟩⟩
  repeatEach_eq h := (repeated_eq_ok_iff.1 h).2.symm

end SampleLibrary

end ChipEight
