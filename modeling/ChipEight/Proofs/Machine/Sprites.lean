import ChipEight.Machine.Exec
import Mathlib.Data.List.Nodup

/-!
# Where sprites fall

A sprite is eight pixels wide and at most fifteen high, on a screen of 64 by 32. So it never falls
on a cell twice, not even where it wraps around, and drawing it flips each of its cells once. A
sprite that fits between the upper left corner and the edges meets no edge, so that it does not
matter to it whether pixels beyond the edges are dropped or wrap around.

## Main results

- `Sprite.nodup_cells`: a sprite falls on each cell once at most.
- `Sprite.cells_of_fits`: a sprite that meets no edge falls on the same cells with and without
  clipping.
- `Display.pixel_flipAll`, `Display.dirty_flipAll`: the picture after flipping cells.
- `Display.exists_pixel_flipAll_ne_iff`: flipping different cells can be seen, unless there are none.
-/

namespace ChipEight

namespace Sprite

/-! ### Where one pixel falls -/

/-- A pixel that is not dropped falls on its coordinate, taken modulo the size of the axis. -/
theorem val_of_place?_eq_some {clipping : Bool} {n : Nat} {positive : 0 < n} {p : Nat} {k : Fin n}
    (h : place? clipping n positive p = some k) : k.val = p % n := by
  rw [place?] at h
  split at h
  · cases h
  · cases h
    rfl

/-- A pixel between the edges is never dropped, and falls where it is. -/
theorem place?_of_lt (clipping : Bool) {n : Nat} (positive : 0 < n) {p : Nat} (hp : p < n) :
    place? clipping n positive p = some ⟨p, hp⟩ := by
  have hle : ¬ n ≤ p := by omega
  simp [place?, hle, Nat.mod_eq_of_lt hp]

theorem cell?_eq_some {clipping : Bool} {x y : Nat} {c : Cell} (h : cell? clipping x y = some c) :
    c.x.val = x % 64 ∧ c.y.val = y % 32 := by
  simp only [cell?, Option.bind_eq_bind, Option.bind_eq_some_iff, Option.pure_def,
    Option.some.injEq] at h
  obtain ⟨cx, hx, cy, hy, rfl⟩ := h
  exact ⟨val_of_place?_eq_some hx, val_of_place?_eq_some hy⟩

theorem cell?_of_lt (clipping : Bool) {x y : Nat} (hx : x < 64) (hy : y < 32) :
    cell? clipping x y = some ⟨⟨x, hx⟩, ⟨y, hy⟩⟩ := by
  have hcx : place? clipping 64 Display.width_pos x = some ⟨x, hx⟩ := place?_of_lt clipping _ hx
  have hcy : place? clipping 32 Display.height_pos y = some ⟨y, hy⟩ := place?_of_lt clipping _ hy
  simp only [cell?, hcx, hcy]
  rfl

/-! ### Where a sprite falls -/

theorem mem_rowCells {clipping : Bool} {x y : Nat} {row : UInt8} {c : Cell} :
    c ∈ rowCells clipping x y row ↔
      ∃ column < 8, isSet row column = true ∧ cell? clipping (x + column) y = some c := by
  simp [rowCells, and_assoc]

/-- Eight columns in a row of 64 are different, wherever the row is entered. -/
theorem nodup_rowCells (clipping : Bool) (x y : Nat) (row : UInt8) :
    (rowCells clipping x y row).Nodup := by
  have hcolumns : ((List.range 8).filter (isSet row)).Pairwise (· < ·) :=
    List.pairwise_lt_range.filter _
  have hlt : ∀ column ∈ (List.range 8).filter (isSet row), column < 8 := fun column h =>
    List.mem_range.1 (List.mem_filter.1 h).1
  rw [rowCells, List.Nodup, List.pairwise_filterMap]
  refine hcolumns.imp_of_mem fun {i j} hi hj hij c hc e he heq => ?_
  have hx := (cell?_eq_some hc).1
  have hx' := (cell?_eq_some he).1
  have hi8 := hlt i hi
  have hj8 := hlt j hj
  rw [heq] at hx
  omega

/-- **A sprite falls on each cell once at most.** No more than 32 rows come into 32 different
lines. -/
theorem nodup_cells (clipping : Bool) (x y : Nat) {rows : List UInt8} (h : rows.length ≤ 32) :
    (cells clipping x y rows).Nodup := by
  rw [cells, List.nodup_flatMap]
  refine ⟨fun p _ => nodup_rowCells clipping x (y + p.2) p.1, ?_⟩
  rw [List.pairwise_iff_getElem]
  intro i j hi hj hij
  rw [List.length_zipIdx] at hi hj
  simp only [Function.onFun, List.getElem_zipIdx, List.disjoint_left, mem_rowCells]
  rintro c ⟨k, -, -, hk⟩ ⟨l, -, -, hl⟩
  have hy := (cell?_eq_some hk).2
  have hy' := (cell?_eq_some hl).2
  omega

/-- **A sprite that meets no edge** falls on the same cells with and without clipping. -/
theorem cells_of_fits (c e : Bool) {x y : Nat} {rows : List UInt8} (hx : x + 8 ≤ 64)
    (hy : y + rows.length ≤ 32) : cells c x y rows = cells e x y rows := by
  have hrow : ∀ p ∈ rows.zipIdx, rowCells c x (y + p.2) p.1 = rowCells e x (y + p.2) p.1 := by
    intro p hp
    have hp32 : y + p.2 < 32 := by
      have := List.snd_lt_of_mem_zipIdx hp
      omega
    refine List.filterMap_congr fun column hcolumn => ?_
    have hlt : column < 8 := List.mem_range.1 (List.mem_filter.1 hcolumn).1
    rw [cell?_of_lt c (by omega) hp32, cell?_of_lt e (by omega) hp32]
  rw [cells, cells, List.flatMap, List.flatMap, List.map_congr_left hrow]

end Sprite

namespace Machine

theorem length_spriteRows (m : Machine) (n : Nat) : (m.spriteRows n).length = n := by
  simp [spriteRows]

theorem nodup_spriteCells (m : Machine) (x y : Reg) (rows : Fin 16) :
    (m.spriteCells x y rows.val).Nodup := by
  refine Sprite.nodup_cells _ _ _ ?_
  rw [length_spriteRows]
  omega

end Machine

/-! ### What flipping leaves -/

namespace Display

/-- Flipping different cells inverts them, and no other one. -/
theorem pixel_flipAll (d : Display) {cs : List Cell} (h : cs.Nodup) (c : Cell) :
    (d.flipAll cs).1.pixel c = if c ∈ cs then !d.pixel c else d.pixel c := by
  induction cs generalizing d with
  | nil => rfl
  | cons e cs ih =>
    obtain ⟨hnot, hrest⟩ := List.nodup_cons.1 h
    simp only [flipAll, ih _ hrest, pixel_flip, List.mem_cons]
    by_cases hce : c = e
    · subst hce
      simp [hnot]
    · simp [hce, Ne.symm hce]

theorem dirty_flipAll (d : Display) (cs : List Cell) :
    (d.flipAll cs).1.dirty = (d.dirty || !cs.isEmpty) := by
  induction cs generalizing d with
  | nil => simp [flipAll]
  | cons c cs ih => simp [flipAll, ih]

/-- Flipping different cells can be seen, unless there are none. -/
theorem exists_pixel_flipAll_ne_iff (d : Display) {cs : List Cell} (h : cs.Nodup) :
    (∃ c, (d.flipAll cs).1.pixel c ≠ d.pixel c) ↔ cs ≠ [] := by
  simp only [d.pixel_flipAll h, ne_eq, ite_eq_right_iff, Bool.not_eq_self, imp_false, not_not]
  exact ⟨fun ⟨_, hc⟩ => List.ne_nil_of_mem hc, List.exists_mem_of_ne_nil cs⟩

end Display

end ChipEight
