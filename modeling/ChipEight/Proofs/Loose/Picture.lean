import ChipEight.Proofs.Loose.Counterpart

/-!
# The loose picture

The loose machine draws pixel by pixel: row by row, and in each row column by column, it finds the
place of a pixel and flips what is stored there. The machine collects the cells of a sprite first
and flips them in order. Both leave the same picture and see the same collisions.

## Main definitions

- `Cell.place`: the place of a cell, row by row.
- `Sprite.columnCells`: the cells that columns of a sprite row fall on.

## Main results

- `Loose.does_readPixel`, `Loose.does_xorPixel_ok`, `Loose.does_clear`: one pixel, and all of them.
- `Loose.does_drawSprite`: drawing.
-/

namespace ChipEight

/-! ### Pixels by place -/

namespace Cell

/-- The place of a cell, row by row. -/
def place (c : Cell) : Nat :=
  c.y.val * 64 + c.x.val

theorem place_lt (c : Cell) : c.place < 2048 := by
  have hx := c.x.isLt
  have hy := c.y.isLt
  simp only [place]
  omega

theorem ofPlace_eq_iff {c : Cell} {k : Nat} (h : k < 2048) : ofPlace k = c ↔ k = c.place := by
  have hx := c.x.isLt
  have hy := c.y.isLt
  simp only [ofPlace, place, Cell.ext_iff, Fin.ext_iff, Fin.val_ofNat]
  omega

end Cell

namespace Display

theorem loosePixels_eq_map (d : Display) :
    d.loosePixels = (List.range 2048).map fun k => ((d.pixel (.ofPlace k)).toNat : Int) := by
  unfold loosePixels
  rfl

/-- The flag is not among the pixels. -/
theorem loosePixels_congr {d e : Display} (h : d.rows = e.rows) :
    d.loosePixels = e.loosePixels := by
  have hpixel : ∀ c, d.pixel c = e.pixel c := by
    intro c
    rw [pixel, pixel, h]
  rw [loosePixels_eq_map, loosePixels_eq_map]
  simp only [hpixel]

theorem length_loosePixels (d : Display) : d.loosePixels.length = 2048 := by
  rw [loosePixels_eq_map, List.length_map, List.length_range]

theorem getElem_loosePixels (d : Display) {k : Nat} (h : k < d.loosePixels.length) :
    d.loosePixels[k] = (d.pixel (.ofPlace k)).toNat := by
  rw [List.getElem_of_eq d.loosePixels_eq_map h, List.getElem_map, List.getElem_range]

/-- Flipping a cell stores the other bit at its place. -/
theorem loosePixels_set (d : Display) (c : Cell) :
    d.loosePixels.set c.place (!d.pixel c).toNat = (d.flip c).loosePixels := by
  apply List.ext_getElem
  · rw [List.length_set, length_loosePixels, length_loosePixels]
  intro k hk _
  rw [List.length_set, length_loosePixels] at hk
  rw [List.getElem_set, getElem_loosePixels, getElem_loosePixels, pixel_flip]
  have hiff := Cell.ofPlace_eq_iff (c := c) hk
  by_cases h : c.place = k
  · rw [if_pos h, if_pos (hiff.2 h.symm).symm, hiff.2 h.symm]
  · rw [if_neg h, if_neg fun hc => h (hiff.1 hc.symm).symm]

/-- A picture without a lit pixel. -/
theorem loosePixels_of_dark {d : Display} (h : ∀ c, d.pixel c = false) :
    d.loosePixels = List.replicate 2048 0 := by
  apply List.ext_getElem
  · rw [length_loosePixels, List.length_replicate]
  intro k _ _
  rw [getElem_loosePixels, h, List.getElem_replicate]
  rfl

/-- Flipping in two portions. -/
theorem flipAll_append (d : Display) (as bs : List Cell) :
    d.flipAll (as ++ bs) =
      (((d.flipAll as).1.flipAll bs).1, (d.flipAll as).2 || ((d.flipAll as).1.flipAll bs).2) := by
  induction as generalizing d with
  | nil => simp [flipAll]
  | cons a as ih => simp [flipAll, ih, Bool.or_assoc]

end Display

namespace Loose

variable {m n : Machine}

theorem does_offset (m : Machine) (x y : Int) :
    (offset x y).Does m
      (((Cell.ofInts x y).map fun c => (c.place : Int)).mapError .grid) m := by
  rw [offset, Cell.ofInts]
  split
  next h =>
    have hplace : y * 64 + x =
        ((Cell.mk ⟨x.toNat, by omega⟩ ⟨y.toNat, by omega⟩).place : Int) := by
      simp only [Cell.place]
      omega
    rw [hplace]
    exact does_pure _ m
  next => exact does_refuse _ m

theorem does_clear (m : Machine) : clear.Does m (.ok ()) { m with display := m.display.clear } := by
  rw [Op.Does, clear, ← Display.loosePixels_of_dark m.display.pixel_clear]
  rfl

theorem does_lower (m : Machine) :
    (change fun s => { s with dirty := false }).Does m (.ok ())
      { m with display := m.display.consume } := by
  have hpixels : m.display.consume.loosePixels = m.display.loosePixels :=
    Display.loosePixels_congr rfl
  have hloose : { m.loose with pixels := m.display.consume.loosePixels, dirty := false } =
      Machine.loose { m with display := m.display.consume } := rfl
  rw [hpixels] at hloose
  exact congrArg (Prod.mk (Except.ok ())) hloose

theorem fetchAt_loosePixels (d : Display) (c : Cell) :
    fetchAt d.loosePixels c.place = .ok (d.pixel c).toNat := by
  have hlen : c.place < d.loosePixels.length := by
    rw [Display.length_loosePixels]
    exact c.place_lt
  rw [fetchAt_natCast hlen, Display.getElem_loosePixels, (Cell.ofPlace_eq_iff c.place_lt).2 rfl]

theorem storeAt_loosePixels (d : Display) (c : Cell) :
    storeAt d.loosePixels c.place (Int.xor (d.pixel c).toNat 1) = .ok (d.flip c).loosePixels := by
  have hlen : c.place < d.loosePixels.length := by
    rw [Display.length_loosePixels]
    exact c.place_lt
  have hlt := c.place_lt
  have hbit : Int.xor (d.pixel c).toNat 1 = ((UInt8.ofNat (!d.pixel c).toNat).toNat : Int) := by
    cases d.pixel c <;> rfl
  rw [hbit, storeAt_natCast hlen (by omega), ← Display.loosePixels_set]
  cases d.pixel c <;> rfl

theorem does_readPlace (m : Machine) (c : Cell) :
    (read .pixels c.place).Does m (.ok (m.display.pixel c).toNat) m :=
  does_read (fetchAt_loosePixels m.display c)

theorem does_storePixel (m : Machine) (c : Cell) :
    (storePixel c.place (Int.xor (m.display.pixel c).toNat 1)).Does m (.ok ())
      { m with display := m.display.flip c } := by
  -- The flag is raised after the pixel is stored.
  let stored : Machine := { m with display := { m.display.flip c with dirty := m.display.dirty } }
  have hpixels : stored.display.loosePixels = (m.display.flip c).loosePixels :=
    Display.loosePixels_congr rfl
  have hstore : (write .pixels c.place (Int.xor (m.display.pixel c).toNat 1)).Does m (.ok ())
      stored := by
    refine does_write (storeAt_loosePixels m.display c) ?_
    rw [← hpixels]
    rfl
  refine hstore.bind ?_
  have hloose : { stored.loose with pixels := stored.display.loosePixels, dirty := true } =
      Machine.loose { m with display := m.display.flip c } := by
    rw [hpixels]
    rfl
  exact congrArg (Prod.mk (Except.ok ())) hloose

theorem does_readPixel (m : Machine) (x y : Int) :
    (readPixel x y).Does m
      (((m.display.get x y).map fun b => (b.toNat : Int)).mapError .grid) m := by
  have hoffset := does_offset m x y
  rw [Display.get]
  cases hc : Cell.ofInts x y with
  | error e =>
    rw [hc] at hoffset
    exact hoffset.stop _
  | ok c =>
    rw [hc] at hoffset
    exact hoffset.bind (does_readPlace m c)

theorem does_xorPixel_ok {x y bit : Int} {d : Display} {hit : Bool}
    (h : m.display.xor x y bit = .ok (d, hit)) :
    (xorPixel x y bit).Does m (.ok hit) { m with display := d } := by
  have hoffset := does_offset m x y
  rw [Display.xor] at h
  cases hc : Cell.ofInts x y with
  | error e =>
    rw [hc] at h
    cases h
  | ok c =>
    rw [hc] at h hoffset
    refine hoffset.bind ?_
    by_cases hbit : bit % 2 = 0
    · simp only [Except.map, if_pos hbit] at h
      cases h
      rw [if_pos hbit]
      exact does_pure false m
    · simp only [Except.map, if_neg hbit] at h
      cases h
      rw [if_neg hbit]
      refine (does_readPlace m c).bind ((does_storePixel m c).bind ?_)
      have hone : decide (((m.display.pixel c).toNat : Int) = 1) = m.display.pixel c := by
        cases m.display.pixel c <;> rfl
      rw [hone]
      exact does_pure _ _

theorem does_xorPixel_error {x y bit : Int} {e : OutsideGrid}
    (h : m.display.xor x y bit = .error e) :
    (xorPixel x y bit).Does m (.error (.grid e)) m := by
  have hoffset := does_offset m x y
  rw [Display.xor] at h
  cases hc : Cell.ofInts x y with
  | error e =>
    rw [hc] at h hoffset
    cases h
    exact hoffset.stop _
  | ok c =>
    rw [hc] at h
    cases h

end Loose

/-! ### Sprites by rows and columns -/

namespace Sprite

/-- The cells that columns of a sprite row fall on. -/
def columnCells (clipping : Bool) (x : Nat) (cy : Fin 32) (row : UInt8) (cs : List Nat) :
    List Cell :=
  (cs.filter (isSet row)).filterMap fun c =>
    (place? clipping 64 Display.width_pos (x + c)).map fun cx => ⟨cx, cy⟩

theorem columnCells_cons (clipping : Bool) (x : Nat) (cy : Fin 32) (row : UInt8) (c : Nat)
    (cs : List Nat) :
    columnCells clipping x cy row (c :: cs) =
      columnCells clipping x cy row [c] ++ columnCells clipping x cy row cs := by
  rw [← List.singleton_append, columnCells, List.filter_append, List.filterMap_append]
  rfl

theorem columnCells_singleton (clipping : Bool) (x : Nat) (cy : Fin 32) (row : UInt8) (c : Nat) :
    columnCells clipping x cy row [c] =
      if isSet row c then
        ((place? clipping 64 Display.width_pos (x + c)).map fun cx => ⟨cx, cy⟩).toList
      else [] := by
  cases hset : isSet row c <;> cases hp : place? clipping 64 Display.width_pos (x + c) <;>
    simp [columnCells, hset, hp]

theorem rowCells_of_place? {clipping : Bool} {y : Nat} {cy : Fin 32}
    (h : place? clipping 32 Display.height_pos y = some cy) (x : Nat) (row : UInt8) :
    rowCells clipping x y row = columnCells clipping x cy row (List.range 8) := by
  simp only [rowCells, columnCells, cell?, h]
  congr 1
  funext c
  cases place? clipping 64 Display.width_pos (x + c) <;> rfl

/-- A row that is dropped falls on no cell. -/
theorem rowCells_of_dropped {clipping : Bool} {y : Nat}
    (h : place? clipping 32 Display.height_pos y = none) (x : Nat) (row : UInt8) :
    rowCells clipping x y row = [] := by
  rw [rowCells, List.filterMap_eq_nil_iff]
  intro c _
  simp only [cell?, h]
  cases place? clipping 64 Display.width_pos (x + c) <;> rfl

theorem isSet_eq_false_iff (row : UInt8) (c : Nat) :
    (row.toNat : Int) / 2 ^ (7 - c) % 2 = 0 ↔ isSet row c = false := by
  rw [isSet, Nat.testBit_eq_decide_div_mod_eq, decide_eq_false_iff_not]
  norm_cast
  omega

end Sprite

namespace Loose

variable {m n : Machine}

theorem wrap?_natCast (clipping : Bool) (size : Nat) (positive : 0 < size) (p : Nat) :
    wrap? clipping size p =
      (Sprite.place? clipping size positive p).map fun c => (c.val : Int) := by
  rw [wrap?, Sprite.place?]
  by_cases h : size ≤ p
  · cases clipping <;> simp [h]
  · have hlt : p % size = p := Nat.mod_eq_of_lt (by omega)
    simp [h, hlt]

/-- A cell on the grid is flipped by combining an odd bit. -/
theorem xor_one (d : Display) (c : Cell) :
    d.xor c.x.val c.y.val 1 = .ok (d.flip c, d.pixel c) := by
  rw [Display.xor, Cell.ofInts_val]
  rfl

/-- One column of a row. -/
theorem does_drawColumn (m : Machine) (clipping : Bool) (x : Nat) (cy : Fin 32) (row : UInt8)
    (c : Nat) :
    let drawn := m.display.flipAll (Sprite.columnCells clipping x cy row [c])
    (drawColumn clipping x cy.val row.toNat c).Does m (.ok drawn.2)
      { m with display := drawn.1 } := by
  have hwrap := wrap?_natCast clipping 64 Display.width_pos (x + c)
  rw [Nat.cast_add] at hwrap
  have hset := Sprite.isSet_eq_false_iff row c
  rw [Sprite.columnCells_singleton]
  rw [drawColumn]
  rw [show wrap? clipping 64 _ = _ from hwrap]
  cases hp : Sprite.place? clipping 64 Display.width_pos (x + c) with
  | none =>
    have hnone : (if Sprite.isSet row c then ([] : List Cell) else []) = [] := by split <;> rfl
    simp only [Option.map_none, Option.toList_none, hnone]
    exact does_pure false m
  | some cx =>
    cases hbit : Sprite.isSet row c with
    | false =>
      simp only [Option.map_some, if_pos (hset.2 hbit)]
      exact does_pure false m
    | true =>
      have hodd : ¬ (row.toNat : Int) / 2 ^ (7 - c) % 2 = 0 := by
        rw [hset, hbit]
        decide
      simp only [Option.map_some, if_neg hodd]
      have hflip := does_xorPixel_ok (m := m) (xor_one m.display ⟨cx, cy⟩)
      simpa [Display.flipAll] using hflip

/-- Columns of a row in order. -/
theorem does_drawColumns (m : Machine) (clipping : Bool) (x : Nat) (cy : Fin 32) (row : UInt8)
    (cs : List Nat) :
    let drawn := m.display.flipAll (Sprite.columnCells clipping x cy row cs)
    (drawColumns clipping x cy.val row.toNat cs).Does m (.ok drawn.2)
      { m with display := drawn.1 } := by
  induction cs generalizing m with
  | nil => exact does_pure false m
  | cons c cs ih =>
    rw [Sprite.columnCells_cons, Display.flipAll_append]
    exact (does_drawColumn m clipping x cy row c).bind ((ih _).bind (does_pure _ _))

/-- The cells of a row of the sprite at the index register. -/
def rowOf (m : Machine) (clipping : Bool) (x y k : Nat) : List Cell :=
  Sprite.rowCells clipping x (y + k) (m.memory.read (m.registers.index.toNat + k))

theorem does_drawRow (m : Machine) (clipping : Bool) (x y k : Nat) :
    let drawn := m.display.flipAll (rowOf m clipping x y k)
    (drawRow clipping x y k).Does m (.ok drawn.2) { m with display := drawn.1 } := by
  have hwrap := wrap?_natCast clipping 32 Display.height_pos (y + k)
  rw [Nat.cast_add] at hwrap
  refine (does_see index m).bind ((does_readCell m _).bind ?_)
  rw [show wrap? clipping 32 _ = _ from hwrap]
  rw [rowOf]
  cases hp : Sprite.place? clipping 32 Display.height_pos (y + k) with
  | none =>
    rw [Sprite.rowCells_of_dropped hp]
    exact does_pure false m
  | some cy =>
    rw [Sprite.rowCells_of_place? hp]
    exact does_drawColumns m clipping x cy _ (List.range 8)

/-- Rows in order: drawing one moves neither the bytes of the next one nor the index register. -/
theorem does_drawRows (m : Machine) (clipping : Bool) (x y : Nat) (ks : List Nat) :
    let drawn := m.display.flipAll (ks.flatMap (rowOf m clipping x y))
    (drawRows clipping x y ks).Does m (.ok drawn.2) { m with display := drawn.1 } := by
  induction ks generalizing m with
  | nil => exact does_pure false m
  | cons k ks ih =>
    rw [List.flatMap_cons, Display.flipAll_append]
    exact (does_drawRow m clipping x y k).bind ((ih _).bind (does_pure _ _))

theorem zipIdx_map_range {α : Type} (f : Nat → α) (count : Nat) :
    ((List.range count).map f).zipIdx = (List.range count).map fun k => (f k, k) := by
  apply List.ext_getElem
  · simp
  · intro k _ _
    simp

theorem spriteCells_eq_flatMap (m : Machine) (x y : Reg) (count : Nat) :
    m.spriteCells x y count = (List.range count).flatMap
      (rowOf m m.dialect.clipping ((m.registers.get x).toNat % 64)
        ((m.registers.get y).toNat % 32)) := by
  rw [Machine.spriteCells, Sprite.cells, Machine.spriteRows, Memory.readBlock, Int.toNat_natCast,
    zipIdx_map_range, List.flatMap_map]
  rfl

/-- The flag is lowered before the rows are drawn, and raised after them if a lit pixel went off. -/
theorem does_raiseFlag (m : Machine) (d : Display) (hit : Bool) :
    Op.Does (if hit then setFlag 1 else pure ())
      { m.onRegisters fun r => r.set flagReg 0 with display := d } (.ok ())
      { m with display := d, registers := m.registers.set flagReg (if hit then 1 else 0) } := by
  cases hit with
  | false => exact does_pure () _
  | true =>
    have hset : (m.registers.set flagReg 0).set flagReg 1 = m.registers.set flagReg 1 := by
      simp only [Registers.set, Vector.set_set]
    have h := does_setFlag { m.onRegisters fun r => r.set flagReg 0 with display := d } (b := 1)
      (u := 1) rfl
    simp only [Machine.onRegisters, hset] at h
    exact h

/-- Lowering the flag moves nothing that the rows are drawn from. -/
theorem does_drawSprite (m : Machine) (x y : Reg) (count : Nat) :
    (drawSprite x.val y.val count).Does m (.ok ()) (m.draw x y count) := by
  have hlower := does_setFlag m (b := 0) (u := 0) rfl
  have hrows := does_drawRows (m.onRegisters fun r => r.set flagReg 0) m.dialect.clipping
    ((m.registers.get x).toNat % 64) ((m.registers.get y).toNat % 32) (List.range count)
  rw [Machine.draw, spriteCells_eq_flatMap]
  exact (does_reg m x).bind ((does_reg m y).bind (hlower.bind
    ((does_see _ _).bind (hrows.bind (does_raiseFlag m _ _)))))

end Loose

end ChipEight
