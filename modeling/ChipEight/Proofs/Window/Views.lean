import ChipEight.Console
import ChipEight.Proofs.Machine.Bytes
import ChipEight.Window
import Mathlib.Data.List.Nodup
import Mathlib.Data.Set.Card

/-!
# All views show the same picture

The pixels of a display are looked at in four ways. As an array of colours they are told column by
column; on a surface, which is painted over from frame to frame, and as a text they are told row by
row; and a number tells how many are lit. In each of these the place that belongs to a cell shows
the pixel of that cell, and nothing else.

Arrays and surfaces are those of a library, of which nothing is assumed but what is documented: where
the values of an array stand when it is cut, looked up and turned around, and that copying an array
onto a surface covers the whole surface. So it does not matter what was painted before.

## Main definitions

- `PictureLibrary.Documented`: what is documented of a library.
- `Colour.number`: the number that a colour is written as.
- `Renderer.after`: a renderer after a row of frames.
- `Text.charAt?`: the character of a text at a column of a line.

## Main results

- `PictureLibrary.standard_documented`: there is such a library.
- `Palette.get_columns`: the array of colours, cell by cell.
- `Renderer.colourAt_render_after`: the surface, cell by cell, after any frames.
- `Display.charAt?_text`: the text, cell by cell.
- `Display.litCount_eq`: the number of lit cells.
- `views_agree`: all of them together.
-/

namespace ChipEight

/-! ### The library -/

/-- What is documented of a library of arrays and surfaces, told by the places of values. -/
structure PictureLibrary.Documented (lib : PictureLibrary) : Prop where
  /-- An array is filled row by row. -/
  reshape_get : ∀ {h w : Nat} (v : Vector Bool (h * w)) (y : Fin h) (x : Fin w),
    ((lib.reshape h w v).get y).get x = v.get ⟨y.val * w + x.val, place_lt y x⟩
  /-- A palette is looked up value by value. -/
  lookUp_get : ∀ {h w : Nat} (p : Palette) (rows : Vector (Vector Bool w) h) (y : Fin h)
    (x : Fin w), ((lib.lookUp p rows).get y).get x = p.colour ((rows.get y).get x)
  /-- The two places of a value are exchanged. -/
  transpose_get : ∀ {h w : Nat} (rows : Vector (Vector Colour w) h) (x : Fin w) (y : Fin h),
    ((lib.transpose rows).get x).get y = (rows.get y).get x
  /-- A column of the array is a column of the surface. -/
  blit_get : ∀ (s : Surface) (columns : Vector (Vector Colour 32) 64) (c : Cell),
    (lib.blit s columns).colourAt c = (columns.get c.x).get c.y

/-! ### Cells in a row -/

theorem get_eq_getElem {α : Type} {n : Nat} (v : Vector α n) (i : Fin n) :
    v.get i = getElem v i.val i.isLt := rfl

theorem Cell.nodup_all : Cell.all.Nodup := by
  refine List.nodup_flatMap.2 ⟨?_, ?_⟩
  · intro y _
    refine (List.nodup_finRange 64).map ?_
    intro x x' h
    exact congrArg Cell.x h
  · refine (List.nodup_finRange 32).imp ?_
    intro y y' hne c hc hc'
    obtain ⟨x, -, rfl⟩ := List.mem_map.1 hc
    obtain ⟨x', -, h⟩ := List.mem_map.1 hc'
    exact hne (congrArg Cell.y h).symm

namespace Display

variable {d e : Display}

theorem get_cell (d : Display) (c : Cell) : d.get c.x.val c.y.val = .ok (d.pixel c) := by
  rw [get, Cell.ofInts_val]
  rfl

/-- The pixels in one row stand where their rows and columns put them. -/
theorem get_cells (d : Display) (c : Cell) :
    d.cells.get ⟨c.y.val * 64 + c.x.val, place_lt c.y c.x⟩ = d.pixel c := by
  have hx := c.x_lt
  have hrow : (c.y.val * 64 + c.x.val) / 64 = c.y.val := by omega
  have hcolumn : (c.y.val * 64 + c.x.val) % 64 = c.x.val := by omega
  rw [get_eq_getElem]
  simp only [cells, Vector.getElem_flatten, hrow, hcolumn]
  rfl

end Display

/-! ### The array of colours -/

/-- The number that a colour is written as, red highest. -/
def Colour.number (c : Colour) : Nat :=
  65536 * c.red.toNat + 256 * c.green.toNat + c.blue.toNat

/-- The colour of an integer is told by the lowest 24 bits. -/
theorem Colour.number_ofInt (k : Int) : ((Colour.ofInt k).number : Int) = k % 2 ^ 24 := by
  have hred := toNat_byte_ofInt (k / 65536)
  have hgreen := toNat_byte_ofInt (k / 256)
  have hblue := toNat_byte_ofInt k
  simp only [number, ofInt]
  omega

section

variable {lib : PictureLibrary} (hlib : lib.Documented)
include hlib

/-- **The array of colours, cell by cell.** -/
theorem Palette.get_columns (p : Palette) (d : Display) (c : Cell) :
    ((p.columns lib d).get c.x).get c.y = p.colour (d.pixel c) := by
  rw [columns, hlib.transpose_get, hlib.lookUp_get, hlib.reshape_get, d.get_cells c]

end

/-! ### The surface -/

namespace Surface

theorem colourAt_put (s : Surface) (c e : Cell) (k : Colour) :
    (s.put c k).colourAt e = if c = e then k else s.colourAt e := by
  obtain ⟨cx, cy⟩ := c
  obtain ⟨ex, ey⟩ := e
  simp only [put, colourAt, get_eq_getElem, Vector.getElem_set, Cell.mk.injEq, ← Fin.val_inj]
  by_cases hy : cy.val = ey.val
  · by_cases hx : cx.val = ex.val <;> simp [hx, hy]
  · simp [hy]

/-- Cells that are painted show what they are painted with, the others what they showed before. -/
theorem colourAt_foldl_put (f : Cell → Colour) (e : Cell) (cs : List Cell) (s : Surface) :
    (cs.foldl (fun s c => s.put c (f c)) s).colourAt e =
      if e ∈ cs then f e else s.colourAt e := by
  induction cs generalizing s with
  | nil => simp
  | cons c cs ih =>
    rw [List.foldl_cons, ih, colourAt_put]
    by_cases hlater : e ∈ cs
    · simp [hlater]
    · by_cases hnow : c = e
      · simp [hnow]
      · simp [hlater, hnow, Ne.symm hnow]

/-- **What is painted replaces what was there**, at every cell. -/
theorem colourAt_paint (s : Surface) (columns : Vector (Vector Colour 32) 64) (c : Cell) :
    (s.paint columns).colourAt c = (columns.get c.x).get c.y := by
  rw [paint, colourAt_foldl_put, if_pos c.mem_all]

end Surface

/-- A library that works entry by entry and cell by cell does what is documented. -/
theorem PictureLibrary.standard_documented : standard.Documented where
  reshape_get v y x := by simp [standard, get_eq_getElem]
  lookUp_get p rows y x := by simp [standard, get_eq_getElem]
  transpose_get rows x y := by simp [standard, get_eq_getElem]
  blit_get s columns c := by simp only [standard, Surface.colourAt_paint]

namespace Renderer

/-- A renderer after a row of frames. -/
def after (r : Renderer) (frames : List Display) : Renderer :=
  frames.foldl (fun r d => (r.render d).1) r

/-- Frames leave the library and the palette as they are. -/
theorem exists_surface_after (r : Renderer) (frames : List Display) :
    ∃ surface, r.after frames = { r with surface := surface } := by
  induction frames generalizing r with
  | nil => exact ⟨r.surface, rfl⟩
  | cons d frames ih => exact ih (r.render d).1

/-- The surface of a frame shows the array of its colours, whatever was painted before. -/
theorem colourAt_render_after {lib : PictureLibrary} (hlib : lib.Documented) (p : Palette)
    (frames : List Display) (d : Display) (c : Cell) :
    (((new lib p).after frames).render d).2.1.colourAt c =
      ((p.columns lib d).get c.x).get c.y := by
  obtain ⟨surface, hafter⟩ := (new lib p).exists_surface_after frames
  rw [hafter]
  exact hlib.blit_get _ _ c

end Renderer

/-! ### The text -/

/-- The character of a text at a column of a line. -/
def Text.charAt? (text : String) (x y : Nat) : Option Char :=
  (text.toList.splitOn '\n')[y]?.bind (·[x]?)

namespace Display

/-- The text consists of its lines. -/
theorem splitOn_text (d : Display) :
    d.text.toList.splitOn '\n' =
      d.rows.toList.map fun row => row.toList.map fun b => if b then '#' else '.' := by
  have hlines : d.lines.map String.toList =
      d.rows.toList.map fun row => row.toList.map fun b => if b then '#' else '.' := by
    rw [lines, List.map_map]
    refine List.map_congr_left fun row _ => ?_
    exact String.toList_ofList
  rw [text, String.toList_intercalate, hlines]
  refine List.splitOn_intercalate '\n' ?_ ?_
  · intro line hline
    obtain ⟨row, -, rfl⟩ := List.mem_map.1 hline
    intro hmem
    obtain ⟨b, -, hb⟩ := List.mem_map.1 hmem
    cases b <;> cases hb
  · rw [Ne, List.map_eq_nil_iff, ← List.length_eq_zero_iff, Vector.length_toList]
    decide

/-- **The text, cell by cell.** -/
theorem charAt?_text (d : Display) (c : Cell) :
    Text.charAt? d.text c.x.val c.y.val = some (if d.pixel c then '#' else '.') := by
  rw [Text.charAt?, splitOn_text]
  simp [pixel]
  rfl

/-! ### The number of lit pixels -/

theorem cells_eq_map (d : Display) :
    d.rows.toList.flatMap Vector.toList = Cell.all.map d.pixel := by
  have hrow : ∀ y : Fin 32, (List.finRange 64).map (fun x => d.pixel ⟨x, y⟩) =
      (d.rows[y.val]).toList := by
    intro y
    refine List.ext_getElem (by simp) fun x _ _ => ?_
    simp [pixel]
  have hrows : (List.finRange 32).map (fun y => d.rows[y.val]) = d.rows.toList := by
    refine List.ext_getElem (by simp) fun y _ _ => ?_
    simp
  rw [Cell.all, List.map_flatMap, ← hrows, List.flatMap_map]
  refine List.flatMap_congr fun y _ => ?_
  rw [List.map_map, ← hrow]
  rfl

/-- **The number of lit cells.** -/
theorem litCount_eq (d : Display) : d.litCount = {c : Cell | d.pixel c = true}.ncard := by
  have hset : {c : Cell | d.pixel c = true} = ((Cell.all.filter d.pixel).toFinset : Set Cell) := by
    ext c
    simp [c.mem_all]
  rw [hset, Set.ncard_coe_finset, List.toFinset_card_of_nodup (Cell.nodup_all.filter _), litCount,
    cells_eq_map, List.count, List.countP_map, List.countP_eq_length_filter]
  refine congrArg (fun p => (Cell.all.filter p).length) ?_
  funext c
  simp

end Display

/-! ### All views -/

/-- Two colours are told apart by their numbers. -/
theorem Colour.ofInt_ne {a b : Int} (h : a % 2 ^ 24 ≠ b % 2 ^ 24) :
    Colour.ofInt a ≠ Colour.ofInt b := by
  intro heq
  have hnumber := congrArg (fun c : Colour => (c.number : Int)) heq
  simp only [Colour.number_ofInt] at hnumber
  exact h hnumber

/-- If the colours differ, the array of colours tells the pixels. -/
theorem Palette.columns_inj {lib : PictureLibrary} (hlib : lib.Documented) {p : Palette}
    (hp : p.background ≠ p.foreground) {d e : Display} :
    p.columns lib d = p.columns lib e ↔ ∀ c, d.pixel c = e.pixel c := by
  constructor
  · intro h c
    have hcolour := p.get_columns hlib d c
    rw [h, p.get_columns hlib, colour, colour] at hcolour
    cases hd : d.pixel c <;> cases he : e.pixel c
    · rfl
    · rw [hd, he] at hcolour
      exact absurd hcolour.symm hp
    · rw [hd, he] at hcolour
      exact absurd hcolour hp
    · rfl
  · intro h
    rw [columns, columns, Display.cells, Display.cells, Display.rows_ext h]

/-- **All views show the same picture**, for every display and every two integers as colours, on any
library that does what is documented.

For each cell, the array of colours has the colour that belongs to the pixel, at the place of the
cell column by column. The surface shows that colour at the cell, also if it was painted with any
other frames before. In the text the character at the column in the line tells whether the pixel is
lit; there are 32 lines of 64 characters. The number of lit pixels is the number of cells that are
lit. To look at a picture changes nothing. If the lowest 24 bits of the two integers differ, the
arrays of two displays are equal only if all their pixels are. -/
theorem views_agree {lib : PictureLibrary} (hlib : lib.Documented) (background foreground : Int)
    (d : Display) :
    let p := Palette.ofInts background foreground
    (∀ c : Cell, d.get c.x.val c.y.val = .ok (d.pixel c) ∧
      ((p.columns lib d).get c.x).get c.y =
        Colour.ofInt (if d.pixel c then foreground else background) ∧
      (∀ frames : List Display, (((Renderer.new lib p).after frames).render d).2.1.colourAt c =
        Colour.ofInt (if d.pixel c then foreground else background)) ∧
      Text.charAt? d.text c.x.val c.y.val = some (if d.pixel c then '#' else '.')) ∧
    (∀ k : Int, ((Colour.ofInt k).number : Int) = k % 2 ^ 24) ∧
    (d.text.toList.splitOn '\n').map List.length = List.replicate 32 64 ∧
    d.litCount = {c : Cell | d.pixel c = true}.ncard ∧
    (∀ c : Console, c.machine.display = d →
      c.perform .text = (c, { reply := .text d.text }) ∧ (c.perform .describe).1 = c) ∧
    (∀ w : Window, (w.render d).1.machine = w.machine) ∧
    (background % 2 ^ 24 ≠ foreground % 2 ^ 24 →
      ∀ e : Display, p.columns lib d = p.columns lib e ↔ ∀ c, d.pixel c = e.pixel c) := by
  intro p
  have hcolour : ∀ c : Cell, ((p.columns lib d).get c.x).get c.y =
      Colour.ofInt (if d.pixel c then foreground else background) := by
    intro c
    rw [p.get_columns hlib, Palette.colour, apply_ite Colour.ofInt]
    rfl
  refine ⟨?_, Colour.number_ofInt, ?_, d.litCount_eq, ?_, fun w => rfl, ?_⟩
  · intro c
    refine ⟨d.get_cell c, hcolour c, ?_, d.charAt?_text c⟩
    intro frames
    rw [Renderer.colourAt_render_after hlib, hcolour]
  · rw [Display.splitOn_text, List.map_map, List.eq_replicate_iff]
    refine ⟨by simp, ?_⟩
    intro n hn
    obtain ⟨row, -, rfl⟩ := List.mem_map.1 hn
    simp
  · rintro c rfl
    exact ⟨rfl, rfl⟩
  · intro hne e
    exact Palette.columns_inj hlib (Colour.ofInt_ne hne)

/-- One pixel in the upper right corner: it is at the same place in every view. -/
theorem views_agree_corner :
    let lib := PictureLibrary.standard
    let p := Palette.ofInts 0x101010 0x33FF66
    let d := Display.fresh.flip ⟨63, 0⟩
    lib.Documented ∧ (0x101010 : Int) % 2 ^ 24 ≠ 0x33FF66 % 2 ^ 24 ∧
      ((p.columns lib d).get 63).get 0 = Colour.ofInt 0x33FF66 ∧
      (((Renderer.new lib p).after [.fresh, d]).render d).2.1.colourAt ⟨63, 0⟩ =
        Colour.ofInt 0x33FF66 ∧
      Text.charAt? d.text 63 0 = some '#' ∧ p.columns lib d ≠ p.columns lib .fresh := by
  intro lib p d
  have hlib : lib.Documented := PictureLibrary.standard_documented
  have hlit : d.pixel ⟨63, 0⟩ = true := by decide +kernel
  have hdark : Display.fresh.pixel ⟨63, 0⟩ = false := by decide +kernel
  have hne : (0x101010 : Int) % 2 ^ 24 ≠ 0x33FF66 % 2 ^ 24 := by decide
  obtain ⟨hcells, -, -, -, -, -, htell⟩ := views_agree hlib 0x101010 0x33FF66 d
  obtain ⟨-, harray, hsurface, htext⟩ := hcells ⟨63, 0⟩
  rw [hlit] at harray hsurface htext
  refine ⟨hlib, hne, harray, hsurface _, htext, ?_⟩
  intro hsame
  have hpixel := (htell hne .fresh).1 hsame ⟨63, 0⟩
  rw [hlit, hdark] at hpixel
  cases hpixel

end ChipEight
