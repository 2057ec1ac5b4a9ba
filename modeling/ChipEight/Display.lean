/-!
# Display

The picture is a grid of 64 by 32 pixels, each on or off. Pixels are never overwritten, only
flipped, and a flag tells whether any pixel was written since the picture was last consumed.

## Main definitions

- `Cell`: a place on the grid.
- `Display`: the pixels, by rows, and the dirty flag.
- `Display.pixel`, `Display.flip`: one pixel; flipping a lit pixel is a collision.
- `Display.xor`: flipping by integer coordinates, refused outside the grid.
- `Display.flipAll`: flipping a list of cells in order, as drawing does.
-/

namespace ChipEight

/-- The number of columns of the picture. -/
def Display.width : Nat := 64

/-- The number of rows of the picture. -/
def Display.height : Nat := 32

theorem Display.width_pos : 0 < width := by decide

theorem Display.height_pos : 0 < height := by decide

/-- A place on the grid: column and row, counted from the upper left. -/
@[ext] structure Cell where
  x : Fin 64
  y : Fin 32
  deriving DecidableEq, Repr

theorem Cell.x_lt (c : Cell) : c.x.val < 64 := c.x.isLt

theorem Cell.y_lt (c : Cell) : c.y.val < 32 := c.y.isLt

/-- The coordinates of a cell lie on the grid. -/
theorem Cell.on_grid (c : Cell) :
    (0 ≤ (c.x.val : Int) ∧ (c.x.val : Int) < 64) ∧ (0 ≤ (c.y.val : Int) ∧ (c.y.val : Int) < 32) := by
  omega

/-- All cells, row by row. -/
def Cell.all : List Cell :=
  (List.finRange 32).flatMap fun y => (List.finRange 64).map fun x => ⟨x, y⟩

theorem Cell.mem_all (c : Cell) : c ∈ Cell.all := by
  simp only [Cell.all, List.mem_flatMap, List.mem_map, List.mem_finRange, true_and]
  exact ⟨c.y, c.x, rfl⟩

/-- The picture and its dirty flag. -/
@[ext] structure Display where
  rows : Vector (Vector Bool 64) 32
  /-- Whether a pixel was written since the picture was last consumed. -/
  dirty : Bool

/-- The complaint about coordinates outside the grid. -/
structure OutsideGrid where
  x : Int
  y : Int
  deriving DecidableEq, Repr

/-- The text of the complaint. -/
def OutsideGrid.message (e : OutsideGrid) : String :=
  "pixel (" ++ toString e.x ++ ", " ++ toString e.y ++ ") out of range [0, " ++
    toString Display.width ++ ") x [0, " ++ toString Display.height ++ ")"

/-- The cell at integer coordinates, if they lie on the grid. -/
def Cell.ofInts (x y : Int) : Except OutsideGrid Cell :=
  if h : (0 ≤ x ∧ x < 64) ∧ (0 ≤ y ∧ y < 32) then
    .ok ⟨⟨x.toNat, by omega⟩, ⟨y.toNat, by omega⟩⟩
  else
    .error ⟨x, y⟩

theorem Cell.ofInts_val (c : Cell) : Cell.ofInts c.x.val c.y.val = .ok c := by
  rw [Cell.ofInts, dif_pos (by omega)]
  rfl

namespace Display

/-- The rows of a picture without a lit pixel. -/
def blankRows : Vector (Vector Bool 64) 32 :=
  Vector.replicate 32 (Vector.replicate 64 false)

/-- The picture at power-on: blank, and not dirty. -/
def fresh : Display :=
  ⟨blankRows, false⟩

/-- Whether the pixel at a cell is on. -/
def pixel (d : Display) (c : Cell) : Bool :=
  d.rows[c.y][c.x]

/-- The display with one pixel flipped. -/
def flip (d : Display) (c : Cell) : Display where
  rows := d.rows.set c.y.val (d.rows[c.y].set c.x.val (!d.pixel c) c.x.isLt) c.y.isLt
  dirty := true

/-- The display with the pixels of a list of cells flipped in order, and whether any of the flips
turned a pixel off. -/
def flipAll (d : Display) : List Cell → Display × Bool
  | [] => (d, false)
  | c :: cs =>
    let rest := (d.flip c).flipAll cs
    (rest.1, d.pixel c || rest.2)

/-- The value at integer coordinates. -/
def get (d : Display) (x y : Int) : Except OutsideGrid Bool :=
  (Cell.ofInts x y).map d.pixel

/-- Combine the lowest bit of an integer into the pixel at integer coordinates by exclusive or, and
tell whether that turned the pixel off. An even integer changes nothing. -/
def xor (d : Display) (x y bit : Int) : Except OutsideGrid (Display × Bool) :=
  (Cell.ofInts x y).map fun c =>
    if bit % 2 = 0 then (d, false) else (d.flip c, d.pixel c)

/-- The display with every pixel off, and dirty. -/
def clear (_ : Display) : Display :=
  ⟨blankRows, true⟩

/-- The display with the dirty flag lowered. -/
def consume (d : Display) : Display :=
  { d with dirty := false }

/-- The number of lit pixels. -/
def litCount (d : Display) : Nat :=
  (d.rows.toList.flatMap Vector.toList).count true

/-- A row as a line of text: `#` for a lit pixel and `.` for one that is off. -/
def rowLine (row : Vector Bool 64) : String :=
  String.ofList (row.toList.map fun b => if b then '#' else '.')

/-- The picture as lines of text. -/
def lines (d : Display) : List String :=
  d.rows.toList.map rowLine

/-- The picture as one text, lines separated by line ends. -/
def text (d : Display) : String :=
  "\n".intercalate d.lines

/-- The one-line account of a display. -/
def describe (d : Display) : String :=
  "DisplayBuffer(width=" ++ toString width ++ ", height=" ++ toString height ++ ", lit=" ++
    toString d.litCount ++ ", dirty=" ++ (if d.dirty then "True" else "False") ++ ")"

/-! ### Reading what was flipped -/

theorem pixel_flip (d : Display) (c e : Cell) :
    (d.flip c).pixel e = if c = e then !d.pixel e else d.pixel e := by
  obtain ⟨cx, cy⟩ := c
  obtain ⟨ex, ey⟩ := e
  simp only [flip, pixel, Fin.getElem_fin, Vector.getElem_set, Cell.mk.injEq, ← Fin.val_inj]
  by_cases hy : cy.val = ey.val
  · by_cases hx : cx.val = ex.val <;> simp [hx, hy]
  · simp [hy]

@[simp] theorem dirty_flip (d : Display) (c : Cell) : (d.flip c).dirty = true := rfl

@[simp] theorem pixel_clear (d : Display) (c : Cell) : d.clear.pixel c = false := by
  simp [clear, pixel, blankRows]

@[simp] theorem pixel_consume (d : Display) (c : Cell) : d.consume.pixel c = d.pixel c := rfl

/-- Two displays with the same pixels have the same rows. -/
theorem rows_ext {d e : Display} (h : ∀ c, d.pixel c = e.pixel c) : d.rows = e.rows := by
  apply Vector.ext
  intro y hy
  apply Vector.ext
  intro x hx
  exact h ⟨⟨x, hx⟩, ⟨y, hy⟩⟩

end Display

end ChipEight
