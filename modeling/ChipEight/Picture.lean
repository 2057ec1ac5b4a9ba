import ChipEight.Datum.Operand
import ChipEight.Display
import ChipEight.Log

/-!
# Pictures in colour

A palette gives a colour to lit pixels and one to the others. A renderer turns a display into an
array of colours, column by column, and paints that array onto a surface, which is stored row by
row and reused from frame to frame.

The array is made in steps: the pixels are one row of values, that row is cut into the rows of the
picture, each value is looked up in the palette, and rows are exchanged for columns. Every step is left
to a library of arrays and surfaces, and so is the painting. A renderer runs on any such library.

## Main definitions

- `Colour`, `Palette`: three bytes of red, green and blue; a pair of colours.
- `Display.cells`: the pixels in one row.
- `Surface`: colours row by row.
- `PictureLibrary`: what a renderer asks of a library.
- `PictureLibrary.standard`: a library that does as it is asked.
- `Palette.columns`: the colours of a display, column by column.
- `Renderer.render`: painting a display.
-/

namespace ChipEight

/-- A colour as bytes of red, green and blue. -/
structure Colour where
  red : UInt8
  green : UInt8
  blue : UInt8
  deriving DecidableEq, Repr

/-- The colour in the lowest 24 bits of an integer, red highest. -/
def Colour.ofInt (k : Int) : Colour :=
  ⟨UInt8.ofInt (k / 65536), UInt8.ofInt (k / 256), UInt8.ofInt k⟩

/-- The colours of pixels that are off and on. -/
structure Palette where
  background : Colour
  foreground : Colour
  deriving DecidableEq, Repr

/-- The pixels in one row, each row of the picture behind the one above it. -/
def Display.cells (d : Display) : Vector Bool (32 * 64) :=
  d.rows.flatten

/-- The colours of all pixels, row by row. -/
abbrev Surface := Vector (Vector Colour 64) 32

namespace Palette

/-- The usual background: nearly black. -/
def defaultBackground : Int := 0x101010

/-- The usual foreground: a phosphor green. -/
def defaultForeground : Int := 0x33FF66

/-- The palette of two integers. -/
def ofInts (background foreground : Int) : Palette :=
  ⟨.ofInt background, .ofInt foreground⟩

/-- The palette of two values. -/
def ofData (background foreground : Datum) : Except OperandFault Palette :=
  return .ofInts (← background.bits ">>") (← foreground.bits ">>")

/-- The usual palette. -/
def standard : Palette :=
  .ofInts defaultBackground defaultForeground

/-- The colour of a pixel that is on or off. -/
def colour (p : Palette) (lit : Bool) : Colour :=
  if lit then p.foreground else p.background

end Palette

/-! ### Arrays and surfaces -/

/-- What a renderer asks of the library of arrays and surfaces that it runs on. -/
structure PictureLibrary where
  /-- A row of values as an array of `h` rows and `w` columns. -/
  reshape (h w : Nat) : Vector Bool (h * w) → Vector (Vector Bool w) h
  /-- The array of the entries of a palette that an array of values picks. -/
  lookUp {h w : Nat} : Palette → Vector (Vector Bool w) h → Vector (Vector Colour w) h
  /-- The array with its rows exchanged for its columns. -/
  transpose {h w : Nat} : Vector (Vector Colour w) h → Vector (Vector Colour h) w
  /-- A new surface. -/
  surface : Surface
  /-- A surface after an array of columns was copied onto it. -/
  blit : Surface → Vector (Vector Colour 32) 64 → Surface

theorem place_lt {h w : Nat} (y : Fin h) (x : Fin w) : y.val * w + x.val < h * w := by
  have hnext : (y.val + 1) * w ≤ h * w := Nat.mul_le_mul_right w y.isLt
  rw [Nat.succ_mul] at hnext
  exact Nat.lt_of_lt_of_le (Nat.add_lt_add_left x.isLt _) hnext

namespace Surface

/-- The colour at a cell. -/
def colourAt (s : Surface) (c : Cell) : Colour :=
  (s.get c.y).get c.x

/-- The surface with one cell painted. -/
def put (s : Surface) (c : Cell) (k : Colour) : Surface :=
  s.set c.y.val ((s.get c.y).set c.x.val k c.x_lt) c.y_lt

/-- The surface with every cell painted from an array of columns. -/
def paint (s : Surface) (columns : Vector (Vector Colour 32) 64) : Surface :=
  Cell.all.foldl (fun s c => s.put c ((columns.get c.x).get c.y)) s

end Surface

/-- A library that makes its arrays entry by entry, and its surfaces black, and that paints cell by
cell. -/
def PictureLibrary.standard : PictureLibrary where
  reshape _ w v := Vector.ofFn fun y => Vector.ofFn fun x => v.get ⟨y.val * w + x.val, place_lt y x⟩
  lookUp p rows := rows.map fun row => row.map p.colour
  transpose rows := Vector.ofFn fun x => Vector.ofFn fun y => (rows.get y).get x
  surface := Vector.replicate 32 (Vector.replicate 64 ⟨0, 0, 0⟩)
  blit := Surface.paint

/-- The colours of a display, column by column. -/
def Palette.columns (p : Palette) (lib : PictureLibrary) (d : Display) :
    Vector (Vector Colour 32) 64 :=
  lib.transpose (lib.lookUp p (lib.reshape 32 64 d.cells))

/-! ### Renderers -/

/-- A palette together with the surface that was painted last. -/
structure Renderer where
  library : PictureLibrary
  palette : Palette
  surface : Option Surface

namespace Renderer

/-- A renderer that has painted nothing yet. -/
def new (lib : PictureLibrary) (p : Palette) : Renderer :=
  ⟨lib, p, none⟩

/-- The surface painted with a display. The first painting makes the surface, later ones paint over
it. -/
def render (r : Renderer) (d : Display) : Renderer × Surface × Log :=
  let painted := r.library.blit (r.surface.getD r.library.surface) (r.palette.columns r.library d)
  let log := if r.surface.isSome then [] else [.surfaceCreated Display.width Display.height]
  ({ r with surface := some painted }, painted, log)

end Renderer

end ChipEight
