import ChipEight.Display

/-!
# Sprites

A sprite is up to fifteen rows of eight pixels, one byte a row, the highest bit leftmost. Drawing it
flips the cells that its set bits fall on. What falls beyond the right or lower edge wraps around,
or is dropped in dialects that clip.

## Main definitions

- `Sprite.place?`: the coordinate on an axis, if the pixel is not dropped.
- `Sprite.cells`: the cells that a sprite falls on.
-/

namespace ChipEight

namespace Sprite

/-- The coordinate of a pixel on an axis of `n` places: beyond the edge it is dropped when clipping
and wraps around otherwise. -/
def place? (clipping : Bool) (n : Nat) (positive : 0 < n) (p : Nat) : Option (Fin n) :=
  if clipping && decide (n ≤ p) then none else some ⟨p % n, Nat.mod_lt p positive⟩

/-- Whether a column of a sprite row is set; column zero is the highest bit. -/
def isSet (row : UInt8) (column : Nat) : Bool :=
  row.toNat.testBit (7 - column)

/-- The cell that a pixel falls on, if it is not dropped. -/
def cell? (clipping : Bool) (x y : Nat) : Option Cell := do
  let cx ← place? clipping 64 Display.width_pos x
  let cy ← place? clipping 32 Display.height_pos y
  return ⟨cx, cy⟩

/-- The cells that one sprite row falls on. -/
def rowCells (clipping : Bool) (x y : Nat) (row : UInt8) : List Cell :=
  ((List.range 8).filter (isSet row)).filterMap fun column => cell? clipping (x + column) y

/-- The cells that a sprite falls on, its upper left corner at (`x`, `y`). -/
def cells (clipping : Bool) (x y : Nat) (rows : List UInt8) : List Cell :=
  rows.zipIdx.flatMap fun (row, k) => rowCells clipping x (y + k) row

end Sprite

end ChipEight
