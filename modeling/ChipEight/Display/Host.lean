import ChipEight.Datum.Operand
import ChipEight.Display

/-!
# Pixels named by a host

A host names a pixel by two values, and hands over a third one to combine into it. First the
coordinates are compared with the sides of the grid, then the bit is taken from the third value. Only
a bit that is set needs a pixel, and only integers name one.

## Main definitions

- `GridFault`: why no pixel is read or written.
- `Grid.check`: the check that two values lie on the grid.
- `Grid.flipAt`, `Grid.cellAt`: what is asked of a pixel, in integers.
- `Display.plot`: a point of a drawing flipped.
-/

namespace ChipEight

/-- Why no pixel is read or written. -/
inductive GridFault where
  /-- A value is of no use where it is needed. -/
  | operand (e : OperandFault)
  /-- The coordinates lie outside the grid. -/
  | outside (x y : Datum)

namespace GridFault

/-- The text of the complaint. -/
def message : GridFault → String
  | .operand e => e.message
  | .outside x y =>
    "pixel (" ++ x.plain ++ ", " ++ y.plain ++ ") out of range [0, " ++ toString Display.width ++
      ") x [0, " ++ toString Display.height ++ ")"

/-- The kind of the complaint. -/
def kind : GridFault → FaultKind
  | .operand e => e.kind
  | .outside _ _ => .place

instance : IsFault GridFault := ⟨kind, message⟩

end GridFault

namespace Grid

/-- The check that two values lie on the grid. The row is looked at only if the column fits. -/
def check (x y : Datum) : Except GridFault Unit := do
  if !(← (x.isWithin Display.width).mapError .operand) then throw (.outside x y)
  if !(← (y.isWithin Display.height).mapError .operand) then throw (.outside x y)

/-- The integers that name a pixel of the grid. -/
def cellAt (x y : Datum) : Except GridFault (Int × Int) := do
  check x y
  match x.integer?, y.integer? with
  | some a, some b => return (a, b)
  | none, _ => throw (.operand (.noIndex x.typeName))
  | _, none => throw (.operand (.noIndex y.typeName))

/-- The integers that name a pixel and the bit to combine into it. A bit that is not set leaves the
first pixel as it is. -/
def flipAt (x y bit : Datum) : Except GridFault (Int × Int × Int) := do
  check x y
  let b ← (bit.bits "&=").mapError .operand
  if b % 2 = 0 then return (0, 0, 0)
  let (a, c) ← cellAt x y
  return (a, c, b)

end Grid

/-- The display with one pixel flipped that a point of a drawing names. -/
def Display.plot (d : Display) (point : Datum) : Except GridFault Display := do
  match ← (point.exactly 2).mapError .operand with
  | [x, y] =>
    let (a, b) ← Grid.cellAt x y
    return ((d.xor a b 1).toOption.getD (d, false)).1
  | _ => return d

end ChipEight
