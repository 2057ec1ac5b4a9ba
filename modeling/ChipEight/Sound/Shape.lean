import ChipEight.Datum.Operand
import ChipEight.Sound.Room

/-!
# The shape of an array of samples

An array has a length along each of its sides, and the product of the lengths is the number of its
samples. Whoever asks for a shape may leave one length open, which then follows from the samples.

Nested lists have a shape too, as far as the lists of each depth are equally long.

## Main definitions

- `ShapeFault`: why there is no array of a shape.
- `sideCount`: the number of values that a shape is asked for by, within limits.
- `fitShape`: the lengths of the sides of an array with so many samples.
- `Datum.nestedSides`: the lengths of nested lists.
-/

namespace ChipEight

/-- Why there is no array of a shape. -/
inductive ShapeFault where
  /-- An array has fewer sides than these. -/
  | tooManySides
  /-- More than one length is left open. -/
  | twoOpen
  /-- So many samples do not fill the sides; an open length is negative. -/
  | fit (samples : Nat) (sides : List Int)
  /-- Lists are nested where a plain list is needed. -/
  | nested
  /-- Lists of one depth are not equally long, or hold lists beside other values. The lengths of the
  lists outside of them are these. -/
  | ragged (sides : List Nat)
  deriving DecidableEq, Repr

/-- The most sides of an array. -/
def maxSides : Nat := 64

/-- The lengths of sides, of which some are open, between parentheses. Open ones in front are left
out, and the comma behind a single length is written for the first side only. -/
def openSidesText (sides : List Int) : String :=
  match sides.dropWhile (· < 0) with
  | [] => "()"
  | kept =>
    let lengths := kept.map fun k => if k < 0 then "newaxis" else toString k
    "(" ++ ",".intercalate lengths ++ (if sides.length = 1 then ",)" else ")")

/-- The text of the complaint. -/
def ShapeFault.message : ShapeFault → String
  | .tooManySides =>
    "ndmin bigger than allowable number of dimensions NPY_MAXDIMS (=" ++ toString maxSides ++ ")"
  | .twoOpen => "can only specify one unknown dimension"
  | .fit samples sides =>
    "cannot reshape array of size " ++ toString samples ++ " into shape " ++ openSidesText sides
  | .nested => "object too deep for desired array"
  | .ragged sides =>
    "setting an array element with a sequence. The requested array has an inhomogeneous shape " ++
      "after " ++ toString sides.length ++ " dimensions. The detected shape was " ++
      sidesText sides ++ " + inhomogeneous part."

/-- The check that an array may have so many sides. -/
def claimSides (count : Nat) : Except ShapeFault Unit :=
  if maxSides < count then .error .tooManySides else .ok ()

/-- The product of the lengths that are not open, behind a product of others. A second open length
is refused, and so is a product beyond counting, whichever comes first. -/
def knownProduct (refusal : ShapeFault) (product : Nat) (hasOpen : Bool) :
    List Int → Except ShapeFault Nat
  | [] => .ok product
  | k :: ks =>
    if k < 0 then
      if hasOpen then .error .twoOpen else knownProduct refusal product true ks
    else if countLimit ≤ product * k.toNat then .error refusal
    else knownProduct refusal (product * k.toNat) hasOpen ks

/-- The lengths of the sides of an array with so many samples, as they were asked for. The length
that is left open is the one with which the samples fill the array. -/
def fitShape (samples : Nat) (sides : List Int) : Except ShapeFault (List Nat) := do
  let refusal := ShapeFault.fit samples sides
  let known ← knownProduct refusal 1 false sides
  if sides.any (· < 0) then
    if known = 0 ∨ samples % known ≠ 0 then throw refusal
    return sides.map fun k => if k < 0 then samples / known else k.toNat
  else if samples ≠ known then throw refusal
  else return sides.map Int.toNat

/-- The lengths at the beginning of which two rows of lengths agree. -/
def commonSides : List Nat → List Nat → List Nat
  | m :: ms, n :: ns => if m = n then m :: commonSides ms ns else []
  | _, _ => []

namespace Datum

mutual

/-- The lengths of nested lists, from the outside in, as far as lists of one depth are equally long,
and whether they are so all the way. -/
def nestedSides : Datum → List Nat × Bool
  | .list ds =>
    let (inner, even) := commonNestedSides ds
    (ds.length :: inner, even)
  | _ => ([], true)

/-- The lengths that the elements of a list have in common, and whether these are all. -/
def commonNestedSides : List Datum → List Nat × Bool
  | [] => ([], true)
  | [d] => d.nestedSides
  | d :: ds =>
    let (first, firstEven) := d.nestedSides
    let (rest, restEven) := commonNestedSides ds
    (commonSides first rest, firstEven && restEven && first == rest)

end

end Datum

end ChipEight
