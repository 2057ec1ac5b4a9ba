import ChipEight.Program.Packed

/-!
# Views of packed data

Packed data is a row of elements of one format. It can be looked at in part, its bytes can be read
in another format, and they can be arranged in a grid.

## Main definitions

- `PackedRow`: a row of elements with their format.
- `View`: a row that is looked at.
- `ViewFault`: why data cannot be looked at in some way.
- `packNumbers`: numbers packed in a format.
- `View.every`: every k-th element, from the end for a negative k.
- `View.recast`: the same bytes in another format.
- `View.gridSize`: the number of bytes in a grid.
-/

namespace ChipEight

/-- Why data cannot be looked at in some way. -/
inductive ViewFault where
  /-- The sign of a format is no single character. -/
  | noSign
  /-- Nothing can be packed in a format of this sign. -/
  | badSign
  /-- A value cannot be packed. -/
  | pack (e : PackFault)
  /-- A step of zero. -/
  | zeroStep
  /-- The elements do not lie next to each other. -/
  | scattered
  /-- The sign of a format holds characters beyond ASCII: the first of them, and the places from
  the first to the last of its run. -/
  | foreignSign (c : Char) (first last : Nat)
  /-- Bytes cannot be read in a format of this sign. -/
  | unknownSign
  /-- Neither the old format nor the new one is one of bytes. -/
  | noBytes
  /-- The bytes do not come out even. -/
  | remainder
  /-- There is nothing to arrange. -/
  | emptyGrid
  /-- A grid of too many dimensions. -/
  | tooDeep
  /-- A side of a grid is no integer. -/
  | noSide
  /-- A side of a grid is too large to be counted. -/
  | hugeSide
  /-- A side of a grid is not positive. -/
  | flatSide
  /-- A grid with more bytes than can be counted. -/
  | hugeGrid
  /-- A grid with more or fewer bytes than there are. -/
  | otherSize
  /-- The sides of a grid are no list. -/
  | noSides
  deriving DecidableEq, Repr

/-- The text of the complaint. -/
def ViewFault.message : ViewFault → String
  | .noSign => "array() argument 1 must be a unicode character, not str"
  | .badSign => "bad typecode (must be b, B, u, h, H, i, I, l, L, q, Q, f or d)"
  | .pack e => e.message
  | .zeroStep => "slice step cannot be zero"
  | .scattered => "memoryview: casts are restricted to C-contiguous views"
  | .foreignSign c first last =>
    "'ascii' codec can't encode character" ++
      (if first = last then
          " '" ++ String.ofList (Text.escapeNumber c.toNat) ++ "' in position " ++ toString first
        else "s in position " ++ toString first ++ "-" ++ toString last) ++
      ": ordinal not in range(128)"
  | .unknownSign =>
    "memoryview: destination format must be a native single character format prefixed with " ++
      "an optional '@'"
  | .noBytes => "memoryview: cannot cast between two non-byte formats"
  | .remainder => "memoryview: length is not a multiple of itemsize"
  | .emptyGrid => "memoryview: cannot cast view with zeros in shape or strides"
  | .tooDeep => "memoryview: number of dimensions must not exceed 64"
  | .noSide => "memoryview.cast(): elements of shape must be integers"
  | .hugeSide => "Python int too large to convert to C ssize_t"
  | .flatSide => "memoryview.cast(): elements of shape must be integers > 0"
  | .hugeGrid => "memoryview.cast(): product(shape) > SSIZE_MAX"
  | .otherSize => "memoryview: product(shape) * itemsize != buffer size"
  | .noSides => "shape must be a list or a tuple"

/-- The kind of the complaint. -/
def ViewFault.kind : ViewFault → FaultKind
  | .pack e => e.kind
  | .badSign | .zeroStep | .unknownSign | .tooDeep | .flatSide | .hugeGrid => .senseless
  | .foreignSign _ _ _ => .encoding
  | .hugeSide => .large
  | _ => .unfit

/-- A row of elements of one format. -/
structure PackedRow where
  format : ElementFormat
  /-- The bytes of each element. -/
  cells : List (List UInt8)
  /-- Each element has as many bytes as its format says. -/
  isWhole : ∀ cell ∈ cells, cell.length = format.width

namespace PackedRow

/-- The elements in order. -/
def elements (r : PackedRow) : List Datum :=
  r.cells.map r.format.read

/-- The bytes of all elements. -/
def bytes (r : PackedRow) : List UInt8 :=
  r.cells.flatten

/-- The row of values written in a format. -/
def ofValues (f : ElementFormat) (ds : List Datum) : PackedRow where
  format := f
  cells := ds.map f.write
  isWhole := by
    intro cell hcell
    obtain ⟨d, -, rfl⟩ := List.mem_map.1 hcell
    exact f.length_write d

/-- The row of single bytes. -/
def ofBytes (bs : List UInt8) : PackedRow where
  format := .raw
  cells := bs.map fun b => [b]
  isWhole := by
    intro cell hcell
    obtain ⟨b, -, rfl⟩ := List.mem_map.1 hcell
    rfl

/-- The elements at the places that are multiples of `k`, from the first one on for a positive `k`
and from the last one back for a negative `k`. -/
def every (r : PackedRow) (k : Int) : PackedRow where
  format := r.format
  cells :=
    let row := if k < 0 then r.cells.reverse else r.cells
    (row.zipIdx.filter fun e => decide ((e.2 : Int) % k = 0)).map Prod.fst
  isWhole := by
    intro cell hcell
    obtain ⟨e, hkept, rfl⟩ := List.mem_map.1 hcell
    have hrow := List.fst_mem_of_mem_zipIdx (List.mem_filter.1 hkept).1
    split at hrow
    · exact r.isWhole _ (List.mem_reverse.1 hrow)
    · exact r.isWhole _ hrow

/-- Bytes cut into elements of a format; a last one that is too short is dropped. -/
def cut (f : ElementFormat) (bs : List UInt8) : PackedRow where
  format := f
  cells := (List.range (bs.length / f.width)).map fun k => (bs.drop (k * f.width)).take f.width
  isWhole := by
    intro cell hcell
    obtain ⟨k, hk, rfl⟩ := List.mem_map.1 hcell
    have hfits : (k + 1) * f.width ≤ bs.length :=
      Nat.le_trans (Nat.mul_le_mul_right _ (List.mem_range.1 hk)) (Nat.div_mul_le_self _ _)
    rw [Nat.succ_mul] at hfits
    rw [List.length_take, List.length_drop]
    omega

end PackedRow

/-- A row of elements that is looked at. -/
structure View extends PackedRow where
  /-- Whether the elements lie next to each other. -/
  contiguous : Bool := true

/-- The view of numbers packed in the format of a sign. -/
def packNumbers (sign : String) (ds : List Datum) : Except ViewFault View :=
  match sign.toList with
  | [c] =>
    match ElementFormat.packable.lookup c with
    | none => .error .badSign
    | some f => do
      (ds.forM f.admit).mapError .pack
      return { PackedRow.ofValues f ds with }
  | _ => .error .noSign

namespace View

/-- A view of raw bytes. -/
def ofBytes (bs : List UInt8) : View :=
  { PackedRow.ofBytes bs with }

/-- Whether elements of some width that are so many steps apart lie next to each other. Steps are
held to 63 bits, and the distance in bytes is counted modulo `2 ^ 64`. -/
def isAdjacent (width : Nat) (k : Int) : Bool :=
  let step := max (1 - Int.pow 2 63) (min (Int.pow 2 63 - 1) k)
  decide (width * (step - 1) % Int.pow 2 64 = 0)

/-- Every k-th element: from the first one on for a positive k, from the last one back for a
negative k. A single element lies next to all others. -/
def every (v : View) (k : Int) : Except ViewFault View :=
  if k = 0 then .error .zeroStep
  else
    let kept := v.toPackedRow.every k
    let together := isAdjacent v.format.width k || decide (kept.cells.length = 1)
    .ok { kept with contiguous := v.contiguous && together }

/-- The format of a sign, which an at sign may precede. The sign ends at a zero character. -/
def formatOf (sign : String) : Except ViewFault ElementFormat :=
  let cs := sign.toList
  let plain (c : Char) : Bool := decide (c.toNat < 128)
  let ahead := cs.takeWhile plain
  match cs.drop ahead.length with
  | c :: rest =>
    let run := rest.takeWhile fun c => !plain c
    .error (.foreignSign c ahead.length (ahead.length + run.length))
  | [] =>
    match ElementFormat.ofSign? (cs.takeWhile fun c => c != Char.ofNat 0) with
    | some f => .ok f
    | none => .error .unknownSign

/-- The check that the elements lie next to each other. -/
def compact (v : View) : Except ViewFault Unit :=
  if v.contiguous then .ok () else .error .scattered

/-- The same bytes in the format of another sign. -/
def recast (v : View) (sign : String) : Except ViewFault View := do
  v.compact
  let f ← formatOf sign
  if !v.format.isBytewise && !f.isBytewise then throw .noBytes
  if v.bytes.length % f.width != 0 then throw .remainder
  return { PackedRow.cut f v.bytes with }

/-- The number of bytes in a grid with some sides and those counted before. -/
def gridSize (before : Nat) : List Datum → Except ViewFault Nat
  | [] => .ok before
  | d :: ds =>
    match d.integer? with
    | none => .error .noSide
    | some k =>
      if k < -Int.pow 2 63 ∨ Int.pow 2 63 ≤ k then .error .hugeSide
      else if k ≤ 0 then .error .flatSide
      else if Nat.pow 2 63 ≤ before * k.toNat then .error .hugeGrid
      else gridSize (before * k.toNat) ds

end View

end ChipEight
