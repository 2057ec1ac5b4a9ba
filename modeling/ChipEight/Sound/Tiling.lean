import ChipEight.Number.Numeral
import ChipEight.Sound.Tone

/-!
# A library of sample arrays

Copies of a row of samples are laid out along several sides: along the last side one behind the
other, and along the sides in front of it as rows that are all alike.

Each side has its number of copies. A host may give it by a value of any kind. The copies are made
side by side, from the first on, each time of all rows that there are by then; a list says for each
of those rows how many copies it is to have. Only when they are made are the numbers taken for
lengths, and there nothing but integers will do.

## Main definitions

- `Copies`: how many copies are made of rows; `Copies.ofDatum` reads them from a value.
- `Copies.rowsFrom`: the number of rows after that.
- `Tiling.ofCounts`: copies of a row along every side.
- `SampleLibrary.standard`: the library, for a host that allocates some numbers of bytes and others
  not.
-/

namespace ChipEight

/-- How many copies are made of rows. -/
inductive Copies where
  /-- So many copies of every row. -/
  | every (count : Int)
  /-- For each row a number of copies. -/
  | listed (counts : List Int)
  deriving DecidableEq, Repr

namespace Copies

/-- The number that a value is as a number of copies. A text may be a numeral, and a real counts up
to its point. -/
def countOf (d : Datum) : Except ToneFault Int := do
  let count ← match d with
    | .text s => (readInt? s).elim (.error (.noNumeral s)) .ok
    | .null | .bytes _ | .list _ | .record _ => .error (.noNumber d.typeName)
    | d => d.truncated.mapError .operand
  (countRepetitions count).mapError .room
  return count

/-- The numbers of copies that a value gives. A list of one number gives it for all rows. -/
def ofDatum (d : Datum) : Except ToneFault Copies :=
  match d with
  | .list ds =>
    match d.nestedSides with
    | (sides, false) => .error (.shape (.ragged sides))
    | ([_], true) => do
      match ← ds.mapM countOf with
      | [count] => return .every count
      | counts => return .listed counts
    | (_, true) => .error (.shape .nested)
  | d => (countOf d).map .every

/-- The number of rows of `p` samples after copies are made of so many rows. A total that cannot be
counted wraps around. -/
def rowsFrom (allocates : Nat → Bool) (p rows : Nat) (copies : Copies) : Except ToneFault Nat := do
  let total ← match copies with
    | .every count => pure (rows * count)
    | .listed counts =>
      if counts.length ≠ rows then throw (.unlikeRows rows counts.length)
      if counts.any (· < 0) then throw .negativeCopies
      pure (counts.foldl (· + ·) 0)
  let total := wrapCount total
  if total < 0 then throw (.room .negative)
  (claimRoom allocates [total.toNat, p]).mapError .room
  return total.toNat

end Copies

namespace Tiling

/-- The check that a length can be multiplied by a value. -/
def claimFactor (d : Datum) : Except ToneFault Unit :=
  match d with
  | .null | .bytes _ | .record _ => .error (.operand (.operands "*" "int" d.typeName))
  | _ => .ok ()

/-- A side of `n` samples lengthened by a number of copies, which has to be an integer that can be
counted. -/
def sideOf (n : Nat) (d : Datum) : Except ToneFault Int := do
  let k ← d.count.mapError .operand
  if (countRepetitions (n * k)).isOk then return n * k else throw (.room .side)

/-- Whether a value asks for no copies besides what is there. -/
def isOne (d : Datum) : Bool :=
  d.sameNumber (.int 1)

/-- The number of rows of `p` samples after the copies for each side are made in order. -/
def rowsOf (allocates : Nat → Bool) (p : Nat) (counts : List Datum) : Except ToneFault Nat :=
  counts.foldlM
    (fun rows d =>
      if isOne d then .ok rows else do (← Copies.ofDatum d).rowsFrom allocates p rows) 1

/-- Copies of a row along every side. -/
def ofCounts (allocates : Nat → Bool) (row : List Int) (counts : List Datum) :
    Except ToneFault SampleArray := do
  (claimSides counts.length).mapError .shape
  let lengths := List.replicate (counts.length - 1) 1 ++ [row.length]
  if counts.all isOne then return ⟨lengths, row⟩
  counts.forM claimFactor
  let rows ← rowsOf allocates row.length counts
  let asked ← (lengths.zip counts).mapM fun (n, d) => sideOf n d
  let sides ← (fitShape (rows * row.length) asked).mapError .shape
  return ⟨sides, (List.replicate rows row).flatten⟩

/-- Copies of a row, as many as a value says: along one side, or along as many sides as the value
has parts. -/
def ofDatum (allocates : Nat → Bool) (row : List Int) (copies : Datum) :
    Except ToneFault SampleArray :=
  ofCounts allocates row (copies.parts.toOption.getD [copies])

end Tiling

namespace SampleLibrary

/-- New samples, all of them zero. -/
def zeros (allocates : Nat → Bool) (n : Nat) : Except ToneFault (List Int) := do
  (claimRoom allocates [n]).mapError .room
  return List.replicate n 0

/-- Each sample as many times in succession as a value says. -/
def repeated (allocates : Nat → Bool) (row : List Int) (times : Datum) :
    Except ToneFault (List Int) := do
  let times ← times.truncated.mapError .operand
  (repeatRoom allocates row.length times).mapError .room
  return row.flatMap fun s => List.replicate times.toNat s

/-- A library for a host that allocates some numbers of bytes and others not. -/
def standard (allocates : Nat → Bool) : SampleLibrary where
  empty := zeros allocates
  fill row start stop level :=
    row.take start ++ (List.replicate (stop - start) level ++ row.drop stop)
  tile := Tiling.ofDatum allocates
  repeatEach := repeated allocates

end SampleLibrary

end ChipEight
