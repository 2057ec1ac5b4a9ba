import ChipEight.Datum.Operand
import ChipEight.Instr.Mnemonic
import ChipEight.Memory

/-!
# Listings

A listing shows the words of a program in order, each with its address and its assembly text. A
trailing odd byte is in no word.

## Main definitions

- `wordsOfBytes`: the words of a row of bytes.
- `Listing.rows`: the words that a listing shows, each with its address.
- `Listing.line`: one line.
- `Listing.lines`: a whole listing; `Listing.linesOf`: the same from data.

## Main statements

- `length_rows`: a listing has as many rows as there are whole words, but no more than asked for.
-/

namespace ChipEight

/-- The words of a row of bytes, high bytes first; a trailing odd byte is left out. -/
def wordsOfBytes : List UInt8 → List UInt16
  | hi :: lo :: bs => UInt16.ofNat (256 * hi.toNat + lo.toNat) :: wordsOfBytes bs
  | _ => []

theorem length_wordsOfBytes : ∀ bs : List UInt8, (wordsOfBytes bs).length = bs.length / 2
  | [] => rfl
  | [_] => by simp [wordsOfBytes]
  | hi :: lo :: bs => by
    simp only [wordsOfBytes, List.length_cons, length_wordsOfBytes bs]
    omega

namespace Listing

/-- The number of words in a listing unless told otherwise. -/
def defaultCount : Int := 16

/-- The first `count` words of a program with their addresses, the first one at `base`. -/
def rows (bytes : List UInt8) (base count : Int) : List (Int × UInt16) :=
  ((wordsOfBytes bytes).take count.toNat).zipIdx.map fun (w, k) => (base + 2 * (k : Int), w)

/-- The line of a word behind the text of its address. -/
def lineAt (address : String) (w : UInt16) : String :=
  "$" ++ address ++ "  " ++ Instr.wordText w ++ "  " ++ (decode w).mnemonic

/-- The line of a word. -/
def line (address : Int) (w : UInt16) : String :=
  lineAt (Text.hexInt 3 address) w

/-- The lines of a listing. -/
def lines (bytes : List UInt8) (base count : Int) : List String :=
  (rows bytes base count).map fun (a, w) => line a w

/-- The number of words that a value asks for. Of words that begin in front of the last byte, it
takes those that begin in front of its double; an integer is needed only where that matters. -/
def shownWords (bytes : List UInt8) (count : Datum) : Except OperandFault Nat := do
  let limit : Int := bytes.length - 1
  let double ← count.twice
  let stop ← if ← double.isBelow limit then double.count else .ok limit
  return ((stop + 1) / 2).toNat

/-- The lines of a listing, with its base and its count given as data. The base is needed only
where there is a word. -/
def linesOf (bytes : List UInt8) (base count : Datum) : Except OperandFault (List String) := do
  let shown ← shownWords bytes count
  ((wordsOfBytes bytes).take shown).zipIdx.mapM fun (w, k) => do
    let address ← base.plus (2 * (k : Int))
    return lineAt (← address.hexText 3) w

/-- A listing has a row for each whole word, but no more rows than asked for. -/
theorem length_rows (bytes : List UInt8) (base count : Int) :
    (rows bytes base count).length = min count.toNat (bytes.length / 2) := by
  simp [rows, length_wordsOfBytes]

end Listing

end ChipEight
