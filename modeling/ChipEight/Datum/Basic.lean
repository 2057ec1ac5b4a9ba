import ChipEight.Number.DigitLimit
import ChipEight.Number.Real64
import ChipEight.Number.Shortest
import ChipEight.Text.Quoted

/-!
# Data

A host may offer anything as a program, and a complaint shows what it refuses. A datum is a value as
a host may offer it; its literal is the text by which a complaint shows it.

## Main definitions

- `Datum`: the values.
- `Datum.literal`: the text of a value, with texts quoted.
- `Datum.plain`: the same with a bare text at the outside.
- `Datum.isShown`: whether a text can show a value.
- `Datum.typeName`: the name of the kind of a value.
- `Datum.holds`: whether a value counts as true.
- `Datum.isKey`: whether a value can be looked up in a table.
- `Datum.text?`, `Datum.integer?`, `Datum.real?`: what a value counts as.
-/

namespace ChipEight

/-- A value as a host may offer it. -/
inductive Datum where
  | null
  | flag (b : Bool)
  | int (k : Int)
  | real (x : Float)
  | text (s : String)
  | bytes (bs : List UInt8)
  | list (items : List Datum)
  | record (fields : List (String × Datum))
  deriving Inhabited

namespace Datum

/-- The digits of a number without the zeros at its end, and how many digits stand before the
point. -/
def significantDigits (d : Decimal) : List Char × Int :=
  let all := (toString d.digits).toList
  let kept := (all.reverse.dropWhile (· = '0')).reverse
  (kept, all.length + d.exponent)

/-- A positive real: positional from four zeros behind the point up to sixteen digits before it,
with at least one decimal; otherwise one digit before the point and an exponent of at least two
digits. -/
def positiveRealText (d : Decimal) : String :=
  let (ds, point) := significantDigits d
  if -4 < point ∧ point ≤ 16 then
    let n := point.toNat
    let whole := if point ≤ 0 then ['0'] else ds.take n ++ List.replicate (n - ds.length) '0'
    let fraction := List.replicate (-point).toNat '0' ++ ds.drop n
    String.ofList (whole ++ ['.'] ++ (if fraction.isEmpty then ['0'] else fraction))
  else
    let e := point - 1
    let digits := (toString e.natAbs).toList
    let exponent := List.replicate (2 - digits.length) '0' ++ digits
    let mantissa := if ds.length ≤ 1 then ds else ds.take 1 ++ ['.'] ++ ds.drop 1
    String.ofList (mantissa ++ ['e', if e < 0 then '-' else '+'] ++ exponent)

/-- The text of a real: the shortest decimal that reads back. -/
def realText (x : Float) : String :=
  match Real64.ofFloat x with
  | .nan => "nan"
  | .infinite negative => if negative then "-inf" else "inf"
  | .finite negative m e =>
    let body := if m = 0 then "0.0"
      else positiveRealText (RoundingInterval.ofMantissa m e).shortest
    if negative then "-" ++ body else body

mutual

/-- The text by which a complaint shows a value. -/
def literal : Datum → String
  | .null => "None"
  | .flag b => if b then "True" else "False"
  | .int k => toString k
  | .real x => realText x
  | .text s => Text.quote s
  | .bytes bs => Text.quoteBytes bs
  | .list items => "[" ++ ", ".intercalate (literals items) ++ "]"
  | .record fields => "\x7b" ++ ", ".intercalate (fieldLiterals fields) ++ "\x7d"

/-- The texts of the items of a list. -/
def literals : List Datum → List String
  | [] => []
  | d :: ds => d.literal :: literals ds

/-- The texts of the fields of a record. -/
def fieldLiterals : List (String × Datum) → List String
  | [] => []
  | (k, d) :: fs => (Text.quote k ++ ": " ++ d.literal) :: fieldLiterals fs

end

mutual

/-- Whether a text can show a value: every integer in it can be written. -/
def isShown (limit : DigitLimit) : Datum → Bool
  | .int k => limit.allows k
  | .list items => allShown limit items
  | .record fields => fieldsShown limit fields
  | _ => true

/-- Whether a text can show all items of a list. -/
def allShown (limit : DigitLimit) : List Datum → Bool
  | [] => true
  | d :: ds => d.isShown limit && allShown limit ds

/-- Whether a text can show all fields of a record. -/
def fieldsShown (limit : DigitLimit) : List (String × Datum) → Bool
  | [] => true
  | (_, d) :: fs => d.isShown limit && fieldsShown limit fs

end

/-- The text of a value that stands alone: a bare text is not quoted. -/
def plain : Datum → String
  | .text s => s
  | d => d.literal

/-- The text of the particulars of a complaint: nothing, one value, or several in parentheses. -/
def particulars : List Datum → String
  | [] => ""
  | [d] => d.plain
  | ds => "(" ++ ", ".intercalate (literals ds) ++ ")"

/-- The name of the kind of a value. -/
def typeName : Datum → String
  | .null => "NoneType"
  | .flag _ => "bool"
  | .int _ => "int"
  | .real _ => "float"
  | .text _ => "str"
  | .bytes _ => "bytes"
  | .list _ => "list"
  | .record _ => "dict"

/-- Whether a value counts as true: everything but nothing, falsehood, zero and the empty. -/
def holds : Datum → Bool
  | .null => false
  | .flag b => b
  | .int k => k != 0
  | .real x => x != 0
  | .text s => !s.isEmpty
  | .bytes bs => !bs.isEmpty
  | .list items => !items.isEmpty
  | .record fields => !fields.isEmpty

/-- Whether a value can be looked up in a table. Lists and records cannot. -/
def isKey : Datum → Bool
  | .list _ => false
  | .record _ => false
  | _ => true

/-- The complaint about looking up a value of some kind. -/
def notKeyMessage (typeName : String) : String :=
  "unhashable type: '" ++ typeName ++ "'"

/-- The text that a value is. -/
def text? : Datum → Option String
  | .text s => some s
  | _ => none

/-- The integer that a value counts as; truth values count as one and zero. -/
def integer? : Datum → Option Int
  | .flag b => some b.toNat
  | .int k => some k
  | _ => none

/-- The real that a value counts as, if it is a number. -/
def real? : Datum → Option Real64
  | .real x => some (Real64.ofFloat x)
  | d => d.integer?.map fun k => Real64.ofRatio k 1

/-- The byte that a value is: an integer from 0 to 255. Truth values are no integers. -/
def byte? : Datum → Option UInt8
  | .int k => if 0 ≤ k ∧ k ≤ 0xFF then some (UInt8.ofInt k) else none
  | _ => none

end Datum

end ChipEight
