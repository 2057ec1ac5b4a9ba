import ChipEight.Text.Printable
import ChipEight.Text.Hex

/-!
# Quoted text

A text is shown between quotation marks: single ones, or double ones if the text holds a single
mark and no double one. The mark in use and the backslash are escaped, line ends and tabs have
letters of their own, and every other character that does not print is written by its number.

## Main definitions

- `quote`: a text between quotation marks.
- `quoteBytes`: the same for bytes, where everything but printable ASCII is written by its number.
-/

namespace ChipEight

namespace Text

/-- The quotation mark that a text is shown in. -/
def quoteMark (cs : List Char) : Char :=
  if cs.contains '\'' && !cs.contains '"' then '"' else '\''

/-- Lower-case digits of a character number, in a field of exactly `w` digits. -/
def lowerField (w n : Nat) : List Char :=
  (hexField w n).map Char.toLower

/-- The number of a character behind a backslash: two, four or eight digits. -/
def escapeNumber (n : Nat) : List Char :=
  if n < 0x100 then '\\' :: 'x' :: lowerField 2 n
  else if n < 0x10000 then '\\' :: 'u' :: lowerField 4 n
  else '\\' :: 'U' :: lowerField 8 n

/-- A character as it stands between two marks. -/
def escapeChar (mark c : Char) : List Char :=
  if c = mark ∨ c = '\\' then ['\\', c]
  else if c = '\n' then ['\\', 'n']
  else if c = '\r' then ['\\', 'r']
  else if c = '\t' then ['\\', 't']
  else if isPrintable c then [c]
  else escapeNumber c.toNat

/-- The characters of a text between quotation marks. -/
def quoteChars (cs : List Char) : List Char :=
  let mark := quoteMark cs
  mark :: cs.flatMap (escapeChar mark) ++ [mark]

/-- A text between quotation marks. -/
def quote (s : String) : String :=
  String.ofList (quoteChars s.toList)

/-- A byte as it stands between two marks. -/
def escapeByte (mark : Char) (b : UInt8) : List Char :=
  let c := Char.ofNat b.toNat
  if c = mark ∨ c = '\\' then ['\\', c]
  else if c = '\n' then ['\\', 'n']
  else if c = '\r' then ['\\', 'r']
  else if c = '\t' then ['\\', 't']
  else if 0x20 ≤ b ∧ b < 0x7F then [c]
  else escapeNumber b.toNat

/-- Bytes between quotation marks, behind the letter `b`. -/
def quoteBytes (bs : List UInt8) : String :=
  let mark := quoteMark (bs.map fun b => Char.ofNat b.toNat)
  String.ofList ('b' :: mark :: bs.flatMap (escapeByte mark) ++ [mark])

end Text

end ChipEight
