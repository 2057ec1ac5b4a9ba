/-!
# Blanks

The characters that may surround an integer: the ASCII blanks (space, tabs, line ends, page and line
feeds) and the white space of Unicode beyond ASCII.

## Main definitions

- `isBlank`: the property.
- `stripBlanks`: a text without the blanks at its ends.
-/

namespace ChipEight

namespace Text

/-- The ranges of blank character numbers, both ends included. -/
def blankRanges : List (Nat × Nat) :=
  [(0x09, 0x0D), (0x20, 0x20), (0x85, 0x85), (0xA0, 0xA0), (0x1680, 0x1680), (0x2000, 0x200A),
    (0x2028, 0x2029), (0x202F, 0x202F), (0x205F, 0x205F), (0x3000, 0x3000)]

/-- Whether a character may stand around an integer. -/
def isBlank (c : Char) : Bool :=
  blankRanges.any fun r => decide (r.1 ≤ c.toNat ∧ c.toNat ≤ r.2)

/-- A text without the blanks at its two ends. -/
def stripBlanks (cs : List Char) : List Char :=
  ((cs.dropWhile isBlank).reverse.dropWhile isBlank).reverse

end Text

end ChipEight
