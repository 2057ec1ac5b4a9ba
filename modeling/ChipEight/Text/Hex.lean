/-!
# Hexadecimal text

Words, addresses and register numbers are written in base sixteen with a least width: upper case in
listings and log lines, lower case behind `0x` in complaints about a word.

## Main definitions

- `hexField w n`: exactly `w` digits of `n`, most significant first.
- `hex w n`: at least `w` digits, as many as the number needs.
- `hexInt w k`: the same for an integer, where the sign takes one place of the width.
- `literalHex k`: lower case with a leading `0x`.
-/

namespace ChipEight

namespace Text

/-- The sixteen digits in order. -/
def hexAlphabet : List Char :=
  ['0', '1', '2', '3', '4', '5', '6', '7', '8', '9', 'A', 'B', 'C', 'D', 'E', 'F']

/-- The digit of value `d`, taken modulo sixteen. -/
def hexDigit (d : Nat) : Char :=
  hexAlphabet.getD (d % 16) '0'

/-- The last `w` digits of `n`, most significant first. -/
def hexField : Nat → Nat → List Char
  | 0, _ => []
  | w + 1, n => hexField w (n / 16) ++ [hexDigit n]

@[simp] theorem length_hexField (w n : Nat) : (hexField w n).length = w := by
  induction w generalizing n with
  | zero => rfl
  | succ w ih => simp [hexField, ih]

/-- How many digits `n` needs; zero needs one. -/
def hexLength (n : Nat) : Nat :=
  n.log2 / 4 + 1

/-- `n` in at least `w` digits. -/
def hex (w n : Nat) : String :=
  String.ofList (hexField (max w (hexLength n)) n)

/-- An integer in at least `w` places, of which a minus sign takes one. -/
def hexInt (w : Nat) (k : Int) : String :=
  if k < 0 then "-" ++ hex (w - 1) k.natAbs else hex w k.natAbs

/-- An integer as a lower-case literal behind `0x`, a minus sign in front of everything. -/
def literalHex (k : Int) : String :=
  let digits := (hex 1 k.natAbs).map Char.toLower
  if k < 0 then "-0x" ++ digits else "0x" ++ digits

end Text

end ChipEight
