import ChipEight.Text.Hex

/-!
# Bytes written in hexadecimal

Bytes are written as pairs of digits in either case. Blanks may stand before, between and behind the
pairs, but not within one.

## Main definitions

- `digitOfHex?`: the value of a digit.
- `HexFault`: where a text is no row of bytes.
- `readHexBytes`: the bytes of a text.
-/

namespace ChipEight

namespace Text

/-- The value of a digit in either case. -/
def digitOfHex? (c : Char) : Option Nat :=
  hexAlphabet.idxOf? c.toUpper

/-- Whether a character is an ASCII blank. -/
def isAsciiBlank (c : Char) : Bool :=
  decide (c.toNat = 0x20 ∨ (0x09 ≤ c.toNat ∧ c.toNat ≤ 0x0D))

/-- The place of the first character of a text that is wrong there. -/
structure HexFault where
  place : Nat
  deriving DecidableEq, Repr

/-- The text of the complaint. -/
def HexFault.message (e : HexFault) : String :=
  "non-hexadecimal number found in fromhex() arg at position " ++ toString e.place

/-- The bytes of the characters from a place on. -/
def hexBytesFrom (place : Nat) : List Char → Except HexFault (List UInt8)
  | [] => .ok []
  | c :: cs =>
    if isAsciiBlank c then hexBytesFrom (place + 1) cs
    else
      match digitOfHex? c, cs with
      | none, _ => .error ⟨place⟩
      | some _, [] => .error ⟨place + 1⟩
      | some high, d :: rest =>
        match digitOfHex? d with
        | none => .error ⟨place + 1⟩
        | some low =>
          (hexBytesFrom (place + 2) rest).map fun bs => UInt8.ofNat (16 * high + low) :: bs

/-- The bytes of a text. A character beyond ASCII counts as the first wrong one. -/
def readHexBytes (s : String) : Except HexFault (List UInt8) :=
  let cs := s.toList
  match cs.findIdx? fun c => decide (128 ≤ c.toNat) with
  | some place => .error ⟨place⟩
  | none => hexBytesFrom 0 cs

end Text

end ChipEight
