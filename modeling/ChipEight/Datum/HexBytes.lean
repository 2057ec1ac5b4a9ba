import ChipEight.Datum.Operand
import ChipEight.Text.HexBytes

/-!
# Data as bytes

Bytes are handed over as texts in hexadecimal digits.

## Main definitions

- `HexBytesFault`: why a value is no row of bytes.
- `Datum.hexBytes`: the bytes that a value stands for.
-/

namespace ChipEight

/-- Why a value is no row of bytes. -/
inductive HexBytesFault where
  /-- The value is no text. -/
  | operand (e : OperandFault)
  /-- The text is no row of bytes. -/
  | text (e : Text.HexFault)
  deriving DecidableEq, Repr

namespace HexBytesFault

/-- The text of the complaint. -/
def message : HexBytesFault → String
  | .operand e => e.message
  | .text e => e.message

/-- The kind of the complaint. -/
def kind : HexBytesFault → FaultKind
  | .operand e => e.kind
  | .text _ => .senseless

instance : IsFault HexBytesFault := ⟨kind, message⟩

end HexBytesFault

/-- The bytes that a value stands for. -/
def Datum.hexBytes (d : Datum) : Except HexBytesFault (List UInt8) :=
  match d with
  | .text s => (Text.readHexBytes s).mapError .text
  | d => .error (.operand (.noText "fromhex() argument" (OperandFault.kindText d)))

end ChipEight
