import ChipEight.Datum.Operand
import ChipEight.Program.Packed

/-!
# Faults of the machine

## Main definitions

- `Fault`: what a machine refuses, and why.
- `Fault.message`, `Fault.kind`: the wording and the kind.
-/

namespace ChipEight

/-- Why something offered as a program is no sequence of bytes. -/
inductive NotBytes where
  /-- It is no sequence at all; the name of its kind is reported. -/
  | kind (typeName : String)
  /-- It has a number of dimensions other than one. -/
  | dimensions (n : Nat)

/-- What a machine refuses. -/
inductive Fault where
  /-- The program is no sequence of bytes. -/
  | notBytes (reason : NotBytes)
  /-- The program does not fit behind the program base. -/
  | tooLarge (size capacity : Nat)
  /-- An element of the program is no byte. -/
  | invalidByte (offset : Nat) (value : Datum)
  /-- The program is a progression with more elements than can be counted in 63 bits. -/
  | uncountable
  /-- The elements of the program are packed in a format in which nothing can be read. -/
  | unreadable (format : SealedFormat)
  /-- The program is a view that was given back. -/
  | released
  /-- A return was executed while no return address was left; the address is the program counter at
  that moment, which has moved behind the instruction already when it was fetched. -/
  | stackUnderflow (address : Nat)
  /-- A value that a host left in the machine is of no use where a program needs it. -/
  | operand (e : OperandFault)

/-- The wording of a refusal to take something as a sequence of bytes. -/
def NotBytes.message : NotBytes → String
  | .kind typeName => "program must be a sequence of bytes, got " ++ typeName
  | .dimensions n => "program memoryview must be one-dimensional, got ndim=" ++ toString n

/-- The wording of a fault. -/
def Fault.message : Fault → String
  | .notBytes reason => reason.message
  | .tooLarge size capacity =>
    "program is " ++ toString size ++ " bytes, only " ++ toString capacity ++ " bytes available"
  | .invalidByte offset value =>
    "value " ++ value.literal ++ " at offset " ++ toString offset ++ " is not a byte"
  | .uncountable => "Python int too large to convert to C ssize_t"
  | .unreadable format => format.message
  | .released => "operation forbidden on released memoryview object"
  | .stackUnderflow address => "return with empty stack at $" ++ Text.hex 4 address
  | .operand e => e.message

/-- The values that the wording of a fault shows in decimal digits, as far as a host chose them. -/
def Fault.shown : Fault → List Datum
  | .invalidByte _ value => [value]
  | _ => []

/-- The kind of a fault. -/
def Fault.kind : Fault → FaultKind
  | .notBytes _ => .notBytes
  | .tooLarge _ _ => .tooLarge
  | .invalidByte _ _ => .invalidByte
  | .uncountable => .large
  | .unreadable _ => .unreadable
  | .released => .senseless
  | .stackUnderflow _ => .stackUnderflow
  | .operand e => e.kind

instance : IsFault Fault := ⟨Fault.kind, Fault.message⟩

end ChipEight
