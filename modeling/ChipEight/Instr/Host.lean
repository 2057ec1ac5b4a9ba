import ChipEight.Datum.Operand
import ChipEight.Instr.Decode

/-!
# Words given by a host

A host may ask for the instruction of any value. Truth values count as integers; other values are
refused, reals and texts with the words of the comparison or of the shift that they fail in.

Looking up a truth value leaves a mark: from then on a real that is the same number is taken for it.

## Main definitions

- `WordFault`: why a value stands for no instruction.
- `Datum.word`: the word that a value stands for.
- `WordMemory`: the truth values that were looked up; `WordMemory.resolve`, `WordMemory.keep`.
-/

namespace ChipEight

/-- Why a value stands for no instruction. -/
inductive WordFault where
  /-- An integer that no 16-bit word holds. -/
  | word (e : NotAWord)
  /-- A value is of no use where a word is needed. -/
  | operand (e : OperandFault)
  deriving DecidableEq, Repr

namespace WordFault

/-- The text of the complaint. -/
def message : WordFault → String
  | .word e => e.message
  | .operand e => e.message

/-- The kind of the complaint. -/
def kind : WordFault → FaultKind
  | .word _ => .senseless
  | .operand e => e.kind

instance : IsFault WordFault := ⟨kind, message⟩

end WordFault

/-- The word that a value stands for. A real between the words has no bits to shift, and one beyond
them cannot be shown in hexadecimal digits. -/
def Datum.word (d : Datum) : Except WordFault UInt16 := do
  d.asKey.mapError .operand
  match d.integer? with
  | some k => (Word.ofInt k).mapError .word
  | none =>
    let within ← (d.isWithin 0x10000).mapError .operand
    let beyond ← (d.isAbove 0xFFFF).mapError .operand
    if within && !beyond then
      let _ ← (d.bits ">>").mapError .operand
    throw (.operand (.noForm 'x' d.typeName))

/-- The truth values that were looked up. -/
abbrev WordMemory := List Bool

namespace WordMemory

/-- A value, or the truth value it is taken for. -/
def resolve (known : WordMemory) (d : Datum) : Datum :=
  match d with
  | .real _ => ((known.find? fun b => d.sameNumber (.flag b)).map .flag).getD d
  | d => d

/-- The memory after a value was looked up. -/
def keep (known : WordMemory) (d : Datum) : WordMemory :=
  match d with
  | .flag b => b :: known
  | _ => known

end WordMemory

end ChipEight
