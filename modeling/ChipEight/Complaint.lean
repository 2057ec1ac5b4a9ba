import ChipEight.Datum.Operand

/-!
# Complaints

A machine complains in a few kinds, arranged in families, and a host may make complaints of these
kinds itself, with particulars of its own. Three kinds are worded from particulars of a fixed number
and keep them; the others show whatever they are given.

## Main definitions

- `ComplaintKind`: the kinds, with their names and families.
- `Complaint`: a complaint with its wording and what it keeps.
- `ComplaintFault`: why particulars make no complaint.
- `ComplaintKind.make`: the complaint of some particulars.
-/

namespace ChipEight

/-- A kind of complaint. -/
inductive ComplaintKind where
  /-- Any complaint of a machine. -/
  | general
  /-- Any complaint about a program. -/
  | load
  /-- The program is no sequence of bytes. -/
  | notBytes
  /-- The program does not fit. -/
  | tooLarge
  /-- An element of the program is no byte. -/
  | invalidByte
  /-- There is no return address. -/
  | stackUnderflow
  deriving DecidableEq, Repr

namespace ComplaintKind

/-- All kinds. -/
def all : List ComplaintKind :=
  [.general, .load, .notBytes, .tooLarge, .invalidByte, .stackUnderflow]

/-- The name of a kind. -/
def name : ComplaintKind → String
  | .general => "Chip8Error"
  | .load => "LoadError"
  | .notBytes => "NotAByteSequenceError"
  | .tooLarge => "ProgramTooLargeError"
  | .invalidByte => "InvalidByteError"
  | .stackUnderflow => "StackUnderflowError"

/-- The kind of a name. -/
def ofName? (s : String) : Option ComplaintKind :=
  all.find? fun k => k.name == s

/-- The families that a kind belongs to, the narrowest first. -/
def families : ComplaintKind → List String
  | .general => ["Exception"]
  | .load => ["Chip8Error", "Exception"]
  | .notBytes => ["LoadError", "Chip8Error", "TypeError", "Exception"]
  | .tooLarge | .invalidByte => ["LoadError", "Chip8Error", "ValueError", "Exception"]
  | .stackUnderflow => ["Chip8Error", "Exception"]

/-- The names of the particulars that a kind is worded from, if their number is fixed. -/
def particulars? : ComplaintKind → Option (List String)
  | .tooLarge => some ["size", "capacity"]
  | .invalidByte => some ["offset", "value"]
  | .stackUnderflow => some ["address"]
  | _ => none

end ComplaintKind

/-- A complaint with its wording and the particulars that it keeps. -/
structure Complaint where
  kind : ComplaintKind
  message : String
  kept : List (String × Datum) := []

/-- Why particulars make no complaint. -/
inductive ComplaintFault where
  /-- Particulars of these names are missing. -/
  | missing (kind : ComplaintKind) (names : List String)
  /-- There are more particulars than the kind takes. -/
  | surplus (kind : ComplaintKind) (taken given : Nat)
  /-- The particulars are a value of this kind, which has no elements. -/
  | noParticulars (kind : ComplaintKind) (typeName : String)
  /-- A particular is of no use where it is needed. -/
  | operand (e : OperandFault)
  deriving DecidableEq, Repr

/-- The text of the refusal. -/
def ComplaintFault.message : ComplaintFault → String
  | .missing kind names =>
    kind.name ++ ".__init__() missing " ++ toString names.length ++
      " required positional argument" ++ (if names.length = 1 then "" else "s") ++ ": " ++
      " and ".intercalate (names.map fun s => "'" ++ s ++ "'")
  | .surplus kind taken given =>
    kind.name ++ ".__init__() takes " ++ toString (taken + 1) ++ " positional arguments but " ++
      toString (given + 1) ++ " were given"
  | .noParticulars kind t =>
    "chip8emu.core.errors." ++ kind.name ++ "() argument after * must be an iterable, not " ++ t
  | .operand e => e.message

/-- The kind of the refusal. -/
def ComplaintFault.kind : ComplaintFault → FaultKind
  | .operand e => e.kind
  | _ => .unfit

instance : IsFault ComplaintFault := ⟨ComplaintFault.kind, ComplaintFault.message⟩

/-- The wording of a complaint with particulars of the right number. -/
def ComplaintKind.wording : ComplaintKind → List Datum → Except OperandFault String
  | .tooLarge, [size, capacity] =>
    .ok ("program is " ++ size.plain ++ " bytes, only " ++ capacity.plain ++ " bytes available")
  | .invalidByte, [offset, value] =>
    .ok ("value " ++ value.literal ++ " at offset " ++ offset.plain ++ " is not a byte")
  | .stackUnderflow, [address] =>
    (address.hexText 4).map fun digits => "return with empty stack at $" ++ digits
  | _, ds => .ok (Datum.particulars ds)

/-- The complaint whose particulars are the elements of a value. -/
def ComplaintKind.make (kind : ComplaintKind) (d : Datum) : Except ComplaintFault Complaint := do
  let ds ← d.parts.mapError fun _ => .noParticulars kind d.typeName
  match kind.particulars? with
  | none => return ⟨kind, Datum.particulars ds, []⟩
  | some names =>
    if ds.length < names.length then throw (.missing kind (names.drop ds.length))
    if names.length < ds.length then throw (.surplus kind names.length ds.length)
    return ⟨kind, ← (kind.wording ds).mapError .operand, names.zip ds⟩

end ChipEight
