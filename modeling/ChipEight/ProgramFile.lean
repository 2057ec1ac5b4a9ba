import ChipEight.Listing
import ChipEight.Log
import ChipEight.Machine.Basic
import ChipEight.Random.Seed
import ChipEight.Storage

/-!
# Program files

## Main definitions

- `ProgramFile.describe`: the account of a program file: its name and size, whether it fits, and a
  listing of its first words.
- `ProgramFile.create`: a machine with the program of a file loaded.
-/

namespace ChipEight

/-- The account of a program file. -/
structure Account where
  file : String
  size : Nat
  capacity : Nat
  fits : Bool
  listing : List String
  deriving DecidableEq, Repr

/-- The four short entries of an account, each with its key. -/
def Account.entries (a : Account) : List (String × String) :=
  [("file", a.file), ("size", toString a.size ++ " bytes"),
    ("capacity", toString a.capacity ++ " bytes"), ("fits", if a.fits then "yes" else "no")]

/-- Why no machine was made for a program file. -/
inductive BootFault where
  | file (e : FileFault)
  /-- A value is no seed. -/
  | seed (e : OperandFault)
  | program (f : Fault)

/-- The text of the complaint. -/
def BootFault.message : BootFault → String
  | .file e => e.message
  | .seed e => e.message
  | .program f => f.message

/-- The kind of the complaint. -/
def BootFault.kind : BootFault → FaultKind
  | .file e => e.kind
  | .seed e => e.kind
  | .program f => f.kind

instance : IsFault BootFault := ⟨BootFault.kind, BootFault.message⟩

namespace ProgramFile

/-- The account of bytes as the program of a file. -/
def account (path : String) (bytes : List UInt8) : Account where
  file := baseName path
  size := bytes.length
  capacity := Memory.programCapacity
  fits := decide (bytes.length ≤ Memory.programCapacity)
  listing := Listing.lines bytes Memory.programBase Listing.defaultCount

/-- The account of the program file at a path. -/
def describe (read : FileReader) (path : String) : Except FileFault Account :=
  (read path).map (account path)

/-- A machine with the program of a file loaded, and the log of its making. Without a seed its
random bytes come from the source of an unseeded machine. -/
def create (read : FileReader) (unseeded : RandomSource) (path : String) (d : Dialect)
    (seed : Datum) : Except BootFault (Machine × Log) := do
  let bytes ← (read path).mapError .file
  let source ← (RandomSource.ofSeed unseeded seed).mapError .seed
  let m ← ((Machine.fresh d source).load (.offer (.raw bytes))).mapError .program
  return (m, [.loaded bytes.length, .created path d.enabledNames])

end ProgramFile

end ChipEight
