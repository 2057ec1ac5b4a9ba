/-!
# Kinds of faults

Every part of the emulator refuses things for reasons of its own. However different the reasons are,
they fall into a few kinds, and each reason has a wording.

## Main definitions

- `FaultKind`: the kinds.
- `IsFault`: the reasons that have a kind and a wording.
-/

namespace ChipEight

/-- What kind of fault a reason for refusing something is. -/
inductive FaultKind where
  /-- A value is of a kind that cannot be used like this. -/
  | unfit
  /-- A value is of the right kind and still makes no sense. -/
  | senseless
  /-- A place lies outside of what there is. -/
  | place
  /-- A table has no such entry. -/
  | entry
  /-- A thing has no part of such a name. -/
  | part
  /-- A number is too large. -/
  | large
  /-- A number is divided by zero. -/
  | zero
  /-- There is no memory left. -/
  | memory
  /-- A value cannot be read. -/
  | unreadable
  /-- A text cannot be written in an encoding. -/
  | encoding
  /-- Nothing has a path. -/
  | noFile
  /-- A path leads to a directory. -/
  | directory
  /-- A path goes on behind a file. -/
  | noDirectory
  /-- Something lies at a path already. -/
  | exists
  /-- The system refuses for another reason. -/
  | system
  /-- A program is no sequence of bytes. -/
  | notBytes
  /-- A program does not fit. -/
  | tooLarge
  /-- An element of a program is no byte. -/
  | invalidByte
  /-- There is no return address. -/
  | stackUnderflow
  deriving DecidableEq, Repr

/-- The reasons for refusing something: each is of a kind and has a wording. -/
class IsFault (ε : Type) where
  /-- The kind of a reason. -/
  kind : ε → FaultKind
  /-- The wording of a reason. -/
  message : ε → String

end ChipEight
