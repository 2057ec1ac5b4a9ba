import ChipEight.Datum.Basic
import ChipEight.FaultKind

/-!
# Storage

Program files lie in a tree of directories. A path is followed part by part from the working
directory. Of what lies outside it nothing is known but what was put there.

A spot of the tree is written as the names on the way to it from the working directory. The way may
begin with any number of `..`, which lead out of the working directory, or with `/`, the root.

## Main definitions

- `Storage`: the files and directories by the spots where they lie.
- `FileFault`: why a path leads to no file.
- `Storage.follow`: where a path leads.
- `FileReader`: whatever can tell the contents of files.
- `Storage.read`: a storage as a reader of files.
- `baseName`: the last part of a path.
- `Datum.path`: a value as a path.
-/

namespace ChipEight

/-- The files and directories of a tree, each with its spot. The directories on the way to one of
them need not be named. -/
structure Storage where
  files : List (List String × List UInt8) := []
  directories : List (List String) := []

/-- Why a path leads to no file. -/
inductive FileFault where
  /-- Nothing has this path. -/
  | notFound (path : String)
  /-- The path leads to a directory. -/
  | isDirectory (path : String)
  /-- The path goes on behind a file. -/
  | notDirectory (path : String)
  /-- A directory cannot be made where a file lies. -/
  | exists (path : String)
  /-- A part of the path, or all of it, is longer than a path may be. -/
  | nameTooLong (path : String)
  /-- A path holds no zero character. -/
  | zeroCharacter
  /-- A value of this kind is no path. -/
  | noPath (typeName : String)
  /-- A number stands for an open file, and no open file has this one. -/
  | notOpen
  /-- The number of an open file is not negative. -/
  | negativeNumber
  deriving DecidableEq, Repr

/-- The text of the complaint about a path. -/
def FileFault.message : FileFault → String
  | .notFound path => "[Errno 2] No such file or directory: " ++ Text.quote path
  | .isDirectory path => "[Errno 21] Is a directory: " ++ Text.quote path
  | .notDirectory path => "[Errno 20] Not a directory: " ++ Text.quote path
  | .exists path => "[Errno 17] File exists: " ++ Text.quote path
  | .nameTooLong path => "[Errno 36] File name too long: " ++ Text.quote path
  | .zeroCharacter => "embedded null byte"
  | .noPath t => "expected str, bytes or os.PathLike object, not " ++ t
  | .notOpen => "[Errno 9] Bad file descriptor"
  | .negativeNumber => "negative file descriptor"

/-- The kind of the complaint. -/
def FileFault.kind : FileFault → FaultKind
  | .notFound _ => .noFile
  | .isDirectory _ => .directory
  | .notDirectory _ => .noDirectory
  | .exists _ => .exists
  | .nameTooLong _ | .notOpen => .system
  | .zeroCharacter | .negativeNumber => .senseless
  | .noPath _ => .unfit

instance : IsFault FileFault := ⟨FileFault.kind, FileFault.message⟩

/-- The path that a value is. An integer of 32 bits is the number of an open file instead, and none
is open. -/
def Datum.path (d : Datum) : Except FileFault String :=
  match d, d.integer? with
  | .text s, _ => .ok s
  | d, some k =>
    if k < -Int.pow 2 31 ∨ Int.pow 2 31 ≤ k then .error (.noPath d.typeName)
    else if k < 0 then .error .negativeNumber
    else .error .notOpen
  | d, none => .error (.noPath d.typeName)

/-- Whatever can tell the contents of the file at a path, or why there is none. -/
abbrev FileReader := String → Except FileFault (List UInt8)

/-- What a path leads to. -/
inductive Place where
  /-- The directory at a spot. -/
  | directory (spot : List String)
  /-- A file. -/
  | file (bytes : List UInt8)

/-- The parts of a path, between slashes. -/
def pathParts (path : String) : List String :=
  (path.splitToList (· = '/'))

/-- The last part of a path: what follows the last slash. -/
def baseName (path : String) : String :=
  (pathParts path).getLastD ""

namespace Storage

/-- The spot above a spot. Nothing is above the root. -/
def above (spot : List String) : List String :=
  match spot.getLast? with
  | none => [".."]
  | some ".." => spot ++ [".."]
  | some "/" => spot
  | some _ => spot.dropLast

/-- The spot where a path begins: the root or the working directory. -/
def origin (path : String) : List String :=
  if path.startsWith "/" then ["/"] else []

/-- The longest part of a path, in bytes. -/
def partLimit : Nat := 255

/-- The longest path, in bytes. -/
def pathLimit : Nat := 4095

/-- Whether a directory lies at a spot: one that was made, or one on the way to a file. -/
def hasDirectory (s : Storage) (spot : List String) : Bool :=
  s.directories.any (fun d => spot.isPrefixOf d) || s.files.any fun f => spot.isPrefixOf f.1

/-- The step from a place along one part of a path. -/
def enter (s : Storage) (path : String) (place : Place) (part : String) : Except FileFault Place :=
  match place with
  | .file _ => .error (.notDirectory path)
  | .directory spot =>
    if part = "" ∨ part = "." then .ok (.directory spot)
    else if part = ".." then .ok (.directory (above spot))
    else if partLimit < part.utf8ByteSize then .error (.nameTooLong path)
    else
      let here := spot ++ [part]
      match s.files.find? fun f => f.1 == here with
      | some f => .ok (.file f.2)
      | none => if s.hasDirectory here then .ok (.directory here) else .error (.notFound path)

/-- Where a path leads. -/
def follow (s : Storage) (path : String) : Except FileFault Place :=
  if path.contains (Char.ofNat 0) then .error .zeroCharacter
  else if path = "" then .error (.notFound path)
  else if pathLimit < path.utf8ByteSize then .error (.nameTooLong path)
  else (pathParts path).foldlM (s.enter path) (.directory (origin path))

/-- The bytes of the file at a path. -/
def read (s : Storage) : FileReader := fun path =>
  match s.follow path with
  | .error e => .error e
  | .ok (.file bytes) => .ok bytes
  | .ok _ => .error (.isDirectory path)

end Storage

end ChipEight
