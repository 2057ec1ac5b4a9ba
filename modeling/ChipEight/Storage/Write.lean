import ChipEight.Datum.HexBytes
import ChipEight.Storage

/-!
# Writing to the storage

A file is written to a path in three steps: the directories on the way are made, the file is opened,
which empties it, and then its bytes are put into it. Each step can be refused, and the first
refusal ends the writing.

## Main definitions

- `splitPath`: a path cut in front of its last part.
- `Storage.makeDirectory`, `Storage.makeDirectories`: a directory made, and those on the way to it.
- `Storage.openFile`: a file emptied, or made.
- `StoreFault`: why nothing is written.
- `Storage.write`, `Storage.ofFiles`: one file written, and several.
-/

namespace ChipEight

/-- A path without the slashes at its end, unless it consists of slashes. -/
def trimPath (path : List Char) : List Char :=
  let kept := (path.reverse.dropWhile (· = '/')).reverse
  if kept.isEmpty then path else kept

/-- The part of a path in front of its last slash, and the part behind it. -/
def splitPath (path : String) : String × String :=
  let tail := (path.toList.reverse.takeWhile (· != '/')).reverse
  let head := path.toList.take (path.length - tail.length)
  (String.ofList (trimPath head), String.ofList tail)

namespace Storage

/-- The parts of a path on the way to its end, and the part at its end. -/
def wayOf (path : String) : List String × String :=
  let parts := pathParts (String.ofList (trimPath path.toList))
  (parts.dropLast, parts.getLastD "")

/-- The place above the end of a path. -/
def placeAbove (s : Storage) (path : String) : Except FileFault Place :=
  if path.contains (Char.ofNat 0) then .error .zeroCharacter
  else if path = "" then .error (.notFound path)
  else if pathLimit < path.utf8ByteSize then .error (.nameTooLong path)
  else (wayOf path).1.foldlM (s.enter path) (.directory (origin path))

/-- The spot that a place and a further part lead to, if they lead to a spot of their own. -/
def spotAt (path : String) (place : Place) : Except FileFault (List String) :=
  let part := (wayOf path).2
  match place with
  | .file _ => .error (.notDirectory path)
  | .directory spot =>
    if partLimit < part.utf8ByteSize then .error (.nameTooLong path) else .ok (spot ++ [part])

/-- Whether the last part of a path leads nowhere new. -/
def endsInDots (path : String) : Bool :=
  ["", ".", ".."].contains (wayOf path).2

/-- The storage with a directory made at the end of a path. -/
def makeDirectory (s : Storage) (path : String) : Except FileFault Storage := do
  let place ← s.placeAbove path
  if endsInDots path then
    match place with
    | .file _ => throw (.notDirectory path)
    | .directory _ => throw (.exists path)
  let spot ← spotAt path place
  if s.hasDirectory spot || s.files.any (fun f => f.1 == spot) then throw (.exists path)
  return { s with directories := s.directories ++ [spot] }

/-- Whether a path leads to a directory. -/
def isDirectory (s : Storage) (path : String) : Bool :=
  match s.follow path with
  | .ok (.directory _) => true
  | _ => false

/-- The storage with a directory at the end of a path, made unless it is there. -/
def ensureDirectory (s : Storage) (path : String) : Except FileFault Storage :=
  match s.makeDirectory path with
  | .ok t => .ok t
  | .error .zeroCharacter => .error .zeroCharacter
  | .error e => if s.isDirectory path then .ok s else .error e

/-- What a refused step leaves behind: the storage as it was before the step. -/
def attempt (s : Storage) (step : Storage → Except FileFault Storage) :
    Storage × Option FileFault :=
  match step s with
  | .ok t => (t, none)
  | .error e => (s, some e)

/-- The directories made on the way to the end of a path and at its end, for paths of at most `n`
characters: the storage with those that could be made, and the refusal that ended the making. A path
may lead back through `..` to a spot that a file takes up. That file is passed over until something
is to be made behind it, and the directories made before it was met stay. -/
def makeDirectories (s : Storage) : Nat → String → Storage × Option FileFault
  | 0, path => s.attempt (·.ensureDirectory path)
  | n + 1, path =>
    let (head, tail) := splitPath path
    let (head, tail) := if tail = "" then splitPath head else (head, tail)
    if head = "" ∨ tail = "" ∨ (s.follow head).isOk then s.attempt (·.ensureDirectory path)
    else
      let finish (t : Storage) : Storage × Option FileFault :=
        if tail = "." then (t, none) else t.attempt (·.ensureDirectory path)
      match s.makeDirectories n head with
      | (t, none) => finish t
      | (t, some (.exists _)) => finish t
      | (t, some e) => (t, some e)

/-- The spot of the file at the end of a path, to be emptied or made. -/
def openFile (s : Storage) (path : String) : Except FileFault (List String) := do
  let place ← s.placeAbove path
  if path.endsWith "/" || endsInDots path then
    match place with
    | .file _ => throw (.notDirectory path)
    | .directory _ => throw (.isDirectory path)
  let spot ← spotAt path place
  if s.hasDirectory spot && !s.files.any (fun f => f.1 == spot) then throw (.isDirectory path)
  return spot

end Storage

/-- Why nothing is written. -/
inductive StoreFault where
  | file (e : FileFault)
  | bytes (e : HexBytesFault)
  deriving DecidableEq, Repr

namespace StoreFault

/-- The text of the complaint. -/
def message : StoreFault → String
  | .file e => e.message
  | .bytes e => e.message

/-- The kind of the complaint. -/
def kind : StoreFault → FaultKind
  | .file e => e.kind
  | .bytes e => e.kind

instance : IsFault StoreFault := ⟨kind, message⟩

end StoreFault

namespace Storage

/-- The storage with a file written to a path, in place of the one that lay there. -/
def write (s : Storage) (path : String) (content : Datum) : Except StoreFault Storage := do
  let directory := (splitPath path).1
  let s ←
    if directory = "" then .ok s
    else
      match s.makeDirectories directory.length directory with
      | (t, none) => .ok t
      | (_, some e) => .error (.file e)
  let spot ← (s.openFile path).mapError .file
  let bytes ← content.hexBytes.mapError .bytes
  return { s with files := s.files.filter (fun f => f.1 != spot) ++ [(spot, bytes)] }

/-- The storage that files were written to in order, beside directories that were there before. -/
def ofFiles (directories : List (List String)) (files : List (String × Datum)) :
    Except StoreFault Storage :=
  files.foldlM (fun s f => s.write f.1 f.2) { directories := directories }

end Storage

end ChipEight
