import ChipEight.CommandLine.Run

/-!
# Window scripts as text

Where there is no screen and no keyboard, a window is driven by lines of text and shows its picture
as text. Each line is one turn of the main loop and holds words between blanks:

* `+k` and `-k` press and release the key `k`; `+esc` and `+f5` press the two control keys;
* `close` closes the window and `blur` takes the focus from it;
* `break` interrupts the loop;
* a number is the time of the turn in eighths of a second.

Other words are passed over.

## Main definitions

- `beatOfLine`: the turn of a line.
- `pictures`: the pictures of a run, each time they change, below the caption.
-/

namespace ChipEight

namespace CommandLine

/-- The host key of a name. -/
def keyOfName (name : String) : HostKey :=
  match name.toList with
  | [c] => .symbol c
  | _ => if name = "esc" then .escape else if name = "f5" then .pause else .other

/-- A turn with one more word of its line. -/
def addWord (b : Beat) (word : String) : Beat :=
  match word.toList with
  | '+' :: name =>
    { b with events := b.events ++ [.keyDown (keyOfName (String.ofList name))] }
  | '-' :: name =>
    { b with events := b.events ++ [.keyUp (keyOfName (String.ofList name))] }
  | _ =>
    if word = "close" then { b with events := b.events ++ [.quit] }
    else if word = "blur" then { b with events := b.events ++ [.focusLost] }
    else if word = "break" then { b with interrupted := true }
    else
      match word.toNat? with
      | some n => { b with seconds := Beat.eighths (.int n) }
      | none => b

/-- The turn of a line. -/
def beatOfLine (line : String) : Beat :=
  (line.splitToList Char.isWhitespace).foldl addWord {}

/-- The pictures at the readings of the clock, each time they change, below the caption. -/
def pictures (shown : Vector (Vector Bool 64) 32) : List Window → List String
  | [] => []
  | w :: ws =>
    if w.shown = shown then pictures w.shown ws
    else (w.caption :: w.shown.toList.map Display.rowLine) ++ pictures w.shown ws

/-- The pictures of what a command line brought about. -/
def Outcome.pictures (o : Outcome) : List String :=
  match o.window with
  | some (_, _, run) => CommandLine.pictures Display.blankRows run.snapshots
  | none => []

/-- Arguments as values. -/
def argsOf (args : List String) : List Datum :=
  args.map .text

/-- The path of the program that a command line names. -/
def programPath? (args : List Datum) (homes : Homes) : Option String :=
  match Request.ofArgs args with
  | .ok (program, _) => (programPath program homes).toOption
  | .error _ => none

/-- Whether a command line opens a window on a program that can be read. -/
def opensWindow (args : List Datum) : Bool :=
  match Request.ofArgs args with
  | .ok (_, r) => !r.info
  | .error _ => false

/-- What a command line complains of: its own complaints, and the reason why it was broken off. -/
def Outcome.complaints (o : Outcome) : String :=
  match o.ending with
  | .broken b => o.stderr ++ b.message ++ "\n"
  | _ => o.stderr

/-- The code with which a command line ends. -/
def Outcome.code (o : Outcome) : Int :=
  match o.ending with
  | .exited n => n
  | .returned n => n
  | .broken _ => 1

end CommandLine

end ChipEight
