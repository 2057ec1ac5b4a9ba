import ChipEight.CommandLine.Home
import ChipEight.CommandLine.Request
import ChipEight.Dialect.Description
import ChipEight.ProgramFile
import ChipEight.Window

/-!
# Running a command line

A command line is read, the program file is looked up, and then either the account of the file is
printed or a window runs the program.

An option whose value was dropped does no harm until the value is needed. Then a trait or a seed
breaks the run off, and a number for the window is a fatal error.

## Main definitions

- `Break`: why a run is broken off.
- `Outcome`: what running a command line brings about.
- `CommandLine.Host`: what a command line finds on the host.
- `CommandLine.run`: running a command line.
-/

namespace ChipEight

namespace CommandLine

/-- Why a run is broken off without an exit code. -/
inductive Break where
  /-- A name with a zero character stands behind a tilde. -/
  | zeroInHome
  /-- The program is named by something that is no path. -/
  | program (e : FileFault)
  /-- A value is of no use where it is needed. -/
  | operand (e : OperandFault)
  deriving DecidableEq, Repr

namespace Break

/-- The text of the complaint. -/
def message : Break → String
  | .zeroInHome => "embedded null byte"
  | .program e => e.message
  | .operand e => e.message

/-- The kind of the complaint. -/
def kind : Break → FaultKind
  | .zeroInHome => .senseless
  | .program e => e.kind
  | .operand e => e.kind

instance : IsFault Break := ⟨kind, message⟩

end Break

/-- How a command line ends. -/
inductive Ending where
  /-- The reading of the command line ended the run, with this code. -/
  | exited (code : Int)
  /-- The run ended with this code. -/
  | returned (code : Int)
  /-- The run was broken off. -/
  | broken (b : Break)
  deriving DecidableEq, Repr

/-- What running a command line brings about. -/
structure Outcome where
  ending : Ending
  stdout : String := ""
  stderr : String := ""
  /-- The window as it was opened, the calls made in opening it, and its run. -/
  window : Option (Window × Trail × Window.WindowRun) := none
  log : Log := []
  /-- The level from which on the log is written. -/
  level : Level := .warning

/-- The level of the log for a number of requests to be verbose. -/
def levelOf : Nat → Level
  | 0 => .warning
  | 1 => .info
  | _ => .debug

/-- A text filled up with blanks to at least `n` characters. -/
def padRight (n : Nat) (s : String) : String :=
  s ++ String.ofList (List.replicate (n - s.length) ' ')

/-- The printed account of a program file. -/
def accountText (a : Account) : String :=
  let rule (c : Char) : String := String.ofList (List.replicate 40 c)
  unlines (["CHIP-8 Program Information", rule '='] ++
    (a.entries.map fun (key, value) => "  " ++ padRight 20 key.capitalize ++ ": " ++ value) ++
    [rule '-'] ++ (a.listing.map fun l => "  " ++ l) ++ [rule '='])

/-- A run that ends with a complaint. -/
def failure (level : Level) (message : String) : Outcome where
  ending := .returned 1
  stderr := message ++ "\n"
  level := level

/-- A run that ends with a fatal error, with the log up to it. -/
def fatal (level : Level) (log : Log) (message : String) : Outcome :=
  { failure level ("Fatal error: " ++ message) with log := log ++ [.fatal] }

/-- A run that is broken off. -/
def Outcome.broken (b : Break) : Outcome where
  ending := .broken b

/-- The window that a request asks for. -/
def Request.settings (r : Request) (path : String) : WindowSettings where
  scale := r.scale
  rate := r.rate
  budget := r.budget
  audio := !r.silent
  title := .text ("CHIP-8 - " ++ baseName path)

/-- The window run of a machine, with the log so far. -/
def runWindow (m : Machine) (s : WindowSettings) (level : Level) (log : Log) (script : List Beat) :
    Outcome :=
  match Window.new m s with
  | .error (e, opening) => fatal level (log ++ opening) e.message
  | .ok (w, made) =>
    let run := w.run script
    let log := log ++ made.log ++ run.trail.log
    match run.fault with
    | some f => { fatal level log f.message with window := some (w, made, run) }
    | none =>
      { ending := .returned 0
        window := some (w, made, run)
        log := log ++ [.exited]
        level := level }

/-- What a command line finds on the host: the home directories, the files, and the source of random
bytes for a machine without a seed. -/
structure Host where
  homes : Homes
  read : FileReader
  unseeded : RandomSource

/-- The run of a request for a window on the machine of a program file. -/
def Request.boot (r : Request) (path : String) (host : Host) (script : List Beat) : Outcome :=
  let level := levelOf r.verbosity
  match Dialect.resolveData r.preset (.list r.enable) (.list r.disable) with
  | .error (.operand e) => .broken (.operand e)
  | .error e => failure level ("Error: " ++ e.message)
  | .ok d =>
    match ProgramFile.create host.read host.unseeded path d r.seed with
    | .error (.seed e) => .broken (.operand e)
    | .error e => failure level ("Error: " ++ e.message)
    | .ok (m, log) => runWindow m (r.settings path) level (log ++ [.starting]) script

/-- The run of a request on a program file, with a script for the window. -/
def Request.run (r : Request) (path : String) (host : Host) (script : List Beat) : Outcome :=
  let level := levelOf r.verbosity
  if !(host.read path).isOk then failure level ("Error: program file not found: " ++ path)
  else if r.info then
    match ProgramFile.describe host.read path with
    | .ok a => { ending := .returned 0, stdout := accountText a, level := level }
    | .error e => failure level ("Error reading program: " ++ e.message)
  else r.boot path host script

/-- The path that a command line names by a value. -/
def programPath (d : Datum) (homes : Homes) : Except Break String :=
  match d with
  | .text s => (homes.expand? s).elim (.error .zeroInHome) .ok
  | d => .error (.program (.noPath d.typeName))

/-- The run of a command line on a host, with a script for the window. -/
def run (args : List Datum) (host : Host) (script : List Beat) : Outcome :=
  match Request.ofArgs args with
  | .error .help => { ending := .exited 0, stdout := help }
  | .error (.fault f) => { ending := .exited 2, stderr := refusal f }
  | .error (.broken e) => .broken (.operand e)
  | .ok (program, r) =>
    match programPath program host.homes with
    | .error b => .broken b
    | .ok path => r.run path host script

end CommandLine

end ChipEight
