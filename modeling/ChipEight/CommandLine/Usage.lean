import ChipEight.Datum.Basic
import ChipEight.Dialect.Basic

/-!
# Options of the command line and their help

## Main definitions

- `Opt`: the options.
- `Opt.spellings`, `Opt.table`: how they are written.
- `UsageFault`: why a command line is refused.
- `usage`, `help`: the texts that explain the command line.
-/

namespace ChipEight

namespace CommandLine

/-- The options of the command line. -/
inductive Opt where
  | help
  | preset
  | enable
  | disable
  | budget
  | rate
  | seed
  | scale
  | silent
  | info
  | verbose
  deriving DecidableEq, Repr

namespace Opt

/-- All options in the order of their declaration. -/
def all : List Opt :=
  [.help, .preset, .enable, .disable, .budget, .rate, .seed, .scale, .silent, .info, .verbose]

/-- The spellings of an option. -/
def spellings : Opt → List String
  | .help => ["-h", "--help"]
  | .preset => ["--preset", "-p"]
  | .enable => ["--quirk", "-q"]
  | .disable => ["--no-quirk"]
  | .budget => ["--ipf"]
  | .rate => ["--hz"]
  | .seed => ["--seed"]
  | .scale => ["--scale", "-s"]
  | .silent => ["--no-audio"]
  | .info => ["--info"]
  | .verbose => ["--verbose", "-v"]

/-- Every spelling with the option it stands for, in order. -/
def table : List (String × Opt) :=
  all.flatMap fun o => o.spellings.map fun s => (s, o)

/-- The option that a spelling stands for. -/
def ofSpelling? (s : String) : Option Opt :=
  table.lookup s

/-- Whether an option is followed by a value. -/
def takesValue : Opt → Bool
  | .help | .silent | .info | .verbose => false
  | _ => true

/-- The values that an option is restricted to, if it is. -/
def choices? : Opt → Option (List String)
  | .preset => some (Preset.all.map Preset.name)
  | .enable | .disable => some (Trait.all.map Trait.name)
  | _ => none

/-- All spellings of an option as complaints name it. -/
def label (o : Opt) : String :=
  "/".intercalate o.spellings

end Opt

/-- Why a command line is refused. -/
inductive UsageFault where
  /-- The beginning of an option that fits several of them. -/
  | ambiguous (arg : String) (candidates : List String)
  /-- A value attached to an option that takes none. -/
  | ignoredValue (o : Opt) (value : String)
  /-- An option without the value that it takes. -/
  | missingValue (o : Opt)
  /-- A value that is no integer. -/
  | notAnInteger (o : Opt) (value : Datum)
  /-- A value that the option does not allow. -/
  | notAChoice (o : Opt) (value : Datum) (choices : List String)
  /-- No program was named. -/
  | missingProgram
  /-- Arguments that mean nothing. -/
  | unrecognized (args : List String)

/-- The text of a refusal. -/
def UsageFault.message : UsageFault → String
  | .ambiguous arg candidates =>
    "ambiguous option: " ++ arg ++ " could match " ++ ", ".intercalate candidates
  | .ignoredValue o value =>
    "argument " ++ o.label ++ ": ignored explicit argument " ++ Text.quote value
  | .missingValue o => "argument " ++ o.label ++ ": expected one argument"
  | .notAnInteger o value => "argument " ++ o.label ++ ": invalid int value: " ++ value.literal
  | .notAChoice o value choices =>
    "argument " ++ o.label ++ ": invalid choice: " ++ value.literal ++ " (choose from " ++
      ", ".intercalate (choices.map Text.quote) ++ ")"
  | .missingProgram => "the following arguments are required: rom"
  | .unrecognized args => "unrecognized arguments: " ++ " ".intercalate args

/-- The names of the presets in braces. -/
def presetSet : String :=
  "\x7b" ++ ",".intercalate (Preset.all.map Preset.name) ++ "\x7d"

/-- Lines of text, each ended. -/
def unlines (lines : List String) : String :=
  String.join (lines.map fun l => l ++ "\n")

/-- The summary of the command line. -/
def usageLines : List String :=
  ["usage: chip8emu [-h] [--preset " ++ presetSet ++ "] [--quirk NAME]",
    "                [--no-quirk NAME] [--ipf IPF] [--hz HZ] [--seed SEED]",
    "                [--scale SCALE] [--no-audio] [--info] [--verbose]",
    "                rom"]

/-- The explanation of the command line. -/
def helpLines : List String :=
  usageLines ++
    ["",
      "CHIP-8 emulator. Load a program file and run it in a pygame window.",
      "",
      "positional arguments:",
      "  rom                   Path to the program file (.ch8)",
      "",
      "options:",
      "  -h, --help            show this help message and exit",
      "  --preset " ++ presetSet ++ ", -p " ++ presetSet,
      "                        Start from a named quirk profile. Default: all quirks",
      "                        off.",
      "  --quirk NAME, -q NAME",
      "                        Enable a quirk (repeatable). Valid values: vf_reset,",
      "                        memory, clipping, shifting, jumping, display_wait",
      "  --no-quirk NAME       Disable a quirk, overriding the preset (repeatable).",
      "  --ipf IPF             Instructions executed per frame. Default: 11.",
      "  --hz HZ               Frame rate and timer frequency in Hz. Default: 60.",
      "  --seed SEED           Seed for the random-number instruction.",
      "  --scale SCALE, -s SCALE",
      "                        Display scale factor (1-20). Default: 10.",
      "  --no-audio            Disable audio output.",
      "  --info                Print program metadata and exit without launching the",
      "                        emulator.",
      "  --verbose, -v         Increase log verbosity (-v for INFO, -vv for DEBUG)."]

/-- The explanation of the command line as one text. -/
def help : String :=
  unlines helpLines

/-- The summary of the command line and a refusal as one text. -/
def refusal (f : UsageFault) : String :=
  unlines (usageLines ++ ["chip8emu: error: " ++ f.message])

end CommandLine

end ChipEight
