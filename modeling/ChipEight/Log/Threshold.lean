import ChipEight.Datum.Basic
import ChipEight.FaultKind
import ChipEight.Log

/-!
# Thresholds of the log

From which rank on a log is written can be given by the name of a level, in capital letters, or by
any integer. Nothing set means the usual rank, that of warnings.

## Main definitions

- `ThresholdFault`: why a value is no threshold.
- `Threshold.named`: the names and their ranks.
- `Threshold.ofDatum`: the rank that a value stands for.
-/

namespace ChipEight

/-- Why a value is no threshold. -/
inductive ThresholdFault where
  /-- No level has this name. -/
  | unknown (name : String)
  /-- The value is neither a text nor an integer. -/
  | foreign (value : Datum)

namespace ThresholdFault

/-- The text of the complaint. -/
def message : ThresholdFault → String
  | .unknown name => "Unknown level: " ++ Text.quote name
  | .foreign value => "Level not an integer or a valid string: " ++ value.literal

/-- The kind of the complaint. -/
def kind : ThresholdFault → FaultKind
  | .unknown _ => .senseless
  | .foreign _ => .unfit

instance : IsFault ThresholdFault := ⟨kind, message⟩

end ThresholdFault

namespace Threshold

/-- The rank that stands for nothing set. -/
def unset : Int := 0

/-- The names of ranks. -/
def named : List (String × Int) :=
  ([.debug, .info, .warning, .error, .critical].map fun l : Level => (l.name, l.rank)) ++
    [("WARN", Level.warning.rank), ("FATAL", Level.critical.rank), ("NOTSET", unset)]

/-- The rank from which on a log is written. -/
def effective (rank : Int) : Int :=
  if rank = unset then Level.warning.rank else rank

/-- The rank that a value stands for. -/
def ofDatum (d : Datum) : Except ThresholdFault Int :=
  match d, d.integer? with
  | _, some k => .ok (effective k)
  | .text name, _ =>
    match named.lookup name with
    | some k => .ok (effective k)
    | none => .error (.unknown name)
  | d, _ => .error (.foreign d)

end Threshold

end ChipEight
