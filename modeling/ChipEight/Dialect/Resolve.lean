import ChipEight.Dialect.Basic
import ChipEight.Text.Quoted

/-!
# Choosing a dialect by names

Dialects are chosen by texts: a preset name, a list of trait names, flags by trait name, and changes
to a dialect chosen before. A text that names nothing is refused, and all refused names are reported
together, in order and once each.

## Main definitions

- `DialectFault`: the reasons for refusing a choice.
- `Dialect.ofFlags`, `Dialect.ofNames`, `Dialect.ofPreset`, `Dialect.override`: the ways to choose.
- `Dialect.resolve`: a preset, traits to enable and traits to disable, where disabling wins.
-/

namespace ChipEight

/-- Why a choice of a dialect is refused. -/
inductive DialectFault where
  /-- No preset has this name. -/
  | unknownPreset (name : String)
  /-- No trait has one of these names; reported together with the names that exist. -/
  | unknownTraits (names : List String)
  /-- No trait has one of these names, in a change to a dialect. -/
  | unknownOverrides (names : List String)
  /-- A change may not be addressed to `self`, which stands for the dialect being changed. -/
  | selfOverride
  deriving DecidableEq, Repr

/-- The refusal of a preset, shown as it was named. -/
def DialectFault.presetMessage (shown : String) : String :=
  "unknown quirk preset " ++ shown ++ "; valid presets are " ++
    ", ".intercalate (Preset.all.map Preset.name)

/-- The text of a refusal. -/
def DialectFault.message : DialectFault → String
  | .unknownPreset name => presetMessage (Text.quote name)
  | .unknownTraits names =>
    "unknown quirk(s): " ++ ", ".intercalate names ++ "; valid names are " ++
      ", ".intercalate (Trait.all.map Trait.name)
  | .unknownOverrides names => "unknown quirk(s): " ++ ", ".intercalate names
  | .selfOverride => "QuirksConfig.with_overrides() got multiple values for argument 'self'"

namespace Dialect

/-- The names of a list that no trait has, in order and once each. -/
def unknownNames (names : List String) : List String :=
  (names.filter fun s => (Trait.ofName? s).isNone).mergeSort.eraseDups

/-- The dialect with flags set by name; names that no trait has are passed over, and of several
flags for one trait the last one counts. -/
def putAll (d : Dialect) (flags : List (String × Bool)) : Dialect :=
  flags.foldl
    (fun d f =>
      match Trait.ofName? f.1 with
      | some t => d.put t f.2
      | none => d)
    d

/-- The dialect with exactly the traits that are flagged. -/
def ofFlags (flags : List (String × Bool)) : Except DialectFault Dialect :=
  match unknownNames (flags.map Prod.fst) with
  | [] => .ok (plain.putAll flags)
  | names => .error (.unknownTraits names)

/-- The dialect with exactly the traits that are named. -/
def ofNames (names : List String) : Except DialectFault Dialect :=
  ofFlags (names.map fun s => (s, true))

/-- The dialect of a preset name. -/
def ofPreset (name : String) : Except DialectFault Dialect :=
  match Preset.ofName? name with
  | some p => .ok p.dialect
  | none => .error (.unknownPreset name)

/-- The dialect with the flagged traits changed. -/
def override (d : Dialect) (flags : List (String × Bool)) : Except DialectFault Dialect :=
  if flags.any fun f => f.1 == "self" then .error .selfOverride
  else
    match unknownNames (flags.map Prod.fst) with
    | [] => .ok (d.putAll flags)
    | names => .error (.unknownOverrides names)

/-- The dialect of a preset, or the plain one if no preset is named, with some traits enabled and
some disabled; a trait that is both enabled and disabled is disabled. -/
def resolve (preset : Option String) (enable disable : List String) :
    Except DialectFault Dialect := do
  let base ←
    match preset with
    | none => .ok plain
    | some "" => .ok plain
    | some name => ofPreset name
  base.override ((enable.map fun s => (s, true)) ++ (disable.map fun s => (s, false)))

end Dialect

end ChipEight
