import ChipEight.Datum.Operand
import ChipEight.Dialect.Resolve

/-!
# Dialects described by data

A host may describe a dialect by values of any kind. Where the values are the texts and the flags
that are asked for, the choice is made by their names. Other values are refused in the order in
which they get in the way: what cannot be gone through, what cannot be looked up in a table, and
then names that are no texts.

## Main definitions

- `DialectDescription`: the parts of a description; `DialectDescription.ofDatum`.
- `DescriptionFault`: why a description is refused.
- `DialectDescription.dialect`: the dialect described.
- `DialectDescription.settings`: the value that each of its traits was given.
- `Dialect.resolveData`: a preset with traits enabled and disabled, all of them given as data.
-/

namespace ChipEight

/-- The parts of a description of a dialect. The first of a preset, a list of names and a table of
flags that is given counts; changes come last. -/
structure DialectDescription where
  preset : Option Datum := none
  names : Option Datum := none
  flags : Option Datum := none
  overrides : Option Datum := none

/-- The description that a value is. Nothing describes nothing. -/
def DialectDescription.ofDatum (d : Datum) : Except OperandFault DialectDescription := do
  if let .null := d then return {}
  let preset ← d.member? "preset"
  let names ← if preset.isSome then .ok none else d.member? "names"
  let flags ← if preset.isSome || names.isSome then .ok none else d.member? "mapping"
  return ⟨preset, names, flags, ← d.member? "overrides"⟩

/-- Why a description of a dialect is refused. -/
inductive DescriptionFault where
  /-- The choice is refused. -/
  | choice (e : DialectFault)
  /-- No preset is named by a value that is no text. -/
  | unknownPreset (value : Datum)
  /-- A value is of no use where it is needed. -/
  | operand (e : OperandFault)
  /-- A table of flags is a value of this kind. -/
  | notTable (typeName : String)
  /-- Changes are a value of this kind. -/
  | notChanges (typeName : String)
  /-- A change is addressed by something other than a text. -/
  | notKeyword

/-- The text of a refusal. -/
def DescriptionFault.message : DescriptionFault → String
  | .choice e => e.message
  | .unknownPreset value => DialectFault.presetMessage value.literal
  | .operand e => e.message
  | .notTable typeName => "'" ++ typeName ++ "' object has no attribute 'items'"
  | .notChanges typeName =>
    "chip8emu.core.quirks.QuirksConfig.with_overrides() argument after ** must be a mapping, " ++
      "not " ++ typeName
  | .notKeyword => "keywords must be strings"

/-- The kind of a refusal. -/
def DescriptionFault.kind : DescriptionFault → FaultKind
  | .choice .selfOverride => .unfit
  | .choice _ | .unknownPreset _ => .senseless
  | .operand e => e.kind
  | .notTable _ => .part
  | .notChanges _ | .notKeyword => .unfit

instance : IsFault DescriptionFault := ⟨DescriptionFault.kind, DescriptionFault.message⟩

namespace Datum

/-- The fields of a record with their truth values. -/
def flags : Datum → List (String × Bool)
  | .record fs => fs.map fun f => (f.1, f.2.holds)
  | _ => []

/-- Whether a number is less than another one. -/
def isLess (a b : Datum) : Bool :=
  match a.magnitude?, b.magnitude? with
  | some m, some n => m.lt n
  | _, _ => false

end Datum

/-- The refusal of names that are no texts, together with those that are texts. A single value is
refused for its kind, and so is the least one of several numbers. Values of different kinds are
refused because they have no order. -/
def refuseNames (values : List Datum) : OperandFault :=
  match values with
  | [] => .noTextAt 0 ""
  | first :: rest =>
    if values.all fun d => d.magnitude?.isSome then
      .noTextAt 0 (rest.foldl (fun least d => if d.isLess least then d else least) first).typeName
    else
      match rest.find? fun d => d.typeName != first.typeName with
      | some other => .order "<" other.typeName first.typeName
      | none => .noTextAt 0 first.typeName

/-- The names of a list of values that can all be looked up in a table, or the refusal of those
that no trait has. -/
def namesOf (values : List Datum) : Except DescriptionFault (List String) := do
  (values.forM Datum.asKey).mapError .operand
  let foreign := values.filter fun d => d.text?.isNone
  let names := values.filterMap Datum.text?
  if foreign.isEmpty then return names
  throw (.operand (refuseNames
    (values.filter fun d => d.text?.all fun s => (Trait.ofName? s).isNone)))

namespace Dialect

/-- The dialect of a preset that a value names. -/
def ofPresetData (d : Datum) : Except DescriptionFault Dialect := do
  d.asKey.mapError .operand
  match d with
  | .text name => (ofPreset name).mapError .choice
  | d => throw (.unknownPreset d)

/-- The dialect with exactly the traits that the parts of a value name. -/
def ofNamesData (d : Datum) : Except DescriptionFault Dialect := do
  let names ← namesOf (← d.parts.mapError .operand)
  (ofNames names).mapError .choice

/-- The dialect with exactly the traits that a table flags. -/
def ofFlagsData (d : Datum) : Except DescriptionFault Dialect := do
  let names ← namesOf (← d.parts.mapError .operand)
  match d with
  | .record _ => (ofFlags d.flags).mapError .choice
  | d =>
    let _ ← (ofNames names).mapError .choice
    throw (.notTable d.typeName)

/-- The dialect with the traits changed that a table flags. -/
def overrideData (base : Dialect) (d : Datum) : Except DescriptionFault Dialect :=
  match d with
  | .record _ => (base.override d.flags).mapError .choice
  | d => .error (.notChanges d.typeName)

end Dialect

/-- The dialect described. -/
def DialectDescription.dialect (s : DialectDescription) : Except DescriptionFault Dialect := do
  let base ←
    match s.preset, s.names, s.flags with
    | some d, _, _ => Dialect.ofPresetData d
    | none, some d, _ => Dialect.ofNamesData d
    | none, none, some d => Dialect.ofFlagsData d
    | none, none, none => .ok .plain
  match s.overrides with
  | some d => base.overrideData d
  | none => return base

/-- The value that each trait of the dialect described was given: the value of a change as it
stands, and otherwise the flag. -/
def DialectDescription.settings (s : DialectDescription) :
    Except DescriptionFault (List (Trait × Datum)) := do
  let d ← s.dialect
  let changes := match s.overrides with
    | some (.record fs) => fs
    | _ => []
  return Trait.all.map fun t => (t, (changes.lookup t.name).getD (.flag (d.has t)))

/-- The dialect of a preset, with the traits enabled and disabled that the parts of two values name;
a trait that is both enabled and disabled is disabled. A preset that counts as false is none. -/
def Dialect.resolveData (preset enable disable : Datum) : Except DescriptionFault Dialect := do
  let base ← if preset.holds then Dialect.ofPresetData preset else .ok .plain
  let enabled ← enable.parts.mapError .operand
  (enabled.forM Datum.asKey).mapError .operand
  let disabled ← disable.parts.mapError .operand
  (disabled.forM Datum.asKey).mapError .operand
  if (enabled ++ disabled).any fun d => d.text?.isNone then throw .notKeyword
  (base.override ((enabled.filterMap Datum.text?).map (fun s => (s, true)) ++
    (disabled.filterMap Datum.text?).map fun s => (s, false))).mapError .choice

end ChipEight
