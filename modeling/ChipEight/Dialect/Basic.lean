/-!
# Dialects

Interpreters disagree on a handful of instructions. Each disagreement is a trait that an interpreter
has or lacks, and a dialect is a choice of traits. Without any trait an instruction does what the
machine's description says; each trait replaces one rule.

## Main definitions

- `Trait`: the disagreements.
- `Dialect`: a choice of traits.
- `Dialect.has`, `Dialect.put`: reading and changing one trait.
- `Dialect.enabled`: the traits of a dialect, in the order of declaration.
- `Preset`: the named dialects.
-/

namespace ChipEight

/-- A rule on which interpreters disagree. -/
inductive Trait where
  /-- `8XY1`, `8XY2` and `8XY3` zero the flag register first. -/
  | vfReset
  /-- `FX55` and `FX65` move the index register behind the block. -/
  | memory
  /-- `DXYN` drops the pixels beyond the edges of the screen instead of wrapping them. -/
  | clipping
  /-- `8XY6` and `8XYE` shift `VX` itself and ignore `VY`. -/
  | shifting
  /-- `BNNN` adds the register named by the first digit of `NNN` instead of `V0`. -/
  | jumping
  /-- A frame ends as soon as the screen has been drawn to. -/
  | displayWait
  deriving DecidableEq, Repr

namespace Trait

/-- All traits in the order of declaration. -/
def all : List Trait :=
  [.vfReset, .memory, .clipping, .shifting, .jumping, .displayWait]

/-- The name under which a trait is chosen and reported. -/
def name : Trait → String
  | .vfReset => "vf_reset"
  | .memory => "memory"
  | .clipping => "clipping"
  | .shifting => "shifting"
  | .jumping => "jumping"
  | .displayWait => "display_wait"

/-- The trait of a name. -/
def ofName? (s : String) : Option Trait :=
  all.find? fun t => t.name == s

@[simp] theorem mem_all (t : Trait) : t ∈ all := by
  cases t <;> decide

theorem name_injective {s t : Trait} (h : s.name = t.name) : s = t := by
  cases s <;> cases t <;> first | rfl | (revert h; decide)

theorem ofName?_name (t : Trait) : ofName? t.name = some t := by
  cases t <;> decide

end Trait

/-- A choice of traits. -/
@[ext] structure Dialect where
  vfReset : Bool := false
  memory : Bool := false
  clipping : Bool := false
  shifting : Bool := false
  jumping : Bool := false
  displayWait : Bool := false
  deriving DecidableEq, Repr

namespace Dialect

/-- The dialect without any trait. -/
def plain : Dialect := {}

/-- Whether a dialect has a trait. -/
def has (d : Dialect) : Trait → Bool
  | .vfReset => d.vfReset
  | .memory => d.memory
  | .clipping => d.clipping
  | .shifting => d.shifting
  | .jumping => d.jumping
  | .displayWait => d.displayWait

/-- The dialect with one trait given or taken. -/
def put (d : Dialect) (t : Trait) (b : Bool) : Dialect :=
  match t with
  | .vfReset => { d with vfReset := b }
  | .memory => { d with memory := b }
  | .clipping => { d with clipping := b }
  | .shifting => { d with shifting := b }
  | .jumping => { d with jumping := b }
  | .displayWait => { d with displayWait := b }

/-- The traits of a dialect in the order of declaration. -/
def enabled (d : Dialect) : List Trait :=
  Trait.all.filter d.has

/-- The names of the traits of a dialect. -/
def enabledNames (d : Dialect) : List String :=
  d.enabled.map Trait.name

theorem has_put (d : Dialect) (t u : Trait) (b : Bool) :
    (d.put t b).has u = if t = u then b else d.has u := by
  cases t <;> cases u <;> rfl

/-- Two dialects with the same traits are the same. -/
theorem ext_has {d e : Dialect} (h : ∀ t, d.has t = e.has t) : d = e :=
  Dialect.ext (h .vfReset) (h .memory) (h .clipping) (h .shifting) (h .jumping) (h .displayWait)

@[simp] theorem mem_enabled {d : Dialect} {t : Trait} : t ∈ d.enabled ↔ d.has t = true := by
  simp [enabled]

end Dialect

/-- The named dialects. -/
inductive Preset where
  | legacy
  | cosmac
  | schip
  deriving DecidableEq, Repr

namespace Preset

/-- All named dialects in the order of declaration. -/
def all : List Preset :=
  [.legacy, .cosmac, .schip]

/-- The name of a named dialect. -/
def name : Preset → String
  | .legacy => "legacy"
  | .cosmac => "cosmac"
  | .schip => "schip"

/-- The traits of a named dialect. -/
def dialect : Preset → Dialect
  | .legacy => {}
  | .cosmac => { vfReset := true, memory := true, clipping := true, displayWait := true }
  | .schip => { clipping := true, shifting := true, jumping := true }

/-- The named dialect of a name. -/
def ofName? (s : String) : Option Preset :=
  all.find? fun p => p.name == s

end Preset

end ChipEight
