import ChipEight.Dialect.Description
import ChipEight.Proofs.Except

/-!
# Choosing a dialect

Traits are chosen by their names. It does not matter in which order they are listed or how often: a
trait that is disabled is lacking, one that is enabled is there, and otherwise the preset decides. A
name that no trait has is refused, and so is a preset that does not exist. The refusal does not depend
on order either, since the refused names are put in order before they are reported.

A single name behaves differently from all others. Changes are addressed by name, and `self` stands
for the dialect that is changed. Where this name is listed, the refusal is not that no trait has it,
but that it is given twice. A table of flags has no such name, and refuses `self` like any other.

## Main definitions

- `Trait.IsName`: some trait has the name.
- `Dialect.base?`: the dialect in which traits are enabled and disabled.
- `Datum.texts`: a list of names as a value.
- `Dialect.Chosen`: what comes out of a preset and names.

## Main results

- `Dialect.has_putAll_map`: a trait after flags of one kind have been set.
- `Dialect.unknownNames_congr`: the refused names depend on which names there are.
- `Dialect.override_cases`, `Dialect.ofFlags_cases`: changes and tables of flags.
- `Dialect.resolveData_texts`: a choice that is given as data.
- `Dialect.chosen_by_names`: all of this together, and that a dialect is told by its traits.
-/

namespace ChipEight

/-! ### Names -/

namespace Trait

/-- Some trait has the name. -/
def IsName (s : String) : Prop :=
  ∃ t : Trait, t.name = s

theorem ofName?_eq_some_iff {s : String} {t : Trait} : ofName? s = some t ↔ t.name = s := by
  constructor
  · intro h
    have hname : (t.name == s) = true := List.find?_some (p := fun t : Trait => t.name == s) h
    exact eq_of_beq hname
  · rintro rfl
    exact t.ofName?_name

theorem isName_iff {s : String} : IsName s ↔ (ofName? s).isSome = true := by
  rw [Option.isSome_iff_exists]
  exact exists_congr fun _ => ofName?_eq_some_iff.symm

/-- No trait is named after the dialect itself. -/
theorem not_isName_self : ¬IsName "self" := by
  rw [isName_iff]
  decide

end Trait

section

variable {α : Type} [BEq α] [LawfulBEq α]

/-- What holds between the elements of a list in order holds when repeated ones are left out, and
those that are left are different. -/
theorem pairwise_eraseDups {r : α → α → Prop} : ∀ {xs : List α}, xs.Pairwise r →
    xs.eraseDups.Pairwise fun a b => r a b ∧ a ≠ b
  | [], _ => by simp
  | x :: xs, h => by
    obtain ⟨hhead, htail⟩ := List.pairwise_cons.1 h
    rw [List.eraseDups_cons, List.pairwise_cons]
    constructor
    · intro b hb
      obtain ⟨hmem, hne⟩ := List.mem_filter.1 (List.mem_eraseDups.1 hb)
      refine ⟨hhead b hmem, ?_⟩
      rintro rfl
      simp at hne
    · exact pairwise_eraseDups (htail.filter _)
termination_by xs => xs.length
decreasing_by
  exact Nat.lt_succ_of_le (List.length_filter_le ..)

end

namespace Dialect

theorem mem_unknownNames {names : List String} {s : String} :
    s ∈ unknownNames names ↔ s ∈ names ∧ ¬Trait.IsName s := by
  rw [unknownNames, List.mem_eraseDups, List.mem_mergeSort, List.mem_filter, Trait.isName_iff,
    Bool.not_eq_true, Option.isSome_eq_false_iff]

theorem unknownNames_eq_nil_iff {names : List String} :
    unknownNames names = [] ↔ ∀ s ∈ names, Trait.IsName s := by
  simp only [List.eq_nil_iff_forall_not_mem, mem_unknownNames, not_and, Classical.not_not]

/-- The refused names are in order, and no name is reported twice. -/
theorem pairwise_unknownNames (names : List String) :
    (unknownNames names).Pairwise fun a b => a ≤ b ∧ a ≠ b := by
  have hsorted : ∀ xs : List String, xs.mergeSort.Pairwise fun a b => decide (a ≤ b) = true :=
    List.pairwise_mergeSort
      (fun a b c hab hbc =>
        decide_eq_true (String.le_trans (of_decide_eq_true hab) (of_decide_eq_true hbc)))
      fun a b => by simpa using String.le_total a b
  exact (pairwise_eraseDups (hsorted _)).imp fun h => ⟨of_decide_eq_true h.1, h.2⟩

/-- **The refused names depend on which names there are**, not on their order or their number. -/
theorem unknownNames_congr {names others : List String} (h : ∀ s, s ∈ names ↔ s ∈ others) :
    unknownNames names = unknownNames others := by
  have hnodup : ∀ xs : List String, (unknownNames xs).Nodup := fun xs =>
    (pairwise_unknownNames xs).imp And.right
  have hmem : ∀ s, s ∈ unknownNames names ↔ s ∈ unknownNames others := by
    intro s
    rw [mem_unknownNames, mem_unknownNames, h]
  exact List.Perm.eq_of_pairwise (fun a b _ _ hab hba => String.le_antisymm hab.1 hba.1)
    (pairwise_unknownNames names) (pairwise_unknownNames others)
    ((List.perm_ext_iff_of_nodup (hnodup names) (hnodup others)).2 hmem)

/-! ### Flags -/

theorem putAll_append (d : Dialect) (fs gs : List (String × Bool)) :
    d.putAll (fs ++ gs) = (d.putAll fs).putAll gs :=
  List.foldl_append

/-- **Flags of one kind.** A trait that is named has it afterwards, another one is as before. -/
theorem has_putAll_map (d : Dialect) (b : Bool) (names : List String) (t : Trait) :
    (d.putAll (names.map fun s => (s, b))).has t = if t.name ∈ names then b else d.has t := by
  induction names generalizing d with
  | nil => simp [putAll]
  | cons s names ih =>
    rw [List.map_cons, ← List.singleton_append, putAll_append, ih]
    cases hs : Trait.ofName? s with
    | none =>
      have hne : t.name ≠ s := fun h => by simp [← h, Trait.ofName?_name] at hs
      simp [putAll, hs, hne]
    | some u =>
      obtain rfl := Trait.ofName?_eq_some_iff.1 hs
      have hname : t.name = u.name ↔ u = t :=
        ⟨fun h => (Trait.name_injective h).symm, fun h => congrArg Trait.name h.symm⟩
      by_cases hmem : t.name ∈ names
      · simp [hmem]
      · simp [putAll, hs, has_put, hmem, hname]

theorem has_plain (t : Trait) : plain.has t = false := by
  cases t <;> rfl

/-- Flags for all traits decide all of them. -/
theorem putAll_all (d e : Dialect) :
    d.putAll (Trait.all.map fun t => (t.name, e.has t)) = e := by
  simp only [Trait.all, List.map_cons, List.map_nil, putAll, List.foldl_cons, List.foldl_nil,
    Trait.ofName?_name]
  exact ext_has fun t => by cases t <;> rfl

/-- A table of flags is refused for the names that no trait has. -/
theorem ofFlags_cases (flags : List (String × Bool)) :
    ((∀ s ∈ flags.map Prod.fst, Trait.IsName s) ∧ ofFlags flags = .ok (plain.putAll flags)) ∨
      (¬(∀ s ∈ flags.map Prod.fst, Trait.IsName s) ∧
        ofFlags flags = .error (.unknownTraits (unknownNames (flags.map Prod.fst)))) := by
  rw [ofFlags, ← unknownNames_eq_nil_iff]
  cases unknownNames (flags.map Prod.fst) with
  | nil => exact .inl ⟨rfl, rfl⟩
  | cons s names => exact .inr ⟨List.cons_ne_nil s names, rfl⟩

/-- Changes are refused if one is addressed to `self`, and otherwise as a table of flags is. -/
theorem override_cases (d : Dialect) (flags : List (String × Bool)) :
    ((∀ s ∈ flags.map Prod.fst, Trait.IsName s) ∧ d.override flags = .ok (d.putAll flags)) ∨
      (¬(∀ s ∈ flags.map Prod.fst, Trait.IsName s) ∧
        d.override flags = .error (if "self" ∈ flags.map Prod.fst then .selfOverride
          else .unknownOverrides (unknownNames (flags.map Prod.fst)))) := by
  have hself : (flags.any fun f => f.1 == "self") = true ↔ "self" ∈ flags.map Prod.fst := by
    simp [List.any_eq_true]
  rw [override]
  by_cases hlisted : "self" ∈ flags.map Prod.fst
  · rw [if_pos (hself.2 hlisted), if_pos hlisted]
    exact .inr ⟨fun h => Trait.not_isName_self (h _ hlisted), rfl⟩
  · rw [if_neg (mt hself.1 hlisted), if_neg hlisted, ← unknownNames_eq_nil_iff]
    cases unknownNames (flags.map Prod.fst) with
    | nil => exact .inl ⟨rfl, rfl⟩
    | cons s names => exact .inr ⟨List.cons_ne_nil s names, rfl⟩

/-- Flags for traits are accepted. -/
theorem ofFlags_of_isName {flags : List (String × Bool)}
    (h : ∀ s ∈ flags.map Prod.fst, Trait.IsName s) : ofFlags flags = .ok (plain.putAll flags) :=
  ((ofFlags_cases flags).resolve_right fun hrefused => hrefused.1 h).2

theorem exists_ofFlags_iff {flags : List (String × Bool)} :
    (∃ d, ofFlags flags = .ok d) ↔ ∀ s ∈ flags.map Prod.fst, Trait.IsName s := by
  rcases ofFlags_cases flags with ⟨hnames, hok⟩ | ⟨hnames, herror⟩
  · exact iff_of_true ⟨_, hok⟩ hnames
  · rw [herror]
    exact iff_of_false (fun ⟨d, hd⟩ => by cases hd) hnames

theorem exists_override_iff {d : Dialect} {flags : List (String × Bool)} :
    (∃ e, d.override flags = .ok e) ↔ ∀ s ∈ flags.map Prod.fst, Trait.IsName s := by
  rcases d.override_cases flags with ⟨hnames, hok⟩ | ⟨hnames, herror⟩
  · exact iff_of_true ⟨_, hok⟩ hnames
  · rw [herror]
    exact iff_of_false (fun ⟨d, hd⟩ => by cases hd) hnames

theorem eq_of_override {d e : Dialect} {flags : List (String × Bool)}
    (h : d.override flags = .ok e) : e = d.putAll flags := by
  rcases d.override_cases flags with ⟨-, hok⟩ | ⟨-, herror⟩
  · exact Except.ok.inj (h.symm.trans hok)
  · cases h.symm.trans herror

/-- A table of flags is refused because a name makes no sense. -/
theorem kind_of_ofFlags {flags : List (String × Bool)} {e : DialectFault}
    (h : ofFlags flags = .error e) : (DescriptionFault.choice e).kind = .senseless := by
  rcases ofFlags_cases flags with ⟨-, hok⟩ | ⟨-, herror⟩
  · cases h.symm.trans hok
  · cases h.symm.trans herror
    rfl

/-- So are changes, unless `self` is among them. -/
theorem kind_of_override {d : Dialect} {flags : List (String × Bool)} {e : DialectFault}
    (h : d.override flags = .error e) :
    (DescriptionFault.choice e).kind =
      if "self" ∈ flags.map Prod.fst then .unfit else .senseless := by
  rcases d.override_cases flags with ⟨-, hok⟩ | ⟨-, herror⟩
  · cases h.symm.trans hok
  · cases h.symm.trans herror
    split <;> rfl

/-- A dialect is told by the names of its traits. -/
theorem ofNames_enabledNames (d : Dialect) : ofNames d.enabledNames = .ok d := by
  have hmem : ∀ t : Trait, t.name ∈ d.enabledNames ↔ d.has t = true := by
    intro t
    rw [enabledNames, List.mem_map]
    constructor
    · rintro ⟨u, hu, hname⟩
      rw [← Trait.name_injective hname]
      exact mem_enabled.1 hu
    · exact fun h => ⟨t, mem_enabled.2 h, rfl⟩
  have hnames : ∀ s ∈ (d.enabledNames.map fun s => (s, true)).map Prod.fst, Trait.IsName s := by
    intro s hs
    rw [List.map_map, enabledNames, List.map_map] at hs
    obtain ⟨t, -, rfl⟩ := List.mem_map.1 hs
    exact ⟨t, rfl⟩
  rw [ofNames, ofFlags_of_isName hnames]
  refine congrArg Except.ok (ext_has fun t => ?_)
  rw [has_putAll_map, has_plain]
  cases hd : d.has t with
  | true => exact if_pos ((hmem t).2 hd)
  | false => exact if_neg fun h => Bool.false_ne_true (hd.symm.trans ((hmem t).1 h))

/-- It is told by the flags of all traits as well. -/
theorem ofFlags_all (d : Dialect) :
    ofFlags (Trait.all.map fun t => (t.name, d.has t)) = .ok d := by
  have hnames : ∀ s ∈ (Trait.all.map fun t => (t.name, d.has t)).map Prod.fst, Trait.IsName s := by
    intro s hs
    rw [List.map_map] at hs
    obtain ⟨t, -, rfl⟩ := List.mem_map.1 hs
    exact ⟨t, rfl⟩
  rw [ofFlags_of_isName hnames, putAll_all]

end Dialect

/-! ### Choices given as data -/

/-- A list of names as a value. -/
def Datum.texts (names : List String) : Datum :=
  .list (names.map .text)

theorem Datum.forM_asKey_text (names : List String) :
    (names.map Datum.text).forM Datum.asKey = .ok () := by
  induction names with
  | nil => rfl
  | cons s names ih => exact ih

theorem Datum.filterMap_text? (names : List String) :
    (names.map Datum.text).filterMap Datum.text? = names := by
  rw [List.filterMap_map]
  exact List.filterMap_some

/-- Names that are texts are looked up as they stand. -/
theorem namesOf_text (names : List String) : namesOf (names.map .text) = .ok names := by
  have hforeign : ((names.map Datum.text).filter fun d => d.text?.isNone) = [] := by
    simp [Datum.text?]
  rw [namesOf, Datum.forM_asKey_text, hforeign, Datum.filterMap_text?]
  rfl

namespace Dialect

theorem ofNamesData_texts (names : List String) :
    ofNamesData (.texts names) = (ofNames names).mapError .choice := by
  have hparts : (Datum.texts names).parts = .ok (names.map .text) := rfl
  rw [ofNamesData, hparts]
  show (namesOf (names.map .text)) >>= _ = _
  rw [namesOf_text]
  rfl

theorem ofFlagsData_record (fs : List (String × Datum)) :
    ofFlagsData (.record fs) = (ofFlags (Datum.record fs).flags).mapError .choice := by
  have hparts : (Datum.record fs).parts = .ok ((fs.map Prod.fst).map .text) := by
    rw [Datum.parts, List.map_map]
    rfl
  rw [ofFlagsData, hparts]
  show (namesOf ((fs.map Prod.fst).map .text)) >>= _ = _
  rw [namesOf_text]
  rfl

/-- The dialect in which traits are enabled and disabled: that of the preset, or the plain one if none
is named. -/
def base? : Option String → Option Dialect
  | none => some plain
  | some name => if name = "" then some plain else (Preset.ofName? name).map Preset.dialect

/-- The changes that enabled and disabled names stand for. -/
def changes (enable disable : List String) : List (String × Bool) :=
  enable.map (fun s => (s, true)) ++ disable.map fun s => (s, false)

/-- Only a preset that is named can be unknown. -/
theorem resolve_eq (preset : Option String) (enable disable : List String) :
    resolve preset enable disable =
      match base? preset with
      | some base => base.override (changes enable disable)
      | none => .error (.unknownPreset (preset.getD "")) := by
  cases preset with
  | none => rfl
  | some name =>
    by_cases hempty : name = ""
    · subst hempty
      rfl
    · have hbase : base? (some name) = (Preset.ofName? name).map Preset.dialect := if_neg hempty
      have hresolve : resolve (some name) enable disable =
          ofPreset name >>= fun base => base.override (changes enable disable) := by
        rw [resolve]
        · rfl
        · exact hempty
      rw [hresolve, hbase, ofPreset]
      cases Preset.ofName? name <;> rfl

/-- **A choice by names that is given as data** is the choice by these names. -/
theorem resolveData_texts (preset : Option String) (enable disable : List String) :
    resolveData (preset.elim .null .text) (.texts enable) (.texts disable) =
      (resolve preset enable disable).mapError .choice := by
  have hok : ∀ {α β : Type} (a : α) (f : α → Except DescriptionFault β), (.ok a >>= f) = f a :=
    fun _ _ => rfl
  have hparts : ∀ names : List String,
      (Datum.texts names).parts.mapError DescriptionFault.operand = .ok (names.map .text) :=
    fun _ => rfl
  have hkeys : ∀ names : List String,
      ((names.map Datum.text).forM Datum.asKey).mapError DescriptionFault.operand = .ok () :=
    fun names => congrArg (Except.mapError _) (Datum.forM_asKey_text names)
  have htexts : ((enable.map Datum.text ++ disable.map Datum.text).any fun d => d.text?.isNone) =
      false := by
    simp [Datum.text?]
  simp only [resolveData, hparts, hkeys, hok, htexts, Datum.filterMap_text?, resolve_eq,
    Bool.false_eq_true, if_false]
  cases preset with
  | none => rfl
  | some name =>
    by_cases hempty : name = ""
    · subst hempty
      rfl
    · have hbase : base? (some name) = (Preset.ofName? name).map Preset.dialect := if_neg hempty
      have hnamed : (Datum.text name).holds = true := by
        simpa [Datum.holds] using hempty
      have hpreset : ofPresetData (.text name) = (ofPreset name).mapError .choice := rfl
      rw [hbase, Option.elim_some, if_pos hnamed, hpreset, ofPreset]
      cases Preset.ofName? name <;> rfl

/-! ### What is chosen -/

section

variable (enable disable : List String)

theorem names_changes : (changes enable disable).map Prod.fst = enable ++ disable := by
  simp [changes, Function.comp_def]

/-- **Disabling wins** over enabling, and both win over the dialect that is changed. -/
theorem has_putAll_changes (base : Dialect) (t : Trait) :
    (base.putAll (changes enable disable)).has t = true ↔
      t.name ∉ disable ∧ (t.name ∈ enable ∨ base.has t = true) := by
  rw [changes, putAll_append, has_putAll_map, has_putAll_map]
  by_cases hdisabled : t.name ∈ disable
  · simp [hdisabled]
  · by_cases henabled : t.name ∈ enable <;> simp [hdisabled, henabled]

end

/-- What comes out when names are enabled and disabled in a preset. -/
structure Chosen (preset : Option String) (enable disable : List String)
    (result : Except DescriptionFault Dialect) : Prop where
  /-- The choice is accepted if the preset and all names exist. -/
  accepted : (∃ d, result = .ok d) ↔
    (base? preset).isSome = true ∧ ∀ s ∈ enable ++ disable, Trait.IsName s
  /-- Then disabling wins over enabling, and enabling over the preset. -/
  traits : ∀ base d, base? preset = some base → result = .ok d → ∀ t : Trait,
    d.has t = true ↔ t.name ∉ disable ∧ (t.name ∈ enable ∨ base.has t = true)
  /-- A refusal says that a name makes no sense, unless `self` is listed with a preset that
  exists. -/
  refused : ∀ e, result = .error e →
    e.kind = if (base? preset).isSome = true ∧ "self" ∈ enable ++ disable then .unfit else .senseless

theorem chosen_resolveData (preset : Option String) (enable disable : List String) :
    Chosen preset enable disable
      (resolveData (preset.elim .null .text) (.texts enable) (.texts disable)) := by
  rw [resolveData_texts, resolve_eq]
  cases hbase : base? preset with
  | none =>
    refine ⟨⟨?_, ?_⟩, ?_, ?_⟩
    · rintro ⟨d, hd⟩
      cases hd
    · rintro ⟨hsome, -⟩
      rw [hbase] at hsome
      cases hsome
    · rintro base d - hd
      cases hd
    · intro e he
      cases he
      rw [hbase, if_neg fun h => Bool.false_ne_true h.1]
      rfl
  | some base =>
    have hknown : (base? preset).isSome = true := by
      rw [hbase]
      rfl
    show Chosen preset enable disable
      ((base.override (changes enable disable)).mapError .choice)
    refine ⟨?_, ?_, ?_⟩
    · simp only [mapError_eq_ok_iff, exists_override_iff, names_changes, hknown, true_and]
    · intro base' d hbase' hd t
      obtain rfl : base = base' := Option.some.inj (hbase.symm.trans hbase')
      rw [eq_of_override (mapError_eq_ok_iff.1 hd), has_putAll_changes]
    · intro e he
      obtain ⟨e', he', rfl⟩ := mapError_eq_error_iff.1 he
      rw [kind_of_override he', names_changes]
      simp only [hknown, true_and]

/-- **Only the sets of names matter**, also for what a refusal says. -/
theorem resolve_congr (preset : Option String) {enable disable enable' disable' : List String}
    (henable : ∀ s, s ∈ enable' ↔ s ∈ enable) (hdisable : ∀ s, s ∈ disable' ↔ s ∈ disable) :
    resolve preset enable' disable' = resolve preset enable disable := by
  have hall : ∀ s, s ∈ enable' ++ disable' ↔ s ∈ enable ++ disable := by
    intro s
    rw [List.mem_append, List.mem_append, henable, hdisable]
  rw [resolve_eq, resolve_eq]
  cases base? preset with
  | none => rfl
  | some base =>
    show base.override _ = base.override _
    rcases base.override_cases (changes enable disable) with ⟨hnames, hok⟩ | ⟨hnames, herror⟩ <;>
      rcases base.override_cases (changes enable' disable') with
        ⟨hnames', hok'⟩ | ⟨hnames', herror'⟩ <;>
      rw [names_changes] at hnames hnames'
    · rw [hok, hok']
      refine congrArg Except.ok (ext_has fun t => Bool.eq_iff_iff.2 ?_)
      rw [has_putAll_changes, has_putAll_changes, henable, hdisable]
    · exact absurd (fun s hs => hnames s ((hall s).1 hs)) hnames'
    · exact absurd (fun s hs => hnames' s ((hall s).2 hs)) hnames
    · rw [herror, herror', names_changes, names_changes, unknownNames_congr hall]
      simp only [hall]

/-- **Dialects are chosen by names.** A preset and names that are enabled and disabled are accepted if
all of them exist. Disabling wins over enabling, and enabling over the preset. Only the sets of names
matter.

A dialect is what the names of its traits choose, and what the flags of all traits choose. A table of
flags and changes to a dialect are refused for the same names. Both refusals say that a name makes no
sense, unless `self` is among the changes: this name counts as given twice. -/
theorem chosen_by_names (preset : Option String) (enable disable : List String) (d : Dialect)
    (fs : List (String × Datum)) :
    let result := resolveData (preset.elim .null .text) (.texts enable) (.texts disable)
    let changed := d.overrideData (.record fs)
    let made := ofFlagsData (.record fs)
    (Chosen preset enable disable result ∧
      ∀ enable' disable', (∀ s, s ∈ enable' ↔ s ∈ enable) → (∀ s, s ∈ disable' ↔ s ∈ disable) →
        resolveData (preset.elim .null .text) (.texts enable') (.texts disable') = result) ∧
    (ofNamesData (.texts d.enabledNames) = .ok d ∧
      ofFlagsData (.record (Trait.all.map fun t => (t.name, .flag (d.has t)))) = .ok d) ∧
    ((∃ e, changed = .ok e) ↔ ∀ f ∈ fs, Trait.IsName f.1) ∧
      ((∃ e, made = .ok e) ↔ ∀ f ∈ fs, Trait.IsName f.1) ∧
      (∀ e, made = .error e → e.kind = .senseless) ∧
      ∀ e, changed = .error e →
        e.kind = if "self" ∈ fs.map Prod.fst then .unfit else .senseless := by
  intro result changed made
  refine ⟨⟨chosen_resolveData preset enable disable, ?_⟩, ⟨?_, ?_⟩, ?_⟩
  · intro enable' disable' henable hdisable
    show _ = resolveData _ _ _
    rw [resolveData_texts, resolveData_texts, resolve_congr preset henable hdisable]
  · rw [ofNamesData_texts, ofNames_enabledNames]
    rfl
  · have hflags : (Datum.record (Trait.all.map fun t => (t.name, Datum.flag (d.has t)))).flags =
        Trait.all.map fun t => (t.name, d.has t) := by
      rw [Datum.flags, List.map_map]
      rfl
    rw [ofFlagsData_record, hflags, ofFlags_all]
    rfl
  · have hmap : (Datum.record fs).flags.map Prod.fst = fs.map Prod.fst := by
      rw [Datum.flags, List.map_map]
      rfl
    have hnamed : (∀ s ∈ fs.map Prod.fst, Trait.IsName s) ↔ ∀ f ∈ fs, Trait.IsName f.1 :=
      List.forall_mem_map
    have hchanged : changed = (d.override (Datum.record fs).flags).mapError .choice := rfl
    have hmade : made = (ofFlags (Datum.record fs).flags).mapError .choice := ofFlagsData_record fs
    rw [hchanged, hmade, ← hnamed, ← hmap]
    refine ⟨?_, ?_, ?_, ?_⟩
    · simp only [mapError_eq_ok_iff, exists_override_iff]
    · simp only [mapError_eq_ok_iff, exists_ofFlags_iff]
    · intro e he
      obtain ⟨e', he', rfl⟩ := mapError_eq_error_iff.1 he
      exact kind_of_ofFlags he'
    · intro e he
      obtain ⟨e', he', rfl⟩ := mapError_eq_error_iff.1 he
      exact kind_of_override he'

/-- Traits are listed twice and in another order, and one is both enabled and disabled. Changes to
`self` are refused. -/
theorem chosen_by_names_from_cosmac :
    let result := resolveData (.text "cosmac") (.texts ["memory", "jumping"]) (.texts ["memory"])
    let changed := plain.overrideData (.record [("self", .flag true)])
    (∃ d, result = .ok d ∧ d.has .jumping = true ∧ d.has .memory = false ∧
        d.has .clipping = true ∧ d.has .shifting = false) ∧
      resolveData (.text "cosmac") (.texts ["jumping", "memory", "jumping"])
        (.texts ["memory", "memory"]) = result ∧
      ∃ e, changed = .error e ∧ e.kind = .unfit := by
  intro result changed
  obtain ⟨⟨⟨haccepted, htraits, -⟩, hsets⟩, -, haccepts, -, -, hkind⟩ :=
    chosen_by_names (some "cosmac") ["memory", "jumping"] ["memory"] plain [("self", .flag true)]
  have hbase : base? (some "cosmac") = some (Preset.dialect .cosmac) := by decide
  have hnames : ∀ s ∈ ["memory", "jumping"] ++ ["memory"], Trait.IsName s := by
    simp only [Trait.isName_iff]
    decide
  obtain ⟨d, hd⟩ := haccepted.2 ⟨congrArg Option.isSome hbase, hnames⟩
  have hhas := htraits _ d hbase hd
  refine ⟨⟨d, hd, ?_, ?_, ?_, ?_⟩, hsets _ _ (by simp) (by simp), ?_⟩
  · exact (hhas .jumping).2 (by decide)
  · exact Bool.eq_false_iff.2 (mt (hhas .memory).1 (by decide))
  · exact (hhas .clipping).2 (by decide)
  · exact Bool.eq_false_iff.2 (mt (hhas .shifting).1 (by decide))
  · cases hchanged : changed with
    | ok d =>
      exact absurd (haccepts.1 ⟨d, hchanged⟩ _ List.mem_cons_self) Trait.not_isName_self
    | error e => exact ⟨e, rfl, (hkind e hchanged).trans (if_pos List.mem_cons_self)⟩

/-- No trait has the name `self`. Where it is listed or among changes, it is not refused as a name that
makes no sense; in a table of flags it is. -/
theorem self_refused_in_two_ways :
    ¬Trait.IsName "self" ∧
      (∃ e, resolveData .null (.texts ["self"]) (.texts []) = .error e ∧ e.kind = .unfit) ∧
      (∃ e, plain.overrideData (.record [("self", .flag true)]) = .error e ∧ e.kind = .unfit) ∧
      ∃ e, ofFlagsData (.record [("self", .flag true)]) = .error e ∧ e.kind = .senseless := by
  have hrefused := (ofFlags_cases [("self", true)]).resolve_left
    fun h => Trait.not_isName_self (h.1 _ List.mem_cons_self)
  exact ⟨Trait.not_isName_self,
    ⟨.choice .selfOverride, resolveData_texts none ["self"] [], rfl⟩,
    ⟨.choice .selfOverride, rfl, rfl⟩,
    ⟨_, (ofFlagsData_record _).trans (congrArg (Except.mapError _) hrefused.2), rfl⟩⟩

end Dialect

end ChipEight
