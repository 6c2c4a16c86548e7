import ParamRules.Config.Check
import ParamRules.Proofs.Config.Field
import ParamRules.Proofs.Text.Trim

/-!
# What a configuration is checked for

A check without issues says two things of a mapping.  One is about names: all keys are names of
sections and fields, and those that are required are there (`IsShaped`).  The other is about values,
field by field: each field is taken by its own check, and the configuration holds what the check
makes of it.  Together they are all that is checked (`ofValue_eq_ok_iff`), so that what is proved of
configurations later need not follow the order in which issues are collected.
-/

namespace ParamRules.Config

open Text Mapping

/-! ## Checks without issues -/

namespace Checked

variable {α β : Type} {x : Checked α} {a : α} {b : β}

theorem eq_pure_iff : x = pure a ↔ x.issues = [] ∧ x.value = some a := by
  obtain ⟨issues, value⟩ := x
  exact Checked.mk.injEq ..▸ Iff.rfl

theorem refuse_ne_pure {path : String} {problem : Problem} :
    (refuse path problem : Checked α) ≠ pure a := by
  intro h
  cases (eq_pure_iff.mp h).1

theorem pure_injective {a' : α} (h : (pure a : Checked α) = pure a') : a = a' :=
  Option.some.inj (eq_pure_iff.mp h).2

theorem seq_eq_pure_iff {f : Checked (α → β)} :
    f <*> x = pure b ↔ ∃ g a, f = pure g ∧ x = pure a ∧ g a = b := by
  obtain ⟨issues, value⟩ := x
  obtain ⟨issues', value'⟩ := f
  have hseq : (⟨issues', value'⟩ : Checked (α → β)) <*> ⟨issues, value⟩ =
      ⟨issues' ++ issues, do return (← value') (← value)⟩ := rfl
  rw [hseq]
  simp only [eq_pure_iff, List.append_eq_nil_iff]
  cases value' <;> cases value <;> simp [and_assoc]

theorem map_eq_pure_iff {f : α → β} : f <$> x = pure b ↔ ∃ a, x = pure a ∧ f a = b := by
  have hmap : f <$> x = pure f <*> x := rfl
  rw [hmap, seq_eq_pure_iff]
  constructor
  · rintro ⟨g, a, hg, hx, hb⟩
    exact ⟨a, hx, pure_injective hg ▸ hb⟩
  · rintro ⟨a, hx, hb⟩
    exact ⟨f, a, rfl, hx, hb⟩

theorem map_self (x : Checked α) : (fun a => a) <$> x = x := by
  obtain ⟨issues, value⟩ := x
  cases value <;> rfl

theorem seqRight_eq_pure_iff {y : Checked β} :
    x *> y = pure b ↔ (∃ a, x = pure a) ∧ y = pure b := by
  have hseq : x *> y = Function.const α id <$> x <*> y := rfl
  rw [hseq, seq_eq_pure_iff]
  simp only [map_eq_pure_iff]
  constructor
  · rintro ⟨g, b', ⟨a, hx, rfl⟩, hy, rfl⟩
    exact ⟨⟨a, hx⟩, hy⟩
  · rintro ⟨⟨a, hx⟩, hy⟩
    exact ⟨_, b, ⟨a, hx, rfl⟩, hy, rfl⟩

theorem andThen_eq_pure_iff {f : α → Checked β} :
    x.andThen f = pure b ↔ ∃ a, x = pure a ∧ f a = pure b := by
  obtain ⟨issues, value⟩ := x
  cases value with
  | none => simp [andThen, eq_pure_iff]
  | some a => simp [andThen, eq_pure_iff, and_assoc]

end Checked

open Checked

variable {m inner : Mapping} {v : Value} {c : Config} {path : String}

theorem ofValue_eq_ok_iff_check : ofValue v = .ok c ↔ check v = pure c := by
  unfold ofValue
  rw [eq_pure_iff]
  split
  · rename_i c' hc
    simp [hc]
  · rename_i issues value hne hc
    constructor
    · exact nofun
    · rintro ⟨hissues, hvalue⟩
      rw [hc] at hissues hvalue
      simp only at hissues hvalue
      exact (hne c hissues hvalue).elim

/-! ## Names -/

/-- The entries of a mapping whose keys are texts. -/
def textEntries (m : Mapping) : List (String × Value) :=
  m.filterMap fun e => e.1.text?.map fun name => (name, e.2)

theorem lookup_textEntries (m : Mapping) (name : String) :
    (textEntries m).lookup name = get? m (.text name) := by
  induction m with
  | nil => rfl
  | cons e m ih =>
      obtain ⟨k, v⟩ := e
      rw [get?_cons, keyOf_text, textEntries, List.filterMap_cons]
      simp only [keyOf_eq_text_iff]
      cases hk : k.text? with
      | none => exact ih
      | some s =>
          simp only [Option.map_some, List.lookup_cons, Option.some.injEq]
          by_cases hs : s = name
          · simp [hs]
          · rw [if_neg hs, beq_false_of_ne (Ne.symm hs)]
            exact ih

/-- Whether all keys of a mapping are among some names, and some of these are there. -/
structure HasNames (m : Mapping) (known required : List String) : Prop where
  known : ∀ e ∈ m, ∃ name ∈ known, e.1.text? = some name
  required : ∀ name ∈ required, (get? m (.text name)).isSome = true

theorem checkEntries_eq_pure_iff {entries : List (String × Value)} :
    checkEntries path v = pure entries ↔
      ∃ m, v = .map m ∧ (∀ e ∈ m, e.1.text?.isSome = true) ∧ entries = textEntries m := by
  cases v with
  | map m =>
      rw [checkEntries, eq_pure_iff]
      simp only [List.filterMap_eq_nil_iff, Value.map.injEq, exists_eq_left', Option.some.injEq]
      refine and_congr ?_ eq_comm
      refine forall₂_congr fun e _ => ?_
      cases e.1.text? <;> simp
  | _ =>
      simp only [checkEntries, reduceCtorEq, false_and, exists_false, iff_false]
      exact refuse_ne_pure

theorem sortedTexts_eq_nil_iff {texts : List String} : sortedTexts texts = [] ↔ texts = [] := by
  have hlength := (List.mergeSort_perm texts fun a b => a ≤ b).length_eq
  unfold sortedTexts
  cases hsorted : texts.mergeSort fun a b => a ≤ b with
  | nil =>
      rw [hsorted] at hlength
      simpa [eq_comm] using hlength
  | cons s sorted =>
      rw [hsorted] at hlength
      constructor
      · intro h
        rw [List.eraseDups_cons] at h
        cases h
      · rintro rfl
        cases hlength

theorem checkNames_eq_pure_iff {pathOf : String → String} {known required : List String}
    {entries : List (String × Value)} :
    checkNames pathOf known required entries = pure () ↔
      (∀ e ∈ entries, e.1 ∈ known) ∧ ∀ name ∈ required, (entries.lookup name).isSome = true := by
  rw [checkNames, eq_pure_iff]
  simp only [List.append_eq_nil_iff, List.map_eq_nil_iff, sortedTexts_eq_nil_iff,
    List.filter_eq_nil_iff, and_true]
  refine and_congr ?_ ?_
  · simp
  · refine forall₂_congr fun name _ => ?_
    cases entries.lookup name <;> simp

/-- The check of a mapping and its names, with what they are checked for. -/
theorem hasNames_iff {pathOf : String → String} {known required : List String}
    {entries : List (String × Value)} :
    checkEntries path v = pure entries ∧ checkNames pathOf known required entries = pure () ↔
      ∃ m, v = .map m ∧ HasNames m known required ∧ entries = textEntries m := by
  rw [checkEntries_eq_pure_iff, checkNames_eq_pure_iff]
  constructor
  · rintro ⟨⟨m, rfl, htexts, rfl⟩, hknown, hrequired⟩
    refine ⟨m, rfl, ⟨fun e he => ?_, fun name hname => ?_⟩, rfl⟩
    · obtain ⟨s, hs⟩ := Option.isSome_iff_exists.mp (htexts e he)
      refine ⟨s, hknown (s, e.2) ?_, hs⟩
      exact List.mem_filterMap.mpr ⟨e, he, by rw [hs]; rfl⟩
    · rw [← lookup_textEntries]
      exact hrequired name hname
  · rintro ⟨m, rfl, hm, rfl⟩
    refine ⟨⟨m, rfl, fun e he => ?_, rfl⟩, fun e he => ?_, fun name hname => ?_⟩
    · obtain ⟨s, -, hs⟩ := hm.known e he
      rw [hs]
      rfl
    · obtain ⟨d, hd, hentry⟩ := List.mem_filterMap.mp he
      obtain ⟨s, hknown, hs⟩ := hm.known d hd
      rw [hs] at hentry
      cases hentry
      exact hknown
    · rw [lookup_textEntries]
      exact hm.required name hname

/-! ## Sections -/

/-- The names of the fields of a section. -/
def Section.names (s : Section) : List String :=
  s.fields.map Field.name

/-- The names of the fields that a section has to have. -/
def Section.requiredNames (s : Section) : List String :=
  (s.fields.filter Field.isRequired).map Field.name

/-- Whether a value is nothing, or a table with the names of a section. -/
def Section.Takes (s : Section) (v : Value) : Prop :=
  v = .null ∨ ∃ inner, v = .map inner ∧ HasNames inner s.names s.requiredNames

theorem checkSection_eq_pure_iff {α : Type} {s : Section}
    {check : List (String × Value) → Checked α} {x : Option α} :
    checkSection (textEntries m) s check = pure x ↔
      (get? m (.text s.name) = none ∨ get? m (.text s.name) = some .null) ∧ x = none ∨
      ∃ inner a, get? m (.text s.name) = some (.map inner) ∧
        HasNames inner s.names s.requiredNames ∧ check (textEntries inner) = pure a ∧
        x = some a := by
  unfold checkSection
  rw [lookup_textEntries]
  split
  · rename_i h
    simp only [h, true_and, reduceCtorEq, false_and, exists_false, or_false]
    exact ⟨fun h => (pure_injective h).symm, fun h => h ▸ rfl⟩
  · rename_i h
    simp only [h, or_true, true_and, Option.some.injEq, reduceCtorEq, false_and, exists_false,
      or_false]
    exact ⟨fun h => (pure_injective h).symm, fun h => h ▸ rfl⟩
  · rename_i v hnull h
    have hne : v ≠ .null := fun heq => hnull heq
    simp only [h, reduceCtorEq, Option.some.injEq, hne, or_self, false_and, false_or,
      andThen_eq_pure_iff, map_eq_pure_iff, seqRight_eq_pure_iff]
    constructor
    · rintro ⟨entries, hentries, a, ⟨⟨⟨⟩, hnames⟩, ha⟩, rfl⟩
      obtain ⟨inner, rfl, hinner, rfl⟩ := hasNames_iff.mp ⟨hentries, hnames⟩
      exact ⟨inner, a, rfl, hinner, ha, rfl⟩
    · rintro ⟨inner, a, rfl, hinner, ha, rfl⟩
      obtain ⟨hentries, hnames⟩ := hasNames_iff.mpr ⟨inner, rfl, hinner, rfl⟩
      exact ⟨_, hentries, a, ⟨⟨(), hnames⟩, ha⟩, rfl⟩

/-! ## Fields -/

/-- What the check of a field makes of a value, as it stands in the written form. -/
def Field.check : Field → Value → Checked Value
  | .schemaVersion, v => checkVersion Field.schemaVersion.path v
  | .handlers, v => (fun paths => .list (paths.map .text)) <$> checkHandlers Field.handlers.path v
  | .catalogPath, v => .text <$> checkPath Field.catalogPath.path v
  | .logLevel, v => (fun level => .text level.name) <$> checkLevel Field.logLevel.path v
  | .logFile, v => .text <$> checkPath Field.logFile.path v
  | .logToStdout, v => .bool <$> checkFlag Field.logToStdout.path v
  | .redactSecrets, v => .bool <$> checkFlag Field.redactSecrets.path v

variable {α : Type} {f : Field} {fieldCheck : String → Value → Checked α}

theorem needed_eq_pure_iff {a : α} :
    needed (textEntries inner) f fieldCheck = pure a ↔
      ∃ v, get? inner (.text f.name) = some v ∧ fieldCheck f.path v = pure a := by
  unfold needed
  rw [lookup_textEntries]
  cases get? inner (.text f.name) with
  | none => simp [eq_pure_iff]
  | some v => simp

theorem optional_eq_pure_iff {x : Option α} :
    optional (textEntries inner) f fieldCheck = pure x ↔
      get? inner (.text f.name) = none ∧ x = none ∨
        ∃ v a, get? inner (.text f.name) = some v ∧ fieldCheck f.path v = pure a ∧ x = some a := by
  unfold optional
  rw [lookup_textEntries]
  cases get? inner (.text f.name) with
  | none =>
      simp only [true_and, reduceCtorEq, false_and, exists_false, or_false]
      exact ⟨fun h => (pure_injective h).symm, fun h => h ▸ rfl⟩
  | some v =>
      simp only [map_eq_pure_iff, reduceCtorEq, false_and, false_or, Option.some.injEq,
        exists_and_left, exists_eq_left']
      exact exists_congr fun a => and_congr_right fun _ => eq_comm

/-- A value that is held for a field is what the field's check makes of the value given for it, and
no value is held where none is given. -/
def Settles (f : Field) (given held : Option Value) : Prop :=
  given.map f.check = held.map pure

theorem settles_none_iff {held : Option Value} : Settles f none held ↔ held = none := by
  cases held <;> simp [Settles]

theorem settles_some_iff {held : Option Value} :
    Settles f (some v) held ↔ ∃ w, f.check v = pure w ∧ held = some w := by
  cases held with
  | none => simp [Settles]
  | some w =>
      simp only [Settles, Option.map_some, Option.some.injEq]
      exact ⟨fun h => ⟨w, h, rfl⟩, fun ⟨w', h, heq⟩ => heq ▸ h⟩

/-- A field whose check makes something that is written as a value. -/
theorem settles_map_iff {embed : α → Value} (hembed : embed.Injective)
    (hcheck : ∀ v, f.check v = embed <$> fieldCheck f.path v) {given : Option Value}
    {x : Option α} :
    Settles f given (x.map embed) ↔
      given = none ∧ x = none ∨
       ∃ v a, given = some v ∧ fieldCheck f.path v = pure a ∧ x = some a := by
  cases given with
  | none => simp [settles_none_iff]
  | some v =>
      rw [settles_some_iff, hcheck]
      simp only [map_eq_pure_iff, reduceCtorEq, false_and, false_or, Option.some.injEq,
        exists_and_left, exists_eq_left']
      constructor
      · rintro ⟨_, ⟨a, ha, rfl⟩, hx⟩
        obtain ⟨a', rfl, heq⟩ := Option.map_eq_some_iff.mp hx
        exact ⟨a, ha, by rw [hembed heq]⟩
      · rintro ⟨a, ha, rfl⟩
        exact ⟨embed a, ⟨a, ha, rfl⟩, rfl⟩

theorem settles_some_map_iff {embed : α → Value} (hembed : embed.Injective)
    (hcheck : ∀ v, f.check v = embed <$> fieldCheck f.path v) {x : Option α} :
    Settles f (some v) (x.map embed) ↔ ∃ a, fieldCheck f.path v = pure a ∧ x = some a := by
  rw [settles_map_iff hembed hcheck]
  simp

theorem settles_held_iff (embed : α → Value) (hembed : embed.Injective)
    (hcheck : ∀ v, f.check v = embed <$> fieldCheck f.path v) {a : α} :
    Settles f (some v) (some (embed a)) ↔ fieldCheck f.path v = pure a := by
  have hheld := settles_some_map_iff hembed hcheck (v := v) (x := some a)
  rw [Option.map_some] at hheld
  rw [hheld]
  simp

/-! ## Sections, field by field -/

variable {s : Section}

theorem valueAt_of_table (h : get? m (.text f.place.name) = some (.map inner)) :
    valueAt m f = get? inner (.text f.name) :=
  lookupAt_of_table h f.name

theorem valueAt_of_null
    (h : get? m (.text f.place.name) = none ∨ get? m (.text f.place.name) = some .null) :
    valueAt m f = none :=
  lookupAt_of_null h f.name

theorem takes_of_checkSection {check : List (String × Value) → Checked α} {x : Option α}
    (h : checkSection (textEntries m) s check = pure x) :
    ∀ v, get? m (.text s.name) = some v → s.Takes v := by
  intro v hv
  rcases checkSection_eq_pure_iff.mp h with ⟨hnull, -⟩ | ⟨inner, a, htable, hinner, -⟩
  · rcases hnull with hnull | hnull
    · rw [hnull] at hv
      cases hv
    · rw [hnull] at hv
      exact .inl (Option.some.inj hv).symm
  · rw [htable] at hv
    exact .inr ⟨inner, (Option.some.inj hv).symm, hinner⟩

/-- A section that is taken is nothing, or a table with its names. -/
theorem section_cases (h : ∀ v, get? m (.text s.name) = some v → s.Takes v) :
    (get? m (.text s.name) = none ∨ get? m (.text s.name) = some .null) ∨
      ∃ inner, get? m (.text s.name) = some (.map inner) ∧
        HasNames inner s.names s.requiredNames := by
  cases hget : get? m (.text s.name) with
  | none => exact .inl (.inl rfl)
  | some v =>
      rcases h v hget with rfl | ⟨inner, rfl, hinner⟩
      · exact .inl (.inr rfl)
      · exact .inr ⟨inner, rfl, hinner⟩

theorem checkSection_of_null {check : List (String × Value) → Checked α} {x : Option α}
    (h : get? m (.text s.name) = none ∨ get? m (.text s.name) = some .null) :
    checkSection (textEntries m) s check = pure x ↔ x = none := by
  rw [checkSection_eq_pure_iff]
  constructor
  · rintro (⟨-, hx⟩ | ⟨inner, a, htable, -⟩)
    · exact hx
    · rw [htable] at h
      simp at h
  · rintro rfl
    exact .inl ⟨h, rfl⟩

theorem checkSection_of_table {check : List (String × Value) → Checked α} {x : Option α}
    (h : get? m (.text s.name) = some (.map inner))
    (hinner : HasNames inner s.names s.requiredNames) :
    checkSection (textEntries m) s check = pure x ↔
      ∃ a, check (textEntries inner) = pure a ∧ x = some a := by
  rw [checkSection_eq_pure_iff, h]
  simp only [reduceCtorEq, Option.some.injEq, or_self, false_and, false_or, Value.map.injEq]
  constructor
  · rintro ⟨inner', a, rfl, -, ha, rfl⟩
    exact ⟨a, ha, rfl⟩
  · rintro ⟨a, ha, rfl⟩
    exact ⟨inner, a, rfl, hinner, ha, rfl⟩

theorem HasNames.exists_get? (h : HasNames inner f.place.names f.place.requiredNames)
    (hf : f.isRequired = true) : ∃ v, get? inner (.text f.name) = some v := by
  refine Option.isSome_iff_exists.mp (h.required f.name (List.mem_map_of_mem ?_))
  rw [Section.fields, List.filter_filter, List.mem_filter]
  exact ⟨by cases f <;> decide, by simp [hf]⟩

/-- A section with one field that has to be there. -/
theorem checkSection_needed {embed : α → Value} (hembed : embed.Injective)
    (hcheck : ∀ v, f.check v = embed <$> fieldCheck f.path v) (hf : f.isRequired = true)
    (h : ∀ v, get? m (.text f.place.name) = some v → f.place.Takes v) {x : Option α} :
    checkSection (textEntries m) f.place (needed · f fieldCheck) = pure x ↔
      Settles f (valueAt m f) (x.map embed) := by
  rcases section_cases h with hnull | ⟨inner, htable, hinner⟩
  · rw [checkSection_of_null hnull, valueAt_of_null hnull, settles_none_iff,
      Option.map_eq_none_iff]
  · obtain ⟨v, hv⟩ := hinner.exists_get? hf
    rw [checkSection_of_table htable hinner, valueAt_of_table htable, hv,
      settles_some_map_iff hembed hcheck]
    simp only [needed_eq_pure_iff, hv, Option.some.injEq, exists_eq_left']

/-- The section of the catalog, whose field may be left out as the section may be. -/
theorem checkCatalog_eq_pure_iff
    (h : ∀ v, get? m (.text Section.catalog.name) = some v → Section.catalog.Takes v)
    {x : Option String} :
    Option.join <$> checkSection (textEntries m) .catalog (optional · .catalogPath checkPath) =
        pure x ↔ Settles .catalogPath (valueAt m .catalogPath) (x.map .text) := by
  rw [map_eq_pure_iff]
  rcases section_cases h with hnull | ⟨inner, htable, hinner⟩
  · simp only [checkSection_of_null hnull, valueAt_of_null (f := .catalogPath) hnull,
      settles_none_iff, exists_eq_left, Option.map_eq_none_iff, Option.join_none]
    exact eq_comm
  · rw [valueAt_of_table (f := .catalogPath) htable,
      settles_map_iff (fun _ _ h => Value.text.inj h) (fun _ => rfl), ← optional_eq_pure_iff]
    simp only [checkSection_of_table htable hinner]
    constructor
    · rintro ⟨_, ⟨x, hx, rfl⟩, rfl⟩
      exact hx
    · intro hx
      exact ⟨some x, ⟨x, hx, rfl⟩, rfl⟩

theorem checkObservability_eq_pure_iff {entries : List (String × Value)} {o : Observability} :
    checkObservability entries = pure o ↔
      needed entries .logLevel checkLevel = pure o.level ∧
        needed entries .logToStdout checkFlag = pure o.toStdout ∧
        needed entries .redactSecrets checkFlag = pure o.redactSecrets ∧
        optional entries .logFile checkPath = pure o.file := by
  unfold checkObservability
  simp only [seq_eq_pure_iff, map_eq_pure_iff]
  constructor
  · rintro ⟨_, file, ⟨_, redactSecrets, ⟨_, toStdout, ⟨level, hlevel, rfl⟩, hstdout, rfl⟩,
      hredact, rfl⟩, hfile, rfl⟩
    exact ⟨hlevel, hstdout, hredact, hfile⟩
  · rintro ⟨hlevel, hstdout, hredact, hfile⟩
    exact ⟨_, _, ⟨_, _, ⟨_, _, ⟨_, hlevel, rfl⟩, hstdout, rfl⟩, hredact, rfl⟩, hfile, rfl⟩

theorem Level.name_injective : Function.Injective Level.name := by
  intro k l h
  cases k <;> cases l <;> first | rfl | exact absurd h (by decide)

/-- Whether the fields of a mapping settle what is logged. -/
@[mk_iff]
structure SettlesObservability (m : Mapping) (x : Option Observability) : Prop where
  level : Settles .logLevel (valueAt m .logLevel) (x.map fun o => .text o.level.name)
  toStdout : Settles .logToStdout (valueAt m .logToStdout) (x.map fun o => .bool o.toStdout)
  redactSecrets :
    Settles .redactSecrets (valueAt m .redactSecrets) (x.map fun o => .bool o.redactSecrets)
  file : Settles .logFile (valueAt m .logFile) (x.bind fun o => o.file.map .text)

/-- The section of what is logged: three fields that have to be there, and one that need not. -/
theorem checkObservability_section
    (h : ∀ v, get? m (.text Section.observability.name) = some v → Section.observability.Takes v)
    {x : Option Observability} :
    checkSection (textEntries m) .observability checkObservability = pure x ↔
      SettlesObservability m x := by
  rw [settlesObservability_iff]
  rcases section_cases h with hnull | ⟨inner, htable, hinner⟩
  · rw [checkSection_of_null hnull, valueAt_of_null (f := .logLevel) hnull,
      valueAt_of_null (f := .logToStdout) hnull, valueAt_of_null (f := .redactSecrets) hnull,
      valueAt_of_null (f := .logFile) hnull]
    simp only [settles_none_iff, Option.map_eq_none_iff]
    constructor
    · rintro rfl
      exact ⟨rfl, rfl, rfl, rfl⟩
    · exact fun h => h.1
  · -- the three needed fields are there, so each is settled by its own check
    obtain ⟨level, hlevel⟩ := hinner.exists_get? (f := .logLevel) rfl
    obtain ⟨stdout, hstdout⟩ := hinner.exists_get? (f := .logToStdout) rfl
    obtain ⟨redact, hredact⟩ := hinner.exists_get? (f := .redactSecrets) rfl
    rw [checkSection_of_table htable hinner, valueAt_of_table (f := .logLevel) htable,
      valueAt_of_table (f := .logToStdout) htable, valueAt_of_table (f := .redactSecrets) htable,
      valueAt_of_table (f := .logFile) htable, hlevel, hstdout, hredact]
    have hfile : ∀ file : Option String,
        optional (textEntries inner) .logFile checkPath = pure file ↔
          Settles .logFile (get? inner (.text Field.logFile.name)) (file.map .text) := by
      intro file
      rw [settles_map_iff (fun _ _ h => Value.text.inj h) (fun _ => rfl), optional_eq_pure_iff]
    cases x with
    | none => simp [settles_some_iff]
    | some o =>
        have hlevelIff : Settles .logLevel (some level) (some (.text o.level.name)) ↔
            checkLevel Field.logLevel.path level = pure o.level :=
          settles_held_iff (fun l : Level => .text l.name)
            (fun _ _ h => Level.name_injective (Value.text.inj h)) fun _ => rfl
        have hstdoutIff : Settles .logToStdout (some stdout) (some (.bool o.toStdout)) ↔
            checkFlag Field.logToStdout.path stdout = pure o.toStdout :=
          settles_held_iff Value.bool (fun _ _ h => Value.bool.inj h) fun _ => rfl
        have hredactIff : Settles .redactSecrets (some redact) (some (.bool o.redactSecrets)) ↔
            checkFlag Field.redactSecrets.path redact = pure o.redactSecrets :=
          settles_held_iff Value.bool (fun _ _ h => Value.bool.inj h) fun _ => rfl
        simp only [Option.map_some, Option.bind_some, hlevelIff, hstdoutIff, hredactIff, ← hfile,
          checkObservability_eq_pure_iff, needed_eq_pure_iff, hlevel, hstdout, hredact,
          Option.some.injEq, exists_eq_left', exists_eq_right']

/-! ## Configurations -/

/-- The names of the sections. -/
def sectionNames : List String := Section.all.map Section.name

/-- The names of the sections that have to be there. -/
def requiredSectionNames : List String := (Section.all.filter Section.isRequired).map Section.name

/-- Whether the names in a mapping are those of a configuration.  A section that has to be there may
hold nothing. -/
structure IsShaped (m : Mapping) : Prop where
  sections : HasNames m sectionNames requiredSectionNames
  tables : ∀ (s : Section) v, get? m (.text s.name) = some v → s.Takes v

theorem check_map_eq_pure_iff :
    check (.map m) = pure c ↔
      HasNames m sectionNames requiredSectionNames ∧
        checkSection (textEntries m) .schema (needed · .schemaVersion checkVersion) =
          pure c.version ∧
        checkSection (textEntries m) .parser (needed · .handlers checkHandlers) =
          pure c.handlers ∧
        Option.join <$> checkSection (textEntries m) .catalog (optional · .catalogPath checkPath) =
          pure c.catalog ∧
        checkSection (textEntries m) .observability checkObservability = pure c.observability := by
  unfold check
  simp only [andThen_eq_pure_iff, seqRight_eq_pure_iff, seq_eq_pure_iff]
  constructor
  · rintro ⟨entries, hentries, ⟨⟨⟩, hnames⟩, _, o, ⟨_, catalog, ⟨_, handlers, hversion, hhandlers,
      rfl⟩, hcatalog, rfl⟩, ho, rfl⟩
    obtain ⟨version, hschema, rfl⟩ := map_eq_pure_iff.mp hversion
    obtain ⟨m', heq, hm, rfl⟩ := hasNames_iff.mp ⟨hentries, hnames⟩
    obtain rfl := Value.map.inj heq
    exact ⟨hm, hschema, hhandlers, hcatalog, ho⟩
  · rintro ⟨hm, hversion, hhandlers, hcatalog, ho⟩
    obtain ⟨hentries, hnames⟩ := hasNames_iff.mpr ⟨m, rfl, hm, rfl⟩
    exact ⟨_, hentries, ⟨(), hnames⟩, _, _, ⟨_, _, ⟨_, _, map_eq_pure_iff.mpr ⟨_, hversion, rfl⟩,
      hhandlers, rfl⟩, hcatalog, rfl⟩, ho, rfl⟩

theorem isShaped_of_check (h : check (.map m) = pure c) : IsShaped m := by
  obtain ⟨hm, hversion, hhandlers, hcatalog, ho⟩ := check_map_eq_pure_iff.mp h
  obtain ⟨_, hcatalog, -⟩ := map_eq_pure_iff.mp hcatalog
  refine ⟨hm, fun s => ?_⟩
  cases s with
  | schema => exact takes_of_checkSection hversion
  | parser => exact takes_of_checkSection hhandlers
  | catalog => exact takes_of_checkSection hcatalog
  | observability => exact takes_of_checkSection ho

theorem check_of_isShaped (h : IsShaped m) :
    check (.map m) = pure c ↔ ∀ f, Settles f (valueAt m f) (fieldValue c f) := by
  have hversion := checkSection_needed (f := .schemaVersion) (x := c.version) (fun _ _ h => h)
    (fun _ => (map_self _).symm) rfl (h.tables .schema)
  have hhandlers := checkSection_needed (f := .handlers) (x := c.handlers)
    (fun _ _ h => (List.map_injective_iff.mpr fun _ _ h => Value.text.inj h) (Value.list.inj h))
    (fun _ => rfl) rfl (h.tables .parser)
  have hcatalog := checkCatalog_eq_pure_iff (h.tables .catalog) (x := c.catalog)
  have ho := checkObservability_section (h.tables .observability) (x := c.observability)
  rw [check_map_eq_pure_iff]
  constructor
  · rintro ⟨-, hv, hh, hc, hobs⟩ f
    have hsettled := ho.mp hobs
    cases f with
    | schemaVersion => simpa [fieldValue] using hversion.mp hv
    | handlers => exact hhandlers.mp hh
    | catalogPath => exact hcatalog.mp hc
    | logLevel => exact hsettled.level
    | logFile => exact hsettled.file
    | logToStdout => exact hsettled.toStdout
    | redactSecrets => exact hsettled.redactSecrets
  · intro hfields
    exact ⟨h.sections, hversion.mpr (by simpa [fieldValue] using hfields .schemaVersion),
      hhandlers.mpr (hfields .handlers), hcatalog.mpr (hfields .catalogPath),
      ho.mpr ⟨hfields .logLevel, hfields .logToStdout, hfields .redactSecrets, hfields .logFile⟩⟩

/-- What a configuration is checked for: its names, and every field by its own check. -/
theorem ofValue_eq_ok_iff :
    ofValue v = .ok c ↔ ∃ m, v = .map m ∧ IsShaped m ∧
      ∀ f, Settles f (valueAt m f) (valueAt c.toMapping f) := by
  rw [ofValue_eq_ok_iff_check]
  simp only [valueAt_toMapping]
  constructor
  · intro h
    have hmap : ∃ m, v = .map m := by
      obtain ⟨entries, hentries, -⟩ := andThen_eq_pure_iff.mp h
      obtain ⟨m, rfl, -⟩ := checkEntries_eq_pure_iff.mp hentries
      exact ⟨m, rfl⟩
    obtain ⟨m, rfl⟩ := hmap
    have hshaped := isShaped_of_check h
    exact ⟨m, rfl, hshaped, (check_of_isShaped hshaped).mp h⟩
  · rintro ⟨m, rfl, hshaped, hfields⟩
    exact (check_of_isShaped hshaped).mpr hfields

end ParamRules.Config
