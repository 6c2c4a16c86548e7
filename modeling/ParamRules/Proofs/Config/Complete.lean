import ParamRules.Config.Runtime
import ParamRules.Proofs.Config.Check
import ParamRules.Proofs.Result

/-!
# Complete configurations

What a check makes of a value is of the type of its field (`holds_of_check`), and the check takes it
as it is (`check_of_holds`).  So a configuration that is held without issues is checked to itself,
as soon as its sections are there.  A section that has to be there is asked for by its name only,
and is left out when it holds nothing, which is how a configuration without issues can still be
incomplete (`complete_iff`).
-/

namespace ParamRules.Config

open Text Mapping Checked

variable {path s : String} {v w : Value} {f : Field} {m : Mapping} {c : Config}

/-! ## Texts -/

/-- Whether a text is not blank and has no white space around it. -/
def IsFilled (s : String) : Prop :=
  trim s = s ∧ isAllBlank s = false

/-- Whether a text is a module and a name in it, with a colon between them. -/
def IsImportPath (s : String) : Prop :=
  ∃ module name, cut? ':' s = some (module, name) ∧ module ≠ "" ∧ name ≠ ""

theorem checkText_eq_pure_iff :
    checkText path v = pure s ↔
      ∃ raw, v.text? = some raw ∧ isAllBlank raw = false ∧ trim raw = s := by
  unfold checkText
  split
  · rename_i hnone
    simp only [hnone, reduceCtorEq, false_and, exists_false, iff_false]
    exact refuse_ne_pure
  · rename_i raw hraw
    simp only [hraw, Option.some.injEq, exists_eq_left']
    split_ifs with hblank
    · simp only [hblank, Bool.true_eq_false, false_and, iff_false]
      exact refuse_ne_pure
    · rw [Bool.not_eq_true] at hblank
      simp only [hblank, true_and]
      exact ⟨pure_injective, fun h => h ▸ rfl⟩

theorem isFilled_of_checkText (h : checkText path v = pure s) : IsFilled s := by
  obtain ⟨raw, -, hblank, rfl⟩ := checkText_eq_pure_iff.mp h
  exact ⟨trim_idem raw, (isAllBlank_trim raw).trans hblank⟩

theorem checkText_of_isFilled (h : IsFilled s) : checkText path (.text s) = pure s :=
  checkText_eq_pure_iff.mpr ⟨s, rfl, h.2, h.1⟩

theorem checkHandler_eq_pure_iff :
    checkHandler path v = pure s ↔ checkText path v = pure s ∧ IsImportPath s := by
  unfold checkHandler
  rw [andThen_eq_pure_iff]
  constructor
  · rintro ⟨s', htext, h⟩
    split at h
    · rename_i module name hcut
      split_ifs at h with hempty
      · exact absurd h refuse_ne_pure
      · obtain rfl := pure_injective h
        rw [Bool.or_eq_true, not_or, String.isEmpty_iff, String.isEmpty_iff] at hempty
        exact ⟨htext, module, name, hcut, hempty⟩
    · exact absurd h refuse_ne_pure
  · rintro ⟨htext, module, name, hcut, hmodule, hname⟩
    refine ⟨s, htext, ?_⟩
    simp [hcut, hmodule, hname]

theorem checkPath_eq_pure_iff :
    checkPath path v = pure s ↔ checkText path v = pure s ∧ '\x00' ∉ s.toList := by
  unfold checkPath
  rw [andThen_eq_pure_iff]
  constructor
  · rintro ⟨s', htext, h⟩
    split_ifs at h with hnul
    · exact absurd h refuse_ne_pure
    · obtain rfl := pure_injective h
      exact ⟨htext, by simpa using hnul⟩
  · rintro ⟨htext, hnul⟩
    exact ⟨s, htext, by rw [if_neg (by simpa using hnul)]⟩

theorem checkLevel_eq_pure_iff {level : Level} :
    checkLevel path v = pure level ↔
      ∃ s, checkText path v = pure s ∧ Level.ofName? s = some level := by
  unfold checkLevel
  rw [andThen_eq_pure_iff]
  refine exists_congr fun s => and_congr_right fun _ => ?_
  cases Level.ofName? s with
  | none => simpa using refuse_ne_pure
  | some level' =>
      rw [Option.some.injEq]
      exact ⟨pure_injective, fun h => h ▸ rfl⟩

theorem checkFlag_eq_pure_iff {b : Bool} : checkFlag path v = pure b ↔ v = .bool b := by
  cases v with
  | bool b' =>
      rw [Value.bool.injEq]
      exact ⟨pure_injective, fun h => h ▸ rfl⟩
  | _ => exact iff_of_false refuse_ne_pure nofun

theorem checkVersion_eq_pure_iff :
    checkVersion path v = pure w ↔ v.integer? = some schemaVersion ∧ v = w := by
  unfold checkVersion
  split
  · rename_i hnone
    simpa [hnone] using refuse_ne_pure
  · rename_i n hn
    rw [hn, Option.some.injEq]
    split_ifs with hlow hversion
    · simp only [show n ≠ schemaVersion by unfold schemaVersion; omega, false_and, iff_false]
      exact refuse_ne_pure
    · simp [hversion, eq_pure_iff]
    · simp [hversion, eq_pure_iff]

/-! ## Handlers -/

/-- Whether a check without issues leaves something that can be used. -/
def IsDecisive {α : Type} (x : Checked α) : Prop :=
  x.issues = [] → x.value.isSome = true

theorem isDecisive_refuse {α : Type} {problem : Problem} :
    IsDecisive (refuse path problem : Checked α) := nofun

theorem isDecisive_pure {α : Type} (a : α) : IsDecisive (pure a : Checked α) := fun _ => rfl

theorem IsDecisive.andThen {α β : Type} {x : Checked α} {g : α → Checked β} (hx : IsDecisive x)
    (hg : ∀ a, IsDecisive (g a)) : IsDecisive (x.andThen g) := by
  obtain ⟨issues, value⟩ := x
  cases value with
  | none => exact fun h => absurd (hx h) (by simp)
  | some a => exact fun h => hg a (List.append_eq_nil_iff.mp h).2

theorem isDecisive_checkHandler (path : String) (v : Value) : IsDecisive (checkHandler path v) := by
  refine IsDecisive.andThen ?_ fun s => ?_
  · unfold checkText
    split
    · exact isDecisive_refuse
    · split_ifs
      · exact isDecisive_refuse
      · exact isDecisive_pure _
  · split
    · split_ifs
      · exact isDecisive_refuse
      · exact isDecisive_pure _
    · exact isDecisive_refuse

/-- Checks one after the other have no issues when none of them has. -/
theorem forall₂_of_collected {found : List (Checked String)} {paths : List String}
    (h : ∀ x ∈ found, IsDecisive x) :
    found.flatMap (·.issues) = [] ∧ found.filterMap (·.value) = paths ↔
      List.Forall₂ (fun x p => x = pure p) found paths := by
  induction found generalizing paths with
  | nil => simp [eq_comm]
  | cons x found ih =>
      obtain ⟨hx, hfound⟩ := List.forall_mem_cons.mp h
      rw [List.flatMap_cons, List.append_eq_nil_iff, List.forall₂_cons_left_iff]
      constructor
      · rintro ⟨⟨hissues, hrest⟩, hpaths⟩
        obtain ⟨p, hp⟩ := Option.isSome_iff_exists.mp (hx hissues)
        rw [List.filterMap_cons_some hp] at hpaths
        exact ⟨p, _, eq_pure_iff.mpr ⟨hissues, hp⟩, (ih hfound).mp ⟨hrest, rfl⟩, hpaths.symm⟩
      · rintro ⟨p, paths, rfl, hrest, rfl⟩
        obtain ⟨hissues, hvalues⟩ := (ih hfound).mpr hrest
        exact ⟨⟨rfl, hissues⟩, by rw [← hvalues]; rfl⟩

/-- The items that are checked as paths of handlers. -/
def handlerItems? : Value → Option (List Value)
  | .list items | .tuple items => some items
  | _ => none

/-- The checks of items, each of which is named by its index. -/
def itemChecks (path : String) (items : List Value) : List (Checked String) :=
  items.zipIdx.map fun e => checkHandler (path ++ "[" ++ toString e.2 ++ "]") e.1

theorem checkHandlers_eq_pure_iff {paths : List String} :
    checkHandlers path v = pure paths ↔ ∃ items, handlerItems? v = some items ∧
      List.Forall₂ (fun x p => x = pure p) (itemChecks path items) paths := by
  have hitems : ∀ items : List Value,
      (⟨(itemChecks path items).flatMap (·.issues),
        some ((itemChecks path items).filterMap (·.value))⟩ : Checked (List String)) =
          pure paths ↔
        List.Forall₂ (fun x p => x = pure p) (itemChecks path items) paths := by
    intro items
    rw [eq_pure_iff, Option.some.injEq, forall₂_of_collected]
    intro x hx
    obtain ⟨e, -, rfl⟩ := List.mem_map.mp hx
    exact isDecisive_checkHandler _ _
  cases v with
  | list items | tuple items =>
      simp only [handlerItems?, Option.some.injEq, exists_eq_left']
      exact hitems items
  | _ =>
      simp only [handlerItems?, reduceCtorEq, false_and, exists_false, iff_false]
      exact refuse_ne_pure

theorem isImportPath_of_checkHandlers {paths : List String}
    (h : checkHandlers path v = pure paths) : ∀ p ∈ paths, IsFilled p ∧ IsImportPath p := by
  obtain ⟨items, -, hpaths⟩ := checkHandlers_eq_pure_iff.mp h
  intro p hp
  obtain ⟨x, hx, rfl⟩ := Result.exists_of_forall₂ hpaths hp
  obtain ⟨e, -, he⟩ := List.mem_map.mp hx
  obtain ⟨htext, himport⟩ := checkHandler_eq_pure_iff.mp he
  exact ⟨isFilled_of_checkText htext, himport⟩

theorem checkHandlers_of_isImportPath {paths : List String}
    (h : ∀ p ∈ paths, IsFilled p ∧ IsImportPath p) :
    checkHandlers path (.list (paths.map .text)) = pure paths := by
  refine checkHandlers_eq_pure_iff.mpr ⟨_, rfl, List.forall₂_map_left_iff.mpr ?_⟩
  generalize 0 = start
  induction paths generalizing start with
  | nil => exact .nil
  | cons p paths ih =>
      obtain ⟨⟨hfilled, himport⟩, hpaths⟩ := List.forall_mem_cons.mp h
      rw [List.map_cons, List.zipIdx_cons]
      exact .cons (checkHandler_eq_pure_iff.mpr ⟨checkText_of_isFilled hfilled, himport⟩)
        (ih hpaths (start + 1))

/-! ## Types of fields -/

/-- Whether a value is one that a field holds. -/
def Field.Holds : Field → Value → Prop
  | .schemaVersion, v => v.integer? = some Config.schemaVersion
  | .handlers, v =>
      ∃ paths : List String, v = .list (paths.map .text) ∧ ∀ p ∈ paths, IsFilled p ∧ IsImportPath p
  | .catalogPath, v | .logFile, v => ∃ s, v = .text s ∧ IsFilled s ∧ '\x00' ∉ s.toList
  | .logLevel, v => ∃ level : Level, v = .text level.name
  | .logToStdout, v | .redactSecrets, v => ∃ b, v = .bool b

theorem ofName?_name (level : Level) : Level.ofName? level.name = some level := by
  cases level <;> decide

theorem isFilled_name (level : Level) : IsFilled level.name := by
  cases level <;> exact ⟨by decide +kernel, by decide +kernel⟩

/-- What a field's check makes of a value is of the field's type. -/
theorem holds_of_check (h : f.check v = pure w) : f.Holds w := by
  cases f with
  | schemaVersion =>
      obtain ⟨hversion, rfl⟩ := checkVersion_eq_pure_iff.mp h
      exact hversion
  | handlers =>
      obtain ⟨paths, hpaths, rfl⟩ := map_eq_pure_iff.mp h
      exact ⟨paths, rfl, isImportPath_of_checkHandlers hpaths⟩
  | catalogPath | logFile =>
      obtain ⟨s, hs, rfl⟩ := map_eq_pure_iff.mp h
      obtain ⟨htext, hnul⟩ := checkPath_eq_pure_iff.mp hs
      exact ⟨s, rfl, isFilled_of_checkText htext, hnul⟩
  | logLevel =>
      obtain ⟨level, -, rfl⟩ := map_eq_pure_iff.mp h
      exact ⟨level, rfl⟩
  | logToStdout | redactSecrets =>
      obtain ⟨b, -, rfl⟩ := map_eq_pure_iff.mp h
      exact ⟨b, rfl⟩

/-- A value of the field's type is taken as it is. -/
theorem check_of_holds (h : f.Holds v) : f.check v = pure v := by
  cases f with
  | schemaVersion => exact checkVersion_eq_pure_iff.mpr ⟨h, rfl⟩
  | handlers =>
      obtain ⟨paths, rfl, hpaths⟩ := h
      exact map_eq_pure_iff.mpr ⟨paths, checkHandlers_of_isImportPath hpaths, rfl⟩
  | catalogPath | logFile =>
      obtain ⟨s, rfl, hfilled, hnul⟩ := h
      exact map_eq_pure_iff.mpr
        ⟨s, checkPath_eq_pure_iff.mpr ⟨checkText_of_isFilled hfilled, hnul⟩, rfl⟩
  | logLevel =>
      obtain ⟨level, rfl⟩ := h
      exact map_eq_pure_iff.mpr ⟨level, checkLevel_eq_pure_iff.mpr
        ⟨_, checkText_of_isFilled (isFilled_name level), ofName?_name level⟩, rfl⟩
  | logToStdout | redactSecrets =>
      obtain ⟨b, rfl⟩ := h
      exact map_eq_pure_iff.mpr ⟨b, checkFlag_eq_pure_iff.mpr rfl, rfl⟩

/-! ## Values without issues -/

/-- A field whose value, if there is one, passes the check is settled by what the check makes of
it. -/
theorem exists_settled {α : Type} {fieldCheck : String → Value → Checked α} {embed : α → Value}
    (hcheck : ∀ v, f.check v = embed <$> fieldCheck f.path v) {given : Option Value}
    (h : ∀ v, given = some v → ∃ w, f.check v = pure w) :
    ∃ x : Option α, Settles f given (x.map embed) ∧ x.isSome = given.isSome := by
  cases given with
  | none => exact ⟨none, rfl, rfl⟩
  | some v =>
      obtain ⟨w, hw⟩ := h v rfl
      obtain ⟨a, -, ha⟩ := map_eq_pure_iff.mp ((hcheck v).symm.trans hw)
      exact ⟨some a, settles_some_iff.mpr ⟨w, hw, congrArg some ha⟩, rfl⟩

theorem exists_settled_field {α : Type} {fieldCheck : String → Value → Checked α}
    {embed : α → Value} (hcheck : ∀ v, f.check v = embed <$> fieldCheck f.path v)
    (h : ∀ v, valueAt m f = some v → ∃ w, f.check v = pure w)
    (hsome : ∃ v, valueAt m f = some v) : ∃ a, Settles f (valueAt m f) (some (embed a)) := by
  obtain ⟨x, hx, hgiven⟩ := exists_settled hcheck h
  rw [Option.isSome_iff_exists.mpr hsome] at hgiven
  obtain ⟨a, rfl⟩ := Option.isSome_iff_exists.mp hgiven
  exact ⟨a, hx⟩

/-- What is logged, of a mapping whose names are those of a configuration and whose fields pass
their checks. -/
theorem exists_observability (hm : IsShaped m)
    (h : ∀ f v, valueAt m f = some v → ∃ w, f.check v = pure w) :
    ∃ x : Option Observability, SettlesObservability m x := by
  simp only [settlesObservability_iff]
  -- A section that holds nothing has no fields, and any other one has those that it needs.
  rcases section_cases (hm.tables .observability) with hnull | ⟨inner, htable, hinner⟩
  · refine ⟨none, ?_⟩
    rw [valueAt_of_null (f := .logLevel) hnull, valueAt_of_null (f := .logToStdout) hnull,
      valueAt_of_null (f := .redactSecrets) hnull, valueAt_of_null (f := .logFile) hnull]
    exact ⟨rfl, rfl, rfl, rfl⟩
  · have hthere : ∀ f : Field, f.place = .observability → f.isRequired = true →
        ∃ v, valueAt m f = some v := by
      intro f hplace hf
      rw [← hplace] at htable hinner
      rw [valueAt_of_table htable]
      exact hinner.exists_get? hf
    obtain ⟨level, hlevel⟩ :=
      exists_settled_field (fun _ => rfl) (h .logLevel) (hthere .logLevel rfl rfl)
    obtain ⟨toStdout, hstdout⟩ :=
      exists_settled_field (fun _ => rfl) (h .logToStdout) (hthere .logToStdout rfl rfl)
    obtain ⟨redactSecrets, hredact⟩ :=
      exists_settled_field (fun _ => rfl) (h .redactSecrets) (hthere .redactSecrets rfl rfl)
    obtain ⟨file, hfile, -⟩ := exists_settled (fun _ => rfl) (h .logFile)
    exact ⟨some ⟨level, toStdout, redactSecrets, file⟩, hlevel, hstdout, hredact, hfile⟩

/-- A mapping has no issues exactly when its names are those of a configuration and every field that
it has passes its check. -/
theorem exists_ofValue_iff :
    (∃ c, ofValue (.map m) = .ok c) ↔
      IsShaped m ∧ ∀ f v, valueAt m f = some v → ∃ w, f.check v = pure w := by
  constructor
  · rintro ⟨c, hc⟩
    obtain ⟨m', heq, hm, hsettles⟩ := ofValue_eq_ok_iff.mp hc
    obtain rfl := Value.map.inj heq
    refine ⟨hm, fun f v hv => ?_⟩
    have hheld := hsettles f
    rw [hv, settles_some_iff] at hheld
    obtain ⟨w, hw, -⟩ := hheld
    exact ⟨w, hw⟩
  · rintro ⟨hm, h⟩
    obtain ⟨version, hversion, -⟩ :=
      exists_settled (fun _ => (map_self _).symm) (h .schemaVersion)
    obtain ⟨handlers, hhandlers, -⟩ := exists_settled (fun _ => rfl) (h .handlers)
    obtain ⟨catalog, hcatalog, -⟩ := exists_settled (fun _ => rfl) (h .catalogPath)
    obtain ⟨o, ho⟩ := exists_observability hm h
    rw [Option.map_id_fun'] at hversion
    refine ⟨⟨version, handlers, catalog, o⟩, ofValue_eq_ok_iff.mpr ⟨m, rfl, hm, fun f => ?_⟩⟩
    rw [valueAt_toMapping]
    cases f with
    | schemaVersion => exact hversion
    | handlers => exact hhandlers
    | catalogPath => exact hcatalog
    | logLevel => exact ho.level
    | logFile => exact ho.file
    | logToStdout => exact ho.toStdout
    | redactSecrets => exact ho.redactSecrets

/-! ## Complete configurations -/

/-- Whether a mapping has every field that has to be there, of its type. -/
def IsComplete (m : Mapping) : Prop :=
  ∀ f : Field, f.isRequired = true → ∃ w, valueAt m f = some w ∧ f.Holds w

/-- Whether a value names a section and holds nothing for it. -/
def LeavesOut (v : Value) (s : Section) : Prop :=
  ∃ m, v = .map m ∧ get? m (.text s.name) = some .null

theorem isRequired_place (h : f.isRequired = true) : f.place.isRequired = true := by
  cases f <;> first | rfl | cases h

theorem exists_required_place {s : Section} (h : s.isRequired = true) :
    ∃ f : Field, f.place = s ∧ f.isRequired = true := by
  cases s with
  | schema => exact ⟨.schemaVersion, rfl, rfl⟩
  | parser => exact ⟨.handlers, rfl, rfl⟩
  | catalog => cases h
  | observability => exact ⟨.logLevel, rfl, rfl⟩

/-- A field that has to be there is, unless its section holds nothing. -/
theorem exists_valueAt_iff (hm : IsShaped m) (hf : f.isRequired = true) :
    (∃ v, valueAt m f = some v) ↔ ¬ LeavesOut (.map m) f.place := by
  constructor
  · rintro ⟨v, hv⟩ ⟨m', heq, hnull⟩
    obtain rfl := Value.map.inj heq
    rw [valueAt_of_null (.inr hnull)] at hv
    cases hv
  · intro hnull
    have hsection : (get? m (.text f.place.name)).isSome = true := by
      refine hm.sections.required _
        (List.mem_map_of_mem (List.mem_filter.mpr ⟨?_, isRequired_place hf⟩))
      cases f.place <;> decide
    rcases section_cases (hm.tables f.place) with (hnone | hempty) | ⟨inner, htable, hinner⟩
    · rw [hnone] at hsection
      cases hsection
    · exact absurd ⟨m, rfl, hempty⟩ hnull
    · rw [valueAt_of_table htable]
      exact hinner.exists_get? hf

/-! ## The written form -/

/-- The entries of fields of one section, all those among them that have to be there. -/
theorem hasNames_entries {s : Section} (fields : List (Field × Value))
    (hplace : ∀ e ∈ fields, e.1.place = s)
    (hrequired : ∀ f : Field, f.place = s → f.isRequired = true → ∃ w, (f, w) ∈ fields) :
    HasNames (fields.map fun e => entry e.1 e.2) s.names s.requiredNames where
  known := by
    intro e he
    obtain ⟨⟨f, w⟩, hf, rfl⟩ := List.mem_map.mp he
    refine ⟨f.name, List.mem_map_of_mem (List.mem_filter.mpr ⟨?_, ?_⟩), rfl⟩
    · cases f <;> decide
    · simpa using hplace _ hf
  required := by
    intro name hname
    obtain ⟨f, hf, rfl⟩ := List.mem_map.mp hname
    obtain ⟨hfields, hf⟩ := List.mem_filter.mp hf
    obtain ⟨w, hw⟩ := hrequired f (by simpa using (List.mem_filter.mp hfields).2) hf
    rw [Option.isSome_iff_ne_none]
    intro hnone
    exact get?_eq_none_iff.mp hnone _ (List.mem_map_of_mem hw) rfl

theorem hasNames_sectionTable {s : Section} {inner : Mapping} (h : sectionTable c s = some inner) :
    HasNames inner s.names s.requiredNames := by
  rw [sectionTable_eq h]
  refine hasNames_entries _ (fun e he => place_of_mem_writtenFields he) fun f hplace hf => ?_
  obtain ⟨version, handlers, catalog, observability⟩ := c
  cases f with
  | schemaVersion =>
      subst hplace
      obtain ⟨version, rfl, -⟩ := Option.map_eq_some_iff.mp h
      exact ⟨_, List.mem_singleton.mpr rfl⟩
  | handlers =>
      subst hplace
      obtain ⟨handlers, rfl, -⟩ := Option.map_eq_some_iff.mp h
      exact ⟨_, List.mem_singleton.mpr rfl⟩
  | catalogPath | logFile => cases hf
  | logLevel =>
      subst hplace
      obtain ⟨o, rfl, -⟩ := Option.map_eq_some_iff.mp h
      exact ⟨_, List.mem_append_left _ List.mem_cons_self⟩
  | logToStdout =>
      subst hplace
      obtain ⟨o, rfl, -⟩ := Option.map_eq_some_iff.mp h
      exact ⟨_, List.mem_append_left _ (List.mem_cons_of_mem _ List.mem_cons_self)⟩
  | redactSecrets =>
      subst hplace
      obtain ⟨o, rfl, -⟩ := Option.map_eq_some_iff.mp h
      exact ⟨_, List.mem_append_left _
        (List.mem_cons_of_mem _ (List.mem_cons_of_mem _ List.mem_cons_self))⟩

/-- The written form has the names of a configuration when its required fields are there. -/
theorem isShaped_toMapping_iff (c : Config) :
    IsShaped c.toMapping ↔
      ∀ f : Field, f.isRequired = true → ∃ w, valueAt c.toMapping f = some w := by
  constructor
  · intro hshaped f hf
    refine (exists_valueAt_iff hshaped hf).mpr ?_
    rintro ⟨m, heq, hnull⟩
    obtain rfl := Value.map.inj heq
    rw [get?_toMapping] at hnull
    obtain ⟨inner, -, hinner⟩ := Option.map_eq_some_iff.mp hnull
    cases hinner
  · intro hfields
    refine ⟨⟨fun e he => ?_, fun name hname => ?_⟩, fun s v hv => ?_⟩
    · rw [toMapping_eq, List.mem_flatMap] at he
      obtain ⟨s, hs, he⟩ := he
      obtain ⟨inner, -, rfl⟩ := Option.map_eq_some_iff.mp (Option.mem_toList.mp he)
      exact ⟨s.name, List.mem_map_of_mem hs, rfl⟩
    · obtain ⟨s, hs, rfl⟩ := List.mem_map.mp hname
      obtain ⟨f, rfl, hf⟩ := exists_required_place (List.mem_filter.mp hs).2
      obtain ⟨w, hw⟩ := hfields f hf
      rw [valueAt, lookupAt] at hw
      obtain ⟨inner, hinner, -⟩ := Option.bind_eq_some_iff.mp hw
      obtain ⟨v, hv, -⟩ := Option.bind_eq_some_iff.mp hinner
      rw [hv]
      rfl
    · rw [get?_toMapping] at hv
      obtain ⟨inner, hinner, rfl⟩ := Option.map_eq_some_iff.mp hv
      exact .inr ⟨inner, rfl, hasNames_sectionTable hinner⟩

theorem holds_of_ofValue (h : ofValue v = .ok c) (hw : valueAt c.toMapping f = some w) :
    f.Holds w := by
  obtain ⟨m, rfl, -, hfields⟩ := ofValue_eq_ok_iff.mp h
  have hsettles := hfields f
  rw [hw] at hsettles
  cases hgiven : valueAt m f with
  | none =>
      rw [hgiven, settles_none_iff] at hsettles
      cases hsettles
  | some v =>
      rw [hgiven, settles_some_iff] at hsettles
      obtain ⟨w', hcheck, heq⟩ := hsettles
      obtain rfl := Option.some.inj heq
      exact holds_of_check hcheck

/-- A configuration with the names and the types of its fields is what its written form holds. -/
theorem ofValue_toMapping (hshaped : IsShaped c.toMapping)
    (hholds : ∀ f w, valueAt c.toMapping f = some w → f.Holds w) :
    ofValue (.map c.toMapping) = .ok c := by
  refine ofValue_eq_ok_iff.mpr ⟨_, rfl, hshaped, fun f => ?_⟩
  cases hw : valueAt c.toMapping f with
  | none => exact settles_none_iff.mpr rfl
  | some w => exact settles_some_iff.mpr ⟨w, check_of_holds (hholds f w hw), rfl⟩

/-- What is held without issues is checked to itself when its names are those of a configuration. -/
theorem ofValue_toMapping_iff (h : ofValue v = .ok c) :
    ofValue (.map c.toMapping) = .ok c ↔ IsShaped c.toMapping := by
  constructor
  · intro hself
    obtain ⟨m, heq, hm, -⟩ := ofValue_eq_ok_iff.mp hself
    rw [Value.map.inj heq]
    exact hm
  · exact fun hshaped => ofValue_toMapping hshaped fun f w => holds_of_ofValue h

/-- Of what is held without issues a required field is missing when its section is left out. -/
theorem exists_held_iff (h : ofValue v = .ok c) (hf : f.isRequired = true) :
    (∃ w, valueAt c.toMapping f = some w) ↔ ¬ LeavesOut v f.place := by
  obtain ⟨m, rfl, hm, hfields⟩ := ofValue_eq_ok_iff.mp h
  rw [← exists_valueAt_iff hm hf]
  have hsettles := hfields f
  cases hgiven : valueAt m f with
  | none =>
      rw [hgiven, settles_none_iff] at hsettles
      simp [hsettles]
  | some v =>
      rw [hgiven, settles_some_iff] at hsettles
      obtain ⟨w, -, hw⟩ := hsettles
      simp [hw]

theorem exists_settings_iff (h : ofValue v = .ok c) :
    (∃ settings, RuntimeSettings.ofValue v = .ok settings) ↔
      (∃ w, valueAt c.toMapping .handlers = some w) ∧
        ∃ w, valueAt c.toMapping .logLevel = some w := by
  have hsettings : RuntimeSettings.ofValue v = RuntimeSettings.ofConfig c := by
    rw [RuntimeSettings.ofValue, require, h]
    rfl
  rw [hsettings, valueAt_toMapping, valueAt_toMapping]
  obtain ⟨version, handlers, catalog, observability⟩ := c
  cases handlers <;> cases observability <;> simp [RuntimeSettings.ofConfig, fieldValue]

/-- A configuration without issues has fields of their types only.  It is complete, and is checked
again to itself, when no section that has to be there is left out as nothing, and a program can run
with it when this is so of the sections of the parser and of what is logged. -/
theorem complete_iff (h : ofValue v = .ok c) :
    (∀ f w, valueAt c.toMapping f = some w → f.Holds w) ∧
      (IsComplete c.toMapping ↔ ∀ s : Section, s.isRequired = true → ¬ LeavesOut v s) ∧
      (ofValue (.map c.toMapping) = .ok c ↔
        ∀ s : Section, s.isRequired = true → ¬ LeavesOut v s) ∧
      ((∃ settings, RuntimeSettings.ofValue v = .ok settings) ↔
        ¬ LeavesOut v .parser ∧ ¬ LeavesOut v .observability) := by
  have htypes : ∀ f w, valueAt c.toMapping f = some w → f.Holds w := fun _ _ => holds_of_ofValue h
  have hsections : (∀ f : Field, f.isRequired = true → ∃ w, valueAt c.toMapping f = some w) ↔
      ∀ s : Section, s.isRequired = true → ¬ LeavesOut v s := by
    constructor
    · intro hfields s hs
      obtain ⟨f, rfl, hf⟩ := exists_required_place hs
      exact (exists_held_iff h hf).mp (hfields f hf)
    · intro hs f hf
      exact (exists_held_iff h hf).mpr (hs f.place (isRequired_place hf))
  refine ⟨htypes, ?_, ?_, ?_⟩
  · rw [← hsections]
    constructor
    · intro hcomplete f hf
      obtain ⟨w, hw, -⟩ := hcomplete f hf
      exact ⟨w, hw⟩
    · intro hfields f hf
      obtain ⟨w, hw⟩ := hfields f hf
      exact ⟨w, hw, htypes f w hw⟩
  · rw [ofValue_toMapping_iff h, isShaped_toMapping_iff, hsections]
  · rw [exists_settings_iff h]
    exact and_congr (exists_held_iff h rfl) (exists_held_iff h rfl)

/-- A configuration with all sections passes its own check when its texts do. -/
theorem ofValue_sections {handlers : List String} {catalog : Option String} {o : Observability}
    (hhandlers : ∀ p ∈ handlers, IsFilled p ∧ IsImportPath p)
    (hcatalog : ∀ s, catalog = some s → IsFilled s ∧ '\x00' ∉ s.toList)
    (hfile : ∀ s, o.file = some s → IsFilled s ∧ '\x00' ∉ s.toList) :
    ofValue (.map (toMapping ⟨some (.int schemaVersion), some handlers, catalog, some o⟩)) =
      .ok ⟨some (.int schemaVersion), some handlers, catalog, some o⟩ := by
  refine ofValue_toMapping ((isShaped_toMapping_iff _).mpr fun f hf => ?_) fun f w hw => ?_
  · rw [valueAt_toMapping]
    cases f <;> first | exact ⟨_, rfl⟩ | cases hf
  · rw [valueAt_toMapping] at hw
    cases f with
    | schemaVersion =>
        cases hw
        rfl
    | handlers =>
        cases hw
        exact ⟨handlers, rfl, hhandlers⟩
    | catalogPath =>
        obtain ⟨s, hs, rfl⟩ := Option.map_eq_some_iff.mp hw
        exact ⟨s, rfl, hcatalog s hs⟩
    | logFile =>
        obtain ⟨s, hs, rfl⟩ := Option.map_eq_some_iff.mp hw
        exact ⟨s, rfl, hfile s hs⟩
    | logLevel =>
        cases hw
        exact ⟨o.level, rfl⟩
    | logToStdout | redactSecrets =>
        cases hw
        exact ⟨_, rfl⟩

/-- The standard configuration passes its own check. -/
theorem ofValue_standard : ofValue (.map standard.toMapping) = .ok standard :=
  ofValue_sections nofun nofun nofun

theorem complete_iff_standard :
    ofValue (.map standard.toMapping) = .ok standard ∧ IsComplete standard.toMapping ∧
      ∃ settings, RuntimeSettings.ofValue (.map standard.toMapping) = .ok settings := by
  have hleft : ∀ s : Section, s.isRequired = true → ¬ LeavesOut (.map standard.toMapping) s := by
    rintro s hs ⟨m, heq, hnull⟩
    obtain rfl := Value.map.inj heq
    rw [get?_toMapping] at hnull
    obtain ⟨inner, -, hinner⟩ := Option.map_eq_some_iff.mp hnull
    cases hinner
  obtain ⟨-, hcomplete, -, hsettings⟩ := complete_iff ofValue_standard
  exact ⟨ofValue_standard, hcomplete.mpr hleft,
    hsettings.mpr ⟨hleft .parser rfl, hleft .observability rfl⟩⟩

/-- All sections that have to be there, left out as nothing. -/
def withoutSections : Mapping :=
  [(.text "meta", .null), (.text "parser", .null), (.text "observability", .null)]

/-- Sections that hold nothing pass for sections that are there. -/
theorem not_complete_without_sections :
    ofValue (.map withoutSections) = .ok ⟨none, none, none, none⟩ ∧
      ¬ IsComplete (toMapping ⟨none, none, none, none⟩) ∧
      ofValue (.map (toMapping ⟨none, none, none, none⟩)) ≠ .ok ⟨none, none, none, none⟩ ∧
      ∀ settings, RuntimeSettings.ofValue (.map withoutSections) ≠ .ok settings := by
  have hshaped : IsShaped withoutSections := by
    refine ⟨⟨by decide, by decide⟩, fun s v hv => .inl ?_⟩
    cases s <;> cases hv <;> rfl
  have hfields : ∀ f, valueAt withoutSections f = none := by
    intro f
    cases f <;> rfl
  have hvalue : ofValue (.map withoutSections) = .ok ⟨none, none, none, none⟩ := by
    refine ofValue_eq_ok_iff.mpr ⟨_, rfl, hshaped, fun f => ?_⟩
    rw [hfields, settles_none_iff, valueAt_toMapping]
    cases f <;> rfl
  have hnone : ∀ f : Field, valueAt (toMapping ⟨none, none, none, none⟩) f = none := by
    intro f
    rw [valueAt_toMapping]
    cases f <;> rfl
  refine ⟨hvalue, fun h => ?_, fun h => ?_, fun settings h => ?_⟩
  · obtain ⟨w, hw, -⟩ := h .schemaVersion rfl
    rw [hnone] at hw
    cases hw
  · obtain ⟨w, hw⟩ := (isShaped_toMapping_iff _).mp ((ofValue_toMapping_iff hvalue).mp h)
      .schemaVersion rfl
    rw [hnone] at hw
    cases hw
  · obtain ⟨⟨w, hw⟩, -⟩ := (exists_settings_iff hvalue).mp ⟨settings, h⟩
    rw [hnone] at hw
    cases hw

end ParamRules.Config
