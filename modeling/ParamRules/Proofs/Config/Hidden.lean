import ParamRules.Proofs.Config.Precedence

/-!
# Issues that loading hides

Paths are anchored before fields are checked, so that a path is checked as the text it has become.
That text is never blank, and a name with a NUL character is dropped from it when two dots follow.
All other issues of the layers are found again (`load_raises_iff`): no name is added or lost, and
every other value is checked as it was given.
-/

namespace ParamRules.Config

open Text Mapping Result Checked

variable {files : Files} {path : Option String} {e : Environment}
  {overrides : List (String × Value)} {p base : Path} {file environment given m m' : Mapping}
  {v : Value} {f : Field} {s : String} {issues : List Issue}

/-- Whether a value of a field is left without issues once the path in it is anchored: a path has to
be anchored to a text without a NUL character, and any other value passes the field's check. -/
def Field.Survives (e : Environment) (base : Path) (f : Field) (v : Value) : Prop :=
  (f.pathText? v).elim (∃ w, f.check v = pure w) fun s =>
    ∃ s', anchorText e base s = .ok s' ∧ '\x00' ∉ s'.toList

/-- Whether a mapping has the names of a configuration and all its values survive. -/
def AllSurvive (e : Environment) (base : Path) (m : Mapping) : Prop :=
  IsShaped m ∧ ∀ f v, valueAt m f = some v → f.Survives e base v

/-- Whether all paths in a mapping can be anchored. -/
def CanAnchor (e : Environment) (base : Path) (m : Mapping) : Prop :=
  ∀ f s, pathAt m f = some s → ∃ s', anchorText e base s = .ok s'

/-! ## Values that survive -/

/-- What survives is what passes its check after anchoring. -/
theorem survives_iff (hbase : base.isAbsolute = true) :
    f.Survives e base v ↔
      ∃ anchored w, f.anchored e base v = .ok anchored ∧ f.check anchored = pure w := by
  rw [Field.Survives]
  cases hv : f.pathText? v with
  | none =>
      rw [Option.elim_none, anchored_of_pathText? hv]
      constructor
      · rintro ⟨w, hw⟩
        exact ⟨v, w, rfl, hw⟩
      · rintro ⟨anchored, w, ⟨⟩, hw⟩
        exact ⟨w, hw⟩
  | some s =>
      rw [Option.elim_some]
      have hf := isPath_of_pathText? hv
      constructor
      · rintro ⟨s', hs', hnul⟩
        obtain ⟨w, hw⟩ := (check_anchored_iff hf hbase hs').mpr hnul
        exact ⟨_, w, (anchored_eq_ok_iff_of_pathText? hv).mpr ⟨s', hs', rfl⟩, hw⟩
      · rintro ⟨anchored, w, hanchored, hw⟩
        obtain ⟨s', hs', rfl⟩ := (anchored_eq_ok_iff_of_pathText? hv).mp hanchored
        exact ⟨s', hs', (check_anchored_iff hf hbase hs').mp ⟨w, hw⟩⟩

theorem canAnchor_of_allSurvive (h : AllSurvive e base m) : CanAnchor e base m := by
  intro f s hs
  obtain ⟨v, hv, htext⟩ := Option.bind_eq_some_iff.mp hs
  have hsurvives := h.2 f v hv
  rw [Field.Survives, htext] at hsurvives
  obtain ⟨s', hs', -⟩ := hsurvives
  exact ⟨s', hs'⟩

/-- A mapping is without issues after anchoring exactly when all of it survives. -/
theorem exists_ofValue_anchored_iff (hbase : base.isAbsolute = true)
    (hanchor : anchor e base m = .ok m') :
    (∃ c, ofValue (.map m') = .ok c) ↔ AllSurvive e base m := by
  obtain ⟨hfields, hshaped⟩ := anchor_spec hanchor
  rw [exists_ofValue_iff, hshaped, AllSurvive]
  simp only [survives_iff hbase]
  refine and_congr_right fun _ => forall_congr' fun f => ?_
  have hfield := hfields f
  constructor
  · intro h v hv
    rw [hv, anchors_some_iff] at hfield
    obtain ⟨anchored, hv', hanchored⟩ := hfield
    obtain ⟨w, hw⟩ := h anchored hanchored
    exact ⟨anchored, w, hv', hw⟩
  · intro h anchored hanchored
    cases hv : valueAt m f with
    | none =>
        rw [hv, anchors_none_iff, hanchored] at hfield
        cases hfield
    | some v =>
        rw [hv, anchors_some_iff, hanchored] at hfield
        obtain ⟨_, hv', ⟨⟩⟩ := hfield
        obtain ⟨_, w, hanchored', hw⟩ := h v hv
        rw [hv'] at hanchored'
        cases hanchored'
        exact ⟨w, hw⟩

/-! ## Loading -/

theorem exists_require_iff :
    ((∃ c, require v = .ok c) ↔ ∃ c, ofValue v = .ok c) ∧
      ((∃ found, require v = .error (.plain (.config found))) ↔ ¬ ∃ c, ofValue v = .ok c) := by
  rw [require]
  cases ofValue v with
  | error issues =>
      refine ⟨by simp [Except.mapError], iff_of_true ⟨issues, rfl⟩ ?_⟩
      rintro ⟨c, hc⟩
      cases hc
  | ok c => simp [Except.mapError]

/-- Where every value survives, the only issues are those of paths that are blank or hold a NUL
character. -/
theorem exists_ofValue_of_allSurvive (h : AllSurvive e base m)
    (hpaths : ∀ f s, pathAt m f = some s → isAllBlank s = false ∧ '\x00' ∉ s.toList) :
    ∃ c, ofValue (.map m) = .ok c := by
  refine exists_ofValue_iff.mpr ⟨h.1, fun f v hv => ?_⟩
  cases htext : f.pathText? v with
  | none =>
      have hsurvives := h.2 f v hv
      rw [Field.Survives, htext] at hsurvives
      exact hsurvives
  | some s =>
      obtain ⟨hblank, hnul⟩ := hpaths f s (by rw [pathAt, hv, Option.bind_some, htext])
      exact ⟨_, (check_path_iff htext).mpr ⟨hblank, hnul, rfl⟩⟩

/-- Layers are loaded exactly when every value survives, and are refused for issues exactly when all
paths can be anchored and something does not survive. -/
theorem load_outcomes (hp : source files path = .ok p)
    (hfile : ofFile files path.isSome p = .ok file)
    (henvironment : ofEnvironment e = .ok environment)
    (hgiven : ofOverrides overrides = .ok given)
    (hm : mergeLayers [file, environment, given] = m) :
    ((∃ c, load files path e overrides = .ok c) ↔ AllSurvive files.environment p.parent m) ∧
      ((∃ found, load files path e overrides = .error (.plain (.config found))) ↔
        CanAnchor files.environment p.parent m ∧
          ¬ AllSurvive files.environment p.parent m) := by
  rw [load_eq hp hfile henvironment hgiven, hm]
  cases hanchor : anchor files.environment p.parent m with
  | error x =>
      -- An unknown home directory comes before all issues.
      have hcannot : ¬ CanAnchor files.environment p.parent m := by
        intro hcan
        obtain ⟨m', hm'⟩ := exists_anchor_iff.mpr hcan
        rw [hanchor] at hm'
        cases hm'
      obtain rfl := noHome_of_anchor hanchor
      constructor
      · refine iff_of_false ?_ fun h => hcannot (canAnchor_of_allSurvive h)
        rintro ⟨c, ⟨⟩⟩
      · refine iff_of_false ?_ fun h => hcannot h.1
        rintro ⟨found, ⟨⟩⟩
  | ok m' =>
      have hcan : CanAnchor files.environment p.parent m := exists_anchor_iff.mp ⟨m', hanchor⟩
      have hbind : ∀ g : Mapping → Except Fault Config, (Except.ok m' >>= g) = g m' := fun _ => rfl
      obtain ⟨hok, herror⟩ := exists_require_iff (v := .map m')
      rw [exists_ofValue_anchored_iff (isAbsolute_source hp) hanchor] at hok herror
      rw [hbind]
      exact ⟨hok, herror.trans ⟨fun h => ⟨hcan, h⟩, fun h => h.2⟩⟩

/-- Layers that have issues are loaded all the same when every value survives, and are refused for
issues when something does not and all paths can be anchored.  They are refused in particular when
no path is blank or holds a NUL character. -/
theorem load_raises_iff (hp : source files path = .ok p)
    (hfile : ofFile files path.isSome p = .ok file)
    (henvironment : ofEnvironment e = .ok environment)
    (hgiven : ofOverrides overrides = .ok given)
    (hm : mergeLayers [file, environment, given] = m) (hissues : ofValue (.map m) = .error issues) :
    ((∃ c, load files path e overrides = .ok c) ↔ AllSurvive files.environment p.parent m) ∧
      ((∃ found, load files path e overrides = .error (.plain (.config found))) ↔
        CanAnchor files.environment p.parent m ∧ ¬ AllSurvive files.environment p.parent m) ∧
      (CanAnchor files.environment p.parent m →
        (∀ f s, pathAt m f = some s → isAllBlank s = false ∧ '\x00' ∉ s.toList) →
        ∃ found, load files path e overrides = .error (.plain (.config found))) := by
  obtain ⟨hok, herror⟩ := load_outcomes hp hfile henvironment hgiven hm
  refine ⟨hok, herror, fun hcan hpaths => herror.mpr ⟨hcan, fun hall => ?_⟩⟩
  obtain ⟨c, hc⟩ := exists_ofValue_of_allSurvive hall hpaths
  rw [hissues] at hc
  cases hc

/-- The layer of an override of the catalog. -/
theorem ofOverrides_catalogPath (v : Value) :
    ofOverrides [(Field.catalogPath.path, v)] =
      .ok [(.text "catalog", .map [(.text "path", v)])] := by
  have hpath : pathOfKey Field.catalogPath.path = ["catalog", "path"] :=
    pathOfKey_path .catalogPath
  rw [ofOverrides, List.mergeSort_singleton, overrideLayer, hpath]
  rfl

theorem mergeLayers_catalogPath (hv : v.entries? = none) :
    mergeLayers [[], [], [(.text "catalog", .map [(.text "path", v)])]] =
      setAt v [Field.catalogPath.place.name, Field.catalogPath.name] standard.toMapping := by
  rw [← merge_pair hv]
  rfl

/-- A catalog whose path its check refuses makes an issue of all layers. -/
theorem exists_issues_catalogPath (hv : v.entries? = none)
    (hrefused : ∀ w, Field.check .catalogPath v ≠ pure w) :
    ∃ issues, ofValue (.map (mergeLayers
      [[], [], [(.text "catalog", .map [(.text "path", v)])]])) = .error issues := by
  cases hvalue : ofValue (.map (mergeLayers
      [[], [], [(.text "catalog", .map [(.text "path", v)])]])) with
  | error issues => exact ⟨issues, rfl⟩
  | ok c =>
      obtain ⟨w, hw⟩ := (exists_ofValue_iff.mp ⟨c, hvalue⟩).2 .catalogPath v (by
        rw [mergeLayers_catalogPath hv, valueAt_setAt, if_pos rfl])
      exact absurd hw (hrefused w)

theorem load_raises_number :
    ∃ found, load noFiles none .empty [(Field.catalogPath.path, .int 5)] =
      .error (.plain (.config found)) := by
  obtain ⟨issues, hissues⟩ := exists_issues_catalogPath (v := .int 5) rfl fun w h => by
    obtain ⟨_, hrefused, -⟩ := map_eq_pure_iff.mp h
    exact absurd hrefused refuse_ne_pure
  have hpaths : ∀ f, pathAt (mergeLayers
      [[], [], [(.text "catalog", .map [(.text "path", .int 5)])]]) f = none := by
    intro f
    rw [mergeLayers_catalogPath rfl]
    cases f <;> rfl
  refine (load_raises_iff rfl rfl rfl (ofOverrides_catalogPath _) rfl hissues).2.2 ?_ ?_
  · intro f s hs
    rw [hpaths] at hs
    cases hs
  · intro f s hs
    rw [hpaths] at hs
    cases hs

/-- A blank path stands for the directory of the file, and is not refused. -/
theorem not_raises_blank_path :
    ofOverrides [(Field.catalogPath.path, .text "")] =
        .ok [(.text "catalog", .map [(.text "path", .text "")])] ∧
      (∃ issues, ofValue (.map (mergeLayers
        [[], [], [(.text "catalog", .map [(.text "path", .text "")])]])) = .error issues) ∧
      load noFiles none .empty [(Field.catalogPath.path, .text "")] =
        .ok (withCatalog "/" false) := by
  refine ⟨ofOverrides_catalogPath _, exists_issues_catalogPath rfl fun w h => ?_, ?_⟩
  · have hblank := ((check_path_iff (f := .catalogPath) rfl).mp h).1
    exact absurd hblank (by decide)
  · rw [load_eq rfl rfl rfl (ofOverrides_catalogPath _), mergeLayers_catalogPath rfl]
    refine bind_eq_ok_iff.mpr
      ⟨(withCatalog "/" false).toMapping, rfl, mapError_eq_ok_iff.mpr ?_⟩
    refine ofValue_sections (by simp) ?_ (by simp)
    rintro _ ⟨⟩
    exact ⟨⟨by decide +kernel, by decide +kernel⟩, by decide⟩

end ParamRules.Config
