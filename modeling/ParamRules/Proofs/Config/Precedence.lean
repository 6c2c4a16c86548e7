import ParamRules.Proofs.Config.Anchor

/-!
# Which layer a field is taken from

A configuration that is loaded holds a field when one of the overrides, the variables, the file and
the standard configuration sets it, and the first of them in this order wins (`load_precedence`).
Its value is anchored, if it is a path, and then checked.  Nothing else is held, and nothing else of
the environment matters as long as no path asks for it.
-/

namespace ParamRules.Config

open Text Mapping Result Checked

variable {files : Files} {path : Option String} {e e' : Environment}
  {overrides others : List (String × Value)} {p base : Path} {file environment given m : Mapping}
  {v w anchored : Value} {f : Field} {c : Config}

/-- The value of a field in the first of overrides, variables, a file and the standard configuration
that sets it. -/
def winner (overrides : List (String × Value)) (e : Environment) (file : Mapping) (f : Field) :
    Option Value :=
  (overrideAt overrides f.place.name f.name).or
    ((variableAt e f).or ((valueAt file f).or (fieldValue standard f)))

/-! ## Loading -/

/-- Loading, once the layers are there: the paths of all layers together are anchored, and then all
fields are checked. -/
theorem load_eq (hp : source files path = .ok p) (hfile : ofFile files path.isSome p = .ok file)
    (henvironment : ofEnvironment e = .ok environment)
    (hgiven : ofOverrides overrides = .ok given) :
    load files path e overrides =
      anchor files.environment p.parent (mergeLayers [file, environment, given]) >>=
        fun m => require (.map m) := by
  rw [load, hp, henvironment, hgiven]
  simp only [bind, Except.bind, hfile]
  rfl

theorem exists_layers_of_load (h : load files path e overrides = .ok c) :
    ∃ p file environment given, source files path = .ok p ∧
      ofFile files path.isSome p = .ok file ∧ ofEnvironment e = .ok environment ∧
      ofOverrides overrides = .ok given := by
  obtain ⟨p, hp, h⟩ := bind_eq_ok_iff.mp h
  obtain ⟨file, hfile, h⟩ := bind_eq_ok_iff.mp h
  obtain ⟨environment, henvironment, h⟩ := bind_eq_ok_iff.mp h
  obtain ⟨given, hgiven, -⟩ := bind_eq_ok_iff.mp h
  exact ⟨p, file, environment, given, hp, hfile, mapError_eq_ok_iff.mp henvironment,
    mapError_eq_ok_iff.mp hgiven⟩

theorem isTidy_of_ofFile {isRequired : Bool} (h : ofFile files isRequired p = .ok file) :
    Toml.IsTidy (.map file) := by
  unfold ofFile at h
  split at h
  · split_ifs at h
    cases h
    exact Toml.isTidy_nil
  · cases h
  · obtain ⟨text, -, h⟩ := bind_eq_ok_iff.mp h
    split at h <;> cases h
    rename_i hread
    exact Toml.isTidy_of_read hread

/-! ## The field that wins -/

/-- No field is a mapping. -/
theorem entries?_of_check (h : f.check v = pure w) : v.entries? = none := by
  cases v with
  | map entries =>
      cases f with
      | schemaVersion => exact absurd h refuse_ne_pure
      | _ =>
          obtain ⟨_, hrefused, -⟩ := map_eq_pure_iff.mp h
          exact absurd hrefused refuse_ne_pure
  | _ => rfl

theorem entries?_of_anchored (h : f.anchored e base v = .ok anchored)
    (hcheck : f.check anchored = pure w) : v.entries? = none := by
  cases v with
  | map entries =>
      have hnone : f.pathText? (.map entries) = none := by
        rw [Field.pathText?]
        split_ifs <;> rfl
      rw [anchored_of_pathText? hnone] at h
      cases h
      exact entries?_of_check hcheck
  | _ => rfl

/-- The field of all layers together is the one that wins, as soon as its check takes it. -/
theorem valueAt_layers (hfile : IsLayer file) (henvironment : ofEnvironment e = .ok environment)
    (hoverrides : IsFieldwise overrides) (hgiven : ofOverrides overrides = .ok given)
    (hplain : ∀ v, valueAt (mergeLayers [file, environment, given]) f = some v →
      v.entries? = none) :
    valueAt (mergeLayers [file, environment, given]) f = winner overrides e file f := by
  obtain ⟨henv, -, hvariables⟩ := ofEnvironment_spec henvironment
  obtain ⟨hgive, hvalues⟩ := ofOverrides_spec hoverrides hgiven
  have hlayers : ∀ layer ∈ [file, environment, given], IsLayer layer := by
    simp only [List.mem_cons, List.not_mem_nil, or_false, forall_eq_or_imp, forall_eq]
    exact ⟨hfile, henv, hgive⟩
  rw [valueAt_mergeLayers hlayers hplain, winner, ← valueAt_toMapping, ← hvariables, ← hvalues,
    ← valueAt]
  simp only [List.reverse_cons, List.reverse_nil, List.nil_append, List.cons_append,
    List.findSome?_cons, List.findSome?_nil]
  cases valueAt given f with
  | some v => rfl
  | none =>
      cases valueAt environment f with
      | some v => rfl
      | none => cases valueAt file f <;> rfl

/-- A load without faults: every field of all layers together is the one that wins, and what is held
for it is what its check makes of the anchored value. -/
theorem load_fields (hp : source files path = .ok p)
    (hfile : ofFile files path.isSome p = .ok file) (htables : HasTables file)
    (henvironment : ofEnvironment e = .ok environment) (hoverrides : IsFieldwise overrides)
    (hgiven : ofOverrides overrides = .ok given) (h : load files path e overrides = .ok c)
    (f : Field) :
    valueAt (mergeLayers [file, environment, given]) f = winner overrides e file f ∧
      ∃ anchored, Anchors files.environment p.parent f (winner overrides e file f) anchored ∧
        Settles f anchored (valueAt c.toMapping f) := by
  rw [load_eq hp hfile henvironment hgiven] at h
  obtain ⟨m, hanchor, hm⟩ := bind_eq_ok_iff.mp h
  obtain ⟨m', heq, -, hsettles⟩ := ofValue_eq_ok_iff.mp (mapError_eq_ok_iff.mp hm)
  obtain rfl := Value.map.inj heq
  have hfield := (anchor_spec hanchor).1 f
  have hwins := valueAt_layers (f := f) (isLayer_of_isTidy (isTidy_of_ofFile hfile) htables)
    henvironment hoverrides hgiven ?plain
  case plain =>
    -- A mapping would be merged with the ones before it, but no check would take it then.
    intro v hv
    rw [hv, anchors_some_iff] at hfield
    obtain ⟨anchored, hv', hanchored⟩ := hfield
    have hheld := hsettles f
    rw [hanchored, settles_some_iff] at hheld
    obtain ⟨w, hcheck, -⟩ := hheld
    exact entries?_of_anchored hv' hcheck
  rw [hwins] at hfield
  exact ⟨hwins, _, hfield, hsettles f⟩

/-- A field that has to be there is set by the standard configuration at least. -/
theorem isSome_winner (hf : f.isRequired = true) :
    (winner overrides e file f).isSome = true := by
  have hstandard : (fieldValue standard f).isSome = true := by
    cases f <;> first | rfl | cases hf
  simp only [winner, Option.isSome_or, hstandard, Bool.or_true]

/-! ## What does not matter -/

theorem load_perm (hoverrides : IsFieldwise overrides) (hperm : others.Perm overrides) :
    load files path e others = load files path e overrides := by
  rw [load, load, ofOverrides_perm hoverrides hperm]

theorem source_congr (environment : Environment) (h : ∀ s, path = some s → '~' ∉ s.toList) :
    source { files with environment } path = source files path := by
  cases path with
  | none => rfl
  | some s =>
      have hlocate : ∀ e : Environment, (Path.ofText s).expandHome e = some (Path.ofText s) :=
        fun e => Path.expandHome_of_not_mem e (h s rfl)
      rw [source, source, Files.locate, Files.locate, hlocate, hlocate]
      rfl

/-- A load whose paths hold no tilde and no dollar sign is the same with other variables, as long as
those of the fields are the same. -/
theorem load_congr (environment' : Environment) (hp : source files path = .ok p)
    (hfile : ofFile files path.isSome p = .ok file)
    (henvironment : ofEnvironment e = .ok environment)
    (hgiven : ofOverrides overrides = .ok given)
    (hvariables : ∀ f : Field, e'.get? f.variableName = e.get? f.variableName)
    (hpath : ∀ s, path = some s → '~' ∉ s.toList)
    (hpaths : ∀ f s, pathAt (mergeLayers [file, environment, given]) f = some s →
      '~' ∉ s.toList ∧ '$' ∉ s.toList) :
    load { files with environment := environment' } path e' overrides =
      load files path e overrides := by
  have henvironment' : ofEnvironment e' = .ok environment := by
    rw [ofEnvironment, variableLayer_congr hvariables]
    exact henvironment
  have hfile' : ofFile { files with environment := environment' } path.isSome p = .ok file := hfile
  rw [load_eq hp hfile henvironment hgiven,
    load_eq ((source_congr environment' hpath).trans hp) hfile' henvironment' hgiven]
  have hanchor : anchor environment' p.parent (mergeLayers [file, environment, given]) =
      anchor files.environment p.parent (mergeLayers [file, environment, given]) := by
    refine anchor_congr fun f s hs => ?_
    obtain ⟨htilde, hdollar⟩ := hpaths f s hs
    rw [anchorText_of_not_mem _ _ htilde hdollar, anchorText_of_not_mem _ _ htilde hdollar]
  rw [hanchor]

/-- A loaded configuration holds exactly the fields that some layer sets, each with the value that
wins, anchored and checked.  It has no other names, and neither the order of the overrides nor any
other variable makes a difference to it, as long as no path asks for one. -/
theorem load_precedence (hp : source files path = .ok p)
    (hfile : ofFile files path.isSome p = .ok file) (htables : HasTables file)
    (hoverrides : IsFieldwise overrides) (h : load files path e overrides = .ok c) :
    (∀ (f : Field) (s : String), e.get? f.variableName = some s →
        ∃ v, f.readText (trim s) = .ok v) ∧
      (∀ f, (∃ w, valueAt c.toMapping f = some w) ↔ ∃ v, winner overrides e file f = some v) ∧
      (∀ f v, winner overrides e file f = some v →
        ∃ anchored w, f.anchored files.environment p.parent v = .ok anchored ∧
          f.check anchored = pure w ∧ valueAt c.toMapping f = some w) ∧
      IsShaped c.toMapping ∧
      (∀ others : List (String × Value), others.Perm overrides →
        load files path e others = .ok c) ∧
      ∀ (environment e' : Environment),
        (∀ f : Field, e'.get? f.variableName = e.get? f.variableName) →
        (∀ s, path = some s → '~' ∉ s.toList) →
        (∀ f s, (winner overrides e file f).bind f.pathText? = some s →
          '~' ∉ s.toList ∧ '$' ∉ s.toList) →
        load { files with environment } path e' overrides = .ok c := by
  obtain ⟨_, _, environment, given, _, _, henvironment, hgiven⟩ := exists_layers_of_load h
  have hfields := load_fields hp hfile htables henvironment hoverrides hgiven h
  have hheld : ∀ f v, winner overrides e file f = some v →
      ∃ anchored w, f.anchored files.environment p.parent v = .ok anchored ∧
        f.check anchored = pure w ∧ valueAt c.toMapping f = some w := by
    intro f v hv
    obtain ⟨-, anchored, hanchored, hsettles⟩ := hfields f
    rw [hv, anchors_some_iff] at hanchored
    obtain ⟨anchored, hv', rfl⟩ := hanchored
    obtain ⟨w, hcheck, hw⟩ := settles_some_iff.mp hsettles
    exact ⟨anchored, w, hv', hcheck, hw⟩
  have hiff : ∀ f, (∃ w, valueAt c.toMapping f = some w) ↔
      ∃ v, winner overrides e file f = some v := by
    intro f
    constructor
    · rintro ⟨w, hw⟩
      obtain ⟨-, anchored, hanchored, hsettles⟩ := hfields f
      cases hv : winner overrides e file f with
      | some v => exact ⟨v, rfl⟩
      | none =>
          rw [hv, anchors_none_iff] at hanchored
          rw [hanchored, settles_none_iff, hw] at hsettles
          cases hsettles
    · rintro ⟨v, hv⟩
      obtain ⟨-, w, -, -, hw⟩ := hheld f v hv
      exact ⟨w, hw⟩
  refine ⟨(ofEnvironment_spec henvironment).2.1, hiff, hheld, ?shaped, ?order, ?elsewhere⟩
  case shaped =>
    exact (isShaped_toMapping_iff c).mpr fun f hf =>
      (hiff f).mpr (Option.isSome_iff_exists.mp (isSome_winner hf))
  case order =>
    intro others hperm
    rw [load_perm hoverrides hperm, h]
  case elsewhere =>
    intro environment' e' hvariables hpath hpaths
    rw [load_congr environment' hp hfile henvironment hgiven hvariables hpath fun f s hs => ?_, h]
    rw [pathAt, (hfields f).1] at hs
    exact hpaths f s hs

/-- No files, seen from the outermost directory. -/
def noFiles : Files := ⟨fun _ => .absent, ⟨1, []⟩, .empty⟩

/-- Variables for the catalog and for what is logged. -/
def someVariables : Environment :=
  ⟨[("PARAMVAL_CATALOG_PATH", "x.json"), ("PARAMVAL_OBSERVABILITY_LOG_TO_STDOUT", "off")], []⟩

/-- The standard configuration with a catalog, and with what is logged shown or not. -/
def withCatalog (catalog : String) (toStdout : Bool) : Config :=
  ⟨some (.int schemaVersion), some [], some catalog, some ⟨.info, toStdout, true, none⟩⟩

theorem load_precedence_shown :
    load noFiles none someVariables [(Field.logToStdout.path, .bool true)] =
        .ok (withCatalog "/x.json" true) ∧
      (∃ w, Field.check .logToStdout (.bool true) = pure w ∧
        valueAt (withCatalog "/x.json" true).toMapping .logToStdout = some w) ∧
      load noFiles none ⟨("HOME", "/home") :: someVariables.entries, []⟩
        [(Field.logToStdout.path, .bool true)] = .ok (withCatalog "/x.json" true) := by
  have henvironment : ofEnvironment someVariables =
      .ok [(.text "catalog", .map [(.text "path", .text "x.json")]),
        (.text "observability", .map [(.text "log_to_stdout", .bool false)])] := rfl
  have hgiven : ofOverrides [(Field.logToStdout.path, .bool true)] =
      .ok [(.text "observability", .map [(.text "log_to_stdout", .bool true)])] := by
    rw [ofOverrides, List.mergeSort_singleton]
    rfl
  have hmerged : mergeLayers [[], [(.text "catalog", .map [(.text "path", .text "x.json")]),
      (.text "observability", .map [(.text "log_to_stdout", .bool false)])],
      [(.text "observability", .map [(.text "log_to_stdout", .bool true)])]] =
      (withCatalog "x.json" true).toMapping := by
    simp [mergeLayers, merge, overlaid, put, get?, keyOf, Value.text?, Value.entries?, toMapping,
      standard, withCatalog, sectionEntry, textEntry, entry, Observability.toMapping, Section.name,
      Field.name]
  have hload : load noFiles none someVariables [(Field.logToStdout.path, .bool true)] =
      .ok (withCatalog "/x.json" true) := by
    rw [load_eq rfl rfl henvironment hgiven, hmerged]
    refine bind_eq_ok_iff.mpr
      ⟨(withCatalog "/x.json" true).toMapping, rfl, mapError_eq_ok_iff.mpr ?_⟩
    refine ofValue_sections (by simp) ?_ (by simp)
    rintro _ ⟨⟩
    exact ⟨⟨by decide +kernel, by decide +kernel⟩, by decide⟩
  have hoverrides : IsFieldwise [(Field.logToStdout.path, .bool true)] := by
    refine ⟨?_, List.nodup_singleton _⟩
    rintro o ho
    obtain rfl := List.mem_singleton.mp ho
    exact ⟨_, _, pathOfKey_path .logToStdout⟩
  have htables : HasTables [] := by
    intro s v hv
    cases hv
  obtain ⟨-, -, hheld, -, -, helsewhere⟩ := load_precedence rfl rfl htables hoverrides hload
  refine ⟨hload, ?_, helsewhere .empty _ (fun f => ?_) (by simp) fun f s hs => ?_⟩
  · obtain ⟨anchored, w, ⟨⟩, hw⟩ := hheld .logToStdout (.bool true) rfl
    exact ⟨w, hw⟩
  · cases f <;> rfl
  · cases f with
    | catalogPath =>
        cases hs
        exact ⟨by decide, by decide⟩
    | _ => cases hs

end ParamRules.Config
