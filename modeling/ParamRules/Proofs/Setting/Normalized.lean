import ParamRules.Proofs.Parser.Canonical
import ParamRules.Proofs.Text.Trim
import ParamRules.Proofs.Validator
import ParamRules.Setting

/-!
# Settings stored and read back

A setting is stored as a record of texts, its constraints in their canonical form.  The record of a
setting whose constraints can be parsed is read as a setting again, which differs from the first one
in the text of its constraints only, and the canonical text stands for the same constraints up to
the order of storage.  Neither the value of the setting nor the judgement of a validator depends on
that order.
-/

namespace ParamRules.Setting

open Text Constraint Result

variable {s : Setting} {t : DataType} {cs : List Constraint}

/-- Whether a setting can be made: what its fields are checked for. -/
structure IsValid (s : Setting) : Prop where
  name_trimmed : trim s.name = s.name
  name_not_blank : isAllBlank s.name = false
  hasType : s.dataType ≠ .none
  displayName : ∀ d ∈ s.displayName, trim d = d ∧ isAllBlank d = false

/-- A text that may be absent, as a value. -/
def optionValue : Option String → Value
  | some s => .text s
  | none => .null

/-! ## Fields -/

theorem trimmedText_eq_ok {path : String} {v : Value} {name : String}
    (h : trimmedText path v = .ok name) : trim name = name ∧ isAllBlank name = false := by
  unfold trimmedText at h
  split at h
  · cases h
  · split_ifs at h with hblank
    cases h
    exact ⟨trim_idem _, by rw [isAllBlank_trim]; simpa using hblank⟩

theorem trimmedText_text {path name : String} (htrim : trim name = name)
    (hblank : isAllBlank name = false) : trimmedText path (.text name) = .ok name := by
  simp [trimmedText, Value.text?, hblank, htrim]

theorem trim_name (t : DataType) : trim t.name = t.name := by
  cases t with
  | integer type => cases type <;> decide +kernel
  | _ => decide +kernel

theorem namedDataType_name (path : String) (t : DataType) :
    Argument.namedDataType path (.text t.name) = .ok t := by
  simp [Argument.namedDataType, Value.dataType?, Value.text?, trim_name, DataType.ofName?_name]

theorem isValid_of_displayName {name constraints : String} {value : Option String}
    {displayName : Value} {parser : Option Parser}
    (hname : trim name = name ∧ isAllBlank name = false) (ht : t ≠ .none)
    (h : (match displayName with
      | .null => do
        let d ← .ok none
        return ⟨name, t, constraints, value, d, parser⟩
      | v => do
        let d ← some <$> trimmedText "display_name" v
        return ⟨name, t, constraints, value, d, parser⟩) = Except.ok s) : s.IsValid := by
  split at h
  · cases h
    exact ⟨hname.1, hname.2, ht, nofun⟩
  · obtain ⟨shown, hshown, h⟩ := bind_eq_ok_iff.mp h
    obtain ⟨d, hd, rfl⟩ := map_eq_ok_iff.mp hshown
    cases h
    refine ⟨hname.1, hname.2, ht, ?_⟩
    rintro _ ⟨⟩
    exact trimmedText_eq_ok hd

theorem isValid_of_ofFields {name dataType constraints value displayName : Value}
    {parser : Option Parser}
    (h : ofFields name dataType constraints value displayName parser = .ok s) : s.IsValid := by
  unfold ofFields at h
  obtain ⟨name', hname, h⟩ := bind_eq_ok_iff.mp h
  obtain ⟨t, -, h⟩ := bind_eq_ok_iff.mp h
  have hname := trimmedText_eq_ok hname
  split_ifs at h with ht
  · cases h
  · simp only at h
    split at h
    · split at h
      · exact isValid_of_displayName hname ht h
      · exact isValid_of_displayName hname ht h
      · cases h
    · cases h

theorem ofFields_of_isValid (h : s.IsValid) (constraints : String) (parser : Option Parser) :
    ofFields (.text s.name) (.text s.dataType.name) (.text constraints) (optionValue s.value)
      (optionValue s.displayName) parser =
        .ok { s with constraints := constraints, parser := parser } := by
  obtain ⟨name, dataType, _, value, displayName, _⟩ := s
  rw [ofFields, trimmedText_text h.name_trimmed h.name_not_blank, namedDataType_name]
  simp only [bind, Except.bind, if_neg h.hasType]
  cases displayName with
  | none => cases value <;> rfl
  | some d =>
      obtain ⟨htrim, hblank⟩ := h.displayName d rfl
      simp only [optionValue, trimmedText_text htrim hblank]
      cases value <;> rfl

/-- The settings that can be made are those that are valid. -/
theorem isValid_iff :
    s.IsValid ↔ ∃ name dataType constraints value displayName,
      ofFields name dataType constraints value displayName s.parser = .ok s :=
  ⟨fun h => ⟨_, _, _, _, _, ofFields_of_isValid h s.constraints s.parser⟩,
    fun ⟨_, _, _, _, _, h⟩ => isValid_of_ofFields h⟩

/-! ## Records -/

/-- The record of a setting with the given constraints. -/
def storedFields (s : Setting) (cs : List Constraint) : List (String × Option String) :=
  [("name", some s.name)] ++ (s.displayName.toList.map fun d => ("display_name", some d)) ++
    [("data_type", some s.dataType.name)] ++
    (if (concat cs).isEmpty then [] else [("constraints", some (concat cs))]) ++
    [("value", s.value)]

/-- A record as a mapping of values. -/
def recordValue (fields : List (String × Option String)) : Value :=
  .map (fields.map fun field => (.text field.1, optionValue field.2))

/-- The setting with its constraints in their canonical form. -/
def normalized (s : Setting) (cs : List Constraint) (parser : Option Parser) : Setting :=
  { s with constraints := concat cs, parser := parser }

theorem result_record (h : s.parsedConstraints.result = .ok cs) :
    s.record.result = .ok (s.storedFields cs) := by
  rw [record, Recorded.result_bind h]
  rfl

theorem textEntries_recordValue (path : String) (fields : List (String × Option String)) :
    textEntries path (recordValue fields) =
      .ok (fields.map fun field => (field.1, optionValue field.2)) := by
  rw [textEntries, recordValue]
  simp only [Value.entries?]
  rw [mapM_eq_ok_iff, List.forall₂_map_left_iff, List.forall₂_map_right_iff, List.forall₂_same]
  intro field _
  rfl

/-- The value of a field, nothing where the field is not there. -/
def field (entries : List (String × Value)) (name : String) : Value :=
  (entries.lookup name).getD .null

/-- A mapping that has the fields of a setting and no others is read field by field. -/
theorem ofMapping_eq_ofFields {v : Value} {entries : List (String × Value)}
    {constraints value : Option String} (hentries : textEntries "ParameterSetting" v = .ok entries)
    (hrequired : ∀ name ∈ requiredFields, name ∈ entries.map (·.1))
    (hallowed : ∀ name ∈ entries.map (·.1), name ∈ allowedFields)
    (hconstraints : field entries "constraints" = optionValue constraints)
    (hvalue : field entries "value" = optionValue value) (parser : Option Parser) :
    ofMapping v parser =
      ofFields (field entries "name") (field entries "data_type") (.text (constraints.getD ""))
        (optionValue value) (field entries "display_name") parser := by
  have hmissing : (requiredFields.filter fun name => !(entries.map (·.1)).contains name) = [] := by
    rw [List.filter_eq_nil_iff]
    intro name hname
    simpa using hrequired name hname
  have hunknown : ((entries.map (·.1)).filter fun name => !allowedFields.contains name) = [] := by
    rw [List.filter_eq_nil_iff]
    intro name hname
    simpa using hallowed name hname
  have hsorted : sortedTexts [] = [] := by simp [sortedTexts]
  unfold field at hconstraints hvalue
  rw [ofMapping, hentries]
  simp only [bind, Except.bind, hmissing, hunknown, hsorted, hconstraints, hvalue]
  cases value <;> cases constraints <;> rfl

/-- The fields of a record as entries. -/
def storedEntries (s : Setting) (cs : List Constraint) : List (String × Value) :=
  (s.storedFields cs).map fun field => (field.1, optionValue field.2)

theorem field_storedEntries (s : Setting) (cs : List Constraint) :
    field (s.storedEntries cs) "name" = .text s.name ∧
      field (s.storedEntries cs) "data_type" = .text s.dataType.name ∧
      field (s.storedEntries cs) "value" = optionValue s.value ∧
      field (s.storedEntries cs) "display_name" = optionValue s.displayName ∧
      field (s.storedEntries cs) "constraints" =
        optionValue (if (concat cs).isEmpty then none else some (concat cs)) := by
  unfold field storedEntries storedFields
  split_ifs
  · cases s.displayName <;> simp [List.lookup, optionValue]
  · cases s.displayName <;> simp [List.lookup, optionValue]

theorem mem_names_storedEntries {s : Setting} {name : String} :
    name ∈ (s.storedEntries cs).map (·.1) ↔
      name = "name" ∨ (name = "display_name" ∧ s.displayName.isSome = true) ∨
        name = "data_type" ∨ (name = "constraints" ∧ (concat cs).isEmpty = false) ∨
        name = "value" := by
  unfold storedEntries storedFields
  split_ifs with hempty
  · cases s.displayName <;> simp [hempty]
  · cases s.displayName <;> simp [hempty]

/-- The record of a valid setting is read as the setting in its normal form. -/
theorem ofMapping_storedFields (h : s.IsValid) (cs : List Constraint) (parser : Option Parser) :
    ofMapping (recordValue (s.storedFields cs)) parser = .ok (s.normalized cs parser) := by
  obtain ⟨hname, hdataType, hvalue, hdisplayName, hconstraints⟩ := field_storedEntries s cs
  -- A canonical text that is empty is left out of the record, and read as empty again.
  have htext : (if (concat cs).isEmpty then none else some (concat cs)).getD "" = concat cs := by
    split_ifs with hempty
    · exact (String.isEmpty_iff.mp hempty).symm
    · rfl
  have hentries : textEntries "ParameterSetting" (recordValue (s.storedFields cs)) =
      .ok (s.storedEntries cs) := textEntries_recordValue _ _
  rw [ofMapping_eq_ofFields hentries _ _ hconstraints hvalue, hname, hdataType, hdisplayName,
    htext]
  · exact ofFields_of_isValid h (concat cs) parser
  · intro name hname
    rw [mem_names_storedEntries]
    simp only [requiredFields, List.mem_cons, List.not_mem_nil, or_false] at hname
    rcases hname with rfl | rfl
    · exact .inr (.inr (.inl rfl))
    · exact .inl rfl
  · intro name hname
    rw [mem_names_storedEntries] at hname
    rcases hname with rfl | ⟨rfl, -⟩ | rfl | ⟨rfl, -⟩ | rfl <;> decide

/-! ## The same meaning -/

theorem parsedConstraints_normalized (hp : s.activeParser.factory.handlers = [])
    (h : s.parsedConstraints.result = .ok cs) (parser : Option Parser) :
    (s.normalized cs parser).parsedConstraints.result = .ok (stored cs) :=
  Parser.parse_of_parse hp (Parser.parse_canonical hp h) _

theorem typeConstraint?_stored (cs : List Constraint) :
    typeConstraint? (stored cs) = typeConstraint? cs := by
  refine findSome?_stored (fun c hc => ?_) cs
  cases c with
  | typeName name | enumType name => simp [leads, Constraint.name] at hc
  | _ => rfl

theorem valuesConstraint?_stored (cs : List Constraint) :
    valuesConstraint? (stored cs) = valuesConstraint? cs := by
  refine findSome?_stored (fun c hc => ?_) cs
  cases c with
  | values list => simp [leads, Constraint.name] at hc
  | _ => rfl

/-- The normal form has the same record. -/
theorem result_record_normalized (hp : s.activeParser.factory.handlers = [])
    (h : s.parsedConstraints.result = .ok cs) (parser : Option Parser) :
    (s.normalized cs parser).record.result = .ok (s.storedFields cs) := by
  rw [result_record (parsedConstraints_normalized hp h parser)]
  simp only [storedFields, normalized, concat_stored]

/-- The normal form has the same value. -/
theorem result_nativeValue_normalized (hp : s.activeParser.factory.handlers = [])
    (h : s.parsedConstraints.result = .ok cs) (parser : Option Parser) (r : Registry) :
    ((s.normalized cs parser).nativeValue r).result = (s.nativeValue r).result := by
  have hnormalized := parsedConstraints_normalized hp h parser
  have hvalue : (s.normalized cs parser).value = s.value := rfl
  rw [nativeValue, nativeValue, hvalue]
  cases s.value with
  | none => rfl
  | some text =>
      simp only
      rw [Recorded.result_bind h, Recorded.result_bind hnormalized, hint, hint,
        typeConstraint?_stored, valuesConstraint?_stored]
      rfl

/-- A validator judges values alike under the text of the constraints and under their canonical
text, unless an observer minds the order. -/
theorem result_results_normalized (hp : s.activeParser.factory.handlers = [])
    (h : s.parsedConstraints.result = .ok cs) (parser : Option Parser) {v : Validator}
    (hv : ∀ o ∈ v.observers, o.IsOrderBlind) (value : Value) (member : String) (shown : Value) :
    (v.results value s.dataType (.text (s.normalized cs parser).constraints) member shown).result =
      (v.results value s.dataType (.text s.constraints) member shown).result :=
  Validator.result_results_stored hv (Parser.parse_of_parse hp h v.parser)
    (Parser.parse_of_parse hp (Parser.parse_canonical hp h) v.parser)

/-- A validator judges the value of the normal form as it judges that of the setting. -/
theorem result_validate_normalized (hp : s.activeParser.factory.handlers = [])
    (h : s.parsedConstraints.result = .ok cs) (parser : Option Parser) {v : Validator}
    (hv : ∀ o ∈ v.observers, o.IsOrderBlind) :
    ((s.normalized cs parser).validate v).result = (s.validate v).result := by
  have hnormalized := parsedConstraints_normalized hp h parser
  have hitems : ∀ ds : List Constraint,
      (v.resolve (.items (ds.map .constraint)) s.dataType).result = .ok ds :=
    Validator.itemConstraints_map
  simp only [validate, Recorded.result_bind_eq, h, hnormalized,
    result_nativeValue_normalized hp h parser]
  cases (s.nativeValue v.registry).result with
  | error fault => rfl
  | ok native => exact Validator.result_results_stored hv (hitems cs) (hitems (stored cs))

/-- Storing a setting and reading it back gives a setting with the same fields, its constraints in
their canonical form, the same record, the same value and the same verdicts. -/
theorem ofMapping_record (hs : s.IsValid) (hp : s.activeParser.factory.handlers = [])
    (h : s.parsedConstraints.result = .ok cs) (parser : Option Parser) :
    ∃ fields s', s.record.result = .ok fields ∧
      ofMapping (recordValue fields) parser = .ok s' ∧
      s'.name = s.name ∧ s'.dataType = s.dataType ∧ s'.displayName = s.displayName ∧
      s'.value = s.value ∧ s'.constraints = concat cs ∧
      s'.record.result = .ok fields ∧
      (∀ r, (s'.nativeValue r).result = (s.nativeValue r).result) ∧
      ∀ v : Validator, (∀ o ∈ v.observers, o.IsOrderBlind) →
        (s'.validate v).result = (s.validate v).result ∧
        ∀ value member shown,
          (v.results value s.dataType (.text s'.constraints) member shown).result =
            (v.results value s.dataType (.text s.constraints) member shown).result := by
  refine ⟨s.storedFields cs, s.normalized cs parser, result_record h,
    ofMapping_storedFields hs cs parser, rfl, rfl, rfl, rfl, rfl,
    result_record_normalized hp h parser, result_nativeValue_normalized hp h parser, ?_⟩
  intro v hv
  exact ⟨result_validate_normalized hp h parser hv, result_results_normalized hp h parser hv⟩

theorem ofMapping_record_reordered :
    let s : Setting := ⟨"Port", .int32, "[MinValue( 01 )][Encrypted] [Null]", some "5", none, none⟩
    s.IsValid ∧ s.activeParser.factory.handlers = [] ∧
      s.parsedConstraints.result =
        .ok [.minValue (.amount (.integer .int32 1)), .encrypted, .null] ∧
      ∃ fields s', s.record.result = .ok fields ∧
        ofMapping (recordValue fields) none = .ok s' ∧
        s'.constraints = "[Null][Encrypted][MinValue(1)]" := by
  intro s
  have hs : s.IsValid := ⟨by decide +kernel, by decide +kernel, nofun, nofun⟩
  have hparsed : (Parser.standard.parse "[MinValue( 01 )][Encrypted] [Null]" .int32).result =
      .ok [.minValue (.amount (.integer .int32 1)), .encrypted, .null] := by rfl
  obtain ⟨fields, s', hfields, hs', -, -, -, -, hconstraints, -⟩ :=
    ofMapping_record hs rfl hparsed none
  have hcanonical : concat [.minValue (.amount (.integer .int32 1)), .encrypted, .null] =
      "[Null][Encrypted][MinValue(1)]" := by decide +kernel
  exact ⟨hs, rfl, hparsed, fields, s', hfields, hs', hconstraints.trans hcanonical⟩

end ParamRules.Setting
