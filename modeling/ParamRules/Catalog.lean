import ParamRules.File
import ParamRules.Log.Contextual
import ParamRules.Setting
import ParamRules.Yaml.Document
import ParamRules.Yaml.Written

/-!
Catalogs: settings in order, each with a name of its own, and the file that they come from. A file
holds them as a YAML list of mappings. `get?_replace` says that replacing a setting changes the
answer for its name and for no other.
-/

namespace ParamRules

/-- A catalog. No two of its settings have one name. -/
structure Catalog where
  settings : List Setting
  source : Option Path
  distinct : (settings.map Setting.name).Nodup

/-- What is handed in as a setting: a setting, or a value that is none. -/
inductive SettingItem where
  | setting (s : Setting)
  | other (v : Value)

namespace Catalog

def empty : Catalog := ⟨[], none, by simp⟩

/-- The first name that stands for the second time in a list. -/
def firstRepeated? (before : List String) : List String → Option String
  | [] => none
  | name :: r => if before.contains name then some name else firstRepeated? (name :: before) r

def ofSettings (settings : List Setting) (source : Option Path) : Except Fault Catalog :=
  if h : (settings.map Setting.name).Nodup then .ok ⟨settings, source, h⟩
  else
    .error (.plain (.duplicateSetting ((firstRepeated? [] (settings.map Setting.name)).getD "")))

/-- The catalog of items, all of which have to be settings. The first item that cannot be taken is
the fault. -/
def ofItems (items : List SettingItem) (source : Option Path) : Except Fault Catalog :=
  let isSetting := fun item => item matches SettingItem.setting _
  let leading := (items.takeWhile isSetting).filterMap fun item =>
    match item with
    | .setting s => some s
    | .other _ => none
  match ofSettings leading source, items.find? (!isSetting ·) with
  | .ok _, some (.other v) => .error (Argument.wrongType "settings" "ParameterSetting" v)
  | found, _ => found

/-! ## Looking up and replacing -/

def get? (c : Catalog) (name : String) : Option Setting :=
  c.settings.find? (·.name = name)

def require (c : Catalog) (name : String) : Except Fault Setting :=
  match c.get? name with
  | some s => .ok s
  | none => .error (.plain (.unknownSetting (Text.literal name)))

/-- The setting with a name that is handed in as a value. Only values that can be keys are looked
for. -/
def getWith (c : Catalog) (name : Value) : Except Fault (Option Setting) :=
  match name.notKey?, name.text? with
  | some className, _ => .error (.plain (.notHashable className))
  | none, some s => .ok (c.get? s)
  | none, none => .ok none

def requireWith (c : Catalog) (name : Value) : Except Fault Setting := do
  match ← c.getWith name with
  | some s => .ok s
  | none => .error (.plain (.unknownSetting name.literal))

/-- A setting in place of the one with its name. -/
def put (new s : Setting) : Setting :=
  if s.name = new.name then new else s

theorem name_put (new s : Setting) : (put new s).name = s.name := by
  unfold put
  split
  · rename_i h
    exact h.symm
  · rfl

/-- The catalog with a setting in place of the one with its name, which has to be there. -/
def replace (c : Catalog) (new : Setting) : Except Fault Catalog :=
  if (c.get? new.name).isSome then
    .ok ⟨c.settings.map (put new), c.source, by
      simpa [Function.comp_def, name_put] using c.distinct⟩
  else .error (.plain (.unknownSetting (Text.literal new.name)))

theorem get?_replace {c d : Catalog} {new : Setting} (h : c.replace new = .ok d) (name : String) :
    d.get? name = if name = new.name then some new else c.get? name := by
  unfold replace at h
  split at h
  · rename_i hfound
    cases h
    simp only [get?, List.find?_map, Function.comp_def, name_put]
    split
    · rename_i heq
      subst heq
      obtain ⟨s, hs⟩ := Option.isSome_iff_exists.mp hfound
      unfold get? at hs
      have hname : s.name = new.name := by simpa using List.find?_some hs
      rw [hs]
      simp [put, hname]
    · rename_i hne
      cases hs : c.settings.find? (·.name = name) with
      | none => rfl
      | some s =>
        have hname : s.name = name := by simpa using List.find?_some hs
        simp [put, hname, hne]
  · cases h

/-! ## Validation -/

def noFile : String := "<memory>"

def fileName (c : Catalog) : String :=
  (c.source.map Path.name).getD noFile

/-- The correlation fields of what is logged about a setting. A file or a setting without a name
cannot be told apart from others. -/
def scope (c : Catalog) (s : Setting) : Except Fault Correlation :=
  Correlation.ofFields [("catalog", .text c.fileName), ("setting", .text s.name)]

/-- The failures of the settings that have any, by their names. -/
def validate (v : Validator) (c : Catalog) : Recorded (List (String × List Outcome)) :=
  go c.settings
where
  go : List Setting → Recorded (List (String × List Outcome))
    | [] => pure []
    | s :: r => do
      let context ← (c.scope s : Except Fault _)
      let outcomes ← (s.validate v).within context
      let rest ← go r
      return if outcomes.isEmpty then rest else (s.name, outcomes) :: rest

/-- The failures of a setting, which is checked in a block with the correlation fields of what is
logged about it. -/
def checkIn (v : Validator) (c : Catalog) (s : Setting) : Contextual (List Outcome) :=
  .scope [("catalog", .text c.fileName), ("setting", .text s.name)] (liftM (s.validate v))

def validateIn (v : Validator) (c : Catalog) : Contextual (List (String × List Outcome)) :=
  go c.settings
where
  go : List Setting → Contextual (List (String × List Outcome))
    | [] => pure []
    | s :: r => do
      let outcomes ← c.checkIn v s
      let rest ← go r
      return if outcomes.isEmpty then rest else (s.name, outcomes) :: rest

/-! ## Files -/

/-- The settings that a list of mappings holds. A fault names the file and the place in the list. -/
def ofList (source : Path) (parser : Option Parser) (items : List Value) :
    Except Fault (List Setting) :=
  items.zipIdx.mapM fun (item, i) =>
    match Setting.ofMapping item parser with
    | .ok s => .ok s
    | .error fault =>
      if fault.kind.isValueOrType then
        .error (.mk (.argument (source.name ++ "[" ++ toString i ++ "]") (.other fault.message))
          (some fault))
      else .error fault

/-- The catalog that the text of a file holds. An empty text holds an empty catalog. -/
def ofText (source : Path) (parser : Option Parser) (text : String) : Except Fault Catalog := do
  let loaded ←
    match Yaml.read text.toList with
    | .ok v => .ok v
    | .error .malformed => .error (.argument source.text .notYaml)
    | .error problem => .error (.plain (.yaml problem))
  match loaded with
  | .null => ofSettings [] (some source)
  | .list items => do ofSettings (← ofList source parser items) (some source)
  | v => .error (.argument source.text (.notYamlSequence v.typeName))

def load (files : Files) (parser : Option Parser) (path : String) : Except Fault Catalog := do
  let source ← files.locate path
  ofText source parser (← files.read source)

def text (c : Catalog) : Recorded String := do
  return Yaml.write (← records c.settings)
where
  records : List Setting → Recorded (List (List (String × Option String)))
    | [] => pure []
    | s :: r => do
      let fields ← s.record
      return fields :: (← records r)

end Catalog

end ParamRules
