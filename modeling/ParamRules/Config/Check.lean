import ParamRules.Config.Basic
import ParamRules.Fault

/-!
Checking configurations. Every field is checked on its own, so that all issues are found at once:
first the names of the fields of a mapping, those that are not known and then those that are
missing, and then the values. A configuration without issues is complete.
-/

namespace ParamRules.Config

open Text

/-- What a check finds: issues, and what can be used of the value. -/
structure Checked (α : Type) where
  issues : List Issue
  value : Option α

namespace Checked

variable {α β : Type}

/-- An issue, after which nothing can be used. -/
def refuse (path : String) (problem : Problem) : Checked α :=
  ⟨[⟨path, problem⟩], none⟩

def andThen (x : Checked α) (f : α → Checked β) : Checked β :=
  match x.value with
  | some a => ⟨x.issues ++ (f a).issues, (f a).value⟩
  | none => ⟨x.issues, none⟩

instance : Applicative Checked where
  pure a := ⟨[], some a⟩
  seq f x := ⟨f.issues ++ (x ()).issues, do return (← f.value) (← (x ()).value)⟩

end Checked

/-! ## Fields -/

/-- A text that is not blank, without white space around it. -/
def checkText (path : String) (v : Value) : Checked String :=
  match v.text? with
  | none => .refuse path (.wrongType "string" v.typeName)
  | some s => if isAllBlank s then .refuse path .empty else pure (trim s)

/-- A version, which has to be the supported one. -/
def checkVersion (path : String) (v : Value) : Checked Value :=
  match v.integer? with
  | none => .refuse path (.wrongType "integer" v.typeName)
  | some n =>
    if n < 1 then .refuse path .belowOne
    -- Another version is an issue, but its section can still be used.
    else ⟨if n = schemaVersion then [] else [⟨path, .otherVersion n⟩], some v⟩

/-- The path of a handler: a module and a name in it, with a colon between them. -/
def checkHandler (path : String) (v : Value) : Checked String :=
  (checkText path v).andThen fun s =>
    match cut? ':' s with
    | some (module, name) =>
      if module.isEmpty || name.isEmpty then .refuse path .noImportPath else pure s
    | none => .refuse path .noImportPath

def checkHandlers (path : String) (v : Value) : Checked (List String) :=
  match v with
  | .list items | .tuple items =>
    let found := items.zipIdx.map fun (item, i) =>
      checkHandler (path ++ "[" ++ toString i ++ "]") item
    ⟨found.flatMap (·.issues), some (found.filterMap (·.value))⟩
  | v => .refuse path (.wrongType "array" v.typeName)

def checkPath (path : String) (v : Value) : Checked String :=
  (checkText path v).andThen fun s =>
    if s.toList.contains '\x00' then .refuse path .holdsNul else pure s

def checkLevel (path : String) (v : Value) : Checked Level :=
  (checkText path v).andThen fun s =>
    match Level.ofName? s with
    | some level => pure level
    | none => .refuse path (.notOneOf s (Level.all.map Level.name))

def checkFlag (path : String) (v : Value) : Checked Bool :=
  match v with
  | .bool b => pure b
  | v => .refuse path (.wrongType "boolean" v.typeName)

/-! ## Sections -/

/-- The entries of a mapping whose keys are texts. -/
def checkEntries (path : String) (v : Value) : Checked (List (String × Value)) :=
  match v with
  | .map entries =>
    ⟨entries.filterMap fun (k, _) =>
        if k.text?.isSome then none else some ⟨path, .keyType k.typeName⟩,
      some (entries.filterMap fun (k, item) => k.text?.map fun name => (name, item))⟩
  | v => .refuse path (.wrongType "object" v.typeName)

/-- Checks the names of entries: all have to be known, and some have to be there. -/
def checkNames (pathOf : String → String) (known required : List String)
    (entries : List (String × Value)) : Checked Unit :=
  let unknown := (entries.map (·.1)).filter fun name => !known.contains name
  let missing := required.filter fun name => (entries.lookup name).isNone
  ⟨(sortedTexts unknown).map (fun name => ⟨pathOf name, .unknownField⟩) ++
    (sortedTexts missing).map (fun name => ⟨pathOf name, .missingField⟩), some ()⟩

/-- A field that has to be there. That it is missing is no issue of its own. -/
def needed {α : Type} (entries : List (String × Value)) (f : Field)
    (check : String → Value → Checked α) : Checked α :=
  match entries.lookup f.name with
  | some v => check f.path v
  | none => ⟨[], none⟩

def optional {α : Type} (entries : List (String × Value)) (f : Field)
    (check : String → Value → Checked α) : Checked (Option α) :=
  match entries.lookup f.name with
  | some v => some <$> check f.path v
  | none => pure none

/-- A section. One that is empty is left out. -/
def checkSection {α : Type} (root : List (String × Value)) (s : Section)
    (check : List (String × Value) → Checked α) : Checked (Option α) :=
  match root.lookup s.name with
  | none | some .null => pure none
  | some v =>
    (checkEntries s.name v).andThen fun entries =>
      let names := fun (fields : List Field) => fields.map Field.name
      some <$> (checkNames (s.name ++ "." ++ ·) (names s.fields)
        (names (s.fields.filter Field.isRequired)) entries *> check entries)

def checkObservability (entries : List (String × Value)) : Checked Observability :=
  Observability.mk <$> needed entries .logLevel checkLevel
    <*> needed entries .logToStdout checkFlag
    <*> needed entries .redactSecrets checkFlag
    <*> optional entries .logFile checkPath

/-! ## Configurations -/

def rootPath : String := "<root>"

def check (v : Value) : Checked Config :=
  (checkEntries rootPath v).andThen fun root =>
    checkNames id (Section.all.map Section.name)
        ((Section.all.filter Section.isRequired).map Section.name) root *>
      (Config.mk <$> checkSection root .schema (needed · .schemaVersion checkVersion)
        <*> checkSection root .parser (needed · .handlers checkHandlers)
        <*> (Option.join <$> checkSection root .catalog (optional · .catalogPath checkPath))
        <*> checkSection root .observability checkObservability)

/-- The configuration that a value holds, or all its issues. -/
def ofValue (v : Value) : Except (List Issue) Config :=
  match check v with
  | ⟨[], some c⟩ => .ok c
  | ⟨issues, _⟩ => .error issues

def require (v : Value) : Except Fault Config :=
  (ofValue v).mapError fun issues => .plain (.config issues)

end ParamRules.Config
