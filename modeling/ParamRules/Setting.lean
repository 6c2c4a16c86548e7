import ParamRules.Validator

/-!
Settings: named parameters with a data type, the text of their constraints and the text of their
value. Constraints are parsed and values are read when they are asked for, so a setting with faulty
ones can be held.
-/

namespace ParamRules

open Text

/-- A setting. Where it has no parser of its own, the standard one is used. -/
structure Setting where
  name : String
  dataType : DataType
  constraints : String
  value : Option String
  displayName : Option String
  parser : Option Parser

namespace Setting

/-- Whether two settings have the same fields, whatever their parsers. -/
def same (s t : Setting) : Bool :=
  s.name = t.name && s.dataType = t.dataType && s.constraints = t.constraints &&
    s.value = t.value && s.displayName = t.displayName

def effectiveDisplayName (s : Setting) : String :=
  s.displayName.getD s.name

/-! ## From values -/

def trimmedText (path : String) (v : Value) : Except Fault String :=
  match v.text? with
  | none => .error (.argument path (.wrongShape "string" (some v.typeName)))
  | some s => if isAllBlank s then .error (.argument path .empty) else .ok (trim s)

def ofFields (name dataType constraints value displayName : Value) (parser : Option Parser) :
    Except Fault Setting := do
  let name ← trimmedText "name" name
  let t ← Argument.namedDataType "data_type" dataType
  if t = .none then .error (.argument "data_type" .absent)
  let constraints ←
    match constraints.text? with
    | some s => .ok s
    | none => .error (.argument "constraints" (.wrongShape "string" none))
  let text? ←
    match value, value.text? with
    | .null, _ => .ok none
    | _, some s => .ok (some s)
    | _, none => .error (.argument "value" (.wrongShape "string or null" none))
  let displayName? ←
    match displayName with
    | .null => .ok none
    | v => some <$> trimmedText "display_name" v
  return ⟨name, t, constraints, text?, displayName?, parser⟩

def scalarText (v : Value) : Except Fault String :=
  match v, v.text?, v.integer? with
  -- Truth values come first: they are written in lower case, unlike in messages.
  | .bool b, _, _ => .ok (if b then "true" else "false")
  | _, some _, _ => .ok v.display
  | _, none, some n => if Integer.isTooLong n then .error (.plain .longToWrite) else .ok v.display
  | _, none, none =>
    .error (.argument "value" (.wrongShape "string or integer" (some v.typeName)))

def requiredFields : List String := ["data_type", "name"]

def allowedFields : List String :=
  ["constraints", "data_type", "display_name", "name", "value"]

def textEntries (path : String) (v : Value) : Except Fault (List (String × Value)) :=
  match v.entries? with
  | none => .error (.argument path (.wrongShape "object" (some v.typeName)))
  | some entries => entries.mapM fun (k, item) =>
    match k.text? with
    | some key => .ok (key, item)
    | none => .error (.argument path (.keyType k.typeName))

def ofMapping (v : Value) (parser : Option Parser) : Except Fault Setting := do
  let path := "ParameterSetting"
  let entries ← textEntries path v
  let names := entries.map (·.1)
  let missing := requiredFields.filter fun name => !names.contains name
  if !missing.isEmpty then .error (.argument path (.missingFields missing))
  let unknown := sortedTexts (names.filter fun name => !allowedFields.contains name)
  if !unknown.isEmpty then .error (.argument path (.unknownFields unknown allowedFields))
  let field := fun name => (entries.lookup name).getD .null
  let value ←
    match field "value" with
    | .null => .ok Value.null
    | v => .text <$> scalarText v
  let constraints :=
    match field "constraints" with
    | .null => Value.text ""
    | v => v
  ofFields (field "name") (field "data_type") constraints value (field "display_name") parser

/-! ## Constraints and values -/

def activeParser (s : Setting) : Parser :=
  s.parser.getD .standard

def parsedConstraints (s : Setting) : Recorded (List Constraint) :=
  s.activeParser.parse s.constraints s.dataType

/-- The first constraint that names a type. -/
def typeConstraint? (cs : List Constraint) : Option String :=
  cs.findSome? Constraint.typeName?

def valuesConstraint? (cs : List Constraint) : Option ValueList :=
  cs.findSome? fun c =>
    match c with
    | .values (some l) => some l
    | _ => none

/-- What the constraints say about the class of the value. -/
def hint (r : Registry) (cs : List Constraint) : Conversion.Hint :=
  (typeConstraint? cs).map r.class?

/-- The number that a text stands for in a list of values: that of the name, or the number
itself. -/
def readListed (l : ValueList) (text : String) : Except Fault Value :=
  match l.pairs.lookup (trim text) with
  | some n => .ok (.int n)
  | none =>
    match Conversion.read none (.integer l.type) (trim text) with
    | .ok v => .ok v
    | .error fault =>
      if fault.kind = .conversion then
        .error (.conversion .enumeration (.text text) (.neitherNameNorInteger text) (some fault))
      else .error fault

def nativeValue (r : Registry) (s : Setting) : Recorded Value :=
  match s.value with
  | none => pure .null
  | some text => do
    let cs ← s.parsedConstraints
    match s.dataType, valuesConstraint? cs, typeConstraint? cs with
    -- A constraint that names a type goes before one that lists values.
    | .enumeration, some l, none => readListed l text
    | t, _, _ => Conversion.read (hint r cs) t text

def validate (v : Validator) (s : Setting) : Recorded (List Outcome) := do
  let native ← s.nativeValue v.registry
  let cs ← s.parsedConstraints
  v.results native s.dataType (.items (cs.map .constraint)) s.name (.text s.effectiveDisplayName)

/-- The text of a value of an enumeration that is given by a list of values: its number. -/
def listedText (v : Value) : Except Fault String :=
  match v.unwrapped with
  | .int n => if Integer.isTooLong n then .error (.plain .longToWrite) else .ok (Integer.text n)
  | _ => .error (.conversion .enumeration v .impossible none)

def withValue (r : Registry) (s : Setting) (v : Value) : Recorded Setting := do
  let cs ← s.parsedConstraints
  let text? : Option String ←
    match v, s.dataType, typeConstraint? cs with
    | .null, _, _ => pure none
    | _, .enumeration, none => some <$> (listedText v : Except Fault String)
    | _, t, _ => some <$> (Conversion.write (hint r cs) t v : Except Fault String)
  return { s with value := text? }

/-- The fields of a setting as they are stored, its constraints in their canonical form. -/
def record (s : Setting) : Recorded (List (String × Option String)) := do
  let canonical := Constraint.concat (← s.parsedConstraints)
  return [("name", some s.name)] ++ (s.displayName.toList.map fun d => ("display_name", some d)) ++
    [("data_type", some s.dataType.name)] ++
    (if canonical.isEmpty then [] else [("constraints", some canonical)]) ++ [("value", s.value)]

end Setting

end ParamRules
