import ParamRules.Fault

/-!
Arguments: values handed in where a data type or a name is due. `dataType` takes data types alone,
`namedDataType` takes their names as well.
-/

namespace ParamRules.Argument

open Text

def wrongType (path expected : String) (v : Value) : Fault :=
  .argument path (.wrongType expected (some v.typeName))

/-- The entries of a mapping. No other value has any. -/
def entries (v : Value) : Except Fault Mapping :=
  match v.entries? with
  | some m => .ok m
  | none => .error (.plain .missingAttribute)

/-- The data type that a value is. The type `none` is refused. -/
def dataType (v : Value) : Except Fault DataType :=
  match v.dataType? with
  | none => .error (wrongType "data_type" "ParameterDataType" v)
  | some .none => .error .noDataType
  | some t => .ok t

/-- The data type that a value is or names, white space around the name left out. -/
def namedDataType (path : String) (v : Value) : Except Fault DataType :=
  match v.dataType?, v.text? with
  | some t, _ => .ok t
  | none, some s =>
    match DataType.ofName? (trim s) with
    | some t => .ok t
    | none => .error (.argument path (.unknownDataType s))
  | none, none => .error (wrongType path "ParameterDataType" v)

/-- A text with something other than white space in it. -/
def nameText (path : String) (v : Value) : Except Fault String :=
  match v.text? with
  | some s => if isAllBlank s then .error (.argument path .empty) else .ok s
  | none => .error (.argument path .empty)

def classDataType (v : Value) : Except Fault DataType :=
  match v with
  | .cls c =>
    match c.dataType? with
    | some t => .ok t
    | none => .error (.argument "native_type" (.notSupported c.name))
  | v => .error (wrongType "native_type" "a type" v)

def integerType (t : DataType) : Except Fault IntegerType :=
  match t.integer? with
  | some type => .ok type
  | none => .error (.argument "data_type" (.isNot (t.name ++ " is not an integer type")))

def className (t : DataType) : Except Fault String :=
  match t.className? with
  | some name => .ok name
  | none => .error (.argument "data_type" (.noNativeForm t))

def versionText (v : Value) : Except Fault Version :=
  match v.text? with
  | none => .error (wrongType "Version" "string" v)
  | some s =>
    match Version.read s.toList with
    | .ok version => .ok version
    | .error .malformed => .error (.plain (.versionText s))
    | .error (.tooLong digits) => .error (.plain (.longToRead digits))
    | .error (.parts fault) => .error (.plain (.version fault))

def versionPart (p : Version.Part) (v : Value) : Except Fault Int :=
  match v.integer? with
  | none => .error (.plain (.versionType p.name v.typeName))
  | some n => ((p.check n).map fun _ => n).mapError fun fault => .plain (.version fault)

/-- The version with the given parts: two to four, of which the last two may be left out. -/
def versionOf (parts : List Value) : Except Fault Version := do
  let major ← versionPart .major (parts[0]?.getD .null)
  let minor ← versionPart .minor (parts[1]?.getD .null)
  let build ← versionPart .build (parts[2]?.getD (.int (-1)))
  let revision ← versionPart .revision (parts[3]?.getD (.int (-1)))
  (Version.ofParts major minor build revision).mapError fun fault => .plain (.version fault)

end ParamRules.Argument
