import ParamRules.Constraint.Configure

/-!
Building constraints from arguments, which are given by place or by name. Arguments that are left
out have a default; what a builder accepts is the same state that reading parameters leads to.
-/

namespace ParamRules

open Text

structure Arguments where
  placed : List Value
  named : List (String × Value)

namespace Arguments

def none : Arguments := ⟨[], []⟩

/-- The argument at a place or with a name. -/
def get? (a : Arguments) (place : Nat) (name : String) : Option Value :=
  (a.placed[place]?).or (a.named.lookup name)

/-- The argument at a place or with a name, which is nothing when it is left out. -/
def get (a : Arguments) (place : Nat) (name : String) : Value :=
  (a.get? place name).getD .null

end Arguments

namespace Constraint

def unboundedLength : Nat := 0x7FFFFFFF

def lengthArgument (v : Value) : Except Fault Nat :=
  match v.integer? with
  | none => .error (Argument.wrongType "length" "int" v)
  | some n => if n < 0 then .error (.argument "length" .negative) else .ok n.toNat

def placesArgument (v : Value) : Except Fault Nat :=
  match v.integer? with
  -- Unlike a length, this argument is refused without a word about the class of the value.
  | none => .error (.argument "decimal_places" (.wrongType "int" none))
  | some n => if n < 0 then .error (.argument "decimal_places" .negative) else .ok n.toNat

def itemsArgument (v : Value) : Except Fault (List Value) :=
  match v.items? with
  | some items => .ok items
  | none => .error (.plain (.notIterable v.typeName))

/-- The items of a value, or a text alone. -/
def textsArgument (v : Value) : Except Fault (List Value) :=
  if v.text?.isSome then .ok [v] else itemsArgument v

/-- A text that is not blank. -/
def filledText? (v : Value) : Option String :=
  v.text?.filter fun s => !isAllBlank s

/-- Hints, none of them blank. -/
def hintsArgument (v : Value) : Except Fault (List String) := do
  let items ← textsArgument v
  items.zipIdx.mapM fun (item, i) =>
    match filledText? item with
    | some s => .ok s
    | none => .error (.argument ("hints[" ++ toString i ++ "] " ++ item.literal) .blankText)

/-- Schemes, at least one and none blank. White space around them is left out. -/
def schemesArgument (v : Value) : Except Fault (List String) := do
  if v.text?.isNone && v.isEmpty then .error (.argument "schemes" .noSchemes)
  let items ← textsArgument v
  items.zipIdx.mapM fun (item, i) =>
    match filledText? item with
    | some s => .ok (trim s)
    | none => .error (.argument ("schemes[" ++ toString i ++ "]") .blankText)

/-- A text, empty where the value counts as absent. -/
def optionalText (v : Value) : String :=
  if v.isEmpty then "" else v.text?.getD v.display

/-- A data type of which something has to be so. -/
def typeArgument (v : Value) (holds : DataType → Bool) (problem : String → ArgumentProblem) :
    Except Fault DataType :=
  match v.dataType?.filter holds with
  | some t => .ok t
  | none => .error (.argument "data_type" (problem v.display))

def notOrdered (shown : String) : ArgumentProblem :=
  .isNot (shown ++ " is not an ordered data type")

/-- A value in the form of a data type. `path` names it in messages. -/
def valueArgument (path : String) (t : DataType) (v : Value) : Except Fault Value :=
  match Conversion.coerce none t v with
  | .ok w => .ok w
  | .error fault =>
    if fault.kind = .conversion then .error (.mk (.argument path
      (.isNot (v.literal ++ " is not a " ++ t.name))) (some fault))
    else .error fault

/-- The bound of an ordered type, its extreme value where none is given. -/
def boundArgument (name : String) (extreme? : DataType → Option Bound) (a : Arguments)
    (boundName : String) : Except Fault Bound := do
  let t ← typeArgument (a.get 0 "data_type") DataType.isOrdered notOrdered
  let given := a.get 1 boundName
  let v ←
    match given, extreme? t with
    -- A bound that is left out is not converted.
    | .null, some b => pure b.value
    | v, _ =>
      match Conversion.coerce none t v with
      | .ok w => pure w
      | .error fault =>
        if fault.kind = .conversion then
          throw (.mk (.argument name (.isNot ("bound " ++ v.literal ++ " is not a " ++ t.name)))
            (some fault))
        else throw fault
  match Conversion.boundOf? t v with
  | some b => return b
  | none => .error (.argument "data_type" (notOrdered t.name))

/-- The size of a step, one where none is given. -/
def stepArgument (a : Arguments) : Except Fault Amount := do
  let t ← typeArgument (a.get 0 "data_type") DataType.isStepped .noStepSize
  let given := a.get 1 "step_size"
  let v ← valueArgument "step_size" t (match given with | .null => .int 1 | v => v)
  match Conversion.amountOf? t v with
  | some size => return size
  | none => .error (.argument "data_type" (.noStepSize t.name))

def charSetArgument (v : Value) : Except Fault CharacterSet :=
  match v.text?.bind CharacterSet.ofName? with
  | some s => .ok s
  | none => .error (.plain (.notMember v.literal "CharacterSet"))

def optionArgument (v : Value) : Except Fault RegexOption :=
  match v.text?.bind RegexOption.ofName? with
  | some o => .ok o
  | none => .error (.plain (.notMember v.literal "RegexOption"))

def expressionArgument (a : Arguments) : Except Fault Expression := do
  match filledText? ((a.get? 0 "pattern").getD (.text ".*")) with
  | none => .error (.argument "pattern" .empty)
  | some pattern =>
    let options ← (← itemsArgument ((a.get? 1 "options").getD (.list []))).mapM optionArgument
    match Expression.ofPattern pattern (RegexOption.normalized options) with
    | .ok e => return e
    | .error refusal =>
      .error (patternFault (.argument "pattern"
        (.isNot (Text.literal pattern ++ " is not a valid regular expression"))) refusal)

/-- The name of a type, empty where none is given. -/
def typeNameArgument (v : Value) : Except Fault String :=
  match v, filledText? v with
  | .null, _ => .ok ""
  | _, some s => .ok s
  | _, none => .error (.argument "type_name" .empty)

def pairsArgument (t : IntegerType) (entries : List (Value × Value)) :
    Except Fault (List (String × Int)) :=
  entries.mapM fun (key, v) =>
    let path := "values[" ++ key.literal ++ "]"
    match v.integer? with
    | none => .error (Argument.wrongType path "int" v)
    | some n =>
      if t.holds n then .ok (key.text?.getD key.display, n)
      else .error (.argument path (.outside n (.integer t)))

/-- A value list, none where neither type nor values are given. -/
def valuesArgument (a : Arguments) : Except Fault (Option ValueList) :=
  let type := (a.get? 0 "underlying_data_type").getD (.ofDataType .none)
  let values := a.get 2 "values"
  match type.dataType?, values with
  | some .none, .null => .ok none
  | some (.integer t), values => do
    if values.isEmpty then .error (.argument "values" .noValues)
    match values.entries? with
    | none => .error (.plain .missingAttribute)
    | some entries =>
      let pairs ← pairsArgument t entries
      return some ⟨t, !(a.get 1 "has_flags").isEmpty, pairs⟩
  | _, _ =>
    .error (.argument "underlying_data_type" (.isNot (type.display ++ " is not an integer type")))

/-- The values of an enumeration as a value list, of the first integer type that holds them all. -/
def ofEnumeration (v : Value) : Except Fault Constraint :=
  match v with
  | .cls (.enumeration e) =>
    let pairs := e.entries.filterMap fun (name, value) =>
      match e.memberValue value with
      | .int n => some (name, n)
      | _ => none
    -- One name without an integer spoils all of them.
    if pairs.isEmpty || pairs.length ≠ e.entries.length then
      .error (.argument "enum_type" (.noIntegerValues e.name))
    else
      match [IntegerType.int32, .int64, .uint64].find? fun t => pairs.all (t.holds ·.2) with
      | some t => .ok (.values (some ⟨t, e.isFlags, pairs⟩))
      | none => .error (.argument "enum_type" (.tooWide e.name))
  | _ => .error (.argument "enum_type" (.wrongType "an Enum subclass" none))

/-- A constraint with a name of its own that takes every value and ignores its parameters. -/
def plainRule (name : String) : CustomRule :=
  ⟨"Constraint", name, fun _ => .ok []⟩

def namedArgument (v : Value) : Except Fault Constraint :=
  match v.text? with
  | none => .error (Argument.wrongType "name" "string" v)
  | some s =>
    if isAllBlank s then .error (.argument "name" .empty) else .ok (.custom (plainRule s) [])

def builders : List (String × (Arguments → Except Fault Constraint)) := [
  ("NullConstraint", fun _ => .ok .null),
  ("EncryptedConstraint", fun _ => .ok .encrypted),
  ("ReadOnlyConstraint", fun _ => .ok .readOnly),
  ("DisplayHintConstraint", fun a =>
    .displayHint <$> hintsArgument ((a.get? 0 "hints").getD (.list []))),
  ("DatabaseConstraint", fun a =>
    .ok (.database (optionalText (a.get 0 "entity")) (optionalText (a.get 1 "key_property"))
      (optionalText (a.get 2 "display_property")))),
  ("LengthConstraint", fun a =>
    .length <$> lengthArgument ((a.get? 0 "length").getD (.int unboundedLength))),
  ("MinimumLengthConstraint", fun a =>
    .minLength <$> lengthArgument ((a.get? 0 "length").getD (.int 0))),
  ("MaximumLengthConstraint", fun a =>
    .maxLength <$> lengthArgument ((a.get? 0 "length").getD (.int unboundedLength))),
  ("MinimumValueConstraint", fun a =>
    .minValue <$> boundArgument "MinValue" Conversion.least? a "minimum"),
  ("MaximumValueConstraint", fun a =>
    .maxValue <$> boundArgument "MaxValue" Conversion.greatest? a "maximum"),
  ("StepConstraint", fun a => .step <$> stepArgument a),
  ("DecimalPlacesConstraint", fun a =>
    .decimalPlaces <$> placesArgument ((a.get? 0 "decimal_places").getD (.int 2))),
  ("CharacterSetConstraint", fun a =>
    .charSet <$> charSetArgument ((a.get? 0 "character_set").getD (.text "Windows1252"))),
  ("LowercaseConstraint", fun _ => .ok .lowercase),
  ("UppercaseConstraint", fun _ => .ok .uppercase),
  ("PasswordConstraint", fun _ => .ok .password),
  ("RegexConstraint", fun a => .regex <$> expressionArgument a),
  ("HostNameConstraint", fun _ => .ok .host),
  ("EndpointConstraint", fun _ => .ok .endpoint),
  ("FileNameConstraint", fun _ => .ok .fileName),
  ("PathConstraint", fun _ => .ok .path),
  ("AllowedSchemeConstraint", fun a => .allowedScheme <$>
    schemesArgument ((a.get? 0 "schemes").getD (.list [.text "http", .text "https"]))),
  ("TypeConstraint", fun a => .typeName <$> typeNameArgument (a.get 0 "type_name")),
  ("EnumTypeConstraint", fun a => .enumType <$> typeNameArgument (a.get 0 "type_name")),
  ("EnumValuesConstraint", fun a => .values <$> valuesArgument a),
  ("Constraint", fun a => namedArgument (a.get 0 "name"))]

def builder? (kind : String) : Option (Arguments → Except Fault Constraint) :=
  builders.lookup kind

end Constraint

end ParamRules
