import ParamRules.Constraint.Written

/-!
The fields of constraints: what each kind of constraint holds, by names.
-/

namespace ParamRules

open Text

def Bound.fields (name : String) (b : Bound) : List (String × Value) :=
  [("data_type", .ofDataType b.dataType), (name, b.value)]

/-- The fields of a list of values. A list that is not set holds no data type. -/
def ValueList.fields : Option ValueList → List (String × Value)
  | none =>
    [("underlying_data_type", .text DataType.none.name), ("has_flags", .bool false),
      ("values", .list [])]
  | some l =>
    [("underlying_data_type", .text l.type.name), ("has_flags", .bool l.flags),
      ("values", .list (l.pairs.map fun (name, n) => .list [.text name, .int n]))]

/-- The fields of a constraint, besides its parameters. -/
def Constraint.fields : Constraint → List (String × Value)
  | .length n | .minLength n | .maxLength n => [("length", .int n)]
  | .displayHint hints => [("hints", .list (hints.map .text))]
  | .database e k d =>
    [("entity", .text e), ("key_property", .text k), ("display_property", .text d)]
  | .minValue b => b.fields "minimum"
  | .maxValue b => b.fields "maximum"
  | .step a => (Bound.amount a).fields "step_size"
  | .decimalPlaces n => [("decimal_places", .int n)]
  | .allowedScheme schemes => [("schemes", .list (schemes.map .text))]
  | .charSet s => [("character_set", .text s.name)]
  | .regex e =>
    [("pattern", .text e.pattern), ("options", .list (e.options.map fun o => .text o.name))]
  | .typeName name | .enumType name => [("type_name", .text name)]
  | .values l => ValueList.fields l
  | _ => []

end ParamRules
