import ParamRules.Enumeration

/-!
Classes: what a type name can stand for. A class is an enumeration or an ordinary class, known by
its name and the data type of its values.
-/

namespace ParamRules

/-- A class. The module of an ordinary class is empty where quoting leaves it out. -/
inductive Class where
  | enumeration (e : Enumeration)
  | ordinary (module name : String) (values : Option DataType)
deriving Repr, DecidableEq

namespace Class

/-- The name of the class, with the names of the classes around it. -/
def name : Class → String
  | .enumeration e => e.name
  | .ordinary _ name _ => name

def enumeration? : Class → Option Enumeration
  | .enumeration e => some e
  | .ordinary .. => none

def literal : Class → String
  | .enumeration e => (if e.isFlags then "<flag '" else "<enum '") ++ e.shortName ++ "'>"
  | .ordinary module name _ =>
    "<class '" ++ (if module.isEmpty then "" else module ++ ".") ++ name ++ "'>"

/-- The name of the class that classes of this sort belong to. -/
def typeName : Class → String
  | .enumeration _ => "EnumType"
  | .ordinary .. => "type"

def dataType? : Class → Option DataType
  | .enumeration _ => some .enumeration
  | .ordinary _ _ values => values

end Class

def DataType.className? : DataType → Option String
  | .none => .none
  | .bool => some "bool"
  | .bytes => some "bytes"
  | .dateTimeOffset => some "datetime"
  | .decimal => some "Decimal"
  | .enumeration => some "Enum"
  | .guid => some "UUID"
  | .integer _ => some "int"
  | .string | .uri | .xml => some "str"
  | .timeSpan => some "timedelta"
  | .version => some "Version"

end ParamRules
