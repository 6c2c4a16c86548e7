/-!
The data types that a parameter can have. Integer types are told apart by their range. The type
`none` is no type of any value: it stands where no type is given, and every operation refuses it.
-/

namespace ParamRules

inductive IntegerType where
  | byte | int16 | int32 | int64 | signedByte | uint16 | uint32 | uint64
deriving Repr, DecidableEq

inductive DataType where
  | none
  | bool
  | bytes
  | dateTimeOffset
  | decimal
  | enumeration
  | guid
  | integer (type : IntegerType)
  | string
  | timeSpan
  | uri
  | version
  | xml
deriving Repr, DecidableEq

namespace IntegerType

def least : IntegerType → Int
  | .byte | .uint16 | .uint32 | .uint64 => 0
  | .signedByte => -0x80
  | .int16 => -0x8000
  | .int32 => -0x80000000
  | .int64 => -0x8000000000000000

def greatest : IntegerType → Int
  | .byte => 0xFF
  | .signedByte => 0x7F
  | .int16 => 0x7FFF
  | .uint16 => 0xFFFF
  | .int32 => 0x7FFFFFFF
  | .uint32 => 0xFFFFFFFF
  | .int64 => 0x7FFFFFFFFFFFFFFF
  | .uint64 => 0xFFFFFFFFFFFFFFFF

def holds (t : IntegerType) (n : Int) : Bool :=
  t.least ≤ n && n ≤ t.greatest

def name : IntegerType → String
  | .byte => "Byte"
  | .int16 => "Int16"
  | .int32 => "Int32"
  | .int64 => "Int64"
  | .signedByte => "SignedByte"
  | .uint16 => "UInt16"
  | .uint32 => "UInt32"
  | .uint64 => "UInt64"

/-- The name in capitals, its words joined by underscores. -/
def constantName : IntegerType → String
  | .byte => "BYTE"
  | .int16 => "INT16"
  | .int32 => "INT32"
  | .int64 => "INT64"
  | .signedByte => "SIGNED_BYTE"
  | .uint16 => "UINT16"
  | .uint32 => "UINT32"
  | .uint64 => "UINT64"

end IntegerType

namespace DataType

@[match_pattern] abbrev int32 : DataType := .integer .int32

@[match_pattern] abbrev int64 : DataType := .integer .int64

/-- All data types in the order in which they are listed to callers. -/
def all : List DataType := [
  .none, .bool, .integer .byte, .bytes, .dateTimeOffset, .decimal, .enumeration, .guid,
  .integer .int16, .integer .int32, .integer .int64, .integer .signedByte, .string, .timeSpan,
  .integer .uint16, .integer .uint32, .integer .uint64, .uri, .version, .xml]

def name : DataType → String
  | .none => "None"
  | .bool => "Bool"
  | .bytes => "Bytes"
  | .dateTimeOffset => "DateTimeOffset"
  | .decimal => "Decimal"
  | .enumeration => "Enum"
  | .guid => "Guid"
  | .integer t => t.name
  | .string => "String"
  | .timeSpan => "TimeSpan"
  | .uri => "Uri"
  | .version => "Version"
  | .xml => "Xml"

def constantName : DataType → String
  | .none => "NONE"
  | .bool => "BOOL"
  | .bytes => "BYTES"
  | .dateTimeOffset => "DATE_TIME_OFFSET"
  | .decimal => "DECIMAL"
  | .enumeration => "ENUM"
  | .guid => "GUID"
  | .integer t => t.constantName
  | .string => "STRING"
  | .timeSpan => "TIME_SPAN"
  | .uri => "URI"
  | .version => "VERSION"
  | .xml => "XML"

def ofName? (name : String) : Option DataType :=
  all.find? (·.name = name)

def integer? : DataType → Option IntegerType
  | .integer t => some t
  | _ => .none

/-- Whether the values of the type are numbers that can be stepped through. -/
def isStepped : DataType → Bool
  | .integer _ | .decimal => true
  | _ => false

/-- Whether the values of the type are ordered, so that they can have a bound. -/
def isOrdered : DataType → Bool
  | .integer _ | .decimal | .dateTimeOffset | .timeSpan | .version => true
  | _ => false

def isMeasured : DataType → Bool
  | .bytes | .string | .uri => true
  | _ => false

theorem mem_all (t : DataType) : t ∈ all := by
  cases t with
  | integer t => cases t <;> decide
  | _ => decide

theorem ofName?_name (t : DataType) : ofName? t.name = some t := by
  cases t with
  | integer t => cases t <;> decide +kernel
  | _ => decide +kernel

end DataType

end ParamRules
