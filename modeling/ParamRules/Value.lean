import ParamRules.Class
import ParamRules.Number.Double
import ParamRules.Time.Moment
import ParamRules.Guid
import ParamRules.Version

/-!
Values: what callers hand in to be converted or validated, and what configuration and catalog
files hold. `text?`, `integer?` and the like see a value as one of a kind: members of an
enumeration of texts are texts, and members of an enumeration of integers are integers.
-/

namespace ParamRules

inductive Value where
  | null
  | bool (b : Bool)
  | int (n : Int)
  | double (x : Double)
  | text (s : String)
  | bytes (bs : List UInt8)
  /-- A byte string that can change. -/
  | buffer (bs : List UInt8)
  | decimal (d : Decimal)
  | moment (m : Moment)
  | date (year month day : Nat)
  | clock (hour minute second micro : Nat)
  | duration (d : Duration)
  | guid (g : Guid)
  | version (v : Version)
  | member (m : Member)
  | cls (c : Class)
  | list (items : List Value)
  | tuple (items : List Value)
  /-- Keys with values, in order. -/
  | map (entries : List (Value × Value))
  | path (p : String)
  /-- A value of another class, known by the name of the class. -/
  | other (typeName : String)
deriving Repr, Inhabited

namespace Value

open Text

def ofDataType (t : DataType) : Value :=
  .member t.member

def typeName : Value → String
  | .null => "NoneType"
  | .bool _ => "bool"
  | .int _ => "int"
  | .double _ => "float"
  | .text _ => "str"
  | .bytes _ => "bytes"
  | .buffer _ => "bytearray"
  | .decimal _ => "Decimal"
  | .moment _ => "datetime"
  | .date .. => "date"
  | .clock .. => "time"
  | .duration _ => "timedelta"
  | .guid _ => "UUID"
  | .version _ => "Version"
  | .member m => m.enumeration.shortName
  | .cls c => c.typeName
  | .list _ => "list"
  | .tuple _ => "tuple"
  | .map _ => "dict"
  | .path _ => "PosixPath"
  | .other name => name

/-! ## Views -/

def text? : Value → Option String
  | .text s => some s
  | .member ⟨⟨_, .text, _, _⟩, _, .text s⟩ => some s
  | _ => none

/-- The value as an integer. Truth values are none. -/
def integer? : Value → Option Int
  | .int n => some n
  | .member m => if m.enumeration.isInteger then m.value.number? else none
  | _ => none

/-- The value as an integer, truth values counted as one and zero. -/
def number? : Value → Option Int
  | .bool b => some (if b then 1 else 0)
  | v => v.integer?

def isMemberOf (e : Enumeration) : Value → Bool
  | .member m => e.includes m.enumeration
  | _ => false

def dataType? : Value → Option DataType
  | .member m =>
    if m.enumeration = Enumeration.dataTypes then DataType.all.find? fun t => t.member = m
    else none
  | _ => none

/-- The value of a member, and any other value itself. -/
def unwrapped : Value → Value
  | .member ⟨_, _, .int n⟩ => .int n
  | .member ⟨_, _, .bool b⟩ => .bool b
  | .member ⟨_, _, .text s⟩ => .text s
  | v => v

/-- Whether a value counts as absent where presence is asked for: nothing, falsehood, zero, and
all that is empty. -/
def isEmpty : Value → Bool
  | .null => true
  | .bool b => !b
  | .int n => n = 0
  | .double x => x.significand.1 = 0 && x.isFinite
  | .text s => s.isEmpty
  | .bytes bs | .buffer bs => bs.isEmpty
  | .decimal (.finite _ c _) => c = 0
  | .duration d => d.micros = 0
  | .list vs | .tuple vs => vs.isEmpty
  | .map es => es.isEmpty
  | .member m =>
    match m.enumeration.kind with
    | .integer | .flags | .strictFlags | .integerFlags => m.value.number? = some 0
    | .text => m.value = .text ""
    | .plain => false
  | _ => false

/-- The items that a value holds, the keys of a mapping and the characters of a text among them.
None for a value that holds no items. -/
def items? : Value → Option (List Value)
  | .text s => some (s.toList.map fun c => .text c.toString)
  | .bytes bs | .buffer bs => some (bs.map fun b => .int b.toNat)
  | .list vs | .tuple vs => some vs
  | .map es => some (es.map (·.1))
  | .cls (.enumeration e) =>
    some (e.declared.filterMap fun (name, _) => (e.byName? name).map .member)
  | .member m =>
    match m.enumeration.kind, m.value with
    | .text, .text s => some (s.toList.map fun c => .text c.toString)
    | .flags, _ | .strictFlags, _ | .integerFlags, _ =>
      some (m.bitNames.filterMap fun name => (m.enumeration.byName? name).map .member)
    | _, _ => none
  | _ => none

def lookup (key : String) : List (Value × Value) → Option Value
  | [] => none
  | (k, v) :: r => if k.text? = some key then some v else lookup key r

def entries? : Value → Option (List (Value × Value))
  | .map es => some es
  | _ => none

mutual

/-- The class of the part of a value that keeps the value from being a key, if there is one. -/
def notKey? : Value → Option String
  | .list _ => some "list"
  | .map _ => some "dict"
  | .buffer _ => some "bytearray"
  | .tuple vs => firstNotKey? vs
  | _ => none

def firstNotKey? : List Value → Option String
  | [] => none
  | v :: r => (notKey? v).or (firstNotKey? r)

end

/-! ## In messages -/

/-- A byte string that can change as it is quoted: single quotes and backslashes are escaped in
either kind of quotes. -/
def bufferLiteral (bs : List UInt8) : String :=
  let quote := quoteFor (bs.map fun b => Char.ofNat b.toNat)
  let escape := fun (b : UInt8) =>
    if b = 0x27 then ['\\', '\''] else escapeByte quote b
  "bytearray(" ++ String.ofList ('b' :: quote :: bs.flatMap escape ++ [quote]) ++ ")"

def numbersLiteral (name : String) (numbers : List Nat) : String :=
  name ++ "(" ++ join ", " (numbers.map Integer.natText) ++ ")"

/-- The numbers of a time of day that are quoted: seconds and microseconds only where they are
not zero. -/
def clockNumbers (hour minute second micro : Nat) : List Nat :=
  [hour, minute] ++
    (if micro ≠ 0 then [second, micro] else if second ≠ 0 then [second] else [])

mutual

/-- The value as it is quoted in messages. -/
def literal : Value → String
  | .null => "None"
  | .bool b => if b then "True" else "False"
  | .int n => Integer.text n
  | .double x => x.text
  | .text s => Text.literal s
  | .bytes bs => bytesLiteral bs
  | .buffer bs => bufferLiteral bs
  | .decimal d => "Decimal('" ++ d.scientificText ++ "')"
  | .moment m => m.literal
  | .date y m d => numbersLiteral "datetime.date" [y, m, d]
  | .clock h m s f => numbersLiteral "datetime.time" (clockNumbers h m s f)
  | .duration d => d.literal
  | .guid g => g.literal
  | .version v => v.literal
  | .member m => m.literal
  | .cls c => c.literal
  | .list vs => "[" ++ join ", " (literals vs) ++ "]"
  | .tuple vs =>
    match vs with
    | [v] => "(" ++ literal v ++ ",)"
    | vs => "(" ++ join ", " (literals vs) ++ ")"
  | .map es => "\x7b" ++ join ", " (entryLiterals es) ++ "\x7d"
  | .path p => "PosixPath(" ++ Text.literal p ++ ")"
  | .other name => "<" ++ name ++ ">"

def literals : List Value → List String
  | [] => []
  | v :: r => literal v :: literals r

def entryLiterals : List (Value × Value) → List String
  | [] => []
  | (k, v) :: r => (literal k ++ ": " ++ literal v) :: entryLiterals r

end

def display : Value → String
  | .text s => s
  | .decimal d => d.scientificText
  | .moment m =>
    String.ofList (m.text.toList.map fun c => if c = 'T' then ' ' else c)
  | .date y m d => padded 4 y ++ "-" ++ padded 2 m ++ "-" ++ padded 2 d
  | .clock h m s f =>
    padded 2 h ++ ":" ++ padded 2 m ++ ":" ++ padded 2 s ++
      (if f = 0 then "" else "." ++ padded 6 f)
  | .duration d => d.display
  | .guid g => g.text
  | .version v => v.text
  | .member m => m.display
  | .path p => p
  | v => v.literal

mutual

/-- Whether an integer in a value has too many digits to be written. -/
def isTooLong : Value → Bool
  | .int n => Integer.isTooLong n
  | .member m => m.value.isTooLong
  | .list vs | .tuple vs => areTooLong vs
  | .map es => entriesTooLong es
  | _ => false

def areTooLong : List Value → Bool
  | [] => false
  | v :: r => isTooLong v || areTooLong r

def entriesTooLong : List (Value × Value) → Bool
  | [] => false
  | (k, v) :: r => isTooLong k || isTooLong v || entriesTooLong r

end

end Value

end ParamRules
