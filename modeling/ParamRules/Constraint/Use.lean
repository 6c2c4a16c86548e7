import ParamRules.Constraint.Cell

/-!
Uses of an object that holds a type name: the calls of all constraints, and conversions of values
under the type name. A conversion of a member of an enumeration asks the object for the class, and
asks it again for each form that the value is taken through; other conversions do not ask it.
-/

namespace ParamRules

open Text

/-- Kinds of constraints that hold a type name. -/
inductive Naming where
  | type | enumeration

namespace Naming

def dataType : Naming → DataType
  | .type => .xml
  | .enumeration => .enumeration

def constraint : Naming → String → Constraint
  | .type => .typeName
  | .enumeration => .enumType

/-- An object that was made with a type name. Nothing was looked up yet. -/
def fresh : Naming → String → Cell
  | .type, name => .typeName ⟨name, none, false, ()⟩
  | .enumeration, name => .enumType ⟨name, none, false, ⟨[], false, 0⟩⟩

end Naming

def Cell.typeName? : Cell → Option String
  | .typeName s => some s.typeName
  | .enumType s => some s.typeName
  | _ => none

namespace Naming

open Cell

/-! ## Conversions under a type name -/

/-- The enumeration that the type name stands for, which a value is converted under. -/
def enumerationFor (r : Registry) (v : Value) : ObjectM Cell Enumeration := do
  match ← resolved r with
  | some (.enumeration e) => return e
  | _ => throw (.conversion .enumeration v .noEnumeration none)

def coerceMember (r : Registry) (v : Value) : ObjectM Cell Value := do
  let e ← enumerationFor r v
  if v.isMemberOf e then return v
  match v.integer? with
  | none => throw (.conversion .enumeration v .impossible none)
  | some n =>
    match e.byValue? (.int n) with
    | some m => return .member m
    | none => throw (.conversion .enumeration v (.notValue v.display e.shortName) none)

def coerce (r : Registry) (t : DataType) (v : Value) : ObjectM Cell Value :=
  match t, v with
  | .enumeration, .null => throw (.conversion .enumeration .null .null none)
  | .enumeration, v => coerceMember r v
  | t, v => liftM (Conversion.coerce none t v)

/-- The members that a text names, joined. -/
def readNames (e : Enumeration) (text : String) (body : List Char) : Except Fault Value := do
  let names := (splitChars ',' body).map fun s => String.ofList (trimChars s)
  let members ← names.mapM (Conversion.readName e text)
  Conversion.joinMembers e text members

/-- Reads a member of the enumeration. A number is a value to coerce, under the type name again. -/
def readMember (r : Registry) (text : String) : ObjectM Cell Value := do
  let e ← enumerationFor r (.text text)
  let body := trimChars text.toList
  match Integer.plainDigits? body with
  | some p =>
    match Integer.ofPlainDigits p with
    | .error fault => throw (.ofNumber fault)
    | .ok n => coerceMember r (.int n)
  | none => readNames e text body

def read (r : Registry) (t : DataType) (v : Value) : ObjectM Cell Value :=
  match v.text? with
  | none => throw (.conversion t v .notText none)
  | some text =>
    match t with
    | .enumeration => readMember r text
    | t => liftM (Conversion.read none t text)

def write (r : Registry) (t : DataType) (v : Value) : ObjectM Cell String := do
  if t = .none then throw .noDataType
  let native ← coerce r t v
  match t, native.text? with
  | .enumeration, _ | _, none =>
    if Conversion.isUnwritable native then throw (.plain .longToWrite)
    return Conversion.nativeText native
  | _, some text => return text

/-! ## Uses -/

inductive Use where
  | call (request : Call)
  /-- Setting parameters where none are given. -/
  | setNothing
  | coerce (t : DataType) (v : Value)
  | read (t : DataType) (v : Value)
  | write (t : DataType) (v : Value)

inductive Reply where
  | answer (a : Answer)
  | value (v : Value)
  | text (s : String)

def perform (r : Registry) : Use → ObjectM Cell Reply
  | .call request => .answer <$> call r request
  | .setNothing => throw (.argument "parameters" .absent)
  | .coerce t v => .value <$> coerce r t v
  | .read t v => .value <$> read r t v
  | .write t v => .text <$> write r t v

def after (r : Registry) : Cell → List Use → Cell
  | c, [] => c
  | c, use :: rest => after r ((perform r use).outcome c).2 rest

end Naming

end ParamRules
