import ParamRules.Fault
import ParamRules.Network.Uri
import ParamRules.Xml.Document

/-!
Conversion between texts and values, one written form for each data type. `read` takes a text to a
value, `write` a value to its text, and `coerce` a value to the form in which values of the data
type are held: integers are widened to decimals and to members of an enumeration.

A member of an enumeration is read with the help of a `Hint`, which says what a type name stands
for.
-/

namespace ParamRules.Conversion

open Text

/-- What the type name that goes with a value stands for: a class, nothing, or a fault in looking
it up. Without a type name there is no hint. -/
abbrev Hint := Option (Except Fault (Option Class))

/-- The enumeration that a hint gives for a value. -/
def Hint.enumerationFor (hint : Hint) (v : Value) : Except Fault Enumeration :=
  match hint with
  | some (.error fault) => .error fault
  | some (.ok (some (.enumeration e))) => .ok e
  | _ => .error (.conversion .enumeration v .noEnumeration none)

/-! ## Bounds -/

/-- The greatest decimal that is used as a bound: 2^96 - 1. -/
def decimalMax : Nat := 79228162514264337593543950335

/-- The least decimal that is used as a bound: the greatest one negated, which like all results of
arithmetic keeps the leading digits only. -/
def decimalMin : Decimal :=
  let (coefficient, exponent) := Decimal.roundToPrecision decimalMax 0
  .finite true coefficient exponent

def least? : DataType → Option Bound
  | .integer t => some (.amount (.integer t t.least))
  | .decimal => some (.amount (.decimal decimalMin))
  | .dateTimeOffset => some (.moment .min)
  | .timeSpan => some (.duration .min)
  | .version => some (.version .min)
  | _ => none

def notOrdered (t : DataType) : Fault :=
  .argument "data_type" (.isNot (t.name ++ " is not an ordered type"))

def least (t : DataType) : Except Fault Value :=
  match least? t with
  | some b => .ok b.value
  | none => .error (notOrdered t)

def greatest? : DataType → Option Bound
  | .integer t => some (.amount (.integer t t.greatest))
  | .decimal => some (.amount (.decimal (.finite false decimalMax 0)))
  | .dateTimeOffset => some (.moment .max)
  | .timeSpan => some (.duration .max)
  | .version => some (.version .max)
  | _ => none

def greatest (t : DataType) : Except Fault Value :=
  match greatest? t with
  | some b => .ok b.value
  | none => .error (notOrdered t)

/-! ## Values in the form of their type -/

/-- A value as a member of an enumeration. Without a hint members stay what they are. -/
def coerceMember (hint : Hint) (v : Value) : Except Fault Value :=
  match v, hint with
  | .member _, none => .ok v
  | _, _ => do
    let e ← hint.enumerationFor v
    if v.isMemberOf e then .ok v
    else
      match v.integer? with
      | none => .error (.conversion .enumeration v .impossible none)
      | some n =>
        match e.byValue? (.int n) with
        | some m => .ok (.member m)
        | none => .error (.conversion .enumeration v (.notValue v.display e.shortName) none)

def coerce (hint : Hint) (t : DataType) (v : Value) : Except Fault Value :=
  let refuse := fun problem => .error (.conversion t v problem none)
  match t, v with
  | _, .null => refuse .null
  | .integer type, v =>
    match v.integer? with
    | none => refuse .impossible
    | some n => if type.holds n then .ok (.int n) else refuse (.outside v.display)
  | .bool, .bool b => .ok (.bool b)
  | .bytes, .bytes bs | .bytes, .buffer bs => .ok (.bytes bs)
  | .dateTimeOffset, .moment m => if m.offset.isNone then refuse .noOffset else .ok v
  | .decimal, .decimal d => if d.isFinite then .ok v else refuse .impossible
  | .decimal, v =>
    match v.integer? with
    | some n => .ok (.decimal (.ofInt n))
    | none => refuse .impossible
  | .guid, .guid _ | .timeSpan, .duration _ | .version, .version _ => .ok v
  | .string, v | .uri, v | .xml, v => if v.text?.isSome then .ok v else refuse .impossible
  | .enumeration, v => coerceMember hint v
  | _, _ => refuse .impossible

/-! ## Reading -/

/-- Reads an integer, white space at its ends left out. -/
def readInteger (type : IntegerType) (text : String) : Except Fault Value :=
  let refuse := fun problem => .error (.conversion (.integer type) (.text text) problem none)
  match Integer.plainDigits? (trimChars text.toList) with
  | none => refuse .impossible
  | some p =>
    match Integer.ofPlainDigits p with
    | .error fault => .error (.ofNumber fault)
    -- The number is shown in plain digits, however it was written.
    | .ok n => if type.holds n then .ok (.int n) else refuse (.outside (Integer.text n))

def readName (e : Enumeration) (text name : String) : Except Fault Member :=
  match e.byName? name with
  | some m => .ok m
  | none => .error (.conversion .enumeration (.text text) (.notMember name e.shortName) none)

/-- The value of the members that a text names. Several of them are joined. -/
def joinMembers (e : Enumeration) (text : String) : List Member → Except Fault Value
  | [] => .error (.conversion .enumeration (.text text) .impossible none)
  | [m] => .ok (.member m)
  | m :: r =>
    if e.isFlags then .ok (.member (r.foldl Member.join m))
    -- Names that all exist are refused together where members cannot be joined.
    else .error (.conversion .enumeration (.text text) (.notFlags e.shortName) none)

/-- Reads a member of an enumeration: an integer, or names with commas between them. -/
def readMember (hint : Hint) (text : String) : Except Fault Value := do
  let e ← hint.enumerationFor (.text text)
  let body := trimChars text.toList
  match Integer.plainDigits? body with
  | some p =>
    match Integer.ofPlainDigits p with
    | .error fault => .error (.ofNumber fault)
    | .ok n => coerceMember hint (.int n)
  | none =>
    let names := (splitChars ',' body).map fun s => String.ofList (trimChars s)
    let members ← names.mapM (readName e text)
    joinMembers e text members

def readBool? (s : List Char) : Option Bool :=
  if s = "true".toList || s = "1".toList then some true
  else if s = "false".toList || s = "0".toList then some false
  else none

/-- Reads a moment, which has to say how far it is from universal time. -/
def readMoment (s : List Char) : Except ConversionProblem Moment :=
  match Moment.read? s with
  | none => .error .impossible
  | some m => if m.offset.isNone then .error .noOffsetInText else .ok m

def read (hint : Hint) (t : DataType) (text : String) : Except Fault Value :=
  let refuse := fun problem => .error (.conversion t (.text text) problem none)
  let body := trimChars text.toList
  let given : Option Value → Except Fault Value := fun v? =>
    match v? with
    | some v => .ok v
    | none => refuse .impossible
  match t with
  | .none => .error .noDataType
  | .integer type => readInteger type text
  | .enumeration => readMember hint text
  | .bool => given ((readBool? body).map .bool)
  | .bytes => given ((Base64.decode? body).map .bytes)
  | .dateTimeOffset =>
    match readMoment body with
    | .ok m => .ok (.moment m)
    | .error problem => refuse problem
  | .decimal => given ((Decimal.readPlain? body).map .decimal)
  | .guid => given ((Guid.read? (String.ofList body)).map .guid)
  -- Texts and documents keep the white space around them.
  | .string => .ok (.text text)
  | .timeSpan =>
    match Duration.read body with
    | .ok d => .ok (.duration d)
    | .error .malformed => refuse .impossible
    -- A duration that overflows is a fault of arithmetic and not one of conversion.
    | .error .outOfRange => .error (.plain .durationRange)
  | .uri => given ((Network.scheme? body).map fun _ => .text (String.ofList body))
  | .version =>
    match Version.read text.toList with
    | .ok v => .ok (.version v)
    | .error _ => refuse .impossible
  | .xml => if Xml.isWellFormed text then .ok (.text text) else refuse .malformedXml

/-- Reads a value as a value of a data type, when it is a text. -/
def readValue (hint : Hint) (t : DataType) (v : Value) : Except Fault Value :=
  match v.text? with
  | some text => read hint t text
  | none => .error (.conversion t v .notText none)

/-! ## Writing -/

/-- The written form of a member of an enumeration: its name, or the names of its single bits. -/
def memberText (m : Member) : String :=
  if m.enumeration.isFlags then
    if m.bitNames.isEmpty then m.value.display else join ", " m.bitNames
  else m.name.getD ""

def nativeText : Value → String
  | .bool b => if b then "true" else "false"
  | .bytes bs => String.ofList (Base64.encode bs)
  | .moment m => m.text
  | .decimal d => d.plainText
  | .duration d => d.text
  | .member m => memberText m
  | v => v.display

/-- Whether a value is written as a number that has too many digits: flags without a single bit
that a member has. -/
def isUnwritable : Value → Bool
  | .member m => m.enumeration.isFlags && m.bitNames.isEmpty && m.value.isTooLong
  | _ => false

def write (hint : Hint) (t : DataType) (v : Value) : Except Fault String := do
  if t = .none then .error .noDataType
  let native ← coerce hint t v
  match t, native.text? with
  -- The member of an enumeration of texts is a text as well, but is written by its name.
  | .enumeration, _ | _, none =>
    if isUnwritable native then .error (.plain .longToWrite) else return nativeText native
  | _, some text => return text

/-! ## Values as bounds and amounts -/

def amountOf? : DataType → Value → Option Amount
  | .integer t, .int n => some (.integer t n)
  | .decimal, .decimal d => some (.decimal d)
  | _, _ => none

def boundOf? : DataType → Value → Option Bound
  | .dateTimeOffset, .moment m => some (.moment m)
  | .timeSpan, .duration d => some (.duration d)
  | .version, .version v => some (.version v)
  | t, v => (amountOf? t v).map .amount

end ParamRules.Conversion
