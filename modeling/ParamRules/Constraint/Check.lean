import ParamRules.Conversion
import ParamRules.Argument
import ParamRules.Network.Host
import ParamRules.Registry
import ParamRules.Text.Case

/-!
Checking values against constraints. A check gives the failures that it found, or a fault where a
constraint cannot judge the value at all.
-/

namespace ParamRules

open Text

/-- The failure of a value: its message is about the member of the given name. -/
def Outcome.failure (c : Constraint) (member : String) (code : ErrorCode) (message : String) :
    Outcome :=
  ⟨code, message, [trim member], some c⟩

namespace Constraint

/-! ## Order -/

def decimalOf? : Value → Option Decimal
  | .int n => some (.ofInt n)
  | .decimal d => some d
  | _ => none

/-- The order of two values of ordered types. Numbers of all types can be compared with each other;
other values only with values of their own type. -/
def compare? (v w : Value) : Option Ordering :=
  match v, w with
  -- Moments that are held as values have an offset, and so an instant.
  | .moment m, .moment n => some (Ord.compare (m.instant?.getD 0) (n.instant?.getD 0))
  | .duration d, .duration e => some (Ord.compare d.micros e.micros)
  | .version a, .version b => some (a.compare b)
  | v, w => do Decimal.compare? (← decimalOf? v) (← decimalOf? w)

/-! ## Texts -/

def isBarredInPath (c : Char) : Bool :=
  c = '"' || c = '<' || c = '>' || c = '|' || c.toNat < 0x20

def isBarredInFileName (c : Char) : Bool :=
  isBarredInPath c || c = ':' || c = '*' || c = '?' || c = '\\' || c = '/'

/-- A code with the rest of a message: what fails, after the name of the value. -/
abbrev Failing := ErrorCode × String

/-- What an endpoint fails: its port, its host, or both. -/
def endpointFailings (s : String) : Except Fault (List Failing) :=
  if isAllBlank s then .ok [(.valueEmpty, "must not be empty")]
  else
    let e := Network.Endpoint.split s.toList
    let host := Text.literal (String.ofList e.host)
    let hostFailings : List Failing :=
      if Network.isHost e.host then [] else [(.hostNameInvalid, "has an invalid host " ++ host)]
    match e.port with
    | none => .ok hostFailings
    | some port =>
      match Network.isPort port with
      | .error fault => .error (.ofNumber fault)
      | .ok true => .ok hostFailings
      -- The port is reported first, and the host is judged all the same.
      | .ok false => .ok ((.portInvalid, "has an invalid port for host " ++ host) :: hostFailings)

/-- What a text that must not be empty and must not hold certain characters fails. -/
def barredFailings (isBarred : Char → Bool) (code : ErrorCode) (place s : String) : List Failing :=
  if isAllBlank s then [(.valueEmpty, "must not be empty")]
  else if s.toList.any isBarred then [(code, "contains characters not allowed in " ++ place)]
  else []

def failsUnless (holds : Bool) (code : ErrorCode) (message : String) : List Failing :=
  if holds then [] else [(code, message)]

def patternFailings (program : Pattern.Program) (s : String) : List Failing :=
  failsUnless (program.isFound s) .patternMismatch "does not match the expected pattern"

def textFailings (c : Constraint) (s : String) : Except Fault (List Failing) :=
  match c with
  | .charSet set =>
    .ok (failsUnless (s.toList.all set.holds) .characterNotInSet
      ("contains characters not defined in " ++ set.name))
  | .lowercase =>
    .ok (failsUnless (s = lower s) .notLowercase "must not contain upper-case characters")
  | .uppercase =>
    .ok (failsUnless (s = upper s) .notUppercase "must not contain lower-case characters")
  | .regex e => .ok (patternFailings e.program s)
  | .host =>
    .ok (failsUnless (Network.isHost s.toList) .hostNameInvalid
      "is not a valid host name or IP address")
  | .endpoint => endpointFailings s
  | .fileName => .ok (barredFailings isBarredInFileName .fileNameInvalid "file names" s)
  | .path => .ok (barredFailings isBarredInPath .pathInvalid "paths" s)
  | _ => .ok []

/-- What an identifier fails when its scheme has to be one of those given, in any case. -/
def schemeFailings (schemes : List String) (s : String) : List Failing :=
  let scheme := (Network.scheme? (trimChars s.toList)).getD []
  failsUnless ((schemes.map lower).contains (lower (String.ofList scheme))) .schemeNotAllowed
    ("must use one of the schemes: " ++ join ", " schemes)

/-! ## Enumerations -/

/-- What a number of an enumeration fails: with a mask every bit of it has to be in the mask, and
without one it has to be among the declared values. A value that is not among them is written in the
message. -/
def numberFailings (declared : List Literal) (mask : Option Int) (raw : Literal) :
    Except Fault (List Failing) :=
  match mask, raw.number? with
  | some mask, some n =>
    .ok (failsUnless (Enumeration.inter n (Int.not mask) = 0) .enumFlagNotDefined
      "contains a flag that is not defined")
  | _, _ =>
    if declared.any (·.same raw) then .ok []
    else if raw.isTooLong then .error (.plain .longToWrite)
    else .ok [(.enumValueNotDefined, "has the undefined value " ++ raw.display)]

def notEnumerationValue (v : Value) : List Failing :=
  [(.valueTypeNotSupported, "of type " ++ v.typeName ++ " is not an enumeration value")]

/-- The declared values of an enumeration and, where it has flags, their mask. Values of an
enumeration that has others than numbers are not checked for. -/
def declaredNumbers (e : Enumeration) : List Literal × Option Int :=
  let values := e.entries.map (·.2)
  if values.all (·.number?.isSome) then (values, if e.isFlags then some e.mask else none)
  else ([], none)

/-- Whether a class is an enumeration with flags whose bits are checked. -/
def hasFlags (found : Option Class) : Bool :=
  match found with
  | some (.enumeration e) => (declaredNumbers e).2.isSome
  | _ => false

def memberFailingsIn (e : Enumeration) (declared : List Literal) (mask : Option Int) (v : Value) :
    Except Fault (List Failing) :=
  match v with
  | .member m =>
    if e.includes m.enumeration then numberFailings declared mask m.value
    else
      .ok [(.enumTypeMismatch, "is a " ++ m.enumeration.name ++ ", expected " ++ e.name)]
  | v =>
    match v.integer? with
    | some n => numberFailings declared mask (.int n)
    | none => .ok (notEnumerationValue v)

def memberFailings (e : Enumeration) (v : Value) : Except Fault (List Failing) :=
  memberFailingsIn e (declaredNumbers e).1 (declaredNumbers e).2 v

/-- The mask of a value list: all bits of all its values. -/
def ValueList.mask? (l : ValueList) : Option Int :=
  if l.flags then some ((l.pairs.map (·.2)).foldl Enumeration.union 0) else none

def listedFailingsIn (pairs : List (String × Int)) (mask : Option Int) (v : Value) :
    Except Fault (List Failing) :=
  match v.unwrapped with
  | .int n => numberFailings (pairs.map fun p => .int p.2) mask (.int n)
  | _ => .ok (notEnumerationValue v)

def listedFailings (l : ValueList) (v : Value) : Except Fault (List Failing) :=
  listedFailingsIn l.pairs (ValueList.mask? l) v

/-! ## All constraints -/

/-- Whether a constraint can judge values of a data type. -/
def judges : Constraint → DataType → Bool
  | .length _, t => t = .bytes || t = .string
  | .minLength _, t | .maxLength _, t => t.isMeasured
  | .minValue _, t | .maxValue _, t => t.isOrdered
  | .charSet _, t | .lowercase, t | .uppercase, t | .password, t | .regex _, t | .host, t
  | .endpoint, t | .fileName, t | .path, t => t = .string
  | .allowedScheme _, t => t = .uri
  | .typeName _, t => t = .xml
  | .enumType _, t | .values _, t => t = .enumeration
  | _, _ => true

def requireType (c : Constraint) (t : DataType) (allowed : List DataType) : Except Fault Unit :=
  if allowed.contains t then .ok ()
  else .error (.plain (.dataType c.name t .unsupported .dataTypeNotSupported))

/-- The value in the form of its data type, which constraints of the given name need. -/
def nativeFor (name : String) (t : DataType) (v : Value) : Except Fault Value :=
  match Conversion.coerce none t v with
  | .ok w => .ok w
  | .error fault =>
    if fault.kind = .conversion then
      .error (.mk (.dataType name t (.value v.typeName) .valueTypeNotSupported) (some fault))
    else .error fault

def native (c : Constraint) (t : DataType) (v : Value) : Except Fault Value :=
  nativeFor c.name t v

/-- The number of characters or bytes of a value. -/
def measure (v : Value) : Nat :=
  match v with
  | .bytes bs => bs.length
  | v => ((v.text?.map String.length).getD 0)

/-- What a value fails under a bound that has to be on one side of it. -/
def boundFailings (c : Constraint) (t : DataType) (bound : Bound) (v : Value) (wrong : Ordering)
    (failing : Failing) : Except Fault (List Failing) := do
  let w ← c.native t v
  match compare? w bound.value with
  | some o => .ok (failsUnless (o ≠ wrong) failing.1 (failing.2 ++ bound.text))
  | none => .error (.plain (.dataType c.name t (.bound bound.dataType) .valueTypeNotSupported))

/-- What a value other than nothing fails, when the constraint can judge the data type. -/
def failings (r : Registry) (c : Constraint) (t : DataType) (v : Value) :
    Except Fault (List Failing) :=
  match c with
  | .length n => do
    let actual := measure (← c.native t v)
    .ok (failsUnless (actual = n) .lengthMismatch
      ("must have a length of " ++ Integer.natText n ++ ", but has " ++ Integer.natText actual))
  | .minLength n => do
    let actual := measure (← c.native t v)
    .ok (failsUnless (n ≤ actual) .tooShort
      ("must have a length of at least " ++ Integer.natText n))
  | .maxLength n => do
    let actual := measure (← c.native t v)
    .ok (failsUnless (actual ≤ n) .tooLong
      ("must have a length of at most " ++ Integer.natText n))
  | .minValue b =>
    c.boundFailings t b v .lt (.valueTooSmall, "must be greater than or equal to ")
  | .maxValue b =>
    c.boundFailings t b v .gt (.valueTooLarge, "must be less than or equal to ")
  | .charSet _ | .lowercase | .uppercase | .password | .regex _ | .host | .endpoint | .fileName
  | .path => do
    let w ← c.native t v
    c.textFailings (w.text?.getD "")
  | .allowedScheme schemes => do
    let w ← c.native t v
    .ok (schemeFailings schemes (w.text?.getD ""))
  | .enumType name => do
    match ← r.class? name with
    | some (.enumeration e) => memberFailings e v
    | _ => .ok []
  | .values none => .error (.inParameters c.name .unset)
  | .values (some l) => listedFailings l v
  | _ => .ok []

/-- The failures of a value. Only the constraint that allows nothing takes nothing as a value. -/
def check (r : Registry) (c : Constraint) (t : DataType) (v : Value) (member shown : String) :
    Except Fault (List Outcome) :=
  match c, v with
  -- Order matters: the constraint that allows nothing is asked before nothing is refused.
  | .null, _ => .ok []
  | _, .null => .error (.argument member (.isNot "value must not be None"))
  | c, v =>
    if !c.judges t then .error (.plain (.dataType c.name t .unsupported .dataTypeNotSupported))
    else do
      let found ← c.failings r t v
      return found.map fun f => Outcome.failure c member f.1 (shown ++ " " ++ f.2)

/-- The name that messages use: the one to show, unless it is absent or blank. -/
def shownName (member : String) (shown : Value) : Except Fault String :=
  match shown, shown.text? with
  | .null, _ => .ok member
  | _, some s => .ok (if isAllBlank s then member else s)
  | _, none => .error (.plain .missingAttribute)

def checkWith (r : Registry) (c : Constraint) (t v member shown : Value) :
    Except Fault (List Outcome) := do
  let t ← Argument.dataType t
  let member ← Argument.nameText "member_name" member
  let shown ← shownName member shown
  c.check r t v member shown

end Constraint

end ParamRules
