import ParamRules.Conversion
import ParamRules.Argument

/-!
Configuring constraints from the parameters that they are written with. A constraint either takes
all parameters or stays as it was, and what it becomes does not depend on what it was before.
-/

namespace ParamRules.Constraint

open Text

/-- Whether the parameters of a constraint have a meaning for a data type. -/
def isConfiguredFor : Constraint → DataType → Bool
  | .length _, t => t = .bytes || t = .string
  | .minLength _, t | .maxLength _, t => t.isMeasured
  | .minValue _, t | .maxValue _, t => t.isOrdered
  | .step _, t => t.isStepped
  | .charSet _, t | .regex _, t => t = .string
  | .allowedScheme _, t => t = .uri
  | .typeName _, t => t = .xml
  | .enumType _, t | .values _, t => t = .enumeration
  | _, _ => true

def unsupported (c : Constraint) (t : DataType) : Fault :=
  .plain (.dataType c.name t .unsupported .dataTypeNotSupported)

def single (name : String) : List String → Except Fault String
  | [p] => .ok p
  | ps => .error (.inParameters name (.count 1 ps.length))

/-- A fault in the parameters, where a conversion led to it. Other faults stay what they are. -/
def orInvalid (name parameter : String) (result : Except Fault Value) : Except Fault Value :=
  match result with
  | .ok v => .ok v
  | .error fault =>
    if fault.kind = .conversion then
      .error (.mk (.parameters (some name) (.invalid parameter) .constraintConfigurationInvalid)
        (some fault))
    else .error fault

def readLength (name : String) (ps : List String) : Except Fault Nat := do
  let p ← single name ps
  match Integer.read 10 (trim p) with
  | .error _ => .error (.inParameters name (.invalid p))
  | .ok n =>
    if n < 0 then .error (.inParameters name (.negativeLength n)) else .ok n.toNat

def readParameter (name : String) (t : DataType) (ps : List String) : Except Fault Value := do
  let p ← single name ps
  orInvalid name p (Conversion.read none t p)

def readBound (name : String) (t : DataType) (ps : List String) : Except Fault Bound := do
  let v ← readParameter name t ps
  match Conversion.boundOf? t v with
  | some b => .ok b
  | none => .error (.plain (.dataType name t .unsupported .dataTypeNotSupported))

def readAmount (name : String) (t : DataType) (ps : List String) : Except Fault Amount := do
  let v ← readParameter name t ps
  match Conversion.amountOf? t v with
  | some a => .ok a
  | none => .error (.plain (.dataType name t .unsupported .dataTypeNotSupported))

def readPlaces (name : String) (ps : List String) : Except Fault Nat := do
  let v ← readParameter name .int32 ps
  match v with
  | .int n => if n < 0 then .error (.inParameters name .negativePlaces) else .ok n.toNat
  | _ => .error (.inParameters name .negativePlaces)

/-- The first hint that is blank, with its index. -/
def blankHint? (hints : List String) : Option (Nat × String) :=
  (hints.zipIdx.find? fun h => isAllBlank h.1).map fun h => (h.2, h.1)

def readHints (name : String) (ps : List String) : Except Fault (List String) :=
  if ps.isEmpty then .error (.inParameters name (.invalid ""))
  else
    match blankHint? ps with
    | some (i, hint) => .error (.inParameters name (.blankHint i hint))
    | none => .ok ps

def patternFault (malformed : Fault) : Pattern.Refusal → Fault
  | .malformed => malformed
  | .conflictingClasses => .plain .conflictingClasses
  | .tooManyRepeats => .plain .repeatRange
  | .tooManyDigits digits => .plain (.longToRead digits)

def readExpression (name : String) (ps : List String) : Except Fault Expression :=
  match ps with
  | [] => .error (.inParameters name (.countAtLeast 1 0))
  | pattern :: raw => do
    if isAllBlank pattern then .error (.inParameters name (.invalid pattern))
    let options ← raw.mapM fun r =>
      match RegexOption.ofName? (trim r) with
      | some o => .ok o
      | none => .error (Fault.inParameters name (.unknownOption r))
    match Expression.ofPattern pattern (RegexOption.normalized options) with
    | .ok e => .ok e
    | .error refusal =>
      .error (patternFault (.inParameters name (.notPattern pattern)) refusal)

/-- Reads schemes, at least one and none blank. White space around them is left out. -/
def readSchemes (name : String) (ps : List String) : Except Fault (List String) :=
  if ps.isEmpty || ps.any isAllBlank then .error (.inParameters name .noSchemes)
  else .ok (ps.map trim)

def readTypeName (name : String) (ps : List String) : Except Fault String := do
  let p ← single name ps
  if isAllBlank p then .error (.inParameters name (.invalid p)) else .ok (trim p)

/-! ## Values -/

def isHexText (s : String) : Bool :=
  match s.toList with
  | '0' :: c :: _ => c = 'x' || c = 'X'
  | _ => false

def readPairNumber (s : String) : Except Integer.ReadFault Int :=
  -- What follows the mark is read with all liberties, a second mark among them.
  if isHexText s then Integer.read 16 (String.ofList (s.toList.drop 2)) else Integer.read 10 s

/-- Reads a name with its value. Further equals signs beside the first count as one. -/
def readPair (name pair : String) : Except Fault (String × Int) :=
  match ((splitChars '=' (trimChars pair.toList)).filter (!·.isEmpty)).map String.ofList with
  | [first, second] =>
    if isAllBlank first || isAllBlank second then .error (.inParameters name (.notPair pair))
    else
      match readPairNumber (trim second) with
      -- Blank pieces were refused above, so that neither name nor number is empty here.
      | .ok n => .ok (trim first, n)
      | .error _ => .error (.inParameters name (.notNumber (trim second) (trim first)))
  | _ => .error (.inParameters name (.notPair pair))

/-- A list of names and values in which a name has the given value. A name that is there keeps its
place. -/
def put (key : String) (n : Int) : List (String × Int) → List (String × Int)
  | [] => [(key, n)]
  | (k, m) :: r => if k = key then (k, n) :: r else (k, m) :: put key n r

def readPairs (name : String) (t : IntegerType) :
    List String → List (String × Int) → Except Fault (List (String × Int))
  | [], read => .ok read
  | pair :: r, read => do
    let (key, n) ← readPair name pair
    if t.holds n then readPairs name t r (put key n read)
    else .error (.inParameters name (.outside n key t))

/-- Reads an integer type, the mark of flags, and names with values. -/
def readValues (name : String) (ps : List String) : Except Fault ValueList :=
  match ps with
  | typeText :: first :: rest =>
    match DataType.ofName? (trim typeText) with
    | none => .error (.inParameters name (.notDataType typeText))
    | some (.integer t) => do
      -- Only the second parameter can be the mark; later ones are read as pairs.
      let flags := decide (trim first = "Flags")
      let pairs := if flags then rest else first :: rest
      if pairs.isEmpty then .error (.inParameters name .noPairs)
      return ⟨t, flags, ← readPairs name t pairs []⟩
    | some t => .error (.inParameters name (.notIntegerType t))
  | ps => .error (.inParameters name (.countAtLeast 2 ps.length))

/-! ## All constraints -/

/-- The constraint with the given parameters for a data type. -/
def configure (c : Constraint) (t : DataType) (ps : List String) : Except Fault Constraint :=
  if t = .none then .error .noDataType
  else if !c.isConfiguredFor t then .error (c.unsupported t)
  else
    match c with
    | .null | .encrypted | .readOnly | .lowercase | .uppercase | .password | .host | .endpoint
    | .fileName | .path => .ok c
    | .displayHint _ => .displayHint <$> readHints c.name ps
    | .database .. =>
      match ps with
      | [e] => .ok (.database e "" "")
      | [e, k] => .ok (.database e k "")
      | [e, k, d] => .ok (.database e k d)
      | ps => .error (.inParameters c.name (.countBetween 1 3 ps.length))
    | .length _ => .length <$> readLength c.name ps
    | .minLength _ => .minLength <$> readLength c.name ps
    | .maxLength _ => .maxLength <$> readLength c.name ps
    | .minValue _ => .minValue <$> readBound c.name t ps
    | .maxValue _ => .maxValue <$> readBound c.name t ps
    | .step _ => .step <$> readAmount c.name t ps
    | .decimalPlaces _ => .decimalPlaces <$> readPlaces c.name ps
    | .charSet _ => do
      let p ← single c.name ps
      match CharacterSet.ofName? (trim p) with
      | some s => .ok (.charSet s)
      | none => .error (.inParameters c.name (.unknownCharacterSet p))
    | .regex _ => .regex <$> readExpression c.name ps
    | .allowedScheme _ => .allowedScheme <$> readSchemes c.name ps
    | .typeName _ => .typeName <$> readTypeName c.name ps
    | .enumType _ => .enumType <$> readTypeName c.name ps
    | .values _ => (fun l => .values (some l)) <$> readValues c.name ps
    | .custom rule _ =>
      match rule.accept ps with
      | .ok kept => .ok (.custom rule kept)
      | .error refusal => .error (.plain (.custom refusal))

/-- The constraint with parameters that are handed in as a value. Parameters are texts. -/
def configureWith (c : Constraint) (parameters t : Value) : Except Fault Constraint :=
  match parameters with
  | .null => .error (.argument "parameters" .absent)
  | ps => do
    let t ← Argument.dataType t
    match ps.items? with
    | none => .error (.plain (.notIterable ps.typeName))
    | some items =>
      match items.mapM Value.text? with
      | some texts => c.configure t texts
      | none => .error (.plain .missingAttribute)

end ParamRules.Constraint
