import ParamRules.Constraint.Check
import ParamRules.Constraint.Configure
import ParamRules.Constraint.Field

/-!
Constraints as objects, which are configured and asked in place. An object holds its fields one by
one, and an action on it that fails keeps what it has stored until then. The class that a type name
stands for is looked up when it is needed first and kept, with what the values of an enumeration are
checked by.

`Cell` is the object of a constraint. Rules of kinds of their own have no cells.
-/

namespace ParamRules

open Text

/-! ## Actions -/

/-- An action on the fields of an object. What it has stored stays stored when it fails. -/
abbrev ObjectM (σ α : Type) := ExceptT Fault (StateM σ) α

namespace ObjectM

variable {σ τ α : Type}

/-- What comes of an action: its result, and the fields after it. -/
def outcome (act : ObjectM σ α) (s : σ) : Except Fault α × σ :=
  StateT.run (ExceptT.run act) s

/-- An action on a part of an object. -/
def within (wrap : σ → τ) (s : σ) (act : ObjectM σ α) : ObjectM τ α :=
  ExceptT.mk fun _ => ((act.outcome s).1, wrap (act.outcome s).2)

end ObjectM

namespace Cell

open Constraint

/-! ## Fields -/

/-- A value with the data type that it is written in. -/
structure Typed where
  dataType : DataType
  value : Value

structure Link where
  entity : String
  keyProperty : String
  displayProperty : String

structure Compiled where
  pattern : String
  options : List RegexOption
  program : Pattern.Program

/-- A type name with the class that it was found to stand for, and what was derived from the class.
Until the class is looked up the rest means nothing. -/
structure Resolution (δ : Type) where
  typeName : String
  found : Option Class
  isResolved : Bool
  derived : δ

/-- What the values of an enumeration are checked by. -/
structure Derived where
  values : List Literal
  hasFlags : Bool
  mask : Int

/-- Listed values with their mask. The data type is `none` before they are set. -/
structure Listing where
  underlying : DataType
  hasFlags : Bool
  values : List (String × Int)
  mask : Int

/-! ## Actions on fields -/

/-- Stores the properties of a link. Those that are not given are empty. -/
def Link.set (name : String) (ps : List String) : ObjectM Link Unit := do
  if ps.length < 1 || 3 < ps.length then
    throw (.inParameters name (.countBetween 1 3 ps.length))
  let padded := ps ++ ["", ""]
  modify ({ · with entity := padded[0]?.getD "" })
  modify ({ · with keyProperty := padded[1]?.getD "" })
  modify ({ · with displayProperty := padded[2]?.getD "" })

def Typed.set (name : String) (t : DataType) (ps : List String) : ObjectM Typed Unit := do
  let v ← readParameter name t ps
  modify ({ · with dataType := t })
  modify ({ · with value := v })

def Typed.text (b : Typed) : Except Fault String :=
  Conversion.write none b.dataType b.value

def Compiled.set (name : String) (ps : List String) : ObjectM Compiled Unit := do
  let e ← readExpression name ps
  modify ({ · with pattern := e.pattern })
  modify ({ · with options := e.options })
  modify ({ · with program := e.program })

/-- Stores a type name. What was derived from the class before it is left as it is. -/
def Resolution.set {δ : Type} (name : String) (ps : List String) : ObjectM (Resolution δ) Unit := do
  let typeName ← readTypeName name ps
  modify ({ · with typeName })
  modify ({ · with found := none })
  modify ({ · with isResolved := false })

/-- The class that a type name stands for, looked up the first time. -/
def Resolution.resolve {δ : Type} (r : Registry)
    (derive : Option Class → ObjectM (Resolution δ) Unit) :
    ObjectM (Resolution δ) (Option Class) := do
  let s ← get
  if s.isResolved then return s.found
  -- A fault in looking up leaves the object unresolved, so that the next call looks up again.
  let found ← r.class? s.typeName
  modify ({ · with found })
  modify ({ · with isResolved := true })
  derive found
  return found

/-- The mask of an enumeration with one more value. -/
def Derived.withBits (d : Derived) (v : Literal) : Derived :=
  { d with mask := Enumeration.union d.mask (v.number?.getD 0) }

def Resolution.derive (found : Option Class) : ObjectM (Resolution Derived) Unit := do
  -- What was derived for another class is cleared before anything is derived.
  modify fun s => { s with derived := { s.derived with values := [] } }
  modify fun s => { s with derived := { s.derived with hasFlags := false } }
  modify fun s => { s with derived := { s.derived with mask := 0 } }
  match found with
  | some (.enumeration e) =>
    let values := e.entries.map (·.2)
    if values.all (·.number?.isSome) then
      modify fun s => { s with derived := { s.derived with values } }
      modify fun s => { s with derived := { s.derived with hasFlags := e.isFlags } }
      values.forM fun v => modify fun s => { s with derived := s.derived.withBits v }
  | _ => return ()

/-- Whether a type name stands for an enumeration with flags whose bits are checked. -/
def Resolution.flags (r : Registry) : ObjectM (Resolution Derived) Bool := do
  match ← resolve r derive with
  | none => return false
  | some _ => return (← get).derived.hasFlags

/-- The mask that numbers are checked against, where there are flags. -/
def Derived.mask? (d : Derived) : Option Int :=
  if d.hasFlags then some d.mask else none

def Resolution.failings (r : Registry) (v : Value) :
    ObjectM (Resolution Derived) (List Failing) := do
  match ← resolve r derive with
  | some (.enumeration e) =>
    let s ← get
    memberFailingsIn e s.derived.values s.derived.mask? v
  | _ => return []

def Listing.set (name : String) (ps : List String) : ObjectM Listing Unit := do
  let l ← readValues name ps
  modify ({ · with underlying := .integer l.type })
  modify ({ · with hasFlags := l.flags })
  modify ({ · with values := l.pairs })
  modify ({ · with mask := 0 })
  if l.flags then
    l.pairs.forM fun p => modify fun s => { s with mask := Enumeration.union s.mask p.2 }

/-! ## Kinds -/

/-- Kinds of constraints that hold nothing. -/
inductive Marker where
  | null | encrypted | readOnly | lowercase | uppercase | password | host | endpoint | fileName
  | path

def Marker.constraint : Marker → Constraint
  | .null => .null
  | .encrypted => .encrypted
  | .readOnly => .readOnly
  | .lowercase => .lowercase
  | .uppercase => .uppercase
  | .password => .password
  | .host => .host
  | .endpoint => .endpoint
  | .fileName => .fileName
  | .path => .path

inductive Measure where
  | exact | least | greatest

def Measure.constraint : Measure → Nat → Constraint
  | .exact => .length
  | .least => .minLength
  | .greatest => .maxLength

/-- The side of a bound that values are on. -/
inductive Side where
  | least | greatest

def Side.constraint : Side → Bound → Constraint
  | .least => .minValue
  | .greatest => .maxValue

/-- How values on the wrong side of a bound compare with it. -/
def Side.wrong : Side → Ordering
  | .least => .lt
  | .greatest => .gt

/-- What is said of a value on the wrong side of a bound, before the bound. -/
def Side.failing : Side → Failing
  | .least => (.valueTooSmall, "must be greater than or equal to ")
  | .greatest => (.valueTooLarge, "must be less than or equal to ")

def Side.field : Side → String
  | .least => "minimum"
  | .greatest => "maximum"

inductive Kind where
  | marker (m : Marker)
  | displayHint | database
  | length (m : Measure)
  | bound (side : Side)
  | step | decimalPlaces | charSet | regex | allowedScheme | typeName | enumType | values

namespace Kind

def name : Kind → String
  | .marker m => m.constraint.name
  | .displayHint => "DisplayHint"
  | .database => "Database"
  | .length m => (m.constraint 0).name
  | .bound .least => "MinValue"
  | .bound .greatest => "MaxValue"
  | .step => "Step"
  | .decimalPlaces => "DecimalPlaces"
  | .charSet => "CharSet"
  | .regex => "Regex"
  | .allowedScheme => "AllowedScheme"
  | .typeName | .enumType => "Type"
  | .values => "Values"

def className : Kind → String
  | .marker m => m.constraint.kind
  | .displayHint => "DisplayHintConstraint"
  | .database => "DatabaseConstraint"
  | .length m => (m.constraint 0).kind
  | .bound .least => "MinimumValueConstraint"
  | .bound .greatest => "MaximumValueConstraint"
  | .step => "StepConstraint"
  | .decimalPlaces => "DecimalPlacesConstraint"
  | .charSet => "CharacterSetConstraint"
  | .regex => "RegexConstraint"
  | .allowedScheme => "AllowedSchemeConstraint"
  | .typeName => "TypeConstraint"
  | .enumType => "EnumTypeConstraint"
  | .values => "EnumValuesConstraint"

def isConfiguredFor : Kind → DataType → Bool
  | .length m, t => (m.constraint 0).isConfiguredFor t
  | .bound _, t => t.isOrdered
  | .step, t => t.isStepped
  | .charSet, t | .regex, t => t = .string
  | .allowedScheme, t => t = .uri
  | .typeName, t => t = .xml
  | .enumType, t | .values, t => t = .enumeration
  | .marker _, _ | .displayHint, _ | .database, _ | .decimalPlaces, _ => true

def judges : Kind → DataType → Bool
  | .marker m, t => m.constraint.judges t
  | .length m, t => (m.constraint 0).judges t
  | .bound _, t => t.isOrdered
  | .charSet, t | .regex, t => t = .string
  | .allowedScheme, t => t = .uri
  | .typeName, t => t = .xml
  | .enumType, t | .values, t => t = .enumeration
  | .displayHint, _ | .database, _ | .step, _ | .decimalPlaces, _ => true

end Kind

end Cell

/-- The object of a constraint. -/
inductive Cell where
  | marker (m : Cell.Marker)
  | displayHint (hints : List String)
  | database (link : Cell.Link)
  | length (m : Cell.Measure) (n : Nat)
  | bound (side : Cell.Side) (b : Cell.Typed)
  | step (size : Cell.Typed)
  | decimalPlaces (n : Nat)
  | charSet (set : CharacterSet)
  | regex (compiled : Cell.Compiled)
  | allowedScheme (schemes : List String)
  | typeName (resolution : Cell.Resolution Unit)
  | enumType (resolution : Cell.Resolution Cell.Derived)
  | values (listing : Cell.Listing)

namespace Cell

open Constraint

def kind : Cell → Kind
  | .marker m => .marker m
  | .displayHint _ => .displayHint
  | .database _ => .database
  | .length m _ => .length m
  | .bound side _ => .bound side
  | .step _ => .step
  | .decimalPlaces _ => .decimalPlaces
  | .charSet _ => .charSet
  | .regex _ => .regex
  | .allowedScheme _ => .allowedScheme
  | .typeName _ => .typeName
  | .enumType _ => .enumType
  | .values _ => .values

/-! ## Setting -/

def readCharSet (name : String) (ps : List String) : Except Fault CharacterSet := do
  let p ← single name ps
  match CharacterSet.ofName? (trim p) with
  | some s => .ok s
  | none => .error (.inParameters name (.unknownCharacterSet p))

/-- Stores what parameters stand for, when they have a meaning for the data type. -/
def store (t : DataType) (ps : List String) : ObjectM Cell Unit := do
  let c ← get
  match c with
  | .marker _ => return ()
  | .displayHint _ =>
    let hints ← readHints c.kind.name ps
    modify fun _ => .displayHint hints
  | .database link => ObjectM.within .database link (Link.set c.kind.name ps)
  | .length m _ =>
    let n ← readLength c.kind.name ps
    modify fun _ => .length m n
  | .bound side b => ObjectM.within (.bound side) b (Typed.set c.kind.name t ps)
  | .step size => ObjectM.within .step size (Typed.set c.kind.name t ps)
  | .decimalPlaces _ =>
    let n ← readPlaces c.kind.name ps
    modify fun _ => .decimalPlaces n
  | .charSet _ =>
    let s ← readCharSet c.kind.name ps
    modify fun _ => .charSet s
  | .regex compiled => ObjectM.within .regex compiled (Compiled.set c.kind.name ps)
  | .allowedScheme _ =>
    let schemes ← readSchemes c.kind.name ps
    modify fun _ => .allowedScheme schemes
  | .typeName resolution => ObjectM.within .typeName resolution (Resolution.set c.kind.name ps)
  | .enumType resolution => ObjectM.within .enumType resolution (Resolution.set c.kind.name ps)
  | .values listing => ObjectM.within .values listing (Listing.set c.kind.name ps)

def set (t : Value) (ps : List String) : ObjectM Cell Unit := do
  let t ← Argument.dataType t
  let c ← get
  if !c.kind.isConfiguredFor t then
    throw (.plain (.dataType c.kind.name t .unsupported .dataTypeNotSupported))
  store t ps

/-! ## Asking -/

def parameters : Cell → Except Fault (List String)
  | .marker _ => .ok []
  | .displayHint hints => .ok hints
  | .database link =>
    .ok (databaseParameters link.entity link.keyProperty link.displayProperty)
  | .length _ n | .decimalPlaces n => .ok [Integer.natText n]
  | .bound _ b | .step b => ([·]) <$> b.text
  | .charSet s => .ok [s.name]
  | .regex e => .ok (e.pattern :: e.options.map RegexOption.name)
  | .allowedScheme schemes => .ok schemes
  | .typeName s => .ok [s.typeName]
  | .enumType s => .ok [s.typeName]
  | .values l =>
    if l.underlying = .none then .ok []
    else
      .ok (l.underlying.name :: (if l.hasFlags then ["Flags"] else []) ++
        l.values.map fun (name, n) => name ++ "=" ++ Integer.text n)

def text (c : Cell) : Except Fault String :=
  (fun ps => String.ofList (writtenChars c.kind.name.toList (ps.map String.toList))) <$>
    c.parameters

def Typed.fields (name : String) (b : Typed) : List (String × Value) :=
  [("data_type", .ofDataType b.dataType), (name, b.value)]

/-- The fields of the constraint, besides its parameters. -/
def fields : Cell → List (String × Value)
  | .length _ n => [("length", .int n)]
  | .displayHint hints => [("hints", .list (hints.map .text))]
  | .database link =>
    [("entity", .text link.entity), ("key_property", .text link.keyProperty),
      ("display_property", .text link.displayProperty)]
  | .bound side b => b.fields side.field
  | .step size => size.fields "step_size"
  | .decimalPlaces n => [("decimal_places", .int n)]
  | .allowedScheme schemes => [("schemes", .list (schemes.map .text))]
  | .charSet s => [("character_set", .text s.name)]
  | .regex e =>
    [("pattern", .text e.pattern), ("options", .list (e.options.map fun o => .text o.name))]
  | .typeName s => [("type_name", .text s.typeName)]
  | .enumType s => [("type_name", .text s.typeName)]
  | .values l =>
    [("underlying_data_type", .text l.underlying.name), ("has_flags", .bool l.hasFlags),
      ("values", .list (l.values.map fun (name, n) => .list [.text name, .int n]))]
  | .marker _ => []

/-- Whether the constraint is equal to one that is held elsewhere. -/
def same (c : Cell) (d : Constraint) : Except Fault Bool :=
  if c.kind.className = d.kind && c.kind.name = d.name then
    (fun ps => decide (ps = d.parameters)) <$> c.parameters
  else .ok false

def resolved (r : Registry) : ObjectM Cell (Option Class) := do
  match ← get with
  | .typeName s => ObjectM.within .typeName s (Resolution.resolve r fun _ => return ())
  | .enumType s => ObjectM.within .enumType s (Resolution.resolve r Resolution.derive)
  | _ => throw (.plain .missingAttribute)

def hasFlags (r : Registry) : ObjectM Cell Bool := do
  match ← get with
  | .enumType s => ObjectM.within .enumType s (Resolution.flags r)
  | _ => throw (.plain .missingAttribute)

/-- What a value fails under a bound that has to be on one side of it. -/
def boundFailings (name : String) (side : Side) (b : Typed) (t : DataType) (v : Value) :
    Except Fault (List Failing) := do
  let w ← nativeFor name t v
  match compare? w b.value with
  | none => .error (.plain (.dataType name t (.bound b.dataType) .valueTypeNotSupported))
  | some o =>
    if o = side.wrong then return [(side.failing.1, side.failing.2 ++ (← b.text))] else return []

/-- What a value other than nothing fails, when the constraint can judge the data type. -/
def failings (r : Registry) (t : DataType) (v : Value) : ObjectM Cell (List Failing) := do
  let c ← get
  match c with
  | .marker m => m.constraint.failings r t v
  | .length m n => (m.constraint n).failings r t v
  | .charSet s => (Constraint.charSet s).failings r t v
  | .allowedScheme schemes => (Constraint.allowedScheme schemes).failings r t v
  | .bound side b => boundFailings c.kind.name side b t v
  | .regex e =>
    let w ← nativeFor c.kind.name t v
    return patternFailings e.program (w.text?.getD "")
  | .enumType s => ObjectM.within .enumType s (Resolution.failings r v)
  | .values l =>
    if l.underlying = .none then throw (.inParameters c.kind.name .unset)
    listedFailingsIn l.values (if l.hasFlags then some l.mask else none) v
  | .displayHint _ | .database _ | .step _ | .decimalPlaces _ | .typeName _ => return []

/-- A failure as it is reported: its code, its message and the names of the members. -/
abbrev Report := ErrorCode × String × List String

/-- The failures of a value. Only the constraint that allows nothing takes nothing as a value. -/
def check (r : Registry) (t : DataType) (v : Value) (member shown : String) :
    ObjectM Cell (List Report) := do
  let c ← get
  match c, v with
  | .marker .null, _ => return []
  | _, .null => throw (.argument member (.isNot "value must not be None"))
  | _, v =>
    if !c.kind.judges t then
      throw (.plain (.dataType c.kind.name t .unsupported .dataTypeNotSupported))
    let found ← failings r t v
    return found.map fun f => (f.1, shown ++ " " ++ f.2, [trim member])

def checkWith (r : Registry) (t v member shown : Value) : ObjectM Cell (List Report) := do
  let t ← Argument.dataType t
  let member ← Argument.nameText "member_name" member
  let shown ← shownName member shown
  check r t v member shown

/-! ## Calls -/

inductive Call where
  | parameters
  | text
  | fields
  | equals (other : Constraint)
  | resolved
  | hasFlags
  | validate (t v member shown : Value)
  | set (t : Value) (ps : List String)

inductive Answer where
  | texts (ps : List String)
  | text (s : String)
  | fields (fields : List (String × Value))
  | flag (b : Bool)
  | found (c : Option Class)
  | reports (reports : List Report)
  | done

/-- Carries out a call. The classes are those that can be found at the time of the call. -/
def call (r : Registry) : Call → ObjectM Cell Answer
  | .parameters => do return .texts (← (← get).parameters)
  | .text => do return .text (← (← get).text)
  | .fields => do return .fields (← get).fields
  | .equals other => do return .flag (← (← get).same other)
  | .resolved => .found <$> resolved r
  | .hasFlags => .flag <$> hasFlags r
  | .validate t v member shown => .reports <$> checkWith r t v member shown
  | .set t ps => do
    set t ps
    return .done

def answers : Cell → List (Registry × Call) → List (Except Fault Answer)
  | _, [] => []
  | c, (r, request) :: rest =>
    let (answer, c) := (call r request).outcome c
    answer :: answers c rest

end Cell

end ParamRules
