import ParamRules.Argument
import ParamRules.Conversion
import ParamRules.Recorded
import ParamRules.Registry

/-!
The factory of constraints. A known name gives a fresh constraint for the data types that it is
defined for. For all other names and types the registered handlers are asked in order, and the first
answer counts.
-/

namespace ParamRules

open Text

/-- A factory: its handlers in order of registration, and the name that it logs under. -/
structure Factory where
  handlers : List Handler
  logger : String

namespace Factory

def ownLogger : String := "parameter_validation.parsing.factory"

/-- The builders of known constraints by name. A builder gives a constraint for the data types that
the name is defined for. -/
def known : List (String × (DataType → Option Constraint)) := [
  ("AllowedScheme", forTypes (· = .uri) (.allowedScheme ["http", "https"])),
  ("CharSet", forTypes (· = .string) (.charSet .windows1252)),
  ("Database", forAll (.database "" "" "")),
  ("DecimalPlaces", forTypes (· = .decimal) (.decimalPlaces 2)),
  ("DisplayHint", forAll (.displayHint [])),
  ("Encrypted", forAll .encrypted),
  ("Endpoint", forTypes (· = .string) .endpoint),
  ("Values", forTypes (· = .enumeration) (.values none)),
  ("FileName", forTypes (· = .string) .fileName),
  ("Host", forTypes (· = .string) .host),
  ("Length", forTypes (fun t => t = .string || t = .bytes) (.length 0x7FFFFFFF)),
  ("Lowercase", forTypes (· = .string) .lowercase),
  ("MaxLength", forTypes DataType.isMeasured (.maxLength 0x7FFFFFFF)),
  ("MaxValue", fun t => (Conversion.greatest? t).map .maxValue),
  ("MinLength", forTypes DataType.isMeasured (.minLength 0)),
  ("MinValue", fun t => (Conversion.least? t).map .minValue),
  ("Null", forAll .null),
  ("Password", forTypes (· = .string) .password),
  ("Path", forTypes (· = .string) .path),
  ("ReadOnly", forAll .readOnly),
  ("Regex", fun t => if t = .string then anyText?.map .regex else none),
  ("Step", fun t => (one? t).map .step),
  ("Type", fun t =>
    match t with
    | .enumeration => some (.enumType "")
    | .xml => some (.typeName "")
    | _ => none),
  ("Uppercase", forTypes (· = .string) .uppercase)]
where
  forAll (c : Constraint) : DataType → Option Constraint := fun _ => some c
  forTypes (holds : DataType → Bool) (c : Constraint) : DataType → Option Constraint :=
    fun t => if holds t then some c else none
  anyText? : Option Expression := (Expression.ofPattern ".*" []).toOption
  one? : DataType → Option Amount
    | .integer t => some (.integer t 1)
    | .decimal => some (.decimal (.ofInt 1))
    | _ => none

def isKnown (name : String) : Bool :=
  known.any (·.1 = name)

def add (f : Factory) (h : Handler) : Factory :=
  { f with handlers := f.handlers ++ [h] }

/-- A factory without the first registration that a test holds of, and whether there was one. -/
def removeFirst (f : Factory) (same : Handler → Bool) : Factory × Bool :=
  if f.handlers.any same then ({ f with handlers := f.handlers.eraseP same }, true) else (f, false)

def remove (f : Factory) (name : String) : Factory × Bool :=
  f.removeFirst (·.name = name)

/-! ## Two tiers -/

/-- A table of builders by name. A builder gives a constraint for the data types that its name is
defined for. -/
abbrev Builders := List (String × (DataType → Option Constraint))

/-- How a name is resolved for a data type. -/
inductive Resolution where
  /-- A builder gives the constraint. -/
  | built (c : Constraint)
  /-- No builder does, and a handler gives it. -/
  | answered (h : Handler) (c : Constraint)
  /-- Neither does. The name has a builder, for other data types. -/
  | notDefined
  /-- Neither does. The name has no builder. -/
  | unknown

/-- The first answer of the handlers, with the handler that gave it. Handlers after it are not
asked. -/
def askHandlers {m : Type → Type} [Monad m] (ask : Handler → m (Option Constraint)) :
    List Handler → m (Option (Handler × Constraint))
  | [] => pure none
  | h :: r => do
    match ← ask h with
    | some c => pure (some (h, c))
    | none => askHandlers ask r

/-- How a table of builders and then handlers resolve a name for a data type. Handlers are asked
only where no builder gives a constraint. -/
def resolve {m : Type → Type} [Monad m] (builders : Builders)
    (ask : Handler → m (Option Constraint)) (handlers : List Handler) (name : String)
    (t : DataType) : m Resolution :=
  match (builders.lookup name).bind (· t) with
  | some c => pure (.built c)
  | none => do
    match ← askHandlers ask handlers with
    | some (h, c) => pure (.answered h c)
    | none => pure (if builders.any (·.1 = name) then .notDefined else .unknown)

def eventFields (name : String) (t : DataType) : List (String × Value) :=
  [("constraint", .text name), ("data_type", .text t.name)]

/-- The constraint that a resolution gives, or the fault of a name that has none. -/
def Resolution.result (name : String) (t : DataType) : Resolution → Except Fault Constraint
  | .built c | .answered _ c => .ok c
  -- No position is known here; the parser adds its own.
  | .notDefined => .error (.atPosition (.notDefinedForType name t) (-1) none)
  | .unknown => .error (.atPosition (.unknownName name t) (-1) none)

/-- Records a resolution, unless it is that of a builder. -/
def Resolution.record (logger name : String) (t : DataType) : Resolution → Recorded Unit
  | .built _ => pure ()
  | .answered h _ =>
    .log logger .debug "constraint_resolved_by_handler"
      (eventFields name t ++ [("handler", .text h.name)])
  | .notDefined => .log logger .info "constraint_not_defined_for_type" (eventFields name t)
  | .unknown => .log logger .info "constraint_unknown" (eventFields name t)

def findIn (builders : Builders) (f : Factory) (name : String) (t : DataType) :
    Recorded Constraint :=
  if isAllBlank name then .fail (.argument "name" .empty)
  else if t = .none then .fail .noDataType
  else
    match resolve builders (·.answer name t) f.handlers name t with
    | .error refusal => .fail (.plain (.custom refusal))
    | .ok resolution => do
      resolution.record f.logger name t
      resolution.result name t

def find (f : Factory) (name : String) (t : DataType) : Recorded Constraint :=
  findIn known f name t

def findWith (f : Factory) (name t : Value) : Recorded Constraint := do
  let name ← Argument.nameText "name" name
  let t ← Argument.dataType t
  f.find name t

end Factory

end ParamRules
