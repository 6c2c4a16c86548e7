import ParamRules.Constraint.Configure
import ParamRules.Constraint.Region
import ParamRules.Factory

/-!
The parser of constraint texts: a scan that hands every complete constraint to the factory and
configures what comes back. All faults that it finds itself have the offset at which they were
found.
-/

namespace ParamRules

open Text

/-- A parser: its factory, and the name that it logs under. -/
structure Parser where
  factory : Factory
  logger : String

namespace Parser

def ownLogger : String := "parameter_validation.parsing.parser"

/-- The parser with the given handlers. Its factory logs under the name of the parser. -/
def ofHandlers (handlers : List Handler) : Parser :=
  ⟨⟨handlers, ownLogger⟩, ownLogger⟩

def standard : Parser := ofHandlers []

def ofFactory (f : Factory) : Parser :=
  ⟨f, ownLogger⟩

/-- The constraint of the factory for a name, with the position added to a fault of a name that is
not known. -/
def findAt (p : Parser) (t : DataType) (position : Nat) (name : String) : Recorded Constraint :=
  let found := p.factory.find name t
  ⟨found.records, found.result.mapError fun fault =>
    match fault.kind with
    | .unknownName | .notDefinedForType | .unknownConstraint => fault.locate position
    | _ => fault⟩

/-- The constraint for a name and parameters that end at a position. -/
def create (p : Parser) (t : DataType) (position : Nat) (name : String)
    (parameters : List String) : Recorded Constraint := do
  let c ← p.findAt t position name
  match c.configure t parameters with
  | .ok configured => return configured
  | .error fault =>
    if fault.kind.isValueOrType then
      .log p.logger .info "constraint_parameters_invalid"
        (Factory.eventFields c.name t ++
          [("position", .int position), ("error", .text fault.message)])
      .fail (.atPosition (.parametersInvalid c.name) position (some fault))
    else .fail fault

/-- Scans a text from a region on, with `complete` for what is done with a complete constraint at a
position. -/
def scan {α : Type} (complete : Nat → String → List String → Recorded α) :
    Nat → Constraint.Region → List Char → Recorded (List α)
  | _, .outside, [] => pure []
  | position, _, [] => .fail (.atPosition .incomplete (position - 1 : Int) none)
  | position, region, c :: r =>
    match region.step c with
    | .error problem => .fail (.atPosition problem position none)
    | .ok (.move next) => scan complete (position + 1) next r
    | .ok (.complete name parameters) => do
      let a ← complete position name parameters
      let rest ← scan complete (position + 1) .outside r
      return a :: rest

/-- The constraints of a text for a data type. A blank text has none. -/
def parse (p : Parser) (text : String) (t : DataType) : Recorded (List Constraint) := do
  if t = .none then Recorded.fail .noDataType
  else if isAllBlank text then return []
  else
    let cs ← scan (p.create t) 0 .outside text.toList
    .log p.logger .debug "constraints_parsed"
      [("data_type", .text t.name), ("count", .int cs.length)]
    return cs

/-- The constraints of a text for a data type, both handed in as values. Nothing has no
constraints. -/
def parseWith (p : Parser) (text t : Value) : Recorded (List Constraint) := do
  let t ← Argument.dataType t
  match text, text.text? with
  | .null, _ => return []
  | _, some s => p.parse s t
  | _, none => .fail (Argument.wrongType "text" "string" text)

end Parser

end ParamRules
