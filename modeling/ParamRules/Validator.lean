import ParamRules.Constraint.Check
import ParamRules.Parser

/-!
The validator: it runs all constraints of a parameter on a value and collects the failures.
Observers are told before the first check, and again when there are failures.
-/

namespace ParamRules

open Text

/-- An observer of validations: the stage at which it is told, and its answer, which may be a
refusal. -/
structure Observer where
  stage : Stage
  answer : Notice → Except CustomRefusal Unit

/-- A validator: the names that constraints can refer to, its parser and its observers. -/
structure Validator where
  registry : Registry
  parser : Parser
  observers : List Observer

inductive ConstraintItem where
  | constraint (c : Constraint)
  | other (v : Value)

inductive ConstraintsInput where
  | absent
  | text (s : String)
  | items (items : List ConstraintItem)
  /-- A value of a class whose values have no items. -/
  | other (typeName : String)

def ConstraintsInput.ofValue : Value → ConstraintsInput
  | .null => .absent
  | v =>
    match v.text?, v.items? with
    | some s, _ => .text s
    | none, some vs => .items (vs.map .other)
    | none, none => .other v.typeName

namespace Validator

def ownLogger : String := "parameter_validation.validation.validator"

def standard (r : Registry) : Validator := ⟨r, .standard, []⟩

def itemConstraints (items : List ConstraintItem) : Except Fault (List Constraint) :=
  items.zipIdx.mapM fun (item, i) =>
    match item with
    | .constraint c => .ok c
    | .other v => .error (Argument.wrongType ("constraints[" ++ toString i ++ "]") "Constraint" v)

/-- The constraints that are handed in; a text is parsed. -/
def resolve (v : Validator) (input : ConstraintsInput) (t : DataType) :
    Recorded (List Constraint) :=
  match input with
  | .absent => pure []
  | .text s => v.parser.parse s t
  | .items items => liftM (itemConstraints items)
  | .other typeName => .fail (.plain (.notIterable typeName))

def notifyAll (n : Notice) : List Observer → Recorded Unit
  | [] => pure ()
  | o :: r =>
    if o.stage = n.stage then do
      .notify n
      match o.answer n with
      | .ok () => notifyAll n r
      | .error refusal => .fail (.plain (.custom refusal))
    else notifyAll n r

/-- The failures of a value under constraints, in their order. -/
def checkAll (r : Registry) (t : DataType) (value : Value) (member : String) (shown : Value) :
    List Constraint → Except Fault (List Outcome)
  | [] => .ok []
  | c :: cs => do
    -- A constraint that faults ends the run, and what was found before it is lost.
    let found ← c.check r t value member (← Constraint.shownName member shown)
    let rest ← checkAll r t value member shown cs
    return found ++ rest

def nullOutcome (member : String) (shown : Value) : Outcome :=
  Outcome.failure .null member .valueNull (shown.display ++ " must not be null")

/-- The failures of a value. Nothing is a value only where some constraint allows it. -/
def failures (r : Registry) (t : DataType) (value : Value) (member : String) (shown : Value)
    (cs : List Constraint) : Except Fault (List Outcome) :=
  match value with
  | .null => .ok (if cs.any (·.name = "Null") then [] else [nullOutcome member shown])
  | value => checkAll r t value member shown cs

def results (v : Validator) (value : Value) (t : DataType) (input : ConstraintsInput)
    (member : String) (shown : Value) : Recorded (List Outcome) := do
  let shown := match shown with
    | .null => .text member
    | s => s
  let cs ← v.resolve input t
  notifyAll ⟨.validating, value, t, cs, member, shown, []⟩ v.observers
  let outcomes ← liftM (failures v.registry t value member shown cs)
  if !outcomes.isEmpty then
    .log ownLogger .info "parameter_validation_failed"
      [("member_name", .text member), ("data_type", .text t.name),
        ("codes", .list (outcomes.map fun o => .text o.code.text))]
    notifyAll ⟨.failed, value, t, cs, member, shown, outcomes⟩ v.observers
  return outcomes

def resultsWith (v : Validator) (value t : Value) (input : ConstraintsInput)
    (member shown : Value) : Recorded (List Outcome) := do
  let t ← Argument.dataType t
  let member ← Argument.nameText "member_name" member
  v.results value t input member shown

/-- Fails with all failures of a value, if it has any. -/
def requireValid (outcomes : List Outcome) : Except Fault Unit :=
  if outcomes.isEmpty then .ok () else .error (.plain (.validation outcomes))

end Validator

end ParamRules
