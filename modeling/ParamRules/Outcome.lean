import ParamRules.Argument

/-!
Outcomes of checks that are built from arguments, and the outcome of a check without failures.
-/

namespace ParamRules.Outcome

open Text

def success : Outcome := ⟨.success, "", [], none⟩

/-- Whether an outcome is the one without failures: nothing but its code is set. -/
def isPlainSuccess (o : Outcome) : Bool :=
  o.code = .success && o.message = "" && o.memberNames.isEmpty && o.constraint.isNone

/-- The names of members, white space around them left out and blank ones dropped. A text is one
name. -/
def memberNamesOf (v : Value) : Except Fault (List String) := do
  let items ←
    match v.text?, v.items? with
    | some _, _ => .ok [v]
    | none, some items => .ok items
    | none, none => .error (.plain (.notIterable v.typeName))
  let names ← items.mapM fun item =>
    match item.text? with
    | some s => .ok (trim s)
    | none => .error (Fault.argument "ParameterValidationResult.member_names"
        (.wrongType "strings" none))
  return names.filter (!·.isEmpty)

/-- The outcome with the given parts. Only success may have no message. -/
def ofArguments (code message memberNames : Value) (code? : Option ErrorCode)
    (c : Option Constraint) : Except Fault Outcome := do
  match code? with
  | none => .error (Argument.wrongType "ParameterValidationResult.code" "ErrorCode" code)
  | some code =>
    match message.text? with
    | none => .error (.argument "ParameterValidationResult.message" (.wrongType "string" none))
    | some text =>
      if code ≠ .success && isAllBlank text then
        .error (.argument "ParameterValidationResult.message" .empty)
      else return ⟨code, text, ← memberNamesOf memberNames, c⟩

end ParamRules.Outcome
