import ParamRules.Proofs.Constraint.Stored
import ParamRules.Proofs.Result
import ParamRules.Validator

/-!
# Validation does not depend on the order of storage

The constraints that storing moves to the front fail nothing, so the failures of a value come from
the others, which keep their order.  What is left is that a missing value looks for a name and that
faults of the shown name need some constraint to come up, and neither depends on an order.
-/

namespace ParamRules

open Text Constraint Result

variable {r : Registry} {t : DataType} {value : Value} {member : String} {shown : Value}

/-- A name that is handed in is a text that is not blank. -/
theorem Argument.nameText_eq_ok_iff {path name : String} {v : Value} :
    Argument.nameText path v = .ok name ↔ v.text? = some name ∧ isAllBlank name = false := by
  unfold Argument.nameText
  cases hv : v.text? with
  | none => simp
  | some s =>
      by_cases hblank : isAllBlank s = true
      · simp only [if_pos hblank]
        constructor
        · nofun
        · rintro ⟨heq, hname⟩
          cases heq
          exact absurd hblank (by simp [hname])
      · simp only [if_neg hblank]
        constructor
        · intro h
          cases h
          exact ⟨rfl, by simpa using hblank⟩
        · rintro ⟨heq, -⟩
          cases heq
          rfl

/-- A constraint that leads fails nothing. -/
theorem Constraint.check_of_leads {c : Constraint} (h : c.leads = true) (hvalue : value ≠ .null)
    (name : String) : c.check r t value member name = .ok [] := by
  cases c with
  | null => rfl
  | encrypted | custom rule parameters =>
      cases value with
      | null => exact absurd rfl hvalue
      | _ => rfl
  | _ => simp [leads, Constraint.name] at h

namespace Validator

/-! ## All constraints in their order -/

theorem checkAll_of_error {e : Fault} (h : shownName member shown = .error e)
    (cs : List Constraint) :
    checkAll r t value member shown cs = if cs.isEmpty then .ok [] else .error e := by
  cases cs with
  | nil => rfl
  | cons c cs =>
      rw [checkAll, h]
      rfl

variable {name : String}

theorem checkAll_cons (h : shownName member shown = .ok name) (c : Constraint)
    (cs : List Constraint) :
    checkAll r t value member shown (c :: cs) = (do
      let found ← c.check r t value member name
      let rest ← checkAll r t value member shown cs
      return found ++ rest) := by
  rw [checkAll, h]
  rfl

theorem checkAll_append (h : shownName member shown = .ok name) (cs ds : List Constraint) :
    checkAll r t value member shown (cs ++ ds) = (do
      let found ← checkAll r t value member shown cs
      let rest ← checkAll r t value member shown ds
      return found ++ rest) := by
  induction cs with
  | nil =>
      rw [List.nil_append]
      cases checkAll r t value member shown ds <;> rfl
  | cons c cs ih =>
      rw [List.cons_append, checkAll_cons h, checkAll_cons h, ih]
      cases c.check r t value member name with
      | error e => rfl
      | ok found =>
          cases checkAll r t value member shown cs with
          | error e => rfl
          | ok rest =>
              cases checkAll r t value member shown ds with
              | error e => rfl
              | ok others => simp [bind, Except.bind, pure, Except.pure]

theorem checkAll_of_leads (h : shownName member shown = .ok name) (hvalue : value ≠ .null)
    {cs : List Constraint} (hcs : ∀ c ∈ cs, c.leads = true) :
    checkAll r t value member shown cs = .ok [] := by
  induction cs with
  | nil => rfl
  | cons c cs ih =>
      obtain ⟨hc, hcs⟩ := List.forall_mem_cons.mp hcs
      rw [checkAll_cons h, check_of_leads hc hvalue, ih hcs]
      rfl

theorem checkAll_filter (h : shownName member shown = .ok name) (hvalue : value ≠ .null)
    (cs : List Constraint) :
    checkAll r t value member shown (cs.filter (!·.leads)) =
      checkAll r t value member shown cs := by
  induction cs with
  | nil => rfl
  | cons c cs ih =>
      cases hc : c.leads with
      | true =>
          rw [List.filter_cons_of_neg (by simp [hc]), ih, checkAll_cons h,
            check_of_leads hc hvalue]
          cases checkAll r t value member shown cs <;> rfl
      | false => rw [List.filter_cons_of_pos (by simp [hc]), checkAll, checkAll, ih]

theorem checkAll_stored (hvalue : value ≠ .null) (cs : List Constraint) :
    checkAll r t value member shown (stored cs) = checkAll r t value member shown cs := by
  cases h : shownName member shown with
  | error e =>
      -- Without a name to show, every constraint fails alike.
      have hempty : (stored cs).isEmpty = cs.isEmpty := by
        rw [Bool.eq_iff_iff, List.isEmpty_iff_length_eq_zero, List.isEmpty_iff_length_eq_zero,
          (perm_stored cs).length_eq]
      rw [checkAll_of_error h, checkAll_of_error h, hempty]
  | ok name =>
      obtain ⟨front, heq, hfront⟩ := exists_stored_eq cs
      rw [heq, checkAll_append h, checkAll_of_leads h hvalue hfront, checkAll_filter h hvalue]
      cases checkAll r t value member shown cs <;> rfl

/-- A value that is not missing fails what its checks find. -/
theorem failures_of_ne_null (hvalue : value ≠ .null) (cs : List Constraint) :
    failures r t value member shown cs = checkAll r t value member shown cs := by
  cases value with
  | null => exact absurd rfl hvalue
  | _ => rfl

theorem failures_stored (cs : List Constraint) :
    failures r t value member shown (stored cs) = failures r t value member shown cs := by
  by_cases hvalue : value = .null
  · subst hvalue
    simp only [failures, (perm_stored cs).any_eq]
  · rw [failures_of_ne_null hvalue, failures_of_ne_null hvalue, checkAll_stored hvalue]

end Validator

/-! ## Observers -/

/-- Whether the answer of an observer does not depend on the order of the constraints. -/
def Observer.IsOrderBlind (o : Observer) : Prop :=
  ∀ (n : Notice) (cs : List Constraint), n.constraints.Perm cs →
    o.answer { n with constraints := cs } = o.answer n

namespace Validator

theorem result_notifyAll_of_perm {n : Notice} {cs : List Constraint} {observers : List Observer}
    (h : ∀ o ∈ observers, o.IsOrderBlind) (hcs : n.constraints.Perm cs) :
    (notifyAll { n with constraints := cs } observers).result =
      (notifyAll n observers).result := by
  induction observers with
  | nil => rfl
  | cons o observers ih =>
      obtain ⟨ho, hobservers⟩ := List.forall_mem_cons.mp h
      rw [notifyAll, notifyAll]
      by_cases hstage : o.stage = n.stage
      · rw [if_pos hstage, if_pos hstage, Recorded.result_bind_eq, Recorded.result_bind_eq,
          ho n cs hcs]
        cases o.answer n with
        | error refusal => rfl
        | ok _ => exact ih hobservers
      · rw [if_neg hstage, if_neg hstage]
        exact ih hobservers

/-! ## Results -/

/-- The results of a value under constraints that are read. -/
def judged (v : Validator) (value : Value) (t : DataType) (member : String) (shown : Value)
    (cs : List Constraint) : Recorded (List Outcome) := do
  notifyAll ⟨.validating, value, t, cs, member, shown, []⟩ v.observers
  let outcomes ← liftM (failures v.registry t value member shown cs)
  if !outcomes.isEmpty then
    .log ownLogger .info "parameter_validation_failed"
      [("member_name", .text member), ("data_type", .text t.name),
        ("codes", .list (outcomes.map fun o => .text o.code.text))]
    notifyAll ⟨.failed, value, t, cs, member, shown, outcomes⟩ v.observers
  return outcomes

/-- The name to show, or the name of the member where nothing is to be shown. -/
def shownOr (member : String) (shown : Value) : Value :=
  match shown with
  | .null => .text member
  | s => s

variable {v : Validator}

theorem results_eq (input : ConstraintsInput) :
    v.results value t input member shown =
      v.resolve input t >>= v.judged value t member (shownOr member shown) := rfl

theorem result_judged_stored (h : ∀ o ∈ v.observers, o.IsOrderBlind) (cs : List Constraint) :
    (v.judged value t member shown (stored cs)).result =
      (v.judged value t member shown cs).result := by
  have hnotify : ∀ stage outcomes,
      (notifyAll ⟨stage, value, t, stored cs, member, shown, outcomes⟩ v.observers).result =
        (notifyAll ⟨stage, value, t, cs, member, shown, outcomes⟩ v.observers).result :=
    fun stage outcomes =>
      result_notifyAll_of_perm (n := ⟨stage, value, t, cs, member, shown, outcomes⟩) h
        (perm_stored cs).symm
  simp only [judged, Recorded.result_bind_eq, apply_ite Recorded.result, hnotify, failures_stored]

theorem itemConstraints_map (cs : List Constraint) :
    itemConstraints (cs.map .constraint) = .ok cs := by
  rw [itemConstraints, mapM_eq_ok_iff, List.forall₂_iff_get]
  simp

/-- Constraints and the same constraints as they are stored give the same results. -/
theorem result_results_stored (h : ∀ o ∈ v.observers, o.IsOrderBlind)
    {input input' : ConstraintsInput} {cs : List Constraint}
    (hinput : (v.resolve input t).result = .ok cs)
    (hinput' : (v.resolve input' t).result = .ok (stored cs)) :
    (v.results value t input' member shown).result =
      (v.results value t input member shown).result := by
  rw [results_eq, results_eq, Recorded.result_bind hinput, Recorded.result_bind hinput',
    result_judged_stored h]

end Validator

end ParamRules
