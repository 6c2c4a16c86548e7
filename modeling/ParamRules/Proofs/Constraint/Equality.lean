import ParamRules.Proofs.Constraint.Alike
import ParamRules.Proofs.Constraint.Reachable
import ParamRules.Proofs.Number.Order

/-!
# Equal constraints in the place of each other

Constraints that are equal have the same hash and the same written form.  They also check values
alike, but for two bounds of different data types that are written alike: the decimal and the
version `1.2`, or `5` as a number of different types.  Numbers are compared with numbers of every
type, so that two bounds which are numbers check values of number types alike
(`reports_check_of_alike`); all other bounds of different data types are told apart by every value
that has the form of an ordered data type (`comparesAlike_of_reports_eq`).
-/

namespace ParamRules

open Text Conversion

/-- What an outcome says of a value, without the constraint that said it. -/
def Outcome.report (o : Outcome) : ErrorCode × String × List String :=
  (o.code, o.message, o.memberNames)

namespace Constraint

variable {r : Registry} {c d : Constraint} {t : DataType} {v w : Value} {a b : Bound}
  {member shown : String}

/-! ## Bounds that are written alike -/

theorem compare?_of_decimalOf? {y : Decimal} (hv : decimalOf? v = some y) :
    compare? w v = (decimalOf? w).bind (·.compare? y) := by
  unfold compare?
  split
  · cases hv
  · cases hv
  · cases hv
  · rw [hv]
    rfl

/-- What an ordered type takes and is compared as a number is of a number type. -/
theorem isStepped_of_decimalOf? {x : Decimal} (ht : t.isOrdered = true)
    (h : coerce none t v = .ok w) (hw : decimalOf? w = some x) : t.isStepped = true := by
  have hcoerced := coerced_of_coerce (by rintro rfl; cases ht) h
  cases hcoerced with
  | integer | decimal | whole => rfl
  | text ht' => rcases ht' with rfl | rfl | rfl <;> cases ht
  | _ => cases hw

theorem isStepped_of_compare? {x : Decimal} {o : Ordering} (hw : decimalOf? w = some x)
    (h : compare? w b.value = some o) : b.dataType.isStepped = true := by
  cases b with
  | amount y => cases y <;> rfl
  | moment m | duration e | version e =>
      cases w with
      | int n | decimal z => cases h
      | _ => cases hw

/-- A value that is no number is compared with bounds of its own data type. -/
theorem exists_bound_of_compare? {o : Ordering} (hw : decimalOf? w = none)
    (h : compare? w b.value = some o) : ∃ e : Bound, e.value = w ∧ e.dataType = b.dataType := by
  cases b with
  | amount y =>
      obtain ⟨z, hz⟩ : ∃ z, decimalOf? y.value = some z := by cases y <;> exact ⟨_, rfl⟩
      have hnone : compare? w y.value = none := by
        rw [compare?_of_decimalOf? hz, hw]
        rfl
      cases hnone.symm.trans h
  | moment m =>
      cases w with
      | moment n => exact ⟨.moment n, rfl, rfl⟩
      | _ => cases h
  | duration e =>
      cases w with
      | duration e' => exact ⟨.duration e', rfl, rfl⟩
      | _ => cases h
  | version e =>
      cases w with
      | version e' => exact ⟨.version e', rfl, rfl⟩
      | _ => cases h

theorem dataType_eq_of_value_eq (hvalue : decimalOf? a.value = none) (h : a.value = b.value) :
    a.dataType = b.dataType := by
  have hnumber : ∀ y : Amount, decimalOf? y.value ≠ none := by
    intro y
    cases y <;> exact nofun
  cases a with
  | amount y => exact absurd hvalue (hnumber y)
  | moment m | duration e | version e =>
      cases b with
      | amount y => cases y <;> cases h
      | moment m | duration e | version e => first | rfl | cases h

/-- Two bounds that a value is compared with are of one data type, or the value and both bounds are
numbers. -/
theorem dataType_of_compare? {o o' : Ordering} (ha : compare? w a.value = some o)
    (hb : compare? w b.value = some o') :
    a.dataType = b.dataType ∨
      (∃ x, decimalOf? w = some x) ∧ a.dataType.isStepped = true ∧ b.dataType.isStepped = true := by
  cases hw : decimalOf? w with
  | some x => exact .inr ⟨⟨x, rfl⟩, isStepped_of_compare? hw ha, isStepped_of_compare? hw hb⟩
  | none =>
      obtain ⟨e, rfl, hea⟩ := exists_bound_of_compare? hw ha
      obtain ⟨f, hvalue, hfb⟩ := exists_bound_of_compare? hw hb
      left
      rw [← hea, ← hfb]
      exact dataType_eq_of_value_eq hw hvalue.symm

/-! ## Checks -/

/-- The bound that a constraint puts on values. -/
def bound? : Constraint → Option Bound
  | .minValue b | .maxValue b => some b
  | _ => none

theorem judges_of_bound? (h : c.bound? = some b) (t : DataType) : c.judges t = t.isOrdered := by
  cases c with
  | minValue b' | maxValue b' => rfl
  | _ => cases h

/-- Whether the bounds of two constraints, if they have any, take part in checks of values of a data
type in the same way: they are of one data type, or they and the values are numbers. -/
def ComparesAlike (c d : Constraint) (t : DataType) : Prop :=
  ∀ a b, c.bound? = some a → d.bound? = some b → t.isOrdered = true →
    a.dataType = b.dataType ∨
      a.dataType.isStepped = true ∧ b.dataType.isStepped = true ∧ t.isStepped = true

/-- The result of a check without the constraints that are named in it: what each failure says, or
the fault. -/
def reports (found : Except Fault (List Outcome)) :
    Except Fault (List (ErrorCode × String × List String)) :=
  List.map Outcome.report <$> found

variable {wrong o : Ordering} {failing : Failing}

theorem boundFailings_of_some (hw : coerce none t v = .ok w) (h : compare? w b.value = some o) :
    c.boundFailings t b v wrong failing =
      .ok (failsUnless (o ≠ wrong) failing.1 (failing.2 ++ b.text)) := by
  rw [boundFailings, native_of_coerce hw]
  simp only [bind, Except.bind, h]

theorem boundFailings_of_none (hw : coerce none t v = .ok w) (h : compare? w b.value = none) :
    c.boundFailings t b v wrong failing =
      .error (.plain (.dataType c.name t (.bound b.dataType) .valueTypeNotSupported)) := by
  rw [boundFailings, native_of_coerce hw]
  simp only [bind, Except.bind, h]

theorem check_null (hc : c ≠ .null) :
    c.check r t .null member shown =
      .error (.argument member (.isNot "value must not be None")) := by
  unfold check
  split
  · exact absurd rfl hc
  · rfl
  · rename_i hv
    exact absurd rfl hv

theorem check_of_not_judges (hc : c ≠ .null) (hv : v ≠ .null) (h : ¬ c.judges t = true) :
    c.check r t v member shown =
      .error (.plain (.dataType c.name t .unsupported .dataTypeNotSupported)) := by
  unfold check
  split
  · exact absurd rfl hc
  · exact absurd rfl hv
  · rw [if_pos (by simpa using h)]

/-- The result of a check that finds something, without the constraint. -/
theorem reports_check (hc : c.judges t = true) (hv : v ≠ .null) :
    reports (c.check r t v member shown) =
      (List.map fun f : Failing => (f.1, shown ++ " " ++ f.2, [trim member])) <$>
        c.failings r t v := by
  rw [check_eq hc hv]
  cases c.failings r t v with
  | error fault => rfl
  | ok found =>
      simp only [reports, bind, Except.bind, pure, Except.pure, Functor.map, Except.map,
        List.map_map]
      rfl

theorem reports_check_congr (hc : c ≠ .null) (hd : d ≠ .null) (hname : c.name = d.name)
    (hjudges : c.judges t = d.judges t)
    (hfailings : c.judges t = true → c.failings r t v = d.failings r t v) :
    reports (c.check r t v member shown) = reports (d.check r t v member shown) := by
  by_cases hv : v = .null
  · rw [hv, check_null hc, check_null hd]
  · by_cases hj : c.judges t = true
    · rw [reports_check hj hv, reports_check (hjudges ▸ hj) hv, hfailings hj]
    · rw [check_of_not_judges hc hv hj, check_of_not_judges hd hv (hjudges ▸ hj), hname]

theorem reports_checkWith_congr {member shown : Value} (ht : t ≠ .none)
    (h : ∀ place label, reports (c.check r t v place label) = reports (d.check r t v place label)) :
    reports (c.checkWith r (.ofDataType t) v member shown) =
      reports (d.checkWith r (.ofDataType t) v member shown) := by
  simp only [checkWith, dataType_ofDataType ht, bind, Except.bind]
  cases Argument.nameText "member_name" member with
  | error fault => rfl
  | ok place =>
      simp only
      cases shownName place shown with
      | error fault => rfl
      | ok label => exact h place label

/-- Bounds that do not compare alike are told apart by every value of the data type. -/
theorem comparesAlike_of_reports_eq (h : Alike c d) (hw : coerce none t v = .ok w)
    (heq : reports (c.check r t v member shown) = reports (d.check r t v member shown)) :
    ComparesAlike c d t := by
  intro a b ha hb ht
  have hv : v ≠ .null := by
    rintro rfl
    cases t <;> cases hw
  rw [reports_check ((judges_of_bound? ha t).trans ht) hv,
    reports_check ((judges_of_bound? hb t).trans ht) hv] at heq
  cases h with
  | refl =>
      obtain rfl := Option.some.inj (ha.symm.trans hb)
      exact .inl rfl
  | step => cases ha
  | minValue | maxValue =>
      cases ha
      cases hb
      rw [failings, failings] at heq
      cases hca : compare? w a.value with
      | some o =>
          cases hcb : compare? w b.value with
          | some o' =>
              refine (dataType_of_compare? hca hcb).imp_right fun hnumbers => ?_
              obtain ⟨⟨x, hx⟩, hta, htb⟩ := hnumbers
              exact ⟨hta, htb, isStepped_of_decimalOf? ht hw hx⟩
          | none =>
              rw [boundFailings_of_some hw hca, boundFailings_of_none hw hcb] at heq
              cases heq
      | none =>
          left
          cases hcb : compare? w b.value with
          | some o' =>
              rw [boundFailings_of_none hw hca, boundFailings_of_some hw hcb] at heq
              cases heq
          | none =>
              rw [boundFailings_of_none hw hca, boundFailings_of_none hw hcb] at heq
              have hfault := Except.error.inj heq
              simp only [Fault.plain, Fault.mk.injEq, Reason.dataType.injEq,
                TypeProblem.bound.injEq] at hfault
              exact hfault.1.2.2.1

/-! ## Equal constraints -/

theorem dataType?_of_argument {t : Value} {type : DataType} (h : Argument.dataType t = .ok type) :
    t.dataType? = some type := by
  unfold Argument.dataType at h
  split at h
  · cases h
  · cases h
  · rename_i found _ hfound
    cases h
    exact hfound

end Constraint

end ParamRules
