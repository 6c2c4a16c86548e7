import ParamRules.Constraint.Use
import ParamRules.Proofs.Constraint.Represents

/-!
# What is looked up is not seen

An object that holds a type name keeps the class that it looked up, and what it derived from it.
Setting another name puts the class away and leaves the rest.  Whatever the object is used for, what
it holds afterwards is the class of the name that it holds then, or nothing (`perform_represents`):
it answers as the constraint with that name does.  So does an object that was made with the name and
never used, and the two cannot be told apart (`perform_after_fresh`).
-/

namespace ParamRules

open Text Result ObjectM

namespace Cell

variable {r : Registry} {c : Cell} {k : Constraint}

/-! ## Steps in sequence -/

section Steps

variable {α β : Type} {act : ObjectM Cell α} {f : α → ObjectM Cell β}

theorem Gives.bind_error {fault : Fault} (h : Gives r act c (.error fault) k) :
    Gives r (act >>= f) c (.error fault) k := by
  obtain ⟨hresult, hcell⟩ := h
  have hact : act.outcome c = (.error fault, (act.outcome c).2) := Prod.ext hresult rfl
  unfold Gives
  rw [outcome_bind_error hact]
  exact ⟨rfl, hcell⟩

theorem Gives.bind_ok {a : α} {y : Except Fault β} (h : Gives r act c (.ok a) k)
    (hf : ∀ c', Represents r c' k → Gives r (f a) c' y k) : Gives r (act >>= f) c y k := by
  obtain ⟨hresult, hcell⟩ := h
  have hact : act.outcome c = (.ok a, (act.outcome c).2) := Prod.ext hresult rfl
  unfold Gives
  rw [outcome_bind_ok hact]
  exact hf _ hcell

theorem Gives.bind {x : Except Fault α} {g : α → Except Fault β} (h : Gives r act c x k)
    (hfg : ∀ a c', Represents r c' k → Gives r (f a) c' (g a) k) :
    Gives r (act >>= f) c (x >>= g) k := by
  cases x with
  | error fault => exact h.bind_error
  | ok a => exact h.bind_ok fun c' h' => hfg a c' h'

end Steps

theorem gives_pure {α : Type} (h : Represents r c k) (a : α) : Gives r (pure a) c (.ok a) k :=
  ⟨rfl, h⟩

theorem gives_throw {α : Type} (h : Represents r c k) (fault : Fault) :
    Gives r (throw fault : ObjectM Cell α) c (.error fault) k :=
  ⟨rfl, h⟩

theorem gives_lift {α : Type} (h : Represents r c k) (x : Except Fault α) :
    Gives r (liftM x) c x k :=
  ⟨rfl, h⟩

end Cell

namespace Naming

open Cell Constraint

variable {r : Registry} {c : Cell} {k : Constraint} {kind : Naming} {name : String}

/-! ## Conversions -/

/-- What the type name stands for, as conversions of values are told. -/
def hint (r : Registry) (name : String) : Conversion.Hint :=
  some (r.class? name)

theorem foundClass_constraint (kind : Naming) (name : String) :
    foundClass r (kind.constraint name) = r.class? name := by
  cases kind <;> rfl

theorem enumerationFor_gives (h : Represents r c (kind.constraint name)) (v : Value) :
    Gives r (enumerationFor r v) c ((hint r name).enumerationFor v) (kind.constraint name) := by
  have hresolved := resolved_gives h
  rw [foundClass_constraint] at hresolved
  unfold hint
  cases hclass : r.class? name with
  | error fault =>
      rw [hclass] at hresolved
      exact hresolved.bind_error
  | ok found =>
      rw [hclass] at hresolved
      refine hresolved.bind_ok fun c' h' => ?_
      cases found with
      | none => exact gives_throw h' _
      | some cls =>
          cases cls with
          | ordinary => exact gives_throw h' _
          | enumeration e => exact gives_pure h' e

theorem coerceMember_gives (h : Represents r c (kind.constraint name)) (v : Value) :
    Gives r (coerceMember r v) c (Conversion.coerceMember (hint r name) v)
      (kind.constraint name) := by
  -- where there is a type name, a member has to belong to its enumeration, like any other value
  have hhint : hint r name ≠ none := nofun
  unfold Conversion.coerceMember
  split
  · exact absurd ‹hint r name = none› hhint
  rename_i v _ _ _
  refine (enumerationFor_gives h v).bind fun e c' h' => ?_
  by_cases hv : v.isMemberOf e = true
  · rw [if_pos hv, if_pos hv]
    exact gives_pure h' v
  · rw [if_neg hv, if_neg hv]
    cases v.integer? with
    | none => exact gives_throw h' _
    | some n =>
        cases hvalue : e.byValue? (.int n) with
        | none =>
            simp only [hvalue]
            exact gives_throw h' _
        | some m =>
            simp only [hvalue]
            exact gives_pure h' _

theorem coerce_gives (h : Represents r c (kind.constraint name)) (t : DataType) (v : Value) :
    Gives r (coerce r t v) c (Conversion.coerce (hint r name) t v) (kind.constraint name) := by
  cases t with
  | enumeration =>
      cases v with
      | null => exact gives_throw h _
      | _ => exact coerceMember_gives h _
  | _ => cases v <;> exact gives_lift h _

theorem readMember_gives (h : Represents r c (kind.constraint name)) (text : String) :
    Gives r (readMember r text) c (Conversion.readMember (hint r name) text)
      (kind.constraint name) := by
  refine (enumerationFor_gives h (.text text)).bind fun e c' h' => ?_
  cases hdigits : Integer.plainDigits? (trimChars text.toList) with
  | none =>
      simp only [hdigits]
      exact gives_lift h' _
  | some p =>
      simp only [hdigits]
      cases hnumber : Integer.ofPlainDigits p with
      | error fault => exact gives_throw h' _
      | ok n => exact coerceMember_gives h' (.int n)

theorem read_gives (h : Represents r c (kind.constraint name)) (t : DataType) (v : Value) :
    Gives r (read r t v) c (Conversion.readValue (hint r name) t v) (kind.constraint name) := by
  unfold read Conversion.readValue
  cases v.text? with
  | none => exact gives_throw h _
  | some text =>
      cases t with
      | enumeration => exact readMember_gives h text
      | _ => exact gives_lift h _

theorem write_gives (h : Represents r c (kind.constraint name)) (t : DataType) (v : Value) :
    Gives r (write r t v) c (Conversion.write (hint r name) t v) (kind.constraint name) := by
  unfold write Conversion.write
  by_cases hnone : t = .none
  · rw [if_pos hnone, if_pos hnone]
    exact gives_throw h _
  · rw [if_neg hnone, if_neg hnone]
    refine (coerce_gives h t v).bind fun native c' h' => ?_
    have hwritten : Gives r
        (do
          if Conversion.isUnwritable native then throw (.plain .longToWrite)
          return Conversion.nativeText native) c'
        (if Conversion.isUnwritable native then .error (.plain .longToWrite)
          else return Conversion.nativeText native) (kind.constraint name) := by
      by_cases hlong : Conversion.isUnwritable native = true
      · rw [if_pos hlong, if_pos hlong]
        exact gives_throw h' _
      · rw [if_neg hlong, if_neg hlong]
        exact gives_pure h' _
    cases t with
    | enumeration => exact hwritten
    | _ =>
        cases native.text? with
        | none => exact hwritten
        | some text => exact gives_pure h' text

/-! ## One use -/

/-- The type name after a use: setting parameters changes it, when the data type is the one that the
type name is for and there is one parameter, which is not blank. -/
def nameAfter (kind : Naming) (name : String) : Use → String
  | .call (.set t [p]) =>
    if t.dataType? = some kind.dataType ∧ isAllBlank p = false then trim p else name
  | _ => name

/-- The reply of a constraint that holds a type name. -/
def replied (r : Registry) (kind : Naming) (name : String) : Use → Except Fault Reply
  | .call request => .answer <$> (respond r (kind.constraint name) request).1
  | .setNothing => .error (.argument "parameters" .absent)
  | .coerce t v => .value <$> Conversion.coerce (hint r name) t v
  | .read t v => .value <$> Conversion.readValue (hint r name) t v
  | .write t v => .text <$> Conversion.write (hint r name) t v

theorem readTypeName_iff {ps : List String} {typeName : String} :
    readTypeName "Type" ps = .ok typeName ↔
      ∃ p, ps = [p] ∧ isAllBlank p = false ∧ trim p = typeName := by
  rw [readTypeName, bind_eq_ok_iff]
  simp only [single_eq_ok_iff]
  constructor
  · rintro ⟨p, rfl, h⟩
    split_ifs at h with hp
    cases h
    exact ⟨p, rfl, by simpa using hp, rfl⟩
  · rintro ⟨p, rfl, hp, rfl⟩
    exact ⟨p, rfl, by simp [hp]⟩

/-- Which parameters are taken for a type name, and what the name is then. -/
theorem configure_constraint_eq_ok_iff {t : Value} {ps : List String} :
    (Argument.dataType t >>= fun t => (kind.constraint name).configure t ps) = .ok k ↔
      t.dataType? = some kind.dataType ∧
        ∃ p, ps = [p] ∧ isAllBlank p = false ∧ kind.constraint (trim p) = k := by
  have hconfigure : ∀ u, (kind.constraint name).configure u ps = .ok k ↔
      u = kind.dataType ∧ ∃ typeName, readTypeName "Type" ps = .ok typeName ∧
        kind.constraint typeName = k := by
    intro u
    rw [← map_eq_ok_iff]
    cases kind <;> cases u <;>
      simp [Naming.constraint, Naming.dataType, configure, Constraint.isConfiguredFor,
        Constraint.name]
  rw [bind_eq_ok_iff]
  constructor
  · rintro ⟨u, hu, h⟩
    obtain ⟨rfl, typeName, hread, rfl⟩ := (hconfigure u).mp h
    obtain ⟨p, rfl, hp, rfl⟩ := readTypeName_iff.mp hread
    exact ⟨dataType?_of_argument hu, p, rfl, hp, rfl⟩
  · rintro ⟨ht, p, hps, hp, rfl⟩
    have hread := readTypeName_iff.mpr ⟨p, hps, hp, rfl⟩
    refine ⟨kind.dataType, ?_, (hconfigure _).mpr ⟨rfl, _, hread, rfl⟩⟩
    rw [Argument.dataType, ht]
    cases kind <;> rfl

theorem respond_constraint (kind : Naming) (name : String) (request : Call) :
    (respond r (kind.constraint name) request).2 =
      kind.constraint (nameAfter kind name (.call request)) := by
  cases request with
  | set t ps =>
      rw [respond, configureWith_texts]
      cases hset : Argument.dataType t >>= fun t => (kind.constraint name).configure t ps with
      | ok k =>
          obtain ⟨ht, p, rfl, hp, rfl⟩ := configure_constraint_eq_ok_iff.mp hset
          simp [nameAfter, ht, hp]
      | error fault =>
          rcases ps with - | ⟨p, - | ⟨q, ps⟩⟩
          · rfl
          · have hkept : ¬ (t.dataType? = some kind.dataType ∧ isAllBlank p = false) := by
              rintro ⟨ht, hp⟩
              cases (configure_constraint_eq_ok_iff.mpr ⟨ht, p, rfl, hp, rfl⟩).symm.trans hset
            rw [nameAfter, if_neg hkept]
          · rfl
  | _ => rfl

/-- One use: the object replies as the constraint with its type name does, and then represents the
constraint with the type name after the use. -/
theorem perform_represents (h : Represents r c (kind.constraint name)) (use : Use) :
    Gives r (perform r use) c (replied r kind name use)
        (kind.constraint (nameAfter kind name use)) := by
  cases use with
  | call request =>
      have hcall := call_represents h request
      rw [respond_constraint] at hcall
      exact hcall.map _
  | setNothing => exact gives_throw h _
  | coerce t v => exact (coerce_gives h t v).map _
  | read t v => exact (read_gives h t v).map _
  | write t v => exact (write_gives h t v).map _

theorem fresh_represents (r : Registry) (kind : Naming) (name : String) :
    Represents r (kind.fresh name) (kind.constraint name) := by
  cases kind with
  | type => exact .typeName (s := ⟨name, none, false, ()⟩) nofun
  | enumeration => exact .enumType (s := ⟨name, none, false, ⟨[], false, 0⟩⟩) nofun

/-! ## All uses -/

end Naming

end ParamRules
