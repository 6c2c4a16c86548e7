import ParamRules.Proofs.Constraint.Cell
import ParamRules.Proofs.Constraint.Equality
import ParamRules.Proofs.Conversion.Envelope

/-!
# Objects and the constraints that they stand for

An object represents a constraint when its fields are those of the constraint, and what it has
looked up is what the registry gives.  Every call then has the answer that the constraint gives, and
leaves an object that represents what the constraint has become (`call_represents`).  So a sequence
of calls cannot tell an object, with all that it keeps, from the constraint (`answers_eq`), and
every constraint that can be made is represented by some object (`exists_represents`).
-/

namespace ParamRules

open Text Result Conversion ObjectM

namespace Cell

open Constraint

variable {r : Registry} {c : Cell} {k : Constraint} {t : DataType} {v w : Value}
  {ps : List String} {b : Bound}

/-- A bound as a value with its data type. -/
def Typed.ofBound (b : Bound) : Typed :=
  ⟨b.dataType, b.value⟩

/-- Whether what was looked up for a type name is what the registry gives. -/
def Resolution.IsCurrent {δ : Type} (r : Registry) (ofClass : Option Class → δ)
    (s : Resolution δ) : Prop :=
  s.isResolved = true → r.class? s.typeName = .ok s.found ∧ s.derived = ofClass s.found

/-- Whether an object holds what a constraint holds. -/
inductive Represents (r : Registry) : Cell → Constraint → Prop where
  | marker (m : Marker) : Represents r (.marker m) m.constraint
  | displayHint (hints : List String) : Represents r (.displayHint hints) (.displayHint hints)
  | database (e k d : String) : Represents r (.database ⟨e, k, d⟩) (.database e k d)
  | length (m : Measure) (n : Nat) : Represents r (.length m n) (m.constraint n)
  | bound (side : Side) {b : Bound} (h : b.IsHeld) :
      Represents r (.bound side (.ofBound b)) (side.constraint b)
  | step {size : Amount} (h : (Bound.amount size).IsHeld) :
      Represents r (.step (.ofBound (.amount size))) (.step size)
  | decimalPlaces (n : Nat) : Represents r (.decimalPlaces n) (.decimalPlaces n)
  | charSet (s : CharacterSet) : Represents r (.charSet s) (.charSet s)
  | regex (e : Expression) : Represents r (.regex (.ofExpression e)) (.regex e)
  | allowedScheme (schemes : List String) :
      Represents r (.allowedScheme schemes) (.allowedScheme schemes)
  -- what was looked up may be there or not, but is never that of another name
  | typeName {s : Resolution Unit} (h : s.IsCurrent r fun _ => ()) :
      Represents r (.typeName s) (.typeName s.typeName)
  | enumType {s : Resolution Derived} (h : s.IsCurrent r Derived.ofClass) :
      Represents r (.enumType s) (.enumType s.typeName)
  | unset : Represents r (.values ⟨.none, false, [], 0⟩) (.values none)
  | values (l : ValueList) : Represents r (.values (.ofValueList l)) (.values (some l))

namespace Represents

/-! ## What an object shows -/

theorem name_eq (h : Represents r c k) : c.kind.name = k.name := by
  cases h with
  | marker m => rfl
  | length m n => cases m <;> rfl
  | bound side => cases side <;> rfl
  | _ => rfl

theorem className_eq (h : Represents r c k) : c.kind.className = k.kind := by
  cases h with
  | marker m => rfl
  | length m n => cases m <;> rfl
  | bound side => cases side <;> rfl
  | _ => rfl

theorem isConfiguredFor_eq (h : Represents r c k) (t : DataType) :
    c.kind.isConfiguredFor t = k.isConfiguredFor t := by
  cases h with
  | marker m => cases m <;> rfl
  | length m n => cases m <;> rfl
  | bound side => cases side <;> rfl
  | _ => rfl

theorem judges_eq (h : Represents r c k) (t : DataType) : c.kind.judges t = k.judges t := by
  cases h with
  | marker m => rfl
  | length m n => cases m <;> rfl
  | bound side => cases side <;> rfl
  | _ => rfl

end Represents

/-- A bound is written as its text. -/
theorem text_ofBound (h : b.IsHeld) : (Typed.ofBound b).text = .ok b.text := by
  have hcoerce : coerce none b.dataType b.value = .ok b.value :=
    coerce_of_coerced (Bound.coerced_of_isHeld h)
  have hwrite := write_eq_ok b.dataType_ne.1 b.dataType_ne.2 hcoerce
  rw [lexicalText_value] at hwrite
  exact hwrite

namespace Represents

theorem parameters_eq (h : Represents r c k) : c.parameters = .ok k.parameters := by
  cases h with
  | marker m => cases m <;> rfl
  | length m n => cases m <;> rfl
  | bound side hb =>
      rw [Cell.parameters, text_ofBound hb]
      cases side <;> rfl
  | step hsize =>
      rw [Cell.parameters, text_ofBound hsize]
      rfl
  | _ => rfl

theorem text_eq (h : Represents r c k) : c.text = .ok k.text := by
  rw [Cell.text, h.parameters_eq, h.name_eq]
  rfl

theorem fields_eq (h : Represents r c k) : c.fields = k.fields := by
  cases h with
  | marker m => cases m <;> rfl
  | length m n => cases m <;> rfl
  | bound side => cases side <;> rfl
  | _ => rfl

theorem same_eq (h : Represents r c k) (other : Constraint) :
    c.same other = .ok (k.same other) := by
  unfold Cell.same Constraint.same
  rw [h.parameters_eq, h.name_eq, h.className_eq]
  by_cases hkind : (decide (k.kind = other.kind) && decide (k.name = other.name)) = true
  · rw [if_pos hkind, hkind, Bool.true_and]
    rfl
  · rw [if_neg hkind, Bool.eq_false_iff.mpr hkind, Bool.false_and]

end Represents

/-! ## Classes that are looked up -/

theorem getD_of_isSome {l : Literal} (h : l.number?.isSome = true) :
    l.number? = some (l.number?.getD 0) := by
  cases hn : l.number? with
  | none => simp [hn] at h
  | some n => rfl

theorem foldl_withBits_numbers (values : List Literal) (d : Derived)
    (h : values.all (·.number?.isSome) = true) :
    values.foldl Derived.withBits d =
      { d with mask := (values.filterMap (·.number?)).foldl Enumeration.union d.mask } := by
  induction values generalizing d with
  | nil => rfl
  | cons v values ih =>
      rw [List.all_cons, Bool.and_eq_true_iff] at h
      rw [List.foldl_cons, ih _ h.2, List.filterMap_cons_some (getD_of_isSome h.1),
        List.foldl_cons]
      rfl

/-- What is derived from an enumeration is what its values are checked by. -/
theorem ofClass_enumeration (e : Enumeration) :
    (Derived.ofClass (some (.enumeration e))).values = (declaredNumbers e).1 ∧
      (Derived.ofClass (some (.enumeration e))).mask? = (declaredNumbers e).2 := by
  unfold Derived.ofClass declaredNumbers
  simp only
  by_cases hall : (e.entries.map (·.2)).all (·.number?.isSome) = true
  · have hmask : (((e.entries.map (·.2)).filterMap (·.number?)).foldl Enumeration.union 0) =
        e.mask := by
      rw [List.filterMap_map]
      rfl
    rw [if_pos hall, if_pos hall, foldl_withBits_numbers _ _ hall, hmask]
    exact ⟨rfl, rfl⟩
  · rw [if_neg hall, if_neg hall]
    exact ⟨rfl, rfl⟩

theorem hasFlags_ofClass (found : Option Class) :
    (Derived.ofClass found).hasFlags = Constraint.hasFlags found := by
  cases found with
  | none => rfl
  | some cls =>
      cases cls with
      | ordinary => rfl
      | enumeration e =>
          have hasMask : Constraint.hasFlags (some (.enumeration e)) =
              (declaredNumbers e).2.isSome := rfl
          rw [hasMask, ← (ofClass_enumeration e).2]
          unfold Derived.mask?
          split_ifs with hflags
          · exact hflags
          · simpa using hflags

section Resolve

variable {δ : Type} {act : Option Class → ObjectM (Resolution δ) Unit} {ofClass : Option Class → δ}
  {s : Resolution δ}

/-- What is looked up is what the registry gives, whether it was looked up before or not. -/
theorem resolve_cases
    (hact : ∀ found s, (act found).outcome s = (.ok (), { s with derived := ofClass found }))
    (hs : s.IsCurrent r ofClass) :
    (∃ fault, r.class? s.typeName = .error fault ∧
        (Resolution.resolve r act).outcome s = (.error fault, s)) ∨
      ∃ found s', r.class? s.typeName = .ok found ∧
        (Resolution.resolve r act).outcome s = (.ok found, s') ∧
        s'.typeName = s.typeName ∧ s'.derived = ofClass found ∧ s'.IsCurrent r ofClass := by
  cases hresolved : s.isResolved with
  | true =>
      obtain ⟨hclass, hderived⟩ := hs hresolved
      exact .inr ⟨s.found, s, hclass, Resolution.outcome_resolve_resolved act hresolved, rfl,
        hderived, hs⟩
  | false =>
      cases hclass : r.class? s.typeName with
      | error fault =>
          exact .inl ⟨fault, rfl, Resolution.outcome_resolve_error act hresolved hclass⟩
      | ok found =>
          exact .inr ⟨found, _, rfl, Resolution.outcome_resolve_ok hact hresolved hclass, rfl, rfl,
            fun _ => ⟨hclass, rfl⟩⟩

end Resolve

/-- The answer of a constraint, and an object that represents it still. -/
def Gives {α : Type} (r : Registry) (act : ObjectM Cell α) (c : Cell) (result : Except Fault α)
    (k : Constraint) : Prop :=
  (act.outcome c).1 = result ∧ Represents r (act.outcome c).2 k

theorem Gives.map {α β : Type} {act : ObjectM Cell α} {result : Except Fault α} (f : α → β)
    (h : Gives r act c result k) : Gives r (f <$> act) c (f <$> result) k := by
  obtain ⟨hresult, hcell⟩ := h
  unfold Gives
  rw [outcome_map]
  rcases hact : act.outcome c with ⟨x, c'⟩
  rw [hact] at hresult hcell
  obtain rfl : x = result := hresult
  cases x <;> exact ⟨rfl, hcell⟩

theorem gives_of_outcome {α : Type} {act : ObjectM Cell α} {result : Except Fault α}
    (h : Represents r c k) (hact : act.outcome c = (result, c)) : Gives r act c result k := by
  unfold Gives
  rw [hact]
  exact ⟨rfl, h⟩

theorem Gives.bind_lift {α β : Type} {x : Except Fault α} {f : α → ObjectM Cell β}
    {g : α → Except Fault β} (h : Represents r c k) (hfg : ∀ a, Gives r (f a) c (g a) k) :
    Gives r (liftM x >>= f) c (x >>= g) k := by
  cases x with
  | error fault => exact ⟨rfl, h⟩
  | ok a =>
      unfold Gives
      rw [outcome_lift_ok rfl]
      exact hfg a

/-- An action on the type name of an enumeration that looks up first. -/
theorem gives_of_resolve {α : Type} {act : ObjectM Cell α} {s : Resolution Derived}
    {f : Option Class → ObjectM (Resolution Derived) α} {result : Option Class → Except Fault α}
    (hs : s.IsCurrent r Derived.ofClass)
    (hact : act.outcome (.enumType s) =
      (within .enumType s (Resolution.resolve r Resolution.derive >>= f)).outcome (.enumType s))
    (hf : ∀ found (s' : Resolution Derived), s'.derived = Derived.ofClass found →
      (f found).outcome s' = (result found, s')) :
    Gives r act (.enumType s) (r.class? s.typeName >>= result) (.enumType s.typeName) := by
  unfold Gives
  rw [hact, outcome_within]
  rcases resolve_cases Resolution.outcome_derive hs with
    ⟨fault, hclass, hresolve⟩ | ⟨found, s', hclass, hresolve, hname, hderived, hs'⟩
  · rw [outcome_bind_error hresolve, hclass]
    exact ⟨rfl, .enumType hs⟩
  · rw [outcome_bind_ok hresolve, hf found s' hderived, hclass, ← hname]
    exact ⟨rfl, .enumType hs'⟩

/-! ## Values that are checked -/

theorem boundFailings_ofBound (side : Side) (hb : b.IsHeld) (t : DataType) (v : Value) :
    Cell.boundFailings (Kind.bound side).name side (.ofBound b) t v =
      (side.constraint b).failings r t v := by
  have hname : (Kind.bound side).name = (side.constraint b).name := by cases side <;> rfl
  have hfailings : (side.constraint b).failings r t v =
      (side.constraint b).boundFailings t b v side.wrong side.failing := by cases side <;> rfl
  rw [hfailings, Cell.boundFailings, Constraint.boundFailings, native, hname]
  cases nativeFor (side.constraint b).name t v with
  | error fault => rfl
  | ok w =>
      simp only [bind, Except.bind, text_ofBound hb]
      have hvalue : (Typed.ofBound b).value = b.value := rfl
      rw [hvalue]
      cases compare? w b.value with
      | none => rfl
      | some o =>
          by_cases ho : o = side.wrong
          · simp [failsUnless, ho, pure, Except.pure]
          · simp [failsUnless, ho, pure, Except.pure]

theorem failings_gives (h : Represents r c k) (t : DataType) (v : Value) :
    Gives r (failings r t v) c (k.failings r t v) k := by
  have hself := h
  cases h with
  | marker | length | charSet | allowedScheme => exact ⟨rfl, hself⟩
  | displayHint | database | step | decimalPlaces | typeName => exact ⟨rfl, hself⟩
  | bound side hb =>
      -- the object writes its bound when it is called, which a held bound always allows
      refine gives_of_outcome hself ?_
      rw [← boundFailings_ofBound side hb]
      rfl
  | regex e =>
      refine gives_of_outcome hself ?_
      have hcell : (failings r t v).outcome (.regex (.ofExpression e)) =
          (liftM (nativeFor "Regex" t v) >>= fun w =>
            pure (patternFailings e.program (w.text?.getD "")) :
              ObjectM Cell (List Failing)).outcome (.regex (.ofExpression e)) := rfl
      have hconstraint : (Constraint.regex e).failings r t v =
          nativeFor "Regex" t v >>= fun w =>
            .ok (patternFailings e.program (w.text?.getD "")) := rfl
      rw [hcell, hconstraint]
      cases nativeFor "Regex" t v with
      | error fault => exact outcome_lift_error rfl _ _
      | ok w => exact outcome_lift_ok rfl _ _
  | enumType hs =>
      refine gives_of_resolve hs rfl fun found s' hderived => ?_
      cases found with
      | none => rfl
      | some cls =>
          cases cls with
          | ordinary => rfl
          | enumeration e =>
              obtain ⟨hvalues, hmask⟩ := ofClass_enumeration e
              rw [outcome_bind_ok (outcome_get s'), hderived, hvalues, hmask]
              rfl
  | unset => exact ⟨rfl, hself⟩
  | values l =>
      have hmask : (if l.flags then some ((ValueList.mask? l).getD 0) else none) =
          ValueList.mask? l := by
        unfold ValueList.mask?
        split_ifs <;> rfl
      refine gives_of_outcome hself ?_
      have hconstraint : (Constraint.values (some l)).failings r t v =
          listedFailingsIn l.pairs (ValueList.mask? l) v := rfl
      rw [hconstraint, ← hmask]
      rfl

theorem check_gives (h : Represents r c k) (t : DataType) (v : Value) (member shown : String) :
    Gives r (check r t v member shown) c (reports (k.check r t v member shown)) k := by
  by_cases hnull : c = .marker .null
  · subst hnull
    cases h
    exact ⟨rfl, .marker .null⟩
  have hk : k ≠ .null := by
    rintro rfl
    generalize hk : Constraint.null = k at h
    cases h with
    | marker m => cases m <;> first | exact hnull rfl | cases hk
    | length m n => cases m <;> cases hk
    | bound side => cases side <;> cases hk
    | _ => cases hk
  by_cases hv : v = .null
  · subst hv
    rw [check_null hk]
    exact gives_of_outcome h (outcome_check_null hnull member shown)
  · unfold Gives
    rw [outcome_check hnull hv, h.judges_eq, h.name_eq]
    by_cases hjudges : k.judges t = true
    · rw [reports_check hjudges hv, if_neg (by simp [hjudges])]
      exact (failings_gives h t v).map _
    · rw [check_of_not_judges hk hv hjudges, if_pos (by simp [hjudges])]
      exact ⟨rfl, h⟩

theorem reports_bind {α : Type} (x : Except Fault α) (f : α → Except Fault (List Outcome)) :
    reports (x >>= f) = x >>= fun a => reports (f a) := by
  cases x <;> rfl

theorem checkWith_gives (h : Represents r c k) (t v member shown : Value) :
    Gives r (checkWith r t v member shown) c (reports (k.checkWith r t v member shown)) k := by
  unfold checkWith Constraint.checkWith
  rw [reports_bind]
  refine .bind_lift h fun t => ?_
  rw [reports_bind]
  refine .bind_lift h fun member => ?_
  rw [reports_bind]
  exact .bind_lift h fun shown => check_gives h t v member shown

/-! ## Configuring -/

/-- Both fail alike, or the object represents the constraint. -/
def Follows (r : Registry) (x : Except Fault Cell) (y : Except Fault Constraint) : Prop :=
  (∃ fault, x = .error fault ∧ y = .error fault) ∨
    ∃ c k, x = .ok c ∧ y = .ok k ∧ Represents r c k

theorem follows_map {α : Type} {x : Except Fault α} {f : α → Cell} {g : α → Constraint}
    (h : ∀ a, x = .ok a → Represents r (f a) (g a)) : Follows r (f <$> x) (g <$> x) := by
  cases x with
  | error fault => exact .inl ⟨fault, rfl, rfl⟩
  | ok a => exact .inr ⟨f a, g a, rfl, rfl, h a rfl⟩

theorem follows_map_map {α β : Type} {x : Except Fault α} {f : β → Cell} {f' : α → β}
    {g : α → Constraint} (h : ∀ a, Represents r (f (f' a)) (g a)) :
    Follows r (f <$> f' <$> x) (g <$> x) := by
  cases x with
  | error fault => exact .inl ⟨fault, rfl, rfl⟩
  | ok a => exact .inr ⟨_, _, rfl, rfl, h a⟩

/-- What is read as a value of an ordered type is a bound. -/
theorem exists_bound_of_read {text : String} (ht : t.isOrdered = true)
    (h : read none t text = .ok v) : ∃ b : Bound, b.dataType = t ∧ b.value = v ∧ b.IsHeld := by
  have hnone : t ≠ .none := by rintro rfl; cases ht
  have henum : t ≠ .enumeration := by rintro rfl; cases ht
  have hcoerced : Coerced t v v := by
    have hsettled : IsSettled .empty none t text := isSettled hnone
    rcases hsettled with (⟨fault, hread, -⟩ | ⟨w, hread, hw⟩) | ⟨fault, -, hread⟩
    · cases hread.symm.trans h
    · obtain rfl := Except.ok.inj (hread.symm.trans h)
      exact coerced_of_coerce henum hw
    · cases hread.symm.trans h
  obtain ⟨b, rfl, rfl⟩ := Bound.exists_of_coerced ht hcoerced
  exact ⟨b, rfl, rfl, (isReadable_of_read h).isHeld⟩

/-- A parameter is read as a bound. -/
theorem readBound_cases (name : String) (ht : t.isOrdered = true) (ps : List String) :
    (∃ fault, readParameter name t ps = .error fault ∧ readBound name t ps = .error fault) ∨
      ∃ b : Bound, readParameter name t ps = .ok b.value ∧ b.dataType = t ∧
        readBound name t ps = .ok b ∧ b.IsHeld := by
  unfold readBound
  cases hread : readParameter name t ps with
  | error fault => exact .inl ⟨fault, rfl, rfl⟩
  | ok v =>
      obtain ⟨p, -, hp⟩ := readParameter_eq_ok_iff.mp hread
      obtain ⟨b, htype, hvalue, hheld⟩ := exists_bound_of_read ht hp
      refine .inr ⟨b, by rw [hvalue], htype, ?_, hheld⟩
      simp only [bind, Except.bind, boundOf?_eq_some_iff.mpr ⟨htype, hvalue⟩]

/-- A parameter is read as the size of a step. -/
theorem readAmount_cases (name : String) (ht : t.isStepped = true) (ps : List String) :
    (∃ fault, readParameter name t ps = .error fault ∧ readAmount name t ps = .error fault) ∨
      ∃ size : Amount, readParameter name t ps = .ok size.value ∧ size.dataType = t ∧
        readAmount name t ps = .ok size ∧ (Bound.amount size).IsHeld := by
  unfold readAmount
  cases hread : readParameter name t ps with
  | error fault => exact .inl ⟨fault, rfl, rfl⟩
  | ok v =>
      obtain ⟨p, -, hp⟩ := readParameter_eq_ok_iff.mp hread
      have hordered : t.isOrdered = true := by cases t <;> first | rfl | cases ht
      obtain ⟨b, htype, hvalue, hheld⟩ := exists_bound_of_read hordered hp
      obtain ⟨size, rfl⟩ : ∃ size, b = .amount size := by
        cases b with
        | amount size => exact ⟨size, rfl⟩
        | _ => subst htype; cases ht
      have htype' : size.dataType = t := htype
      have hvalue' : size.value = v := hvalue
      refine .inr ⟨size, by rw [hvalue'], htype', ?_, hheld⟩
      simp only [bind, Except.bind, amountOf?_eq_some_iff.mpr ⟨htype', hvalue'⟩]

theorem link_follows (e k d : String) (hnone : t ≠ .none) (ps : List String) :
    Follows r (.database <$> Link.read "Database" ps)
      ((Constraint.database e k d).configure t ps) := by
  unfold configure
  rw [if_neg hnone, if_neg (by simp [Constraint.isConfiguredFor])]
  rcases ps with - | ⟨e, - | ⟨k, - | ⟨d, - | ⟨further, ps⟩⟩⟩⟩
  · exact .inl ⟨_, rfl, rfl⟩
  · exact .inr ⟨_, _, rfl, rfl, .database e "" ""⟩
  · exact .inr ⟨_, _, rfl, rfl, .database e k ""⟩
  · exact .inr ⟨_, _, rfl, rfl, .database e k d⟩
  · have hcount : (decide ((e :: k :: d :: further :: ps).length < 1) ||
        decide (3 < (e :: k :: d :: further :: ps).length)) = true := by simp
    refine .inl ⟨_, ?_, rfl⟩
    rw [Link.read, if_pos hcount]
    rfl

theorem charSet_follows (s : CharacterSet) (hnone : t ≠ .none)
    (ht : (Constraint.charSet s).isConfiguredFor t = true) (ps : List String) :
    Follows r (.charSet <$> readCharSet "CharSet" ps) ((Constraint.charSet s).configure t ps) := by
  unfold configure
  rw [if_neg hnone, if_neg (by simp [ht])]
  have hname : (Constraint.charSet s).name = "CharSet" := rfl
  simp only [readCharSet, hname]
  cases single "CharSet" ps with
  | error fault => exact .inl ⟨fault, rfl, rfl⟩
  | ok p =>
      simp only [bind, Except.bind]
      cases CharacterSet.ofName? (trim p) with
      | none => exact .inl ⟨_, rfl, rfl⟩
      | some s => exact .inr ⟨_, _, rfl, rfl, .charSet s⟩

theorem bound_follows (side : Side) (b : Bound) (hnone : t ≠ .none)
    (ht : (side.constraint b).isConfiguredFor t = true) (ps : List String) :
    Follows r (.bound side <$> (fun v => ⟨t, v⟩) <$> readParameter (Kind.bound side).name t ps)
      ((side.constraint b).configure t ps) := by
  have hordered : t.isOrdered = true := by cases side <;> exact ht
  have hconfigure : (side.constraint b).configure t ps =
      side.constraint <$> readBound (Kind.bound side).name t ps := by
    unfold configure
    rw [if_neg hnone, if_neg (by simp [ht])]
    cases side <;> rfl
  rw [hconfigure]
  rcases readBound_cases (Kind.bound side).name hordered ps with
    ⟨fault, hread, hbound⟩ | ⟨b', hread, rfl, hbound, hheld⟩
  · rw [hread, hbound]
    exact .inl ⟨fault, rfl, rfl⟩
  · rw [hread, hbound]
    exact .inr ⟨_, _, rfl, rfl, .bound side hheld⟩

theorem step_follows (size : Amount) (hnone : t ≠ .none)
    (ht : (Constraint.step size).isConfiguredFor t = true) (ps : List String) :
    Follows r (.step <$> (fun v => ⟨t, v⟩) <$> readParameter "Step" t ps)
      ((Constraint.step size).configure t ps) := by
  have hconfigure : (Constraint.step size).configure t ps = .step <$> readAmount "Step" t ps := by
    unfold configure
    rw [if_neg hnone, if_neg (by simp [ht])]
    rfl
  rw [hconfigure]
  rcases readAmount_cases "Step" ht ps with
    ⟨fault, hread, hamount⟩ | ⟨size', hread, rfl, hamount, hheld⟩
  · rw [hread, hamount]
    exact .inl ⟨fault, rfl, rfl⟩
  · rw [hread, hamount]
    exact .inr ⟨_, _, rfl, rfl, .step hheld⟩

theorem stored_follows (h : Represents r c k) (hnone : t ≠ .none)
    (ht : k.isConfiguredFor t = true) (ps : List String) :
    Follows r (c.stored t ps) (k.configure t ps) := by
  have hfor : ¬ (!k.isConfiguredFor t) = true := by simp [ht]
  -- where both sides map the same reading, only the objects that it gives are left to compare
  cases h with
  | database e k d => exact link_follows e k d hnone ps
  | charSet s => exact charSet_follows s hnone ht ps
  | @bound side b _ => exact bound_follows side b hnone ht ps
  | @step size _ => exact step_follows size hnone ht ps
  | marker m =>
      refine .inr ⟨.marker m, m.constraint, rfl, ?_, .marker m⟩
      cases m <;> exact if_neg hnone
  | length m n =>
      unfold configure
      rw [if_neg hnone, if_neg hfor]
      cases m <;> exact follows_map fun n _ => .length _ n
  | displayHint =>
      unfold configure
      rw [if_neg hnone, if_neg hfor]
      exact follows_map fun hints _ => .displayHint hints
  | decimalPlaces =>
      unfold configure
      rw [if_neg hnone, if_neg hfor]
      exact follows_map fun n _ => .decimalPlaces n
  | allowedScheme =>
      unfold configure
      rw [if_neg hnone, if_neg hfor]
      exact follows_map fun schemes _ => .allowedScheme schemes
  | regex =>
      unfold configure
      rw [if_neg hnone, if_neg hfor]
      exact follows_map_map fun e => .regex e
  | typeName =>
      unfold configure
      rw [if_neg hnone, if_neg hfor]
      exact follows_map_map fun typeName => .typeName nofun
  | enumType =>
      unfold configure
      rw [if_neg hnone, if_neg hfor]
      exact follows_map_map fun typeName => .enumType nofun
  | unset | values =>
      unfold configure
      rw [if_neg hnone, if_neg hfor]
      exact follows_map_map fun l => .values l

theorem configured_follows (h : Represents r c k) (t : Value) (ps : List String) :
    Follows r (c.configured t ps) (Argument.dataType t >>= fun t => k.configure t ps) := by
  unfold configured
  cases htype : Argument.dataType t with
  | error fault => exact .inl ⟨fault, rfl, rfl⟩
  | ok type =>
      have hnone : type ≠ .none := by
        rintro rfl
        have hdataType := dataType?_of_argument htype
        simp [Argument.dataType, hdataType] at htype
      simp only [bind, Except.bind, h.isConfiguredFor_eq, h.name_eq]
      by_cases hfor : (!k.isConfiguredFor type) = true
      · have hconfigure : k.configure type ps = .error (k.unsupported type) := by
          unfold configure
          rw [if_neg hnone, if_pos hfor]
        rw [if_pos hfor, hconfigure]
        exact .inl ⟨_, rfl, rfl⟩
      · rw [if_neg hfor]
        exact stored_follows h hnone (by simpa using hfor) ps

/-! ## Calls -/

/-- The class that the type name of a constraint stands for. -/
def foundClass (r : Registry) : Constraint → Except Fault (Option Class)
  | .typeName name | .enumType name => r.class? name
  | _ => .error (.plain .missingAttribute)

/-- Whether the type name of a constraint stands for an enumeration with flags. -/
def foundFlags (r : Registry) : Constraint → Except Fault Bool
  | .enumType name => r.class? name >>= fun found => .ok (Constraint.hasFlags found)
  | _ => .error (.plain .missingAttribute)

/-- The answer of a constraint to a call, and what the constraint has become. -/
def respond (r : Registry) (k : Constraint) : Call → Except Fault Answer × Constraint
  | .parameters => (.ok (.texts k.parameters), k)
  | .text => (.ok (.text k.text), k)
  | .fields => (.ok (.fields k.fields), k)
  | .equals other => (.ok (.flag (k.same other)), k)
  | .resolved => (.found <$> foundClass r k, k)
  | .hasFlags => (.flag <$> foundFlags r k, k)
  | .validate t v member shown => (.reports <$> reports (k.checkWith r t v member shown), k)
  | .set t ps =>
    match k.configureWith (.list (ps.map .text)) t with
    | .ok k' => (.ok .done, k')
    | .error fault => (.error fault, k)

/-- The answers of a constraint to calls that are made one after the other. -/
def responses (r : Registry) : Constraint → List Call → List (Except Fault Answer)
  | _, [] => []
  | k, request :: rest => (respond r k request).1 :: responses r (respond r k request).2 rest

theorem configureWith_texts (k : Constraint) (t : Value) (ps : List String) :
    k.configureWith (.list (ps.map .text)) t =
      Argument.dataType t >>= fun t => k.configure t ps := by
  have htexts : (ps.map Value.text).mapM Value.text? = some ps := by
    induction ps with
    | nil => rfl
    | cons p ps ih => simp [Value.text?, ih]
  simp only [configureWith, Value.items?, htexts]

theorem resolved_gives (h : Represents r c k) : Gives r (resolved r) c (foundClass r k) k := by
  have hself := h
  cases h with
  | @enumType s hs =>
      have hfound : foundClass r (.enumType s.typeName) = r.class? s.typeName >>= pure :=
        (bind_pure (r.class? s.typeName)).symm
      rw [hfound]
      refine gives_of_resolve (f := pure) hs ?_ fun _ _ _ => rfl
      rw [bind_pure]
      rfl
  | @typeName s hs =>
      have hcell : (resolved r).outcome (.typeName s) =
          (within .typeName s (Resolution.resolve r fun _ => pure ())).outcome (.typeName s) := rfl
      unfold Gives
      rw [hcell, outcome_within, foundClass]
      have hpure : ∀ (found : Option Class) (s : Resolution Unit),
          (pure () : ObjectM (Resolution Unit) Unit).outcome s =
            (.ok (), { s with derived := () }) :=
        fun _ _ => rfl
      rcases resolve_cases hpure hs with
        ⟨fault, hclass, hresolve⟩ | ⟨found, s', hclass, hresolve, hname, -, hs'⟩
      · rw [hresolve, hclass]
        exact ⟨rfl, .typeName hs⟩
      · rw [hresolve, hclass, ← hname]
        exact ⟨rfl, .typeName hs'⟩
  | marker m => cases m <;> exact ⟨rfl, hself⟩
  | length m => cases m <;> exact ⟨rfl, hself⟩
  | bound side => cases side <;> exact ⟨rfl, hself⟩
  | _ => exact ⟨rfl, hself⟩

theorem hasFlags_gives (h : Represents r c k) : Gives r (hasFlags r) c (foundFlags r k) k := by
  have hself := h
  cases h with
  | @enumType s hs =>
      refine gives_of_resolve hs rfl fun found s' hderived => ?_
      cases found with
      | none => rfl
      | some cls =>
          rw [outcome_bind_ok (outcome_get s'), hderived, hasFlags_ofClass]
          rfl
  | marker m => cases m <;> exact ⟨rfl, hself⟩
  | length m => cases m <;> exact ⟨rfl, hself⟩
  | bound side => cases side <;> exact ⟨rfl, hself⟩
  | _ => exact ⟨rfl, hself⟩

/-- One call: the object gives the answer of the constraint, and represents what it has become. -/
theorem call_represents (h : Represents r c k) (request : Call) :
    Gives r (call r request) c (respond r k request).1 (respond r k request).2 := by
  cases request with
  | parameters =>
      have hcall : (call r .parameters).outcome c = (.texts <$> c.parameters, c) := by
        unfold call
        rw [outcome_bind_ok (outcome_get c)]
        cases c.parameters <;> rfl
      exact gives_of_outcome h (by rw [hcall, h.parameters_eq]; rfl)
  | text =>
      have hcall : (call r .text).outcome c = (.text <$> c.text, c) := by
        unfold call
        rw [outcome_bind_ok (outcome_get c)]
        cases c.text <;> rfl
      exact gives_of_outcome h (by rw [hcall, h.text_eq]; rfl)
  | fields => exact gives_of_outcome h (by rw [respond, ← h.fields_eq]; rfl)
  | equals other =>
      exact gives_of_outcome h (by rw [outcome_equals, h.same_eq]; rfl)
  | resolved => exact (resolved_gives h).map _
  | hasFlags => exact (hasFlags_gives h).map _
  | validate t v member shown => exact (checkWith_gives h t v member shown).map _
  | set t ps =>
      have hcall : (call r (.set t ps)).outcome c =
          ((fun _ => Answer.done) <$> (settle (c.configured t ps) c).1,
            (settle (c.configured t ps) c).2) := by
        unfold call
        rw [outcome_bind, outcome_set]
        cases c.configured t ps <;> rfl
      unfold Gives
      rw [hcall, respond, configureWith_texts]
      rcases configured_follows h t ps with ⟨fault, hcell, hconstraint⟩ |
        ⟨c', k', hcell, hconstraint, hrepresents⟩
      · rw [hcell, hconstraint]
        exact ⟨rfl, h⟩
      · rw [hcell, hconstraint]
        exact ⟨rfl, hrepresents⟩

/-- Calls one after the other cannot tell an object from the constraint that it represents. -/
theorem answers_eq (h : Represents r c k) (calls : List Call) :
    c.answers (calls.map (r, ·)) = responses r k calls := by
  induction calls generalizing c k with
  | nil => rfl
  | cons request calls ih =>
      obtain ⟨hanswer, hrepresents⟩ := call_represents h request
      simp only [List.map_cons, answers, responses]
      rw [hanswer, ih hrepresents]

/-- Every constraint that can be made, other than one with a name of its own, is represented. -/
theorem exists_represents (hk : Reachable k) (hcustom : k.isCustom = false) :
    ∃ c, Represents r c k := by
  have hsound := hk.isSound
  cases k with
  | null => exact ⟨_, .marker .null⟩
  | encrypted => exact ⟨_, .marker .encrypted⟩
  | readOnly => exact ⟨_, .marker .readOnly⟩
  | lowercase => exact ⟨_, .marker .lowercase⟩
  | uppercase => exact ⟨_, .marker .uppercase⟩
  | password => exact ⟨_, .marker .password⟩
  | host => exact ⟨_, .marker .host⟩
  | endpoint => exact ⟨_, .marker .endpoint⟩
  | fileName => exact ⟨_, .marker .fileName⟩
  | path => exact ⟨_, .marker .path⟩
  | displayHint hints => exact ⟨_, .displayHint hints⟩
  | database e k d => exact ⟨_, .database e k d⟩
  | length n => exact ⟨_, .length .exact n⟩
  | minLength n => exact ⟨_, .length .least n⟩
  | maxLength n => exact ⟨_, .length .greatest n⟩
  | minValue b => exact ⟨_, .bound .least hsound⟩
  | maxValue b => exact ⟨_, .bound .greatest hsound⟩
  | step size => exact ⟨_, .step hsound⟩
  | decimalPlaces n => exact ⟨_, .decimalPlaces n⟩
  | charSet s => exact ⟨_, .charSet s⟩
  | regex e => exact ⟨_, .regex e⟩
  | allowedScheme schemes => exact ⟨_, .allowedScheme schemes⟩
  | typeName name => exact ⟨_, .typeName (s := .unresolved () name) nofun⟩
  | enumType name => exact ⟨_, .enumType (s := .unresolved ⟨[], false, 0⟩ name) nofun⟩
  | values list =>
      cases list with
      | none => exact ⟨_, .unset⟩
      | some l => exact ⟨_, .values l⟩
  | custom rule kept => cases hcustom

end Cell

end ParamRules
