import ParamRules.Constraint.Cell
import ParamRules.Proofs.Result

/-!
# Configuring an object

An object is configured all at once or not at all (`outcome_set`): whatever is refused is refused
before anything is stored, and what is stored is given by the kind, the parameters and the data type
alone.  What was derived from a class stays in the object when it gets another type name, but nobody
sees it: it is derived anew before it is read (`call_agreesOn`).  So two objects of one kind that
were configured alike answer alike from then on.
-/

namespace ParamRules

open Text

/-! ## Actions -/

namespace ObjectM

variable {σ τ α β : Type} {act : ObjectM σ α} {s s' : σ}

theorem outcome_get (s : σ) : (get : ObjectM σ σ).outcome s = (.ok s, s) := rfl

theorem outcome_modify (f : σ → σ) (s : σ) :
    (modify f : ObjectM σ PUnit).outcome s = (.ok ⟨⟩, f s) := rfl

theorem outcome_lift (x : Except Fault α) (s : σ) :
    (liftM x : ObjectM σ α).outcome s = (x, s) := rfl

theorem outcome_within (wrap : σ → τ) (act : ObjectM σ α) (s : σ) (t : τ) :
    (within wrap s act).outcome t = ((act.outcome s).1, wrap (act.outcome s).2) := rfl

theorem outcome_bind (act : ObjectM σ α) (f : α → ObjectM σ β) (s : σ) :
    (act >>= f).outcome s =
      match act.outcome s with
      | (.ok a, s') => (f a).outcome s'
      | (.error fault, s') => (.error fault, s') := by
  simp only [outcome, ExceptT.run, StateT.run, bind, ExceptT.bind, ExceptT.mk, StateT.bind,
    ExceptT.bindCont]
  cases act s with
  | mk result s' => cases result <;> rfl

theorem outcome_bind_ok {a : α} (h : act.outcome s = (.ok a, s')) (f : α → ObjectM σ β) :
    (act >>= f).outcome s = (f a).outcome s' := by
  rw [outcome_bind, h]

theorem outcome_bind_error {fault : Fault} (h : act.outcome s = (.error fault, s'))
    (f : α → ObjectM σ β) : (act >>= f).outcome s = (.error fault, s') := by
  rw [outcome_bind, h]

theorem outcome_lift_ok {x : Except Fault α} {a : α} (h : x = .ok a) (f : α → ObjectM σ β) (s : σ) :
    (liftM x >>= f).outcome s = (f a).outcome s := by
  rw [h]
  exact outcome_bind_ok (outcome_lift _ s) f

theorem outcome_lift_error {x : Except Fault α} {fault : Fault} (h : x = .error fault)
    (f : α → ObjectM σ β) (s : σ) : (liftM x >>= f).outcome s = (.error fault, s) := by
  rw [h]
  exact outcome_bind_error (outcome_lift _ s) f

theorem outcome_map (act : ObjectM σ α) (f : α → β) (s : σ) :
    (f <$> act).outcome s =
      match act.outcome s with
      | (.ok a, s') => (.ok (f a), s')
      | (.error fault, s') => (.error fault, s') := by
  simp only [outcome, ExceptT.run, StateT.run, Functor.map, ExceptT.map, ExceptT.mk, bind,
    StateT.bind]
  cases act s with
  | mk result s' => cases result <;> rfl

theorem outcome_forM (f : β → σ → σ) (bs : List β) (s : σ) :
    (bs.forM fun b => (modify (f b) : ObjectM σ PUnit)).outcome s =
      (.ok ⟨⟩, bs.foldl (fun s b => f b s) s) := by
  induction bs generalizing s with
  | nil => rfl
  | cons b bs ih =>
      have hstep : (List.forM (b :: bs) fun b => (modify (f b) : ObjectM σ PUnit)) =
          modify (f b) >>= fun _ => bs.forM fun b => modify (f b) := rfl
      rw [hstep, outcome_bind, outcome_modify]
      exact ih (f b s)

/-- What comes of an object that takes new fields if there are any, and stays as it was if there is
a fault. -/
def settle (read : Except Fault σ) (s : σ) : Except Fault Unit × σ :=
  match read with
  | .ok s' => (.ok (), s')
  | .error fault => (.error fault, s)

/-- An action that reads first and then stores settles. -/
theorem outcome_bind_lift {x : Except Fault α} {store : α → ObjectM σ Unit} {f : α → σ}
    (h : ∀ a, x = .ok a → (store a).outcome s = (.ok (), f a)) :
    (liftM x >>= store).outcome s = settle (f <$> x) s := by
  rw [outcome_bind, outcome_lift]
  cases x with
  | error fault => rfl
  | ok a => exact h a rfl

theorem settle_within (wrap : σ → τ) {read : Except Fault σ} {act : ObjectM σ Unit} {c : τ}
    (h : act.outcome s = settle read s) (hc : c = wrap s) :
    (within wrap s act).outcome c = settle (wrap <$> read) c := by
  rw [outcome_within, h, hc]
  cases read <;> rfl

end ObjectM

open ObjectM Constraint Result

namespace Cell

variable {name : String} {t : DataType} {ps : List String} {δ : Type}

/-! ## Fields that are read -/

/-- The link that parameters stand for. -/
def Link.read (name : String) (ps : List String) : Except Fault Link :=
  if ps.length < 1 || 3 < ps.length then .error (.inParameters name (.countBetween 1 3 ps.length))
  else .ok ⟨ps[0]?.getD "", ps[1]?.getD "", ps[2]?.getD ""⟩

theorem getD_append_empty (ps : List String) (i : Nat) (hi : i < 3) :
    ((ps ++ ["", ""])[i]?).getD "" = (ps[i]?).getD "" := by
  match ps with
  | [] => match i, hi with | 0, _ | 1, _ | 2, _ => rfl
  | [p] => match i, hi with | 0, _ | 1, _ | 2, _ => rfl
  | [p, q] => match i, hi with | 0, _ | 1, _ | 2, _ => rfl
  | p :: q :: r :: ps => match i, hi with | 0, _ | 1, _ | 2, _ => rfl

theorem Link.outcome_set (s : Link) :
    (Link.set name ps).outcome s = settle (Link.read name ps) s := by
  unfold Link.set Link.read
  by_cases hcount : (decide (ps.length < 1) || decide (3 < ps.length)) = true
  · rw [if_pos hcount, if_pos hcount]
    rfl
  · rw [if_neg hcount, if_neg hcount, ← getD_append_empty ps 0 (by decide),
      ← getD_append_empty ps 1 (by decide), ← getD_append_empty ps 2 (by decide)]
    rfl

theorem Typed.outcome_set (s : Typed) :
    (Typed.set name t ps).outcome s =
      settle ((fun v => ⟨t, v⟩) <$> readParameter name t ps) s :=
  outcome_bind_lift fun _ _ => rfl

/-- A pattern with what it is compiled to. -/
def Compiled.ofExpression (e : Expression) : Compiled :=
  ⟨e.pattern, e.options, e.program⟩

theorem Compiled.outcome_set (s : Compiled) :
    (Compiled.set name ps).outcome s =
      settle (Compiled.ofExpression <$> readExpression name ps) s :=
  outcome_bind_lift fun _ _ => rfl

/-- A type name that was not looked up, with what was derived before. -/
def Resolution.unresolved (derived : δ) (typeName : String) : Resolution δ :=
  ⟨typeName, none, false, derived⟩

theorem Resolution.outcome_set (s : Resolution δ) :
    (Resolution.set name ps).outcome s =
      settle (Resolution.unresolved s.derived <$> readTypeName name ps) s :=
  outcome_bind_lift fun _ _ => rfl

/-- Listed values with their mask. -/
def Listing.ofValueList (l : ValueList) : Listing :=
  ⟨.integer l.type, l.flags, l.pairs, (ValueList.mask? l).getD 0⟩

theorem foldl_union_mask (pairs : List (String × Int)) (s : Listing) :
    pairs.foldl (fun s p => { s with mask := Enumeration.union s.mask p.2 }) s =
      { s with mask := (pairs.map (·.2)).foldl Enumeration.union s.mask } := by
  induction pairs generalizing s with
  | nil => rfl
  | cons p pairs ih => exact ih _

theorem Listing.outcome_set (s : Listing) :
    (Listing.set name ps).outcome s =
      settle (Listing.ofValueList <$> readValues name ps) s := by
  refine outcome_bind_lift fun l _ => ?_
  obtain ⟨type, flags, pairs⟩ := l
  cases flags with
  | false => rfl
  | true =>
      have hloop := outcome_forM
        (fun (p : String × Int) (s : Listing) => { s with mask := Enumeration.union s.mask p.2 })
        pairs ⟨.integer type, true, pairs, 0⟩
      rw [foldl_union_mask] at hloop
      exact hloop

/-! ## Configuring -/

/-- The object with what parameters stand for. Of the object before it keeps what was derived from a
class, and nothing else but its kind. -/
def stored (c : Cell) (t : DataType) (ps : List String) : Except Fault Cell :=
  match c with
  | .marker _ => .ok c
  | .displayHint _ => .displayHint <$> readHints c.kind.name ps
  | .database _ => .database <$> Link.read c.kind.name ps
  | .length m _ => .length m <$> readLength c.kind.name ps
  | .bound side _ => .bound side <$> (fun v => ⟨t, v⟩) <$> readParameter c.kind.name t ps
  | .step _ => .step <$> (fun v => ⟨t, v⟩) <$> readParameter c.kind.name t ps
  | .decimalPlaces _ => .decimalPlaces <$> readPlaces c.kind.name ps
  | .charSet _ => .charSet <$> readCharSet c.kind.name ps
  | .regex _ => .regex <$> Compiled.ofExpression <$> readExpression c.kind.name ps
  | .allowedScheme _ => .allowedScheme <$> readSchemes c.kind.name ps
  | .typeName s => .typeName <$> Resolution.unresolved s.derived <$> readTypeName c.kind.name ps
  | .enumType s => .enumType <$> Resolution.unresolved s.derived <$> readTypeName c.kind.name ps
  | .values _ => .values <$> Listing.ofValueList <$> readValues c.kind.name ps

theorem outcome_store (t : DataType) (ps : List String) (c : Cell) :
    (store t ps).outcome c = settle (c.stored t ps) c := by
  unfold store stored
  rw [outcome_bind, outcome_get]
  cases c with
  | marker m => rfl
  | displayHint | length | decimalPlaces | charSet | allowedScheme =>
      exact outcome_bind_lift fun _ _ => rfl
  | database link => exact settle_within _ (Link.outcome_set link) rfl
  | bound side b => exact settle_within _ (Typed.outcome_set b) rfl
  | step size => exact settle_within _ (Typed.outcome_set size) rfl
  | regex compiled => exact settle_within _ (Compiled.outcome_set compiled) rfl
  | typeName s | enumType s => exact settle_within _ (Resolution.outcome_set s) rfl
  | values listing => exact settle_within _ (Listing.outcome_set listing) rfl

/-- The object that is configured. -/
def configured (c : Cell) (t : Value) (ps : List String) : Except Fault Cell := do
  let t ← Argument.dataType t
  if !c.kind.isConfiguredFor t then
    .error (.plain (.dataType c.kind.name t .unsupported .dataTypeNotSupported))
  else c.stored t ps

/-- Configuring an object changes it as a whole, or leaves it as it was. -/
theorem outcome_set (t : Value) (ps : List String) (c : Cell) :
    (set t ps).outcome c = settle (c.configured t ps) c := by
  unfold set configured
  cases Argument.dataType t with
  | error fault => exact outcome_lift_error rfl _ c
  | ok t =>
      rw [outcome_lift_ok rfl, outcome_bind_ok (outcome_get c)]
      simp only [bind, Except.bind]
      by_cases hfor : (!c.kind.isConfiguredFor t) = true
      · rw [if_pos hfor, if_pos hfor]
        rfl
      · rw [if_neg hfor, if_neg hfor]
        exact outcome_store t ps c

/-! ## Looking up -/

/-- What the values of an enumeration are checked by, from the class alone. -/
def Derived.ofClass (found : Option Class) : Derived :=
  match found with
  | some (.enumeration e) =>
    let values := e.entries.map (·.2)
    if values.all (·.number?.isSome) then values.foldl withBits ⟨values, e.isFlags, 0⟩
    else ⟨[], false, 0⟩
  | _ => ⟨[], false, 0⟩

theorem foldl_withBits (values : List Literal) (s : Resolution Derived) :
    values.foldl (fun s v => { s with derived := s.derived.withBits v }) s =
      { s with derived := values.foldl Derived.withBits s.derived } := by
  induction values generalizing s with
  | nil => rfl
  | cons v values ih => exact ih _

namespace Resolution

variable {r : Registry} {found : Option Class} {α : Type}

theorem outcome_derive (found : Option Class) (s : Resolution Derived) :
    (derive found).outcome s = (.ok (), { s with derived := Derived.ofClass found }) := by
  unfold derive Derived.ofClass
  rw [outcome_bind_ok (outcome_modify _ s), outcome_bind_ok (outcome_modify _ _),
    outcome_bind_ok (outcome_modify _ _)]
  cases found with
  | none => rfl
  | some c =>
      cases c with
      | ordinary => rfl
      | enumeration e =>
          simp only
          by_cases hall : (e.entries.map (·.2)).all (·.number?.isSome) = true
          · rw [if_pos hall, if_pos hall, outcome_bind_ok (outcome_modify _ _),
              outcome_bind_ok (outcome_modify _ _), outcome_forM, foldl_withBits]
          · rw [if_neg hall, if_neg hall]
            rfl

section Resolve

variable {act : Option Class → ObjectM (Resolution δ) Unit} {ofClass : Option Class → δ}
  {s : Resolution δ}

theorem outcome_resolve_resolved (act : Option Class → ObjectM (Resolution δ) Unit)
    (hs : s.isResolved = true) : (resolve r act).outcome s = (.ok s.found, s) := by
  unfold resolve
  rw [outcome_bind_ok (outcome_get s), if_pos hs]
  rfl

theorem outcome_resolve_error {fault : Fault} (act : Option Class → ObjectM (Resolution δ) Unit)
    (hs : s.isResolved = false) (hclass : r.class? s.typeName = .error fault) :
    (resolve r act).outcome s = (.error fault, s) := by
  unfold resolve
  rw [outcome_bind_ok (outcome_get s), if_neg (by rw [hs]; exact Bool.false_ne_true)]
  exact outcome_lift_error hclass _ s

/-- What is looked up depends on the type name alone. -/
theorem outcome_resolve_ok
    (hact : ∀ found s, (act found).outcome s = (.ok (), { s with derived := ofClass found }))
    (hs : s.isResolved = false) (hclass : r.class? s.typeName = .ok found) :
    (resolve r act).outcome s = (.ok found, ⟨s.typeName, found, true, ofClass found⟩) := by
  unfold resolve
  rw [outcome_bind_ok (outcome_get s), if_neg (by rw [hs]; exact Bool.false_ne_true),
    outcome_lift_ok hclass, outcome_bind_ok (outcome_modify _ _),
    outcome_bind_ok (outcome_modify _ _), outcome_bind_ok (hact found _)]
  rfl

end Resolve

/-- An action that looks up first either fails there or loses what was derived before. -/
theorem outcome_resolve_bind (r : Registry) (typeName : String)
    (f : Option Class → ObjectM (Resolution Derived) α) :
    (∃ fault, ∀ d, (resolve r derive >>= f).outcome (unresolved d typeName) =
        (.error fault, unresolved d typeName)) ∨
      ∃ result s, ∀ d, (resolve r derive >>= f).outcome (unresolved d typeName) = (result, s) := by
  have hname : ∀ d : Derived, r.class? (unresolved d typeName).typeName = r.class? typeName :=
    fun _ => rfl
  cases hclass : r.class? typeName with
  | error fault =>
      refine .inl ⟨fault, fun d => ?_⟩
      have hresolve := outcome_resolve_error derive (s := unresolved d typeName) rfl
        ((hname d).trans hclass)
      exact outcome_bind_error hresolve f
  | ok found =>
      let s : Resolution Derived := ⟨typeName, found, true, Derived.ofClass found⟩
      refine .inr ⟨((f found).outcome s).1, ((f found).outcome s).2, fun d => ?_⟩
      have hresolve := outcome_resolve_ok (s := unresolved d typeName) outcome_derive rfl
        ((hname d).trans hclass)
      exact outcome_bind_ok hresolve f

end Resolution

/-! ## Objects that answer alike -/

/-- Objects that are the same but for what was derived from a class before the type name was set. -/
inductive Agrees : Cell → Cell → Prop where
  | refl (c : Cell) : Agrees c c
  | unresolved (typeName : String) (d d' : Derived) :
      Agrees (.enumType (.unresolved d typeName)) (.enumType (.unresolved d' typeName))

variable {a b : Cell} {r : Registry}

theorem Agrees.kind (h : Agrees a b) : a.kind = b.kind := by
  cases h <;> rfl

/-- The same result from both objects, which agree afterwards. -/
def AgreesOn {α : Type} (act : ObjectM Cell α) (a b : Cell) : Prop :=
  (act.outcome a).1 = (act.outcome b).1 ∧ Agrees (act.outcome a).2 (act.outcome b).2

theorem AgreesOn.map {α β : Type} {act : ObjectM Cell α} (f : α → β) (h : AgreesOn act a b) :
    AgreesOn (f <$> act) a b := by
  obtain ⟨hresult, hcell⟩ := h
  unfold AgreesOn
  rw [outcome_map, outcome_map]
  rcases ha : act.outcome a with ⟨x, a'⟩
  rcases hb : act.outcome b with ⟨y, b'⟩
  rw [ha, hb] at hresult hcell
  obtain rfl : x = y := hresult
  cases x <;> exact ⟨rfl, hcell⟩

theorem kind_of_stored {c' : Cell} (h : a.stored t ps = .ok c') : c'.kind = a.kind := by
  cases a with
  | marker m =>
      cases h
      rfl
  | _ =>
      obtain ⟨x, -, rfl⟩ := map_eq_ok_iff.mp h
      rfl

theorem AgreesOn.bind_lift {α β : Type} {x : Except Fault α} {f : α → ObjectM Cell β}
    (h : Agrees a b) (hf : ∀ x, AgreesOn (f x) a b) : AgreesOn (liftM x >>= f) a b := by
  cases x with
  | error fault => exact ⟨rfl, h⟩
  | ok x =>
      unfold AgreesOn
      rw [outcome_lift_ok rfl, outcome_lift_ok rfl]
      exact hf x

/-- What is stored depends on the kind, and on nothing else that is seen. -/
theorem stored_agrees (h : a.kind = b.kind) (t : DataType) (ps : List String) :
    (∃ fault, a.stored t ps = .error fault ∧ b.stored t ps = .error fault) ∨
      ∃ a' b', a.stored t ps = .ok a' ∧ b.stored t ps = .ok b' ∧ Agrees a' b' := by
  have hsame : a.stored t ps = b.stored t ps →
      (∃ fault, a.stored t ps = .error fault ∧ b.stored t ps = .error fault) ∨
        ∃ a' b', a.stored t ps = .ok a' ∧ b.stored t ps = .ok b' ∧ Agrees a' b' := by
    intro heq
    cases ha : a.stored t ps with
    | error fault => exact .inl ⟨fault, rfl, heq ▸ ha⟩
    | ok a' => exact .inr ⟨a', a', rfl, heq ▸ ha, .refl a'⟩
  -- the type of an enumeration alone keeps something of what it held before
  cases a <;> cases b <;> cases h
  case enumType.enumType s s' =>
      simp only [stored, kind]
      cases readTypeName Kind.enumType.name ps with
      | error fault => exact .inl ⟨fault, rfl, rfl⟩
      | ok typeName =>
          exact .inr ⟨_, _, rfl, rfl, .unresolved typeName s.derived s'.derived⟩
  all_goals exact hsame rfl

theorem configured_agrees (h : a.kind = b.kind) (t : Value) (ps : List String) :
    (∃ fault, a.configured t ps = .error fault ∧ b.configured t ps = .error fault) ∨
      ∃ a' b', a.configured t ps = .ok a' ∧ b.configured t ps = .ok b' ∧ Agrees a' b' ∧
        a'.kind = a.kind := by
  unfold configured
  rw [← h]
  cases Argument.dataType t with
  | error fault => exact .inl ⟨fault, rfl, rfl⟩
  | ok t =>
      simp only [bind, Except.bind]
      by_cases hfor : (!a.kind.isConfiguredFor t) = true
      · rw [if_pos hfor]
        exact .inl ⟨_, rfl, if_pos hfor⟩
      · rw [if_neg hfor, if_neg hfor]
        refine (stored_agrees h t ps).imp_right ?_
        rintro ⟨a', b', ha, hb, hagrees⟩
        exact ⟨a', b', ha, hb, hagrees, kind_of_stored ha⟩

theorem set_agreesOn (h : Agrees a b) (t : Value) (ps : List String) : AgreesOn (set t ps) a b := by
  unfold AgreesOn
  rw [outcome_set, outcome_set]
  rcases configured_agrees h.kind t ps with ⟨fault, ha, hb⟩ | ⟨a', b', ha, hb, hagrees, -⟩
  · rw [ha, hb]
    exact ⟨rfl, h⟩
  · rw [ha, hb]
    exact ⟨rfl, hagrees⟩

theorem outcome_check_null {c : Cell} {t : DataType} (hc : c ≠ .marker .null)
    (member shown : String) :
    (check r t .null member shown).outcome c =
      (.error (.argument member (.isNot "value must not be None")), c) := by
  unfold check
  rw [outcome_bind_ok (outcome_get c)]
  split
  · exact absurd rfl hc
  · rfl
  · rename_i hv
    exact absurd rfl hv

/-- A check by a constraint that does not allow nothing, of a value other than nothing. -/
theorem outcome_check {c : Cell} {t : DataType} {v : Value} (hc : c ≠ .marker .null)
    (hv : v ≠ .null) (member shown : String) :
    (check r t v member shown).outcome c =
      if !c.kind.judges t then
        (.error (.plain (.dataType c.kind.name t .unsupported .dataTypeNotSupported)), c)
      else
        ((fun found => found.map fun f => (f.1, shown ++ " " ++ f.2, [trim member])) <$>
          failings r t v).outcome c := by
  unfold check
  rw [outcome_bind_ok (outcome_get c)]
  split
  · exact absurd rfl hc
  · exact absurd rfl hv
  · by_cases hjudges : (!c.kind.judges t) = true
    · rw [if_pos hjudges, if_pos hjudges]
      rfl
    · rw [if_neg hjudges, if_neg hjudges]
      rfl

section Unresolved

variable (r : Registry) (typeName : String) (d d' : Derived)

/-- Actions that look up first agree on objects with different leftovers. -/
theorem agreesOn_of_resolve {α : Type} {act : ObjectM Cell α}
    {f : Option Class → ObjectM (Resolution Derived) α}
    (hact : ∀ s, act.outcome (.enumType s) =
      (within .enumType s (Resolution.resolve r Resolution.derive >>= f)).outcome (.enumType s)) :
    AgreesOn act (.enumType (.unresolved d typeName)) (.enumType (.unresolved d' typeName)) := by
  unfold AgreesOn
  rw [hact, hact, outcome_within, outcome_within]
  rcases Resolution.outcome_resolve_bind r typeName f with ⟨fault, hfault⟩ | ⟨result, s, hsame⟩
  · rw [hfault, hfault]
    exact ⟨rfl, .unresolved typeName d d'⟩
  · rw [hsame, hsame]
    exact ⟨rfl, .refl _⟩

theorem check_agreesOn (t : DataType) (v : Value) (member shown : String) :
    AgreesOn (check r t v member shown) (.enumType (.unresolved d typeName))
      (.enumType (.unresolved d' typeName)) := by
  by_cases hv : v = .null
  · rw [hv]
    exact ⟨rfl, .unresolved typeName d d'⟩
  · have hne : ∀ e, Cell.enumType (.unresolved e typeName) ≠ .marker .null := fun _ => nofun
    have hfailings : AgreesOn (failings r t v) (.enumType (.unresolved d typeName))
        (.enumType (.unresolved d' typeName)) :=
      agreesOn_of_resolve r typeName d d' fun _ => rfl
    have hmap := hfailings.map fun found =>
      found.map fun f => (f.1, shown ++ " " ++ f.2, [trim member])
    have hkind : ∀ e, (Cell.enumType (.unresolved e typeName)).kind = .enumType := fun _ => rfl
    unfold AgreesOn at hmap ⊢
    rw [outcome_check (hne d) hv, outcome_check (hne d') hv, hkind, hkind]
    by_cases hjudges : (!Kind.enumType.judges t) = true
    · rw [if_pos hjudges, if_pos hjudges]
      exact ⟨rfl, .unresolved typeName d d'⟩
    · rw [if_neg hjudges, if_neg hjudges]
      exact hmap

end Unresolved

theorem outcome_equals (r : Registry) (other : Constraint) (c : Cell) :
    (call r (.equals other)).outcome c = (.flag <$> c.same other, c) := by
  unfold call
  rw [outcome_bind_ok (outcome_get c)]
  cases c.same other <;> rfl

/-- One call: objects that agree give the same answer, and agree afterwards. -/
theorem call_agreesOn (h : Agrees a b) (r : Registry) (request : Call) :
    AgreesOn (call r request) a b := by
  cases h with
  | refl => exact ⟨rfl, .refl _⟩
  | unresolved typeName d d' =>
      -- `Agrees` is lost by no call: one that looks at what was derived looks up first
      have hagrees : Agrees (.enumType (.unresolved d typeName))
          (.enumType (.unresolved d' typeName)) := .unresolved typeName d d'
      cases request with
      | parameters | text | fields => exact ⟨rfl, hagrees⟩
      | equals other =>
          unfold AgreesOn
          rw [outcome_equals, outcome_equals]
          exact ⟨rfl, hagrees⟩
      | resolved =>
          refine AgreesOn.map _ (agreesOn_of_resolve r typeName d d' (f := pure) fun s => ?_)
          rw [bind_pure]
          rfl
      | hasFlags => exact AgreesOn.map _ (agreesOn_of_resolve r typeName d d' fun _ => rfl)
      | validate t v member shown =>
          refine AgreesOn.map _ ?_
          refine .bind_lift hagrees fun t => .bind_lift hagrees fun member => ?_
          exact .bind_lift hagrees fun shown => check_agreesOn r typeName d d' t v member shown
      | set t ps => exact AgreesOn.map _ (set_agreesOn hagrees t ps)

/-- Calls one after the other: objects that agree give the same answers. -/
theorem answers_eq_of_agrees (h : Agrees a b) (calls : List (Registry × Call)) :
    a.answers calls = b.answers calls := by
  induction calls generalizing a b with
  | nil => rfl
  | cons request calls ih =>
      obtain ⟨r, request⟩ := request
      obtain ⟨hanswer, hcell⟩ := call_agreesOn h r request
      simp only [answers]
      rw [hanswer, ih hcell]

/-- Configuring an object either fails and changes nothing, or leaves it in a state of which all
later answers depend on the kind, the parameters and the data type alone: any other object of the
kind that is configured alike answers alike. -/
theorem set_all_or_nothing (h : a.kind = b.kind) (t : Value) (ps : List String) :
    (∃ fault, (set t ps).outcome a = (.error fault, a) ∧
        (set t ps).outcome b = (.error fault, b)) ∨
      ∃ a' b', (set t ps).outcome a = (.ok (), a') ∧ (set t ps).outcome b = (.ok (), b') ∧
        a'.kind = a.kind ∧ b'.kind = b.kind ∧
        ∀ calls : List (Registry × Call), a'.answers calls = b'.answers calls := by
  rw [outcome_set, outcome_set]
  rcases configured_agrees h t ps with ⟨fault, ha, hb⟩ | ⟨a', b', ha, hb, hagrees, hkind⟩
  · rw [ha, hb]
    exact .inl ⟨fault, rfl, rfl⟩
  · rw [ha, hb]
    exact .inr ⟨a', b', rfl, rfl, hkind, (hagrees.kind.symm.trans hkind).trans h,
      answers_eq_of_agrees hagrees⟩

theorem set_all_or_nothing_flags :
    let resolved : Cell := .enumType ⟨"a:Old", some (.ordinary "a" "Old" none), true, ⟨[], true, 7⟩⟩
    let fresh : Cell := .enumType ⟨"a:New", none, false, ⟨[], false, 0⟩⟩
    resolved.kind = fresh.kind ∧
      ((∃ fault, (set (.ofDataType .enumeration) ["a:Next"]).outcome resolved =
            (.error fault, resolved) ∧
          (set (.ofDataType .enumeration) ["a:Next"]).outcome fresh = (.error fault, fresh)) ∨
        ∃ a' b', (set (.ofDataType .enumeration) ["a:Next"]).outcome resolved = (.ok (), a') ∧
          (set (.ofDataType .enumeration) ["a:Next"]).outcome fresh = (.ok (), b') ∧
          a'.kind = resolved.kind ∧ b'.kind = fresh.kind ∧
          ∀ calls : List (Registry × Call), a'.answers calls = b'.answers calls) := by
  intro resolved fresh
  have hkind : resolved.kind = fresh.kind := rfl
  exact ⟨hkind, set_all_or_nothing hkind (.ofDataType .enumeration) ["a:Next"]⟩

end Cell

end ParamRules
