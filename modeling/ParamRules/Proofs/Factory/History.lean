import ParamRules.Proofs.Factory

/-!
# Names resolved after a history of registrations

The handlers of a factory are registered and removed one by one, the same handler several times
perhaps.  A removal drops the earliest registration of a handler that is still there.  What is left
after a history is therefore told by the times of the registrations alone: those that survive, in
their order (`IsKept`).  A step of the history keeps this, and so does a run (`exists_isKept`).

A name is then resolved in two tiers.  The handlers are asked where no builder gives a constraint,
and none of them after the first answer (`findsInTiers`).
-/

namespace ParamRules

open Text

namespace Factory

/-- A change of the handlers of a factory.  A handler is removed by what tells it from others. -/
inductive Change where
  | add (h : Handler)
  | remove (same : Handler → Bool)

/-- The factory after a change. -/
def Change.apply (f : Factory) : Change → Factory
  | .add h => f.add h
  | .remove same => (f.removeFirst same).1

/-- The factory after a history of changes, from one without handlers. -/
def after (logger : String) (changes : List Change) : Factory :=
  changes.foldl Change.apply ⟨[], logger⟩

/-- Whether a handler was registered at a time that a test holds of. -/
def RegisteredAs (changes : List Change) (same : Handler → Bool) (i : Nat) : Prop :=
  ∃ h, changes[i]? = some (.add h) ∧ same h = true

/-- Whether the registration that was made at a time survives the first changes of a history.  A
removal drops the earliest surviving one that its test holds of. -/
def Survives (changes : List Change) : Nat → Nat → Prop
  | 0, _ => False
  | n + 1, i =>
    match changes[n]? with
    | some (.add _) => Survives changes n i ∨ i = n
    | some (.remove same) =>
      Survives changes n i ∧ ¬ (RegisteredAs changes same i ∧
        ∀ j < i, Survives changes n j → ¬ RegisteredAs changes same j)
    | none => Survives changes n i

/-- The registrations that survive the first changes of a history, with their times and in their
order. -/
structure IsKept (changes : List Change) (n : Nat) (kept : List (Nat × Handler)) : Prop where
  ordered : kept.Pairwise fun a b => a.1 < b.1
  mem_iff : ∀ i h, (i, h) ∈ kept ↔ changes[i]? = some (.add h) ∧ Survives changes n i

variable {changes : List Change} {kept : List (Nat × Handler)} {n i : Nat} {h : Handler}
  {same : Handler → Bool} {f : Factory} {builders : Builders} {name : String} {t : DataType}

/-! ## One change -/

theorem survives_add (hn : changes[n]? = some (.add h)) :
    Survives changes (n + 1) i ↔ Survives changes n i ∨ i = n := by
  rw [Survives, hn]

theorem survives_remove (hn : changes[n]? = some (.remove same)) :
    Survives changes (n + 1) i ↔ Survives changes n i ∧
      ¬ (RegisteredAs changes same i ∧
        ∀ j < i, Survives changes n j → ¬ RegisteredAs changes same j) := by
  rw [Survives, hn]

theorem survives_none (hn : changes[n]? = none) :
    Survives changes (n + 1) i ↔ Survives changes n i := by
  rw [Survives, hn]

theorem lt_of_survives (hi : Survives changes n i) : i < n := by
  induction n with
  | zero => exact hi.elim
  | succ n ih =>
      cases hn : changes[n]? with
      | none => exact (ih ((survives_none hn).mp hi)).trans n.lt_succ_self
      | some change =>
          cases change with
          | add h =>
              rcases (survives_add hn).mp hi with hi | rfl
              · exact (ih hi).trans n.lt_succ_self
              · exact i.lt_succ_self
          | remove same => exact (ih ((survives_remove hn).mp hi).1).trans n.lt_succ_self

/-- A registration stands last among those that survive it. -/
theorem IsKept.add (hkept : IsKept changes n kept) (hn : changes[n]? = some (.add h)) :
    IsKept changes (n + 1) (kept ++ [(n, h)]) := by
  refine ⟨?_, fun i k => ?_⟩
  · refine List.pairwise_append.mpr ⟨hkept.ordered, List.pairwise_singleton _ _, ?_⟩
    rintro ⟨i, k⟩ hi ⟨j, l⟩ hj
    obtain ⟨rfl, rfl⟩ := Prod.mk.inj (List.mem_singleton.mp hj)
    exact lt_of_survives ((hkept.mem_iff i k).mp hi).2
  · rw [List.mem_append, hkept.mem_iff, List.mem_singleton, Prod.mk.injEq, survives_add hn]
    constructor
    · rintro (⟨hadd, hi⟩ | ⟨rfl, rfl⟩)
      · exact ⟨hadd, .inl hi⟩
      · exact ⟨hn, .inr rfl⟩
    · rintro ⟨hadd, hi | rfl⟩
      · exact .inl ⟨hadd, hi⟩
      · cases hn.symm.trans hadd
        exact .inr ⟨rfl, rfl⟩

/-- Of entries in the order of their times, erasing takes the earliest that a test holds of. -/
theorem mem_eraseP_iff {p : Nat × Handler → Bool} (hkept : kept.Pairwise fun a b => a.1 < b.1)
    (x : Nat × Handler) :
    x ∈ kept.eraseP p ↔ x ∈ kept ∧ ¬ (p x = true ∧ ∀ y ∈ kept, y.1 < x.1 → ¬ p y = true) := by
  induction kept with
  | nil => simp
  | cons a kept ih =>
      obtain ⟨ha, hkept⟩ := List.pairwise_cons.mp hkept
      by_cases hp : p a = true
      · rw [List.eraseP_cons_of_pos hp, List.mem_cons, List.forall_mem_cons]
        constructor
        · intro hx
          exact ⟨.inr hx, fun hfirst => hfirst.2.1 (ha x hx) hp⟩
        · rintro ⟨rfl | hx, hfirst⟩
          · refine absurd ⟨hp, fun hlt => absurd hlt (lt_irrefl _), fun y hy hlt => ?_⟩ hfirst
            exact absurd hlt (ha y hy).asymm
          · exact hx
      · rw [List.eraseP_cons_of_neg hp, List.mem_cons, List.mem_cons, List.forall_mem_cons,
          ih hkept]
        constructor
        · rintro (rfl | ⟨hx, hfirst⟩)
          · exact ⟨.inl rfl, fun hfirst => hp hfirst.1⟩
          · exact ⟨.inr hx, fun hall => hfirst ⟨hall.1, hall.2.2⟩⟩
        · rintro ⟨rfl | hx, hfirst⟩
          · exact .inl rfl
          · exact .inr ⟨hx, fun hall => hfirst ⟨hall.1, fun _ => hp, hall.2⟩⟩

/-- The tests that hold of what is kept are those that hold of what survives. -/
theorem IsKept.forall_not_iff (hkept : IsKept changes n kept) (same : Handler → Bool)
    (P : Nat → Prop) :
    (∀ y ∈ kept, P y.1 → ¬ same y.2 = true) ↔
      ∀ j, P j → Survives changes n j → ¬ RegisteredAs changes same j := by
  constructor
  · rintro hall j hj hsurvives ⟨h, hadd, hsame⟩
    exact hall (j, h) ((hkept.mem_iff j h).mpr ⟨hadd, hsurvives⟩) hj hsame
  · rintro hall ⟨j, h⟩ hmem hj hsame
    obtain ⟨hadd, hsurvives⟩ := (hkept.mem_iff j h).mp hmem
    exact hall j hj hsurvives ⟨h, hadd, hsame⟩

theorem IsKept.remove (hkept : IsKept changes n kept) (hn : changes[n]? = some (.remove same)) :
    IsKept changes (n + 1) (kept.eraseP fun entry => same entry.2) := by
  refine ⟨hkept.ordered.sublist List.eraseP_sublist, fun i h => ?_⟩
  rw [mem_eraseP_iff hkept.ordered, hkept.forall_not_iff same (· < i), hkept.mem_iff,
    survives_remove hn]
  have hregistered (hadd : changes[i]? = some (.add h)) :
      RegisteredAs changes same i ↔ same h = true := by
    constructor
    · rintro ⟨k, hk, hsame⟩
      cases hadd.symm.trans hk
      exact hsame
    · exact fun hsame => ⟨h, hadd, hsame⟩
  constructor
  · rintro ⟨⟨hadd, hi⟩, hfirst⟩
    exact ⟨hadd, hi, by rwa [hregistered hadd]⟩
  · rintro ⟨hadd, hi, hfirst⟩
    exact ⟨⟨hadd, hi⟩, by rwa [hregistered hadd] at hfirst⟩

theorem handlers_removeFirst (f : Factory) (same : Handler → Bool) :
    (f.removeFirst same).1.handlers = f.handlers.eraseP same := by
  unfold removeFirst
  split_ifs with hany
  · rfl
  · refine (List.eraseP_of_forall_not fun h hh hsame => ?_).symm
    exact hany (List.any_eq_true.mpr ⟨h, hh, hsame⟩)

/-! ## A history -/

/-- After any number of changes the handlers are the registrations that survive these. -/
theorem exists_isKept (logger : String) (changes : List Change) (n : Nat) :
    ∃ kept, IsKept changes n kept ∧
      (after logger (changes.take n)).handlers = kept.map (·.2) := by
  induction n with
  | zero => exact ⟨[], ⟨.nil, fun i h => by simp [Survives]⟩, rfl⟩
  | succ n ih =>
      obtain ⟨kept, hkept, hhandlers⟩ := ih
      cases hn : changes[n]? with
      | none =>
          refine ⟨kept, ⟨hkept.ordered, fun i h => ?_⟩, ?_⟩
          · rw [hkept.mem_iff, survives_none hn]
          · rw [List.take_add_one, hn, Option.toList_none, List.append_nil, hhandlers]
      | some change =>
          have hstep : after logger (changes.take (n + 1)) =
              change.apply (after logger (changes.take n)) := by
            rw [List.take_add_one, hn, after, List.foldl_append]
            rfl
          rw [hstep]
          cases change with
          | add h =>
              refine ⟨_, hkept.add hn, ?_⟩
              rw [List.map_append, ← hhandlers]
              rfl
          | remove same =>
              refine ⟨_, hkept.remove hn, ?_⟩
              rw [Change.apply, handlers_removeFirst, hhandlers, List.eraseP_map]
              rfl

/-- A removal reports nothing and changes nothing where its test holds of no handler. -/
theorem removeFirst_eq_self_iff :
    f.removeFirst same = (f, false) ↔ ∀ h ∈ f.handlers, ¬ same h = true := by
  unfold removeFirst
  split_ifs with hany
  · obtain ⟨h, hh, hsame⟩ := List.any_eq_true.mp hany
    constructor
    · intro heq
      cases (Prod.mk.inj heq).2
    · exact fun hnone => absurd hsame (hnone h hh)
  · exact ⟨fun _ h hh hsame => hany (List.any_eq_true.mpr ⟨h, hh, hsame⟩), fun _ => rfl⟩

theorem removeFirst_snd_eq_true_iff :
    (f.removeFirst same).2 = true ↔ ∃ h ∈ f.handlers, same h = true := by
  rw [← List.any_eq_true]
  unfold removeFirst
  split_ifs with hany <;> simp [hany]

/-! ## Two tiers -/

/-- Asks a handler, and notes that it was asked. -/
def noting (name : String) (t : DataType) (h : Handler) :
    ExceptT CustomRefusal (StateM (List Handler)) (Option Constraint) :=
  ExceptT.mk fun asked => (h.answer name t, asked ++ [h])

/-- How a name is resolved, and the handlers that are asked for it in their order. -/
def resolveNoting (builders : Builders) (f : Factory) (name : String) (t : DataType) :
    Except CustomRefusal Resolution × List Handler :=
  (resolve builders (noting name t) f.handlers name t).run []

/-- Whether a factory finds what the first tier gives, then what the second gives, and else fails
by the reason of the first. -/
structure FindsInTiers (builders : Builders) (f : Factory) (name : String) (t : DataType) :
    Prop where
  built : ∀ c, builtBy builders name t = some c →
    (f.findIn builders name t).result = .ok c ∧ (resolveNoting builders f name t).2 = []
  answered : builtBy builders name t = none → ∀ earlier h later c,
    f.handlers = earlier ++ h :: later → (∀ e ∈ earlier, e.answer name t = .ok none) →
    h.answer name t = .ok (some c) →
    (f.findIn builders name t).result = .ok c ∧
      (resolveNoting builders f name t).2 = earlier ++ [h]
  refused : builtBy builders name t = none → ∀ earlier h later refusal,
    f.handlers = earlier ++ h :: later → (∀ e ∈ earlier, e.answer name t = .ok none) →
    h.answer name t = .error refusal →
    (f.findIn builders name t).result = .error (.plain (.custom refusal)) ∧
      (resolveNoting builders f name t).2 = earlier ++ [h]
  declined : builtBy builders name t = none → (∀ h ∈ f.handlers, h.answer name t = .ok none) →
    ((f.findIn builders name t).result = .error (.atPosition (.unknownName name t) (-1) none) ↔
        builders.lookup name = none) ∧
      ((f.findIn builders name t).result =
          .error (.atPosition (.notDefinedForType name t) (-1) none) ↔
        builders.lookup name ≠ none) ∧
      (resolveNoting builders f name t).2 = f.handlers

theorem run_askHandlers_cons (h : Handler) (hs asked : List Handler) :
    (askHandlers (noting name t) (h :: hs)).run asked =
      match h.answer name t with
      | .error refusal => (.error refusal, asked ++ [h])
      | .ok (some c) => (.ok (some (h, c)), asked ++ [h])
      | .ok none => (askHandlers (noting name t) hs).run (asked ++ [h]) := by
  rw [askHandlers, noting]
  generalize h.answer name t = answer
  rcases answer with _ | _ | _ <;> rfl

/-- Noting who is asked does not change the answer. -/
theorem run_askHandlers_fst (hs asked : List Handler) :
    ((askHandlers (noting name t) hs).run asked).1 = askHandlers (·.answer name t) hs := by
  induction hs generalizing asked with
  | nil => rfl
  | cons h hs ih =>
      rw [run_askHandlers_cons, askHandlers]
      rcases h.answer name t with _ | _ | _
      · rfl
      · exact ih _
      · rfl

theorem run_askHandlers_append {earlier : List Handler}
    (hearlier : ∀ e ∈ earlier, e.answer name t = .ok none) (hs asked : List Handler) :
    (askHandlers (noting name t) (earlier ++ hs)).run asked =
      (askHandlers (noting name t) hs).run (asked ++ earlier) := by
  induction earlier generalizing asked with
  | nil => rw [List.nil_append, List.append_nil]
  | cons e earlier ih =>
      obtain ⟨he, hearlier⟩ := List.forall_mem_cons.mp hearlier
      rw [List.cons_append, run_askHandlers_cons, he]
      simp only
      rw [ih hearlier, List.append_assoc, List.singleton_append]

theorem resolveNoting_of_some {c : Constraint} (hbuilt : builtBy builders name t = some c) :
    resolveNoting builders f name t = (.ok (.built c), []) := by
  rw [resolveNoting, resolve_of_some hbuilt]
  rfl

theorem resolveNoting_of_none (hbuilt : builtBy builders name t = none) :
    resolveNoting builders f name t =
      match (askHandlers (noting name t) f.handlers).run [] with
      | (.error refusal, asked) => (.error refusal, asked)
      | (.ok (some (h, c)), asked) => (.ok (.answered h c), asked)
      | (.ok none, asked) =>
        (.ok (if builders.any (·.1 = name) then .notDefined else .unknown), asked) := by
  rw [resolveNoting, resolve_of_none hbuilt]
  change ExceptT.bindCont (m := StateM (List Handler)) _
    ((askHandlers (noting name t) f.handlers).run []).1
    ((askHandlers (noting name t) f.handlers).run []).2 = _
  rcases (askHandlers (noting name t) f.handlers).run [] with ⟨_ | _ | ⟨_, _⟩, asked⟩ <;> rfl

/-- Noting who is asked does not change how a name is resolved. -/
theorem resolveNoting_fst (builders : Builders) (f : Factory) (name : String) (t : DataType) :
    (resolveNoting builders f name t).1 = resolve builders (·.answer name t) f.handlers name t := by
  cases hbuilt : builtBy builders name t with
  | some c =>
      rw [resolveNoting_of_some hbuilt, resolve_of_some hbuilt]
      rfl
  | none =>
      rw [resolveNoting_of_none hbuilt, resolve_of_none hbuilt,
        ← run_askHandlers_fst f.handlers []]
      rcases (askHandlers (noting name t) f.handlers).run [] with ⟨_ | _ | ⟨_, _⟩, asked⟩ <;> rfl

theorem result_findIn_of_resolveNoting (builders : Builders) (f : Factory)
    (hname : isAllBlank name = false) (ht : t ≠ .none) :
    (f.findIn builders name t).result =
      match (resolveNoting builders f name t).1 with
      | .error refusal => .error (.plain (.custom refusal))
      | .ok resolution => resolution.result name t := by
  have hfind := result_findIn builders f name t
  rw [hname, if_neg ht, ← resolveNoting_fst] at hfind
  exact hfind

theorem any_eq_false_iff : builders.any (·.1 = name) = false ↔ builders.lookup name = none := by
  simp [List.lookup_eq_none_iff, eq_comm (a := name)]

theorem findsInTiers (builders : Builders) (f : Factory) (hname : isAllBlank name = false)
    (ht : t ≠ .none) : FindsInTiers builders f name t := by
  have hfind := result_findIn_of_resolveNoting builders f hname ht
  refine ⟨fun c hbuilt => ?_, fun hbuilt earlier h later c hsplit hearlier hanswer => ?_,
    fun hbuilt earlier h later refusal hsplit hearlier hanswer => ?_, fun hbuilt hdeclined => ?_⟩
  · rw [hfind, resolveNoting_of_some hbuilt]
    exact ⟨rfl, rfl⟩
  · have hrun : resolveNoting builders f name t = (.ok (.answered h c), earlier ++ [h]) := by
      rw [resolveNoting_of_none hbuilt, hsplit, run_askHandlers_append hearlier,
        run_askHandlers_cons, hanswer]
      rfl
    rw [hfind, hrun]
    exact ⟨rfl, rfl⟩
  · have hrun : resolveNoting builders f name t = (.error refusal, earlier ++ [h]) := by
      rw [resolveNoting_of_none hbuilt, hsplit, run_askHandlers_append hearlier,
        run_askHandlers_cons, hanswer]
      rfl
    rw [hfind, hrun]
    exact ⟨rfl, rfl⟩
  · have hrun : resolveNoting builders f name t =
        (.ok (if builders.any (·.1 = name) then .notDefined else .unknown), f.handlers) := by
      have hrun := run_askHandlers_append hdeclined [] []
      rw [List.append_nil] at hrun
      rw [resolveNoting_of_none hbuilt, hrun]
      rfl
    rw [hfind, hrun]
    cases hany : builders.any (·.1 = name) with
    | false =>
        have hnone := any_eq_false_iff.mp hany
        refine ⟨⟨fun _ => hnone, fun _ => rfl⟩, ⟨fun heq => ?_, ?_⟩, rfl⟩
        · cases heq
        · exact fun hsome => absurd hnone hsome
    | true =>
        have hsome : builders.lookup name ≠ none := by
          rw [Ne, ← any_eq_false_iff, hany]
          decide
        refine ⟨⟨fun heq => ?_, ?_⟩, ⟨fun _ => hsome, fun _ => rfl⟩, rfl⟩
        · cases heq
        · exact fun hnone => absurd hnone hsome

/-- What is left of a history of registrations, and how a name is resolved with it.  The handlers
are the registrations that survive, in their order.  A removal changes nothing exactly where no
registration of its handler survives.  The name is then found in two tiers. -/
theorem find_after (builders : Builders) (logger : String) (changes : List Change)
    (hname : isAllBlank name = false) (ht : t ≠ .none) :
    (∃ kept, IsKept changes changes.length kept ∧
        (after logger changes).handlers = kept.map (·.2)) ∧
      (∀ same,
        ((after logger changes).removeFirst same = (after logger changes, false) ↔
          ∀ i, Survives changes changes.length i → ¬ RegisteredAs changes same i) ∧
        (((after logger changes).removeFirst same).2 = true ↔
          ∃ i, Survives changes changes.length i ∧ RegisteredAs changes same i)) ∧
      FindsInTiers builders (after logger changes) name t := by
  obtain ⟨kept, hkept, hhandlers⟩ := exists_isKept logger changes changes.length
  rw [List.take_length] at hhandlers
  have hnone (same : Handler → Bool) :
      (∀ h ∈ (after logger changes).handlers, ¬ same h = true) ↔
        ∀ i, Survives changes changes.length i → ¬ RegisteredAs changes same i := by
    rw [hhandlers, List.forall_mem_map]
    simpa using hkept.forall_not_iff same fun _ => True
  refine ⟨⟨kept, hkept, hhandlers⟩, fun same => ⟨?_, ?_⟩, findsInTiers builders _ hname ht⟩
  · rw [removeFirst_eq_self_iff, hnone]
  · rw [removeFirst_snd_eq_true_iff]
    have hsome := not_congr (hnone same)
    push Not at hsome
    exact hsome

/-- A handler that declines every name. -/
def declining : Handler := ⟨"declining", fun _ _ => .ok none⟩

/-- A handler that answers every name alike. -/
def nullable : Handler := ⟨"nullable", fun _ _ => .ok (some .null)⟩

/-- A history that registers one handler twice and removes it once. -/
def history : List Change :=
  [.add declining, .add nullable, .add declining, .remove (·.name = "declining")]

theorem find_after_history :
    isAllBlank "Custom" = false ∧ DataType.string ≠ .none ∧
      (after ownLogger history).removeFirst (·.name = "other") =
        (after ownLogger history, false) ∧
      ((after ownLogger history).findIn known "Custom" .string).result = .ok .null ∧
      (resolveNoting known (after ownLogger history) "Custom" .string).2 = [nullable] := by
  have hblank : isAllBlank "Custom" = false := by decide +kernel
  have ht : DataType.string ≠ .none := by decide
  obtain ⟨-, hremove, htiers⟩ := find_after known ownLogger history hblank ht
  refine ⟨hblank, ht, (hremove _).1.mpr ?_, htiers.answered rfl [] nullable [declining] .null rfl
    nofun rfl⟩
  rintro i hi ⟨h, hadd, hother⟩
  have hlt : i < 4 := lt_of_survives hi
  interval_cases i <;> cases hadd <;> exact absurd hother (by decide)

end Factory

end ParamRules
