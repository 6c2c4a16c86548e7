import ParamRules.Proofs.Registry

/-!
# The two spellings of a type name

Between the module and the path in it a type name has a colon or a dot.  A name without a colon is
cut at its last dot, so what follows the module is one name then.  A class that a module holds
itself is found either way.  A class inside another one is found after a colon; after a dot it is
found only where what stands before the last dot is a module of its own that leads to the class as
well (`spellings_agree_iff`).  Type names that stand for one class cannot be told apart by what they
are there for (`outcome_perform_congr`).
-/

namespace ParamRules

open Text Result ObjectM

/-! ## What type names are there for -/

namespace Naming

open Cell Constraint

variable {r : Registry} {kind : Naming} {name other : String} {use : Use}

/-- Uses that a type name is there for: it is asked for its class, and values are checked against
it and converted under it. -/
inductive IsQuestion : Use → Prop where
  | resolved : IsQuestion (.call .resolved)
  | hasFlags : IsQuestion (.call .hasFlags)
  | validate (t v member shown : Value) : IsQuestion (.call (.validate t v member shown))
  | coerce (t : DataType) (v : Value) : IsQuestion (.coerce t v)
  | read (t : DataType) (v : Value) : IsQuestion (.read t v)
  | write (t : DataType) (v : Value) : IsQuestion (.write t v)

theorem failings_constraint_congr (h : r.class? name = r.class? other) (t : DataType) (v : Value) :
    (kind.constraint name).failings r t v = (kind.constraint other).failings r t v := by
  cases kind with
  | type => rfl
  | enumeration => simp only [Naming.constraint, Constraint.failings, h]

theorem reports_constraint_congr (h : r.class? name = r.class? other) (t v member shown : Value) :
    reports ((kind.constraint name).checkWith r t v member shown) =
      reports ((kind.constraint other).checkWith r t v member shown) := by
  have hne : ∀ name, kind.constraint name ≠ .null := fun name => by cases kind <;> nofun
  have hname : (kind.constraint name).name = (kind.constraint other).name := by
    cases kind <;> rfl
  have hjudges : ∀ t, (kind.constraint name).judges t = (kind.constraint other).judges t :=
    fun t => by cases kind <;> rfl
  simp only [Constraint.checkWith, bind, Except.bind]
  cases Argument.dataType t with
  | error fault => rfl
  | ok t =>
      cases Argument.nameText "member_name" member with
      | error fault => rfl
      | ok place =>
          simp only
          cases shownName place shown with
          | error fault => rfl
          | ok label =>
              exact reports_check_congr (hne name) (hne other) hname (hjudges t)
                fun _ => failings_constraint_congr h t v

theorem replied_congr (h : r.class? name = r.class? other) (huse : IsQuestion use) :
    replied r kind name use = replied r kind other use := by
  have hhint : hint r name = hint r other := congrArg some h
  cases huse with
  | resolved => simp only [replied, respond, foundClass_constraint, h]
  | hasFlags =>
      cases kind with
      | type => rfl
      | enumeration => simp only [replied, respond, Naming.constraint, foundFlags, h]
  | validate t v member shown =>
      simp only [replied, respond, reports_constraint_congr h t v member shown]
  | coerce | read | write => simp only [replied, hhint]

/-- Type names that stand for the same answer every question alike. -/
theorem outcome_perform_congr (h : r.class? name = r.class? other) (huse : IsQuestion use) :
    ((perform r use).outcome (kind.fresh name)).1 =
      ((perform r use).outcome (kind.fresh other)).1 := by
  rw [(perform_represents (fresh_represents r kind name) use).1,
    (perform_represents (fresh_represents r kind other) use).1, replied_congr h huse]

/-- Whether two type names stand for one class and answer every question alike. -/
structure Agree (r : Registry) (name other : String) : Prop where
  sameClass : ∃ c, r.class? name = .ok (some c) ∧ r.class? other = .ok (some c)
  sameAnswer : ∀ (kind : Naming) (use : Use), IsQuestion use →
    ((perform r use).outcome (kind.fresh name)).1 = ((perform r use).outcome (kind.fresh other)).1

theorem agree_iff {c : Class} (h : r.class? name = .ok (some c)) :
    Agree r name other ↔ r.class? other = .ok (some c) := by
  constructor
  · rintro ⟨⟨d, hname, hother⟩, -⟩
    cases h.symm.trans hname
    exact hother
  · intro hother
    exact ⟨⟨c, h, hother⟩, fun _ _ => outcome_perform_congr (h.trans hother.symm)⟩

end Naming

/-! ## Colons and dots -/

namespace Registry

variable {r : Registry} {name module path front last module' path' : String} {c : Class}

theorem isTypePath_colon_iff (hmodule : ':' ∉ module.toList) :
    IsTypePath (module ++ ":" ++ path) module' path' ↔
      (module' = module ∧ path' = path) ∧ module ≠ "" ∧ path ≠ "" := by
  have hwhole : (module ++ ":" ++ path).toList = module.toList ++ ':' :: path.toList := by simp
  constructor
  · rintro (⟨hname, hfirst, hne, hne'⟩ | ⟨-, hnone, -⟩)
    · have hcut := (cut?_eq_some_iff.mpr ⟨hfirst, hname⟩).symm.trans
        (cut?_eq_some_iff.mpr ⟨hmodule, hwhole⟩)
      obtain ⟨rfl, rfl⟩ : module' = module ∧ path' = path := by simpa using hcut
      exact ⟨⟨rfl, rfl⟩, hne, hne'⟩
    · exact absurd (by rw [hwhole]; simp) hnone
  · rintro ⟨⟨rfl, rfl⟩, hne, hne'⟩
    exact .colon hwhole hmodule hne hne'

theorem isTypePath_dot_iff (hmodule : ':' ∉ module.toList) (hlast : ':' ∉ last.toList)
    (hdot : '.' ∉ last.toList) :
    IsTypePath (module ++ "." ++ last) module' path' ↔
      (module' = module ∧ path' = last) ∧ module ≠ "" ∧ last ≠ "" := by
  have hwhole : (module ++ "." ++ last).toList = module.toList ++ '.' :: last.toList := by simp
  have hcolon : ':' ∉ (module ++ "." ++ last).toList := by
    rw [hwhole]
    simp [hmodule, hlast]
  constructor
  · rintro (⟨hname, -⟩ | ⟨hname, -, hdot', hne, hne'⟩)
    · exact absurd (by rw [hname]; simp) hcolon
    · have hcut := (cutLast?_eq_some_iff.mpr ⟨hdot', hname⟩).symm.trans
        (cutLast?_eq_some_iff.mpr ⟨hdot, hwhole⟩)
      obtain ⟨rfl, rfl⟩ : module' = module ∧ path' = last := by simpa using hcut
      exact ⟨⟨rfl, rfl⟩, hne, hne'⟩
  · rintro ⟨⟨rfl, rfl⟩, hne, hne'⟩
    exact .dot hwhole hcolon hdot hne hne'

/-- What a type name stands for that can be cut in one way only. -/
theorem class?_eq_some_iff_of_isTypePath_iff
    (h : ∀ module' path', IsTypePath name module' path' ↔
      (module' = module ∧ path' = path) ∧ module ≠ "" ∧ path ≠ "") :
    r.class? name = .ok (some c) ↔ module ≠ "" ∧ path ≠ "" ∧ ¬ IsRelative module ∧
      ∃ found, r.Reaches module path found ∧ found.cls = some c := by
  rw [class?_eq_some_iff]
  constructor
  · rintro ⟨module', path', found, hname, hrelative, hreaches, hc⟩
    obtain ⟨⟨rfl, rfl⟩, hne, hne'⟩ := (h _ _).mp hname
    exact ⟨hne, hne', hrelative, found, hreaches, hc⟩
  · rintro ⟨hne, hne', hrelative, found, hreaches, hc⟩
    exact ⟨module, path, found, (h _ _).mpr ⟨⟨rfl, rfl⟩, hne, hne'⟩, hrelative, hreaches, hc⟩

theorem class?_eq_none
    (h : ∀ module' path', IsTypePath name module' path' →
      ¬ IsRelative module' ∧ r.modules.lookup module' = none) : r.class? name = .ok none := by
  cases hclass : r.class? name with
  | error fault =>
      obtain ⟨module', path', hname, hrelative, -⟩ := class?_eq_error_iff.mp hclass
      exact absurd hrelative (h _ _ hname).1
  | ok found =>
      cases found with
      | none => rfl
      | some c =>
          obtain ⟨module', path', found, hname, -, ⟨e, _, he, -⟩, -⟩ := class?_eq_some_iff.mp hclass
          cases (h _ _ hname).2.symm.trans he

theorem isRelative_append (h : module ≠ "") : IsRelative (module ++ path) ↔ IsRelative module := by
  obtain ⟨m, r, hm⟩ := List.exists_cons_of_ne_nil (l := module.toList) (by simpa using h)
  rw [IsRelative, IsRelative, String.toList_append, hm]
  rfl

theorem exists_lastDot (h : '.' ∈ path.toList) :
    ∃ front last : String, path = front ++ "." ++ last ∧ '.' ∉ last.toList := by
  cases hcut : cutLast? '.' path with
  | none =>
      rw [cutLast?, Option.map_eq_none_iff, cutChars?_eq_none_iff, List.mem_reverse] at hcut
      exact absurd h hcut
  | some p =>
      obtain ⟨front, last⟩ := p
      obtain ⟨hlast, hwhole⟩ := cutLast?_eq_some_iff.mp hcut
      refine ⟨front, last, ?_, hlast⟩
      rw [← String.toList_inj, hwhole]
      simp

/-- After a dot, all names of a path but the last are taken for modules. -/
theorem isTypePath_nested_iff (hmodule : ':' ∉ module.toList) (hpath : ':' ∉ path.toList)
    (hcut : path = front ++ "." ++ last) (hlast : '.' ∉ last.toList) :
    IsTypePath (module ++ "." ++ path) module' path' ↔
      (module' = module ++ "." ++ front ∧ path' = last) ∧ module ++ "." ++ front ≠ "" ∧
        last ≠ "" := by
  have hname : module ++ "." ++ path = module ++ "." ++ front ++ "." ++ last := by
    rw [hcut]
    simp only [String.append_assoc]
  obtain ⟨hfront, hcolon⟩ : ':' ∉ front.toList ∧ ':' ∉ last.toList := by
    rw [hcut] at hpath
    simpa using hpath
  rw [hname]
  exact isTypePath_dot_iff (by simp [hmodule, hfront]) hcolon hlast

/-- Where a name with a colon stands for a class, the same name with a dot in place of the colon
agrees with it if and only if the path is one name, or all before its last dot is a module that
leads to the class.  Where that is no module, the name with the dot stands for nothing. -/
theorem spellings_agree_iff (r : Registry) (hmodule : ':' ∉ module.toList)
    (hpath : ':' ∉ path.toList) (h : r.class? (module ++ ":" ++ path) = .ok (some c)) :
    (Naming.Agree r (module ++ ":" ++ path) (module ++ "." ++ path) ↔
        '.' ∉ path.toList ∨ ∃ front last found, path = front ++ "." ++ last ∧
          '.' ∉ last.toList ∧ last ≠ "" ∧ r.Reaches (module ++ "." ++ front) last found ∧
          found.cls = some c) ∧
      ∀ front last, path = front ++ "." ++ last → '.' ∉ last.toList →
        r.modules.lookup (module ++ "." ++ front) = none →
        r.class? (module ++ "." ++ path) = .ok none := by
  obtain ⟨hne, hne', hrelative, found, hreaches, hc⟩ :=
    (class?_eq_some_iff_of_isTypePath_iff fun _ _ => isTypePath_colon_iff hmodule).mp h
  have hfront : ∀ front, ¬ IsRelative (module ++ "." ++ front) := fun front => by
    rwa [String.append_assoc, isRelative_append hne]
  refine ⟨?_, fun front last hcut hlast hnone => class?_eq_none fun _ _ hname => ?_⟩
  · rw [Naming.agree_iff h]
    by_cases hdot : '.' ∈ path.toList
    · have hnested := fun front last (hcut : path = front ++ "." ++ last) hlast =>
        class?_eq_some_iff_of_isTypePath_iff (r := r) (c := c) fun _ _ =>
          isTypePath_nested_iff hmodule hpath hcut hlast
      constructor
      · intro hclass
        obtain ⟨front, last, hcut, hlast⟩ := exists_lastDot hdot
        obtain ⟨-, hempty, -, found, hfound⟩ := (hnested front last hcut hlast).mp hclass
        exact .inr ⟨front, last, found, hcut, hlast, hempty, hfound⟩
      · rintro (hnone | ⟨front, last, found, hcut, hlast, hempty, hfound⟩)
        · exact absurd hdot hnone
        · exact (hnested front last hcut hlast).mpr
            ⟨by simp [hne], hempty, hfront front, found, hfound⟩
    · refine iff_of_true ?_ (.inl hdot)
      exact (class?_eq_some_iff_of_isTypePath_iff fun _ _ =>
        isTypePath_dot_iff hmodule hpath hdot).mpr ⟨hne, hne', hrelative, found, hreaches, hc⟩
  · obtain ⟨⟨rfl, -⟩, -⟩ := (isTypePath_nested_iff hmodule hpath hcut hlast).mp hname
    exact ⟨hfront front, hnone⟩

/-! ## A shop -/

/-- The states that an order can be in. -/
def orderState : Enumeration :=
  ⟨"State", .integer, [("OPEN", .int 1), ("PAID", .int 2)], none⟩

/-- What a module of orders holds. -/
def orders : Entity :=
  .mk none none [("State", .ofEnumeration orderState)]

/-- A registry with the states of orders in a module of their own, which the module of the shop
holds too, and once more in a class of orders. -/
def shop : Registry :=
  ⟨[("shop", .mk none none [("orders", orders),
      ("Order", .mk (some (.ordinary "shop" "Order" none)) none
        [("State", .ofEnumeration orderState)])]),
    ("shop.orders", orders)]⟩

/-- The states are found in the module of orders, by its own name and through that of the shop. -/
theorem spellings_agree_iff_module :
    ':' ∉ "shop".toList ∧ ':' ∉ "orders.State".toList ∧
      shop.class? ("shop" ++ ":" ++ "orders.State") = .ok (some (.enumeration orderState)) ∧
      Naming.Agree shop ("shop" ++ ":" ++ "orders.State") ("shop" ++ "." ++ "orders.State") := by
  have hmodule : ':' ∉ "shop".toList := by decide
  have hpath : ':' ∉ "orders.State".toList := by decide
  have hclass : shop.class? ("shop" ++ ":" ++ "orders.State") =
      .ok (some (.enumeration orderState)) := by rfl
  refine ⟨hmodule, hpath, hclass, (spellings_agree_iff shop hmodule hpath hclass).1.mpr (.inr ?_)⟩
  exact ⟨"orders", "State", .ofEnumeration orderState, by decide, by decide, by decide,
    reaches_iff.mpr ⟨orders, rfl, rfl⟩, rfl⟩

/-- The states in the class of orders are not found after a dot. -/
theorem not_spellings_agree_nested :
    ¬ ∀ (r : Registry) (module path : String) (c : Class), ':' ∉ module.toList →
        ':' ∉ path.toList → r.class? (module ++ ":" ++ path) = .ok (some c) →
      Naming.Agree r (module ++ ":" ++ path) (module ++ "." ++ path) := by
  intro h
  have hclass : shop.class? ("shop" ++ ":" ++ "Order.State") =
      .ok (some (.enumeration orderState)) := by rfl
  have hagree := h shop "shop" "Order.State" _ (by decide) (by decide) hclass
  have hdotted : shop.class? ("shop" ++ "." ++ "Order.State") = .ok none := by rfl
  cases hdotted.symm.trans ((Naming.agree_iff hclass).mp hagree)

end Registry

end ParamRules
