import ParamRules.Proofs.Constraint.Equality
import ParamRules.Proofs.Conversion.Members
import ParamRules.Proofs.Enumeration.Joined

/-!
# Constraints of an enumeration

Two constraints check values against an enumeration: one holds the name of its type, the other the
names and numbers that are listed from it.  The first takes every member of the enumeration if and
only if all its values are numbers: where one is not, no value at all is declared, and every member
is refused as undefined (`takes_members_iff`).  Where the second can be made, the two say the same
of every value that is no member of another enumeration (`reports_ofEnumeration`).
-/

namespace ParamRules

open Text

namespace Constraint

open Enumeration

open Conversion (access permissions class?_permissions)

variable {r : Registry} {c d : Constraint} {t : DataType} {e : Enumeration} {m : Member}
  {v member shown : Value} {name place label : String} {entry : String × Literal}

/-! ## Members of a type -/

theorem declaredNumbers_of_forall (h : ∀ entry ∈ e.entries, entry.2.number?.isSome = true) :
    declaredNumbers e = (e.entries.map (·.2), if e.isFlags then some e.mask else none) := by
  unfold declaredNumbers
  rw [if_pos (by simpa using h)]

theorem declaredNumbers_of_exists (h : ∃ entry ∈ e.entries, entry.2.number? = none) :
    declaredNumbers e = ([], none) := by
  obtain ⟨entry, hentry, hnone⟩ := h
  unfold declaredNumbers
  rw [if_neg]
  intro hall
  have hsome := List.all_eq_true.mp hall _ (List.mem_map_of_mem hentry)
  simp [hnone] at hsome

/-- Where all values are numbers, a value that a member can have is declared or has no bits but
those of the mask. -/
theorem numberFailings_of_hasValue (h : ∀ entry ∈ e.entries, entry.2.number?.isSome = true)
    {raw : Literal} (hraw : e.HasValue raw) :
    numberFailings (declaredNumbers e).1 (declaredNumbers e).2 raw = .ok [] := by
  rw [declaredNumbers_of_forall h]
  by_cases hflags : e.isFlags = true
  · have hnumber : ∃ n, raw.number? = some n := by
      rcases hraw with ⟨entry, hentry, rfl⟩ | ⟨-, n, rfl, -⟩
      · exact Option.isSome_iff_exists.mp (h entry hentry)
      · exact ⟨n, rfl⟩
    obtain ⟨n, hn⟩ := hnumber
    have hnone : inter n (Int.not e.mask) = 0 := inter_not_of_isWithin (hraw.isWithin hn)
    simp only [numberFailings, hflags, if_true, hn, hnone, decide_true, failsUnless]
  · obtain ⟨entry, hentry, rfl⟩ := hraw.resolve_right fun hbits => hflags hbits.1
    have hdeclared : (e.entries.map (·.2)).any (·.same entry.2) = true :=
      List.any_eq_true.mpr ⟨entry.2, List.mem_map_of_mem hentry, Literal.same_refl _⟩
    simp only [numberFailings, hflags, hdeclared, if_true, if_false, Bool.false_eq_true]

theorem failings_enumType (hclass : r.class? name = .ok (some (.enumeration e))) (v : Value) :
    (Constraint.enumType name).failings r .enumeration v = memberFailings e v := by
  rw [failings, hclass]
  rfl

theorem failings_member (hclass : r.class? name = .ok (some (.enumeration e)))
    (hown : m.enumeration = e) :
    (Constraint.enumType name).failings r .enumeration (.member m) =
      numberFailings (declaredNumbers e).1 (declaredNumbers e).2 m.value := by
  rw [failings_enumType hclass, memberFailings, memberFailingsIn, hown, if_pos (includes_self e)]

/-- What the constraint of a type says of a member of its enumeration that is not declared. -/
def undefinedValue (name place label : String) (m : Member) : Except Fault (List Outcome) :=
  if m.value.isTooLong then .error (.plain .longToWrite)
  else .ok [Outcome.failure (.enumType name) place .enumValueNotDefined
    (label ++ " " ++ ("has the undefined value " ++ m.value.display))]

/-- The constraint of a type takes a member of its enumeration if and only if all values of the
enumeration are numbers, and otherwise says that its value is undefined. -/
theorem takes_members_iff (hclass : r.class? name = .ok (some (.enumeration e)))
    (hm : e.IsMember m) (hmember : Argument.nameText "member_name" member = .ok place)
    (hshown : shownName place shown = .ok label) :
    ((Constraint.enumType name).checkWith r (.ofDataType .enumeration) (.member m) member shown =
        .ok [] ↔ ∀ entry ∈ e.entries, entry.2.number?.isSome = true) ∧
      ((∃ entry ∈ e.entries, entry.2.number? = none) →
        (Constraint.enumType name).checkWith r (.ofDataType .enumeration) (.member m) member shown =
          undefinedValue name place label m) := by
  have hcheck : (Constraint.enumType name).checkWith r (.ofDataType .enumeration) (.member m)
      member shown = (do
        let found ← numberFailings (declaredNumbers e).1 (declaredNumbers e).2 m.value
        return found.map fun f =>
          Outcome.failure (.enumType name) place f.1 (label ++ " " ++ f.2)) := by
    have hjudges : (Constraint.enumType name).judges .enumeration = true := rfl
    rw [checkWith_ofDataType (by decide) hmember hshown, check_eq hjudges (v := .member m) nofun,
      failings_member hclass hm.enumeration]
  have hrefused : (∃ entry ∈ e.entries, entry.2.number? = none) →
      (Constraint.enumType name).checkWith r (.ofDataType .enumeration) (.member m) member shown =
        undefinedValue name place label m := by
    intro hother
    rw [hcheck, declaredNumbers_of_exists hother, undefinedValue]
    simp only [numberFailings, List.any_nil, Bool.false_eq_true, if_false]
    split_ifs <;> rfl
  refine ⟨⟨fun htaken entry hentry => ?_, fun hall => ?_⟩, hrefused⟩
  · by_contra hnone
    rw [hrefused ⟨entry, hentry, by simpa using hnone⟩, undefinedValue] at htaken
    split_ifs at htaken
    cases htaken
  · rw [hcheck, numberFailings_of_hasValue hall hm.value]
    rfl

/-- The permission to read and the one to write, joined, are taken. -/
theorem takes_members_iff_joined :
    access.class? "access:Permissions" = .ok (some (.enumeration permissions)) ∧
      permissions.IsMember ⟨permissions, some "READ|WRITE", .int 3⟩ ∧
      Argument.nameText "member_name" (.text "m") = .ok "m" ∧ shownName "m" .null = .ok "m" ∧
      (Constraint.enumType "access:Permissions").checkWith access (.ofDataType .enumeration)
        (.member ⟨permissions, some "READ|WRITE", .int 3⟩) (.text "m") .null = .ok [] := by
  have hread : permissions.IsMember ⟨permissions, some "READ", .int 1⟩ :=
    .named (show permissions.byName? "READ" = _ from rfl)
  have hwrite : permissions.IsMember ⟨permissions, some "WRITE", .int 2⟩ :=
    .named (show permissions.byName? "WRITE" = _ from rfl)
  have hjoined : permissions.IsMember ⟨permissions, some "READ|WRITE", .int 3⟩ :=
    .joined rfl hread hwrite
  have hname : Argument.nameText "member_name" (.text "m") = .ok "m" := rfl
  refine ⟨class?_permissions, hjoined, hname, rfl, ?_⟩
  exact (takes_members_iff class?_permissions hjoined hname rfl).1.mpr (by decide)

/-- Two answers, which are texts. -/
def answers : Enumeration :=
  ⟨"Answers", .plain, [("YES", .text "yes"), ("NO", .text "no")], none⟩

/-- The member `YES` is refused by the constraint of its own type. -/
theorem not_takes_members_text :
    ¬ ∀ (r : Registry) (name : String) (e : Enumeration) (m : Member) (member shown : Value)
        (place label : String), r.class? name = .ok (some (.enumeration e)) → e.IsMember m →
      Argument.nameText "member_name" member = .ok place → shownName place shown = .ok label →
      (Constraint.enumType name).checkWith r (.ofDataType .enumeration) (.member m) member shown =
        .ok [] := by
  intro h
  have htaken := h ⟨[("talk", .mk none none [("Answers", .ofEnumeration answers)])]⟩ "talk:Answers"
    answers ⟨answers, some "YES", .text "yes"⟩ (.text "m") .null "m" "m" rfl
    (.named (show answers.byName? "YES" = _ from rfl)) rfl rfl
  cases htaken

/-! ## Lists made from an enumeration -/

theorem same_memberValue (h : entry ∈ e.entries) : (e.memberValue entry.2).same entry.2 = true := by
  have hsome : (e.entryOf? entry.2).isSome = true :=
    List.find?_isSome.mpr ⟨entry, h, Literal.same_refl _⟩
  obtain ⟨first, hfirst⟩ := Option.isSome_iff_exists.mp hsome
  rw [memberValue, hfirst, Option.map_some, Option.getD_some]
  exact same_of_entryOf? hfirst

/-- The list that is made from an enumeration has all its names, each with the number of its
member. -/
theorem pairs_of_ofEnumeration (h : ofEnumeration (.cls (.enumeration e)) = .ok c) :
    ∃ type pairs, c = .values (some ⟨type, e.isFlags, pairs⟩) ∧
      (e.entries.map fun entry => (entry.1, e.memberValue entry.2)) =
        pairs.map fun p => (p.1, .int p.2) := by
  simp only [ofEnumeration] at h
  split_ifs at h with hnone
  split at h
  · rename_i type _
    cases h
    rw [Bool.or_eq_true, not_or, decide_eq_true_eq, not_not, List.filterMap_length_eq_length]
      at hnone
    refine ⟨type, _, rfl, ?_⟩
    rw [List.map_filterMap, ← List.filterMap_eq_map]
    apply List.filterMap_congr
    intro entry hentry
    have hint := hnone.2 entry hentry
    cases hvalue : e.memberValue entry.2 with
    | int n => simp [hvalue]
    | bool b => simp [hvalue] at hint
    | text s => simp [hvalue] at hint
  · cases h

section Listed

variable {pairs : List (String × Int)}
  (hpairs : (e.entries.map fun entry => (entry.1, e.memberValue entry.2)) =
    pairs.map fun p => (p.1, Literal.int p.2))

include hpairs

theorem map_memberValue_eq :
    e.entries.map (fun entry => e.memberValue entry.2) = pairs.map fun p => .int p.2 := by
  have hsnd := congrArg (List.map Prod.snd) hpairs
  rw [List.map_map, List.map_map] at hsnd
  exact hsnd

theorem memberValue_eq_int (h : entry ∈ e.entries) : ∃ n, e.memberValue entry.2 = .int n := by
  have hmem : e.memberValue entry.2 ∈ pairs.map fun p => Literal.int p.2 := by
    rw [← map_memberValue_eq hpairs]
    exact List.mem_map_of_mem (f := fun entry : String × Literal => e.memberValue entry.2) h
  obtain ⟨p, -, hp⟩ := List.mem_map.mp hmem
  exact ⟨p.2, hp.symm⟩

theorem isSome_number?_of_pairs : ∀ entry ∈ e.entries, entry.2.number?.isSome = true := by
  intro entry hentry
  obtain ⟨n, hn⟩ := memberValue_eq_int hpairs hentry
  rw [← Literal.number?_eq_of_same (same_memberValue hentry), hn]
  rfl

theorem numbers_eq : e.numbers = pairs.map (·.2) := by
  calc e.numbers = e.entries.filterMap fun entry => (e.memberValue entry.2).number? := by
        apply List.filterMap_congr
        intro entry hentry
        exact (Literal.number?_eq_of_same (same_memberValue hentry)).symm
    _ = (e.entries.map fun entry => e.memberValue entry.2).filterMap Literal.number? := by
        rw [List.filterMap_map]
        rfl
    _ = pairs.map (·.2) := by
        rw [map_memberValue_eq hpairs, List.filterMap_map, ← List.filterMap_eq_map]
        rfl

/-- A value is listed if and only if it is declared. -/
theorem any_same_pairs (raw : Literal) :
    (pairs.map fun p => Literal.int p.2).any (·.same raw) =
      (e.entries.map (·.2)).any (·.same raw) := by
  rw [← map_memberValue_eq hpairs, List.any_map, List.any_map, Bool.eq_iff_iff, List.any_eq_true,
    List.any_eq_true]
  refine exists_congr fun entry => and_congr_right fun hentry => ?_
  have hsame := Literal.same_congr (same_memberValue hentry) raw
  simp only [Function.comp_apply]
  rw [Literal.same_comm _ raw, Literal.same_comm _ raw, hsame]

/-- A number is checked against the list as against the enumeration. -/
theorem numberFailings_pairs (type : IntegerType) (raw : Literal) :
    numberFailings (pairs.map fun p => .int p.2) (ValueList.mask? ⟨type, e.isFlags, pairs⟩) raw =
      numberFailings (declaredNumbers e).1 (declaredNumbers e).2 raw := by
  have hmask : ValueList.mask? ⟨type, e.isFlags, pairs⟩ =
      if e.isFlags then some e.mask else none := by
    rw [ValueList.mask?, mask, numbers_eq hpairs]
  rw [declaredNumbers_of_forall (isSome_number?_of_pairs hpairs), hmask]
  simp only [numberFailings, any_same_pairs hpairs]

theorem value_eq_int {w : Literal} (h : e.byValue? w = some m) : ∃ n, m.value = .int n := by
  have hentryOf : ∀ {v w : Literal} {first : String}, e.entryOf? v = some (first, w) →
      ∃ n, w = .int n := by
    intro v w first hentry
    obtain ⟨n, hn⟩ := memberValue_eq_int hpairs (mem_entries_of_entryOf? hentry)
    rw [memberValue, entryOf?_self hentry] at hn
    exact ⟨n, hn⟩
  have hofBits : ∀ k, ∃ n, (byValue?.ofBits e k).value = .int n := by
    intro k
    unfold byValue?.ofBits
    split
    · rename_i hentry
      exact hentryOf hentry
    · exact ⟨k, rfl⟩
  rcases byValue?_cases h with ⟨first, w, hentry, rfl⟩ | ⟨-, k, -, hmade⟩
  · exact hentryOf hentry
  · rcases hmade with ⟨-, rfl⟩ | ⟨-, -, rfl⟩ | ⟨-, rfl⟩
    · exact hofBits _
    · exact hofBits _
    · exact hofBits _

theorem listedFailings_eq (type : IntegerType)
    (hv : ∀ m, v = .member m → ∃ w, e.byValue? w = some m) :
    listedFailings ⟨type, e.isFlags, pairs⟩ v = memberFailings e v := by
  cases v with
  | int n => exact numberFailings_pairs hpairs type (.int n)
  | member m =>
      obtain ⟨w, hw⟩ := hv m rfl
      obtain ⟨n, hn⟩ := value_eq_int hpairs hw
      have hunwrapped : (Value.member m).unwrapped = .int n := by
        obtain ⟨f, name, value⟩ := m
        cases hn
        rfl
      rw [listedFailings, listedFailingsIn, hunwrapped, memberFailings, memberFailingsIn,
        enumeration_of_byValue? hw, if_pos (includes_self e), hn]
      exact numberFailings_pairs hpairs type (.int n)
  | _ => rfl

end Listed

/-- The list that is made from an enumeration and the constraint of its type say the same of every
value but the members of other enumerations. -/
theorem reports_ofEnumeration (hclass : r.class? name = .ok (some (.enumeration e)))
    (hc : ofEnumeration (.cls (.enumeration e)) = .ok c)
    (hv : ∀ m, v = .member m → ∃ w, e.byValue? w = some m) :
    reports (c.checkWith r (.ofDataType .enumeration) v member shown) =
      reports ((Constraint.enumType name).checkWith r (.ofDataType .enumeration) v member shown) := by
  obtain ⟨type, pairs, rfl, hpairs⟩ := pairs_of_ofEnumeration hc
  refine reports_checkWith_congr (by decide) fun place label => ?_
  by_cases hnull : v = .null
  · rw [hnull, check_null (c := .values _) nofun, check_null (c := .enumType _) nofun]
  · rw [reports_check rfl hnull, reports_check rfl hnull, failings_enumType hclass, failings,
      listedFailings_eq hpairs type hv]

/-- Two permissions joined, which have no name of their own in the list. -/
theorem reports_ofEnumeration_joined :
    access.class? "access:Permissions" = .ok (some (.enumeration permissions)) ∧
      ∃ c, ofEnumeration (.cls (.enumeration permissions)) = .ok c ∧
        (∀ m, Value.member ⟨permissions, some "READ|WRITE", .int 3⟩ = .member m →
          ∃ w, permissions.byValue? w = some m) ∧
        reports (c.checkWith access (.ofDataType .enumeration)
            (.member ⟨permissions, some "READ|WRITE", .int 3⟩) (.text "m") .null) =
          reports ((Constraint.enumType "access:Permissions").checkWith access
            (.ofDataType .enumeration) (.member ⟨permissions, some "READ|WRITE", .int 3⟩)
            (.text "m") .null) := by
  have hown : ∀ m, Value.member ⟨permissions, some "READ|WRITE", .int 3⟩ = .member m →
      ∃ w, permissions.byValue? w = some m := by
    intro m hm
    obtain rfl := Value.member.inj hm
    exact ⟨.int 3, rfl⟩
  exact ⟨class?_permissions, _, rfl, hown, reports_ofEnumeration class?_permissions rfl hown⟩

end Constraint

end ParamRules
