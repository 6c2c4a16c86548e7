import ParamRules.Proofs.Constraint.Enumerated
import ParamRules.Proofs.Constraint.Represents

/-!
# Numbers checked against flags

Two constraints check numbers against flags, one with the values of a list and one with those of an
enumeration.  Both join the declared values to a mask and test a number against the mask alone.  In
two's complement a number of either sign is the set of its bits, so the test says what it is meant
to say: the number passes if and only if each of its bits belongs to a declared value
(`takes_flags_iff`).
-/

namespace ParamRules

namespace Enumeration

variable {m n : Int} {ns : List Int}

/-- Whether every bit that a number has is a bit of one of some numbers. -/
def IsCoveredBy (n : Int) (ns : List Int) : Prop :=
  ∀ k, n.testBit k = true → ∃ m ∈ ns, m.testBit k = true

theorem isWithin_foldl_union_iff : IsWithin n (ns.foldl union 0) ↔ IsCoveredBy n ns := by
  rw [isWithin_iff]
  simp only [testBit_foldl_union, List.any_eq_true, IsCoveredBy]

theorem isCoveredBy_of_mem (h : n ∈ ns) : IsCoveredBy n ns :=
  fun _ hk => ⟨n, h, hk⟩

theorem isCoveredBy_zero (ns : List Int) : IsCoveredBy 0 ns := by
  intro k hk
  rw [testBit_zero] at hk
  cases hk

theorem IsCoveredBy.land (hm : IsCoveredBy m ns) (n : Int) : IsCoveredBy (m.land n) ns := by
  intro k hk
  rw [Int.testBit_land, Bool.and_eq_true] at hk
  exact hm k hk.1

theorem IsCoveredBy.lor (hm : IsCoveredBy m ns) (hn : IsCoveredBy n ns) :
    IsCoveredBy (m.lor n) ns := by
  intro k hk
  rw [Int.testBit_lor, Bool.or_eq_true] at hk
  exact hk.elim (hm k) (hn k)

/-- The test of a number against a mask: what is left of it once the bits of the mask are changed
in it. -/
theorem lxor_land_eq_zero_iff :
    (n.xor (ns.foldl Int.lor 0)).land n = 0 ↔ IsCoveredBy n ns := by
  have hunion : union = Int.lor := funext fun m => funext fun n => union_eq_lor m n
  rw [← hunion, lxor_land, inter_not_eq_zero_iff, isWithin_foldl_union_iff]

end Enumeration

namespace Constraint

open Enumeration

open Conversion (access permissions class?_permissions)

variable {r : Registry} {c : Constraint} {ns : List Int} {member shown : Value}
  {place label : String}

/-- The constraints that check numbers against flags, with the values that are declared: a list with
flags, and the name of an enumeration whose members can be joined and are numbers. -/
inductive ChecksFlags (r : Registry) : Constraint → List Int → Prop where
  | listed {l : ValueList} (hflags : l.flags = true) :
      ChecksFlags r (.values (some l)) (l.pairs.map Prod.snd)
  | named {name : String} {e : Enumeration} (hclass : r.class? name = .ok (some (.enumeration e)))
      (hflags : e.isFlags = true) (hnumbers : ∀ entry ∈ e.entries, entry.2.number?.isSome = true) :
      ChecksFlags r (.enumType name) e.numbers

/-- Whether a constraint of an enumeration reports no failure of a number. -/
def TakesNumber (r : Registry) (c : Constraint) (member shown : Value) (n : Int) : Prop :=
  c.checkWith r (.ofDataType .enumeration) (.int n) member shown = .ok []

namespace ChecksFlags

theorem judges (h : ChecksFlags r c ns) : c.judges .enumeration = true := by
  cases h <;> rfl

/-- Both constraints test a number against the union of the declared values. -/
theorem failings_eq (h : ChecksFlags r c ns) (n : Int) :
    c.failings r .enumeration (.int n) =
      .ok (failsUnless (inter n (Int.not (ns.foldl union 0)) = 0) .enumFlagNotDefined
        "contains a flag that is not defined") := by
  cases h with
  | @listed l hflags =>
      have hmask : ValueList.mask? l = some ((l.pairs.map Prod.snd).foldl union 0) := by
        rw [ValueList.mask?, if_pos hflags]
      rw [failings, listedFailings, hmask]
      rfl
  | named hclass hflags hnumbers =>
      rw [failings_enumType hclass, memberFailings, declaredNumbers_of_forall hnumbers,
        if_pos hflags]
      rfl

/-- A number passes where all its bits are covered, and is reported otherwise. -/
theorem check_eq (h : ChecksFlags r c ns) (n : Int) (place label : String) :
    (IsCoveredBy n ns → c.check r .enumeration (.int n) place label = .ok []) ∧
      (¬ IsCoveredBy n ns → c.check r .enumeration (.int n) place label =
        .ok [Outcome.failure c place .enumFlagNotDefined
          (label ++ " " ++ "contains a flag that is not defined")]) := by
  rw [Constraint.check_eq h.judges (v := .int n) nofun, h.failings_eq, ← isWithin_foldl_union_iff,
    ← inter_not_eq_zero_iff]
  constructor
  · intro hcovered
    rw [hcovered]
    rfl
  · intro hcovered
    simp only [failsUnless, hcovered]
    rfl

end ChecksFlags

theorem reports_eq_nil_iff {found : Except Fault (List Outcome)} :
    reports found = .ok [] ↔ found = .ok [] := by
  cases found with
  | error fault => exact iff_of_false nofun nofun
  | ok outcomes => simp [reports, Functor.map, Except.map]

/-- A constraint with flags takes a number of any size and sign if and only if each of its bits is
a bit of a declared value, which is what the test against their mask comes to, and reports the
number otherwise.  An object with a mask of its own says the same.  So it takes every declared
value, zero, and what has the common or all bits of numbers that it takes. -/
theorem takes_flags_iff (h : ChecksFlags r c ns)
    (hmember : Argument.nameText "member_name" member = .ok place)
    (hshown : shownName place shown = .ok label) :
    (∀ n, TakesNumber r c member shown n ↔ IsCoveredBy n ns) ∧
      (∀ n, TakesNumber r c member shown n ↔ (n.xor (ns.foldl Int.lor 0)).land n = 0) ∧
      (∀ n, ¬ TakesNumber r c member shown n →
        c.checkWith r (.ofDataType .enumeration) (.int n) member shown =
          .ok [Outcome.failure c place .enumFlagNotDefined
            (label ++ " " ++ "contains a flag that is not defined")]) ∧
      (∀ object : Cell, object.Represents r c → ∀ n,
        ((Cell.checkWith r (.ofDataType .enumeration) (.int n) member shown).outcome object).1 =
          .ok [] ↔ IsCoveredBy n ns) ∧
      (∀ n ∈ ns, TakesNumber r c member shown n) ∧ TakesNumber r c member shown 0 ∧
      ∀ m n, TakesNumber r c member shown m → TakesNumber r c member shown n →
        TakesNumber r c member shown (m.land n) ∧ TakesNumber r c member shown (m.lor n) := by
  have hcheck : ∀ n, c.checkWith r (.ofDataType .enumeration) (.int n) member shown =
      c.check r .enumeration (.int n) place label := fun n =>
    checkWith_ofDataType (by decide) hmember hshown
  have htakes : ∀ n, TakesNumber r c member shown n ↔ IsCoveredBy n ns := by
    intro n
    rw [TakesNumber, hcheck]
    refine ⟨fun htaken => ?_, (h.check_eq n place label).1⟩
    by_contra hcovered
    rw [(h.check_eq n place label).2 hcovered] at htaken
    cases htaken
  refine ⟨htakes, fun n => ?_, fun n hn => ?_, fun object hobject n => ?_, fun n hn => ?_, ?_,
    fun m n hm hn => ⟨?_, ?_⟩⟩
  · rw [htakes, lxor_land_eq_zero_iff]
  · rw [htakes] at hn
    rw [hcheck, (h.check_eq n place label).2 hn]
  · rw [(Cell.checkWith_gives hobject _ _ _ _).1, reports_eq_nil_iff]
    exact htakes n
  · exact (htakes n).mpr (isCoveredBy_of_mem hn)
  · exact (htakes 0).mpr (isCoveredBy_zero ns)
  · exact (htakes _).mpr (((htakes m).mp hm).land n)
  · exact (htakes _).mpr (((htakes m).mp hm).lor ((htakes n).mp hn))

/-- All bits but the lowest three and the lowest one are covered: -7 has no others, and 2 has. -/
theorem takes_flags_iff_negative :
    ChecksFlags access (.values (some ⟨.int32, true, [("High", -8), ("Low", 1)]⟩)) [-8, 1] ∧
      Argument.nameText "member_name" (.text "m") = .ok "m" ∧ shownName "m" .null = .ok "m" ∧
      TakesNumber access (.values (some ⟨.int32, true, [("High", -8), ("Low", 1)]⟩)) (.text "m")
        .null (-7) ∧
      ¬ TakesNumber access (.values (some ⟨.int32, true, [("High", -8), ("Low", 1)]⟩)) (.text "m")
        .null 2 := by
  have hlisted : ChecksFlags access (.values (some ⟨.int32, true, [("High", -8), ("Low", 1)]⟩))
      [-8, 1] := .listed rfl
  have hname : Argument.nameText "member_name" (.text "m") = .ok "m" := rfl
  have hshown : shownName "m" .null = .ok "m" := rfl
  have htakes := (takes_flags_iff hlisted hname hshown).1
  have hcovered : IsCoveredBy (-7) [-8, 1] := by
    rw [← isWithin_foldl_union_iff, IsWithin]
    decide
  have hbare : ¬ IsCoveredBy 2 [-8, 1] := by
    rw [← isWithin_foldl_union_iff, IsWithin]
    decide
  exact ⟨hlisted, hname, hshown, (htakes (-7)).mpr hcovered, (htakes 2).not.mpr hbare⟩

end Constraint

end ParamRules
