import ParamRules.Pattern.Letter
import Mathlib

/-!
# The forms of a letter

The tables of letters tell the lower-case form of a character.  A pattern that takes letters of
either case for the same asks for the characters with a given form.  For the letters below U+0180,
the ASCII letters among them, these are found by going through the tables backwards (`mem_forms`).
-/

namespace ParamRules.Pattern

open Text

/-- The runs that lead to letters below U+0180. -/
def nearRuns : List CaseRun :=
  lowerRuns.filter fun run => (run.1 : Int) + run.2.2.2 < 0x180

/-- No run leads below zero. -/
theorem lowerRuns_nonneg : ∀ run ∈ lowerRuns, 0 ≤ (run.1 : Int) + run.2.2.2 := by
  decide +kernel

theorem of_form? {run : CaseRun} {n m : Nat} (hrun : run ∈ lowerRuns) (h : run.form? n = some m)
    (hm : m < 0x180) : run ∈ nearRuns ∧ Int.toNat (Int.ofNat m - run.2.2.2) = n := by
  have hleast := lowerRuns_nonneg run hrun
  unfold CaseRun.form? at h
  split_ifs at h with hcovers
  obtain rfl := Option.some.inj h
  simp only [nearRuns, List.mem_filter, hrun, true_and, decide_eq_true_eq,
    Int.ofNat_eq_natCast] at *
  omega

/-- The characters with a given lower-case form, when that is below U+0180.  The capital I with a
dot is in no run, since its lower-case form is two characters. -/
def nearForms (m : Nat) : List Nat :=
  m :: (nearRuns.filterMap fun run =>
      let n := Int.toNat (Int.ofNat m - run.2.2.2)
      if run.form? n = some m then some n else none) ++
    if m = 0x69 then [0x130] else []

theorem lowerCode_of_none {n : Nat} (hrun : lowerRuns.findSome? (·.form? n) = none)
    (hn : n ≠ 0x130) : lowerCode n = n := by
  have hne : (n == 0x130) = false := beq_eq_false_iff_ne.mpr hn
  have hlookup : lowerSequences.lookup n = none := by
    simp only [lowerSequences, List.lookup, hne]
  rw [lowerCode, hrun, hlookup]

theorem mem_nearForms {n : Nat} (h : lowerCode n < 0x180) : n ∈ nearForms (lowerCode n) := by
  cases hrun : lowerRuns.findSome? (·.form? n) with
  | some m =>
      have hcode : lowerCode n = m := by rw [lowerCode, hrun]
      obtain ⟨run, hmem, hform⟩ := List.exists_of_findSome?_eq_some hrun
      rw [hcode] at h ⊢
      obtain ⟨hnear, hback⟩ := of_form? hmem hform h
      refine List.mem_append_left _
        (List.mem_cons_of_mem _ (List.mem_filterMap.mpr ⟨run, hnear, ?_⟩))
      simp only [hback, hform, if_true]
  | none =>
      by_cases hn : n = 0x130
      · subst hn
        decide +kernel
      · rw [lowerCode_of_none hrun hn]
        exact List.mem_append_left _ List.mem_cons_self

/-- The capital letters of the first 128 characters have a run of their own. -/
theorem exists_lowerRuns_eq :
    ∃ runs : List CaseRun, lowerRuns = (0x41, 0x5A, 1, 32) :: runs ∧ ∀ run ∈ runs, 0x80 ≤ run.1 :=
  ⟨lowerRuns.tail, rfl, by decide +kernel⟩

theorem code_full (n : Nat) : Folding.full.code n = lowerCode n := by
  by_cases hn : n < 0x80
  · obtain ⟨runs, hruns, hothers⟩ := exists_lowerRuns_eq
    have hnone : runs.findSome? (·.form? n) = none := by
      refine List.findSome?_eq_none_iff.mpr fun run hmem => ?_
      have hstart := hothers run hmem
      rw [CaseRun.form?, if_neg (by omega)]
    rw [Folding.code, if_pos hn]
    by_cases hupper : 0x41 ≤ n ∧ n ≤ 0x5A
    · have hform : CaseRun.form? (0x41, 0x5A, 1, 32) n = some (n + 0x20) := by
        rw [CaseRun.form?, if_pos ⟨hupper.1, hupper.2, Nat.mod_one _⟩]
        rfl
      rw [if_pos hupper, lowerCode, hruns, List.findSome?_cons, hform]
    · have hform : CaseRun.form? (0x41, 0x5A, 1, 32) n = none := by
        rw [CaseRun.form?, if_neg fun hcovers => hupper ⟨hcovers.1, hcovers.2.1⟩]
      have hall : lowerRuns.findSome? (·.form? n) = none := by
        rw [hruns, List.findSome?_cons, hform, hnone]
      rw [if_neg hupper, lowerCode_of_none hall (by omega)]
  · rw [Folding.code, if_neg hn]

/-- The characters that count as the same as a letter. -/
def forms (p : Char) : List Nat :=
  (sameAs p.toNat).flatMap nearForms

theorem mem_forms {c p : Char} (hp : ∀ m ∈ sameAs p.toNat, m < 0x180)
    (h : Folding.full.isSame c.toNat p.toNat = true) : c.toNat ∈ forms p := by
  rw [Folding.isSame, List.contains_iff_mem, code_full] at h
  exact List.mem_flatMap.mpr ⟨_, h, mem_nearForms (hp _ h)⟩

end ParamRules.Pattern
