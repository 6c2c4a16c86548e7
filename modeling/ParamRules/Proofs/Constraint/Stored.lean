import ParamRules.Constraint.Written
import Mathlib

/-!
# The order in which constraints are stored

Storing moves the two constraints that say how a value is held to the front and keeps all others
as they came.  It is a permutation that leaves its own results alone, so the canonical text of
constraints does not depend on how often they were stored.
-/

namespace ParamRules.Constraint

/-- Whether a constraint is about how a value is held, and moves to the front. -/
def leads (c : Constraint) : Bool :=
  c.name = "Null" || c.name = "Encrypted"

theorem filter_others (cs : List Constraint) :
    (cs.filter fun c => c.name ≠ "Null" && c.name ≠ "Encrypted") = cs.filter (!·.leads) := by
  congr 1
  funext c
  simp [leads]

theorem perm_stored (cs : List Constraint) : (stored cs).Perm cs := by
  induction cs with
  | nil => exact .nil
  | cons c cs ih =>
      unfold stored at ih ⊢
      by_cases hnull : c.name = "Null"
      · simpa [hnull] using ih
      · by_cases hencrypted : c.name = "Encrypted"
        · rw [List.filter_cons_of_neg (by simpa using hnull),
            List.filter_cons_of_pos (by simpa using hencrypted),
            List.filter_cons_of_neg (by simp [hencrypted]), List.append_assoc, List.cons_append]
          rw [List.append_assoc] at ih
          exact List.perm_middle.trans (ih.cons c)
        · rw [List.filter_cons_of_neg (by simpa using hnull),
            List.filter_cons_of_neg (by simpa using hencrypted),
            List.filter_cons_of_pos (by simp [hnull, hencrypted])]
          exact List.perm_middle.trans (ih.cons c)

/-- What stands before the constraints that keep their order leads. -/
theorem exists_stored_eq (cs : List Constraint) :
    ∃ front, stored cs = front ++ cs.filter (!·.leads) ∧ ∀ c ∈ front, c.leads = true := by
  refine ⟨cs.filter (·.name = "Null") ++ cs.filter (·.name = "Encrypted"), ?_, ?_⟩
  · rw [stored, filter_others]
  · intro c hc
    rcases List.mem_append.mp hc with hc | hc
    · have hname : c.name = "Null" := by simpa using (List.mem_filter.mp hc).2
      simp [leads, hname]
    · have hname : c.name = "Encrypted" := by simpa using (List.mem_filter.mp hc).2
      simp [leads, hname]

/-- Looking for the first constraint of a kind does not see those that lead. -/
theorem findSome?_stored {α : Type} {f : Constraint → Option α}
    (hf : ∀ c, c.leads = true → f c = none) (cs : List Constraint) :
    (stored cs).findSome? f = cs.findSome? f := by
  obtain ⟨front, heq, hfront⟩ := exists_stored_eq cs
  have hnone : front.findSome? f = none :=
    List.findSome?_eq_none_iff.mpr fun c hc => hf c (hfront c hc)
  rw [heq, List.findSome?_append, hnone, Option.none_or]
  clear heq hfront hnone
  induction cs with
  | nil => rfl
  | cons c cs ih =>
      cases hc : c.leads with
      | true => rw [List.filter_cons_of_neg (by simp [hc]), ih, List.findSome?_cons, hf c hc]
      | false =>
          rw [List.filter_cons_of_pos (by simp [hc]), List.findSome?_cons, List.findSome?_cons, ih]

theorem mem_stored {c : Constraint} {cs : List Constraint} : c ∈ stored cs ↔ c ∈ cs :=
  (perm_stored cs).mem_iff

theorem stored_stored (cs : List Constraint) : stored (stored cs) = stored cs := by
  have hnone : ∀ {p q : Constraint → Bool}, (∀ c, p c = true → q c = false) →
      (cs.filter p).filter q = [] := by
    intro p q h
    rw [List.filter_eq_nil_iff]
    intro c hc
    simpa using h c (List.mem_filter.mp hc).2
  have hall : ∀ p : Constraint → Bool, (cs.filter p).filter p = cs.filter p := by
    intro p
    rw [List.filter_filter]
    simp
  unfold stored
  simp only [List.filter_append, hall]
  rw [hnone, hnone, hnone, hnone, hnone, hnone]
  all_goals simp_all

theorem concat_stored (cs : List Constraint) : concat (stored cs) = concat cs := by
  rw [concat, stored_stored, ← concat]

end ParamRules.Constraint
