import ParamRules.Path
import ParamRules.Proofs.Text.Split
import ParamRules.Proofs.Text.Trim

/-!
# Paths without variables, and absolute paths

A text without a dollar sign has no variables, and the path of one without a tilde has no home
directory, so that neither depends on the environment.  What an absolute path is written as starts
with a slash and is never blank.
-/

namespace ParamRules.Path

open Text

variable {e : Environment} {s : String} {p directory : Path}

/-! ## The environment -/

theorem expandChars_of_not_mem (e : Environment) {cs : List Char} (fuel : Nat) (h : '$' ∉ cs) :
    expandChars e cs fuel = cs := by
  induction fuel generalizing cs with
  | zero => rfl
  | succ fuel ih =>
      cases cs with
      | nil => rfl
      | cons c cs =>
          rw [List.mem_cons, not_or] at h
          obtain ⟨hc, hcs⟩ := h
          rw [expandChars]
          · rw [ih hcs]
          · rintro rfl
            exact hc rfl

/-- A text without a dollar sign stays as it is. -/
theorem expandVariables_of_not_mem (e : Environment) (h : '$' ∉ s.toList) :
    expandVariables e s = s := by
  rw [expandVariables, expandChars_of_not_mem e _ h, String.ofList_toList]

theorem subset_of_mem_parts {part : String} (h : part ∈ (ofText s).parts) :
    part.toList ⊆ s.toList := by
  obtain ⟨piece, hpiece, rfl⟩ := List.mem_map.mp (List.mem_filter.mp h).1
  rw [String.toList_ofList]
  exact subset_of_mem_splitChars hpiece

/-- A path without a tilde stays as it is. -/
theorem expandHome_of_not_mem (e : Environment) (h : '~' ∉ s.toList) :
    (ofText s).expandHome e = some (ofText s) := by
  unfold expandHome
  split
  · rename_i first rest habs hparts
    split
    · rename_i user hfirst
      have hmem : '~' ∈ first.toList := hfirst ▸ List.mem_cons_self
      exact absurd (subset_of_mem_parts (hparts ▸ List.mem_cons_self) hmem) h
    · rfl
  · rfl

/-! ## Absolute paths -/

theorem isAbsolute_within (h : directory.isAbsolute = true) (p : Path) :
    (directory.within p).isAbsolute = true := by
  unfold within
  split_ifs with hp
  · exact hp
  · exact h

theorem head?_text (h : p.isAbsolute = true) : p.text.toList.head? = some '/' := by
  obtain ⟨slashes, parts⟩ := p
  cases slashes with
  | zero => cases h
  | succ n =>
      have hbody : (String.ofList (List.replicate (n + 1) '/') ++ join "/" parts).toList =
          '/' :: (List.replicate n '/' ++ (join "/" parts).toList) := by
        rw [String.toList_append, String.toList_ofList, List.replicate_succ, List.cons_append]
      have hne :
          (String.ofList (List.replicate (n + 1) '/') ++ join "/" parts).isEmpty = false := by
        rw [← Bool.not_eq_true, String.isEmpty_iff, ← String.toList_eq_nil_iff, hbody]
        exact List.cons_ne_nil _ _
      rw [text, if_neg (by rw [hne]; decide), hbody]
      rfl

/-- An absolute path is not written as a blank text. -/
theorem isAllBlank_text (h : p.isAbsolute = true) : isAllBlank p.text = false := by
  rw [← Bool.not_eq_true, isAllBlank_iff]
  intro hblank
  have hslash := hblank '/' (List.mem_of_mem_head? (head?_text h))
  cases hslash

end ParamRules.Path
