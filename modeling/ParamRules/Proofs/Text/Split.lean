import ParamRules.Text.Split
import Mathlib

/-!
# Pieces put together and cut again

Pieces that do not hold the separator are found again when they are joined and cut at it, and no
piece of a text holds the separator.
-/

namespace ParamRules.Text

variable {sep : Char} {s t piece : List Char}

theorem splitChars_of_not_mem (h : sep ∉ s) : splitChars sep s = [s] := by
  induction s with
  | nil => rfl
  | cons c s ih =>
      rw [List.mem_cons, not_or] at h
      obtain ⟨hc, hs⟩ := h
      rw [splitChars, if_neg (Ne.symm hc), ih hs]

theorem splitChars_append_cons (h : sep ∉ s) (t : List Char) :
    splitChars sep (s ++ sep :: t) = s :: splitChars sep t := by
  induction s with
  | nil => simp [splitChars]
  | cons c s ih =>
      rw [List.mem_cons, not_or] at h
      obtain ⟨hc, hs⟩ := h
      rw [List.cons_append, splitChars, if_neg (Ne.symm hc), ih hs]

theorem splitChars_intercalate {pieces : List (List Char)} (hne : pieces ≠ [])
    (h : ∀ piece ∈ pieces, sep ∉ piece) : splitChars sep ([sep].intercalate pieces) = pieces := by
  induction pieces with
  | nil => exact absurd rfl hne
  | cons piece pieces ih =>
      obtain ⟨hpiece, hpieces⟩ := List.forall_mem_cons.mp h
      cases pieces with
      | nil => simpa using splitChars_of_not_mem hpiece
      | cons second pieces =>
          rw [List.intercalate_cons_cons, List.append_assoc, List.singleton_append,
            splitChars_append_cons hpiece, ih (by simp) hpieces]

theorem forall_mem_intercalate {P : Char → Prop} (hsep : ∀ c ∈ s, P c)
    {pieces : List (List Char)} (h : ∀ piece ∈ pieces, ∀ c ∈ piece, P c) :
    ∀ c ∈ s.intercalate pieces, P c := by
  induction pieces with
  | nil => exact nofun
  | cons piece pieces ih =>
      obtain ⟨hpiece, hpieces⟩ := List.forall_mem_cons.mp h
      cases pieces with
      | nil => simpa using hpiece
      | cons second pieces =>
          rw [List.intercalate_cons_cons, List.forall_mem_append, List.forall_mem_append]
          exact ⟨⟨hpiece, hsep⟩, ih hpieces⟩

/-- A piece of a text with one more character in front is empty, a piece of the text, or one of them
with the character in front of it. -/
theorem mem_splitChars_cons {c : Char} (h : piece ∈ splitChars sep (c :: s)) :
    piece = [] ∨ piece ∈ splitChars sep s ∨
      c ≠ sep ∧ ∃ first ∈ splitChars sep s, piece = c :: first := by
  by_cases hc : c = sep
  · rw [splitChars, if_pos hc, List.mem_cons] at h
    exact h.imp_right .inl
  · obtain ⟨first, pieces, hsplit⟩ := List.exists_cons_of_ne_nil (splitChars_ne_nil sep s)
    rw [splitChars, if_neg hc, hsplit, List.mem_cons] at h
    rw [hsplit]
    rcases h with rfl | h
    · exact .inr (.inr ⟨hc, first, List.mem_cons_self, rfl⟩)
    · exact .inr (.inl (List.mem_cons_of_mem _ h))

theorem not_mem_of_mem_splitChars (h : piece ∈ splitChars sep s) : sep ∉ piece := by
  induction s generalizing piece with
  | nil =>
      rw [splitChars, List.mem_singleton] at h
      simp [h]
  | cons c s ih =>
      rcases mem_splitChars_cons h with rfl | h | ⟨hc, first, hfirst, rfl⟩
      · exact List.not_mem_nil
      · exact ih h
      · rw [List.mem_cons, not_or]
        exact ⟨Ne.symm hc, ih hfirst⟩

theorem subset_of_mem_splitChars (h : piece ∈ splitChars sep s) : piece ⊆ s := by
  induction s generalizing piece with
  | nil =>
      rw [splitChars, List.mem_singleton] at h
      simp [h]
  | cons c s ih =>
      rcases mem_splitChars_cons h with rfl | h | ⟨-, first, hfirst, rfl⟩
      · exact List.nil_subset _
      · exact List.Subset.trans (ih h) (List.subset_cons_self c s)
      · exact List.cons_subset_cons c (ih hfirst)

/-- The pieces without the separator are what is left when it is taken out of the whole. -/
theorem filter_intercalate {pieces : List (List Char)} (h : ∀ piece ∈ pieces, sep ∉ piece) :
    ([sep].intercalate pieces).filter (· ≠ sep) = pieces.flatten := by
  induction pieces with
  | nil => rfl
  | cons piece pieces ih =>
      obtain ⟨hpiece, hpieces⟩ := List.forall_mem_cons.mp h
      have hkept : piece.filter (· ≠ sep) = piece := by
        rw [List.filter_eq_self]
        intro c hc
        simpa using fun heq : c = sep => hpiece (heq ▸ hc)
      cases pieces with
      | nil => simpa using hkept
      | cons second pieces =>
          rw [List.intercalate_cons_cons, List.filter_append, List.filter_append, hkept,
            ih hpieces]
          simp

theorem length_splitChars (sep : Char) (s : List Char) :
    (splitChars sep s).length = s.count sep + 1 := by
  induction s with
  | nil => rfl
  | cons c s ih =>
      obtain ⟨first, pieces, hsplit⟩ := List.exists_cons_of_ne_nil (splitChars_ne_nil sep s)
      by_cases hc : c = sep
      · rw [splitChars, if_pos hc, List.length_cons, ih, hc, List.count_cons_self]
      · rw [List.count_cons_of_ne hc, ← ih]
        simp [splitChars, if_neg hc, hsplit]

/-! ## The first occurrence -/

theorem cutChars?_eq_none_iff : cutChars? sep s = none ↔ sep ∉ s := by
  induction s with
  | nil => simp [cutChars?]
  | cons c s ih =>
      rw [cutChars?, List.mem_cons, not_or]
      by_cases hc : c = sep
      · simp [hc]
      · simp [hc, ih, Ne.symm hc]

theorem cutChars?_append (h : sep ∉ s) (t : List Char) :
    cutChars? sep (s ++ sep :: t) = some (s, t) := by
  induction s with
  | nil => simp [cutChars?]
  | cons c s ih =>
      rw [List.mem_cons, not_or] at h
      rw [List.cons_append, cutChars?, if_neg (Ne.symm h.1), ih h.2]
      rfl

theorem cutChars?_eq_some_iff :
    cutChars? sep s = some (piece, t) ↔ sep ∉ piece ∧ s = piece ++ sep :: t := by
  constructor
  · intro h
    induction s generalizing piece with
    | nil => cases h
    | cons c s ih =>
        rw [cutChars?] at h
        split_ifs at h with hc
        · cases h
          exact ⟨List.not_mem_nil, by rw [hc, List.nil_append]⟩
        · obtain ⟨⟨before, after⟩, hcut, heq⟩ := Option.map_eq_some_iff.mp h
          cases heq
          obtain ⟨hbefore, rfl⟩ := ih hcut
          refine ⟨?_, rfl⟩
          rw [List.mem_cons, not_or]
          exact ⟨Ne.symm hc, hbefore⟩
  · rintro ⟨h, rfl⟩
    exact cutChars?_append h t

/-! ## Halves and pieces of texts -/

section Texts

variable {whole left right : String}

theorem cut?_eq_some_iff :
    cut? sep whole = some (left, right) ↔
      sep ∉ left.toList ∧ whole.toList = left.toList ++ sep :: right.toList := by
  rw [← cutChars?_eq_some_iff, cut?, Option.map_eq_some_iff]
  constructor
  · rintro ⟨p, hp, heq⟩
    cases heq
    simpa using hp
  · intro h
    exact ⟨_, h, by simp⟩

theorem cut?_eq_none_iff : cut? sep whole = none ↔ sep ∉ whole.toList := by
  rw [← cutChars?_eq_none_iff, cut?, Option.map_eq_none_iff]

theorem cutLast?_eq_some_iff :
    cutLast? sep whole = some (left, right) ↔
      sep ∉ right.toList ∧ whole.toList = left.toList ++ sep :: right.toList := by
  have hreverse : whole.toList = left.toList ++ sep :: right.toList ↔
      whole.toList.reverse = right.toList.reverse ++ sep :: left.toList.reverse := by
    rw [← List.reverse_inj]
    simp
  rw [hreverse, ← List.mem_reverse, ← cutChars?_eq_some_iff, cutLast?, Option.map_eq_some_iff]
  constructor
  · rintro ⟨p, hp, heq⟩
    cases heq
    simpa using hp
  · intro h
    exact ⟨_, h, by simp⟩

theorem split_eq_iff {pieces : List String} :
    split sep whole = pieces ↔ pieces ≠ [] ∧ (∀ piece ∈ pieces, sep ∉ piece.toList) ∧
      whole.toList = [sep].intercalate (pieces.map String.toList) := by
  constructor
  · rintro rfl
    have hchars : (split sep whole).map String.toList = splitChars sep whole.toList := by
      simp [split]
    refine ⟨?_, ?_, ?_⟩
    · simpa [split] using splitChars_ne_nil sep whole.toList
    · intro piece hpiece
      exact not_mem_of_mem_splitChars (hchars ▸ List.mem_map_of_mem hpiece)
    · rw [hchars, splitOn_join]
  · rintro ⟨hne, hpieces, hwhole⟩
    have hchars : splitChars sep whole.toList = pieces.map String.toList := by
      rw [hwhole]
      exact splitChars_intercalate (by simpa using hne) (List.forall_mem_map.mpr hpieces)
    simp [split, hchars]

end Texts

/-! ## Marks taken out -/

theorem removeChars_eq_self {m : Char} {mark : List Char} (fuel : Nat) (h : m ∉ s) :
    removeChars (m :: mark) fuel s = s := by
  induction fuel generalizing s with
  | zero => rfl
  | succ fuel ih =>
      cases s with
      | nil => rfl
      | cons c s =>
          rw [List.mem_cons, not_or] at h
          obtain ⟨hc, hs⟩ := h
          have hafter : afterChars? (m :: mark) (c :: s) = none := by
            rw [afterChars?, if_neg hc]
          simp only [removeChars, hafter, ih hs]

/-- A text that does not hold the first character of a mark does not hold the mark. -/
theorem remove_eq_self {mark text : String} {m : Char} {r : List Char}
    (hmark : mark.toList = m :: r) (h : m ∉ text.toList) : remove mark text = text := by
  rw [remove, hmark, removeChars_eq_self _ h, String.ofList_toList]

end ParamRules.Text
