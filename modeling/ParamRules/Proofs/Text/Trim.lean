import ParamRules.Text.Blank
import Mathlib

/-!
# Trimmed texts

A text is left as it is by trimming when neither its first nor its last character is blank.  What
trimming leaves over is such a text, so names and schemes that were trimmed once can be written
down and trimmed again.
-/

namespace ParamRules.Text

/-- Whether neither the first nor the last character is blank. -/
def IsTrimmed (s : List Char) : Prop :=
  (∀ c ∈ s.head?, isBlank c = false) ∧ ∀ c ∈ s.getLast?, isBlank c = false

variable {s t : List Char}

theorem trimEnd_eq_rdropWhile (s : List Char) : trimEnd s = s.rdropWhile isBlank := rfl

theorem trimStart_eq_self_iff : trimStart s = s ↔ ∀ c ∈ s.head?, isBlank c = false := by
  cases s with
  | nil => simp [trimStart]
  | cons c s =>
      rw [trimStart, List.dropWhile_eq_self_iff]
      simp

theorem trimEnd_eq_self_iff : trimEnd s = s ↔ ∀ c ∈ s.getLast?, isBlank c = false := by
  rw [trimEnd_eq_rdropWhile, List.rdropWhile_eq_self_iff]
  constructor
  · intro h c hc
    obtain ⟨hne, rfl⟩ := List.mem_getLast?_eq_getLast hc
    simpa using h hne
  · intro h hne
    simpa using h _ (List.getLast?_eq_some_getLast hne)

theorem trimChars_eq_self (h : IsTrimmed s) : trimChars s = s := by
  rw [trimChars, trimStart_eq_self_iff.mpr h.1, trimEnd_eq_self_iff.mpr h.2]

/-- What is left at the end keeps the first character, unless nothing is left. -/
theorem head?_trimEnd (s : List Char) : ∀ c ∈ (trimEnd s).head?, c ∈ s.head? := by
  intro c hc
  obtain ⟨t, ht⟩ : trimEnd s <+: s := List.rdropWhile_prefix isBlank s
  rw [← ht, List.head?_append, Option.mem_def.mp hc]
  rfl

theorem isTrimmed_trimChars (s : List Char) : IsTrimmed (trimChars s) := by
  constructor
  · intro c hc
    exact trimStart_eq_self_iff.mp (trimStart_idem s) c (head?_trimEnd _ c hc)
  · exact trimEnd_eq_self_iff.mp (trimEnd_idem _)

theorem trimChars_idem (s : List Char) : trimChars (trimChars s) = trimChars s :=
  trimChars_eq_self (isTrimmed_trimChars s)

@[simp] theorem toList_trim (s : String) : (trim s).toList = trimChars s.toList :=
  String.toList_ofList

theorem trim_idem (s : String) : trim (trim s) = trim s := by
  rw [trim, toList_trim, trimChars_idem]
  rfl

theorem trim_eq_self {s : String} (h : IsTrimmed s.toList) : trim s = s := by
  rw [trim, trimChars_eq_self h, String.ofList_toList]

theorem subset_of_trimChars (s : List Char) : trimChars s ⊆ s := fun _ hc =>
  (List.dropWhile_sublist _).subset ((List.rdropWhile_prefix _ _).subset hc)

/-- Only blank characters are trimmed. -/
theorem mem_trimChars_iff {c : Char} (hc : isBlank c = false) : c ∈ trimChars s ↔ c ∈ s := by
  have hstart : ∀ s : List Char, c ∈ s.dropWhile isBlank ↔ c ∈ s := by
    intro s
    refine ⟨fun h => (List.dropWhile_sublist _).subset h, fun h => ?_⟩
    rw [← List.takeWhile_append_dropWhile (p := isBlank) (l := s), List.mem_append] at h
    refine h.resolve_left fun htake => ?_
    rw [List.mem_takeWhile_imp htake] at hc
    cases hc
  rw [trimChars, trimEnd, List.mem_reverse, hstart, List.mem_reverse, trimStart, hstart]

/-! ## Blank texts -/

theorem trimChars_eq_nil_iff : trimChars s = [] ↔ ∀ c ∈ s, isBlank c = true := by
  rw [trimChars, trimEnd_eq_rdropWhile, List.rdropWhile_eq_nil_iff, trimStart]
  constructor
  · intro h c hc
    rw [← List.takeWhile_append_dropWhile (p := isBlank) (l := s), List.mem_append] at hc
    exact hc.elim List.mem_takeWhile_imp (h c)
  · intro h c hc
    exact h c ((List.dropWhile_sublist _).subset hc)

theorem isAllBlank_iff_trim_eq_empty {s : String} : isAllBlank s = true ↔ trim s = "" := by
  rw [isAllBlank_iff, ← trimChars_eq_nil_iff, ← toList_trim, String.toList_eq_nil_iff]

theorem isAllBlank_trim (s : String) : isAllBlank (trim s) = isAllBlank s := by
  rw [Bool.eq_iff_iff, isAllBlank_iff_trim_eq_empty, isAllBlank_iff_trim_eq_empty, trim_idem]

/-! ## Texts without blank characters at their ends -/

theorem isTrimmed_of_forall (h : ∀ c ∈ s, isBlank c = false) : IsTrimmed s :=
  ⟨fun c hc => h c (List.mem_of_mem_head? hc), fun c hc => h c (List.mem_of_mem_getLast? hc)⟩

theorem IsTrimmed.append (hs : IsTrimmed s) (ht : IsTrimmed t) (hsne : s ≠ []) (htne : t ≠ []) :
    IsTrimmed (s ++ t) := by
  rw [IsTrimmed, List.head?_append_of_ne_nil _ hsne, List.getLast?_append_of_ne_nil _ htne]
  exact ⟨hs.1, ht.2⟩

/-! ## White space -/

/-- The code points of white space. -/
def blankCodes : List Nat :=
  [9, 10, 11, 12, 13, 28, 29, 30, 31, 32, 0x85, 0xA0, 0x1680, 0x2000, 0x2001, 0x2002, 0x2003,
    0x2004, 0x2005, 0x2006, 0x2007, 0x2008, 0x2009, 0x200A, 0x2028, 0x2029, 0x202F, 0x205F, 0x3000]

theorem mem_of_between {a k n : Nat} {codes : List Nat} (h : ∀ i ≤ k, a + i ∈ codes)
    (hl : a ≤ n) (hu : n ≤ a + k) : n ∈ codes := by
  obtain ⟨i, rfl⟩ := Nat.exists_eq_add_of_le hl
  exact h i (by omega)

/-- What is needed of white space is checked for its code points. -/
theorem forall_blank {P : Char → Prop} {c : Char} (h : ∀ n ∈ blankCodes, P (Char.ofNat n))
    (hc : isBlank c = true) : P c := by
  have hmem : c.toNat ∈ blankCodes := by
    simp only [isBlank, Bool.or_eq_true, Bool.and_eq_true, decide_eq_true_eq, beq_iff_eq] at hc
    rcases hc with (((((((((h | h) | h) | h) | h) | h) | h) | h) | h) | h) | h
    · exact mem_of_between (k := 4) (by decide) h.1 h.2
    · exact mem_of_between (k := 4) (by decide) h.1 h.2
    · rw [h]
      decide
    · rw [h]
      decide
    · rw [h]
      decide
    · exact mem_of_between (k := 10) (by decide) h.1 h.2
    all_goals
      rw [h]
      decide
  rw [← Char.ofNat_toNat c]
  exact h _ hmem

end ParamRules.Text
