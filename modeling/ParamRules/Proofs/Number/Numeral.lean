import ParamRules.Proofs.Number.Integer

/-!
# Numerals

A numeral is a text of digits and nothing else.  The plain reader takes an optional sign and decimal
digits, of any script.  The liberal reader takes more: white space at the ends, underscores between
the digits and a mark of the base before them.  Where none of these is there, what it takes is a
numeral too (`exists_of_read`).
-/

namespace ParamRules

namespace Text

variable {c : Char} {s t : List Char} {f : Char → Option Nat} {ds : List Nat}

theorem mapM_eq_some_iff :
    s.mapM f = some ds ↔ (∀ c ∈ s, (f c).isSome = true) ∧ s.filterMap f = ds := by
  induction s generalizing ds with
  | nil => simp [List.mapM_nil]
  | cons c s ih =>
      rw [List.mapM_cons, List.forall_mem_cons]
      cases hc : f c with
      | none => simp
      | some d =>
          simp only [List.filterMap_cons_some hc, Option.isSome_some, true_and, Option.pure_def,
            Option.bind_eq_bind, Option.bind_some, Option.bind_eq_some_iff, ih, Option.some.injEq]
          constructor
          · rintro ⟨_, ⟨hs, rfl⟩, rfl⟩
            exact ⟨hs, rfl⟩
          · rintro ⟨hs, rfl⟩
            exact ⟨_, ⟨hs, rfl⟩, rfl⟩

/-! ## White space is no digit -/

theorem isBlank_of_isAnyDigit (h : isAnyDigit c = true) : isBlank c = false := by
  by_contra hblank
  have hdigit : isAnyDigit c = false :=
    forall_blank (P := fun c => isAnyDigit c = false) (by decide +kernel) (by simpa using hblank)
  rw [h] at hdigit
  cases hdigit

theorem isAnyDigit_of_isDecimalDigit (h : isDecimalDigit c = true) : isAnyDigit c = true := by
  rw [isAnyDigit, h, Bool.true_or]

end Text

namespace Integer

open Text

variable {base : Nat} {needed : Bool} {c : Char} {s rest : List Char} {ds : List Nat} {n : Int}

theorem allDigits?_eq_some_iff :
    allDigits? s = some ds ↔
      s ≠ [] ∧ (∀ c ∈ s, isDecimalDigit c = true) ∧ s.filterMap decimalDigit? = ds := by
  unfold allDigits?
  split_ifs with h
  · simp_all
  · rw [mapM_eq_some_iff]
    simp_all [isDecimalDigit]

theorem length_of_allDigits? (h : allDigits? s = some ds) : ds.length = s.length := by
  obtain ⟨-, hdigits, rfl⟩ := allDigits?_eq_some_iff.mp h
  exact List.filterMap_length_eq_length.mpr hdigits

/-! ## The liberal reader -/

theorem digitIn?_blank (hc : isBlank c = true) : digitIn? 16 c = none :=
  forall_blank (P := fun c => digitIn? 16 c = none) (by decide +kernel) hc

theorem isBlank_of_isNumberBlank (h : isNumberBlank c = true) : isBlank c = true := by
  rw [isNumberBlank, Bool.and_eq_true] at h
  exact h.1

/-- A run without underscores is digits and what follows them. -/
theorem exists_of_digitRun? (hunderscore : '_' ∉ s)
    (h : digitRun? base needed s = some (ds, rest)) :
    ∃ t, s = t ++ rest ∧ t.mapM (digitIn? base) = some ds ∧ (needed = true → t ≠ []) := by
  induction s generalizing needed ds with
  | nil =>
      rw [digitRun?] at h
      split_ifs at h with hneeded
      cases h
      exact ⟨[], rfl, rfl, fun hn => absurd hn hneeded⟩
  | cons c s ih =>
      rw [List.mem_cons, not_or] at hunderscore
      rw [digitRun?] at h
      split at h
      · rename_i d hd
        obtain ⟨⟨more, after⟩, hrun, heq⟩ := Option.map_eq_some_iff.mp h
        cases heq
        obtain ⟨t, rfl, ht, -⟩ := ih hunderscore.2 hrun
        refine ⟨c :: t, rfl, ?_, fun _ => List.cons_ne_nil c t⟩
        rw [List.mapM_cons, hd, ht]
        rfl
      · rw [if_neg (Ne.symm hunderscore.1)] at h
        split_ifs at h with hneeded
        cases h
        exact ⟨[], rfl, rfl, fun hn => absurd hn hneeded⟩

theorem splitSign_suffix (s : List Char) : (splitSign s).2 <:+ s := by
  unfold splitSign
  split
  · exact List.suffix_cons _ _
  · exact List.suffix_cons _ _
  · exact List.suffix_rfl

/-- No white space is at the end of a text whose last character is none. -/
theorem eq_nil_of_all_isNumberBlank (hsuffix : rest <:+ s)
    (hlast : ∀ c ∈ s.getLast?, isNumberBlank c = false) (h : rest.all isNumberBlank = true) :
    rest = [] := by
  by_contra hne
  obtain ⟨front, rfl⟩ := hsuffix
  have hmem : rest.getLast hne ∈ (front ++ rest).getLast? := by
    rw [List.getLast?_append_of_ne_nil _ hne, List.getLast?_eq_some_getLast hne]
    rfl
  have hblank := List.all_eq_true.mp h _ (List.getLast_mem hne)
  rw [hlast _ hmem] at hblank
  cases hblank

/-- What the liberal reader takes without white space, underscores and marks is digits only. -/
theorem exists_of_read (hunderscore : '_' ∉ s) (hhead : s.dropWhile isNumberBlank = s)
    (hlast : ∀ c ∈ s.getLast?, isNumberBlank c = false)
    (hmark : afterBaseMark base (splitSign s).2 = (splitSign s).2)
    (h : read base (String.ofList s) = .ok n) :
    ∃ ds, (splitSign s).2 ≠ [] ∧ (splitSign s).2.mapM (digitIn? base) = some ds ∧
      n = signed (splitSign s).1 (ofDigits base ds) := by
  have hsuffix := splitSign_suffix s
  unfold read at h
  simp only [String.toList_ofList, hhead, hmark] at h
  split at h
  · cases h
  · rename_i ds rest hrun
    split_ifs at h with hlong hrest
    cases h
    obtain ⟨t, hbody, ht, hne⟩ :=
      exists_of_digitRun? (fun hmem => hunderscore (hsuffix.subset hmem)) hrun
    have hnone : rest = [] :=
      eq_nil_of_all_isNumberBlank (List.IsSuffix.trans ⟨t, hbody.symm⟩ hsuffix) hlast hrest
    rw [hnone, List.append_nil] at hbody
    rw [hbody]
    exact ⟨ds, hne rfl, ht, rfl⟩

/-- What the liberal reader takes in base ten without white space and underscores is a plain
number. -/
theorem exists_plainDigits?_of_read (hs : IsTrimmed s) (hunderscore : '_' ∉ s)
    (h : read 10 (String.ofList s) = .ok n) :
    ∃ negative ds, plainDigits? s = some (negative, ds) ∧ n = signed negative (ofDigits 10 ds) := by
  have hlast : ∀ c ∈ s.getLast?, isNumberBlank c = false := fun c hc => by
    rw [isNumberBlank, hs.2 c hc, Bool.false_and]
  obtain ⟨ds, hne, hds, rfl⟩ :=
    exists_of_read hunderscore (dropWhile_isNumberBlank hs) hlast (afterBaseMark_ten _) h
  refine ⟨_, ds, ?_, rfl⟩
  have hten : digitIn? 10 = decimalDigit? := funext digitIn?_ten
  rw [plainDigits?, allDigits?, if_neg (by simpa using hne), ← hten, hds]
  rfl

/-- Digits alone are read as the number that they stand for, unless they are too many. -/
theorem read_of_allDigits? (h : allDigits? s = some ds) :
    read 10 (String.ofList s) =
      if ds.length > digitLimit then .error (.tooLong ds.length)
      else .ok (ofDigits 10 ds : Int) := by
  obtain ⟨hne, hdigits, hvalues⟩ := allDigits?_eq_some_iff.mp h
  have hplain : ∀ c ∈ s, isBlank c = false := fun c hc =>
    isBlank_of_isAnyDigit (isAnyDigit_of_isDecimalDigit (hdigits c hc))
  have hrun := digitRun?_ten true (fun _ => hne) hdigits
  unfold read
  simp only [String.toList_ofList, dropWhile_isNumberBlank (isTrimmed_of_forall hplain),
    splitSign_of_isDecimalDigit hdigits, afterBaseMark_ten, hrun, hvalues, true_and,
    List.all_nil, if_true]
  rfl

end Integer

end ParamRules
