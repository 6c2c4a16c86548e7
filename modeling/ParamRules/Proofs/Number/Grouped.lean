import ParamRules.Proofs.Number.Numeral

/-!
# Digits in groups

In base ten the liberal reader takes what the plain one takes, and besides digits in groups, with
one underscore between two groups and none elsewhere.  `read_ten_eq_ok_iff` and
`ofPlainDigits_eq_ok_iff` say so for texts without white space at their ends: the plain form is the
one with a single group.
-/

namespace ParamRules.Integer

open Text

variable {s g rest first digits : List Char} {further : List (List Char)} {base : Nat}
  {needed : Bool} {ds : List Nat} {m n : Int}

/-- Whether characters are decimal digits, one or more. -/
def IsGroup (g : List Char) : Prop :=
  g ≠ [] ∧ ∀ c ∈ g, isDecimalDigit c = true

/-- Whether a text is an optional sign and groups of digits with an underscore before each further
one, and what number it denotes. -/
structure Denotes (s first : List Char) (further : List (List Char)) (n : Int) : Prop where
  body : (splitSign s).2 = first ++ further.flatMap ('_' :: ·)
  groups : ∀ g ∈ first :: further, IsGroup g
  value : n = signed (splitSign s).1
    (ofDigits 10 ((first ++ further.flatten).filterMap decimalDigit?))

/-! ## Groups are determined by the text -/

theorem not_isDecimalDigit_underscore : ¬ isDecimalDigit '_' = true := by
  decide

theorem IsGroup.underscore_not_mem (h : IsGroup g) : '_' ∉ g :=
  fun hmem => not_isDecimalDigit_underscore (h.2 '_' hmem)

/-- Groups hold digits only. -/
theorem Denotes.isDecimalDigit (h : Denotes s first further n) :
    ∀ c ∈ first ++ further.flatten, Text.isDecimalDigit c = true := by
  intro c hc
  rcases List.mem_append.mp hc with hc | hc
  · exact (h.groups first List.mem_cons_self).2 c hc
  · obtain ⟨g, hg, hc⟩ := List.mem_flatten.mp hc
    exact (h.groups g (List.mem_cons_of_mem _ hg)).2 c hc

theorem Denotes.length_digits (h : Denotes s first further n) :
    ((first ++ further.flatten).filterMap decimalDigit?).length =
      (first ++ further.flatten).length :=
  List.filterMap_length_eq_length.mpr h.isDecimalDigit

theorem underscore_mem_splitSign (s : List Char) : '_' ∈ (splitSign s).2 ↔ '_' ∈ s := by
  unfold splitSign
  split <;> simp

/-- A text has an underscore where it has further groups. -/
theorem Denotes.underscore_mem_iff (h : Denotes s first further n) :
    '_' ∈ s ↔ further ≠ [] := by
  rw [← underscore_mem_splitSign, h.body]
  cases further with
  | nil => simpa using (h.groups first List.mem_cons_self).underscore_not_mem
  | cons g further => simp

/-- A text of one group has no other form. -/
theorem Denotes.eq_of_single (h : Denotes s first further n) (hsingle : Denotes s digits [] m) :
    further = [] ∧ first = digits ∧ n = m := by
  have hnone : further = [] := by
    by_contra hne
    exact hsingle.underscore_mem_iff.mp (h.underscore_mem_iff.mpr hne) rfl
  subst hnone
  have hfirst : first = digits := by
    have hbody := h.body.symm.trans hsingle.body
    simpa using hbody
  subst hfirst
  exact ⟨rfl, rfl, h.value.trans hsingle.value.symm⟩

/-! ## Runs of digits -/

theorem digitRun?_digits (hg : ∀ c ∈ g, isDecimalDigit c = true) (r : List Char) :
    digitRun? 10 false (g ++ r) =
      (digitRun? 10 false r).map fun p => (g.filterMap decimalDigit? ++ p.1, p.2) := by
  induction g with
  | nil => simp
  | cons c g ih =>
      obtain ⟨hc, hg⟩ := List.forall_mem_cons.mp hg
      obtain ⟨d, hd⟩ := Option.isSome_iff_exists.mp hc
      rw [List.cons_append, digitRun?, digitIn?_ten, hd, List.filterMap_cons_some hd]
      simp only [ih hg, Option.map_map, Function.comp_def, List.cons_append]

/-- After a group it does not matter whether its first digit had to come. -/
theorem digitRun?_group (hg : IsGroup g) (needed : Bool) (r : List Char) :
    digitRun? 10 needed (g ++ r) =
      (digitRun? 10 false r).map fun p => (g.filterMap decimalDigit? ++ p.1, p.2) := by
  rw [← digitRun?_digits hg.2]
  obtain ⟨c, g, rfl⟩ := List.exists_cons_of_ne_nil hg.1
  obtain ⟨d, hd⟩ := Option.isSome_iff_exists.mp (hg.2 c List.mem_cons_self)
  rw [List.cons_append, digitRun?, digitRun?, digitIn?_ten, hd]

theorem digitRun?_underscore (r : List Char) :
    digitRun? 10 false ('_' :: r) = digitRun? 10 true r := by
  have hnone : digitIn? 10 '_' = none := by decide
  rw [digitRun?, hnone]
  simp

theorem digitRun?_further (h : ∀ g ∈ further, IsGroup g) :
    digitRun? 10 false (further.flatMap ('_' :: ·)) =
      some (further.flatten.filterMap decimalDigit?, []) := by
  induction further with
  | nil => rfl
  | cons g further ih =>
      obtain ⟨hg, hfurther⟩ := List.forall_mem_cons.mp h
      rw [List.flatMap_cons, List.cons_append, digitRun?_underscore, digitRun?_group hg,
        ih hfurther, Option.map_some, List.flatten_cons, List.filterMap_append]

/-- A run up to the end of the text is in groups, of which the first one may be empty where no
digit has to come. -/
theorem exists_groups_of_digitRun? (h : digitRun? 10 needed s = some (ds, [])) :
    ∃ (first : List Char) (further : List (List Char)),
      s = first ++ further.flatMap ('_' :: ·) ∧ (needed = true → first ≠ []) ∧
      (∀ c ∈ first, isDecimalDigit c = true) ∧ (∀ g ∈ further, IsGroup g) ∧
      ds = (first ++ further.flatten).filterMap decimalDigit? := by
  induction s generalizing needed ds with
  | nil =>
      rw [digitRun?] at h
      split_ifs at h with hneeded
      cases h
      exact ⟨[], [], rfl, fun hn => absurd hn hneeded, List.forall_mem_nil _, List.forall_mem_nil _,
        rfl⟩
  | cons c s ih =>
      rw [digitRun?, digitIn?_ten] at h
      cases hc : decimalDigit? c with
      | some d =>
          -- The digit is one more of the first group.
          rw [hc] at h
          obtain ⟨⟨more, after⟩, hrun, heq⟩ := Option.map_eq_some_iff.mp h
          cases heq
          obtain ⟨first, further, rfl, -, hfirst, hfurther, rfl⟩ := ih hrun
          have hdigit : isDecimalDigit c = true := by rw [isDecimalDigit, hc]; rfl
          refine ⟨c :: first, further, rfl, fun _ => List.cons_ne_nil c first,
            List.forall_mem_cons.mpr ⟨hdigit, hfirst⟩, hfurther, ?_⟩
          rw [List.cons_append, List.filterMap_cons_some hc]
      | none =>
          -- Only an underscore can follow, and what comes after it begins with a group.
          rw [hc] at h
          simp only at h
          split_ifs at h with hneeded hunderscore
          · subst hunderscore
            obtain ⟨first, further, rfl, hne, hfirst, hfurther, rfl⟩ := ih h
            exact ⟨[], first :: further, rfl, fun hn => absurd hn hneeded, List.forall_mem_nil _,
              List.forall_mem_cons.mpr ⟨⟨hne rfl, hfirst⟩, hfurther⟩, by simp⟩
          · cases h

theorem digitRun?_suffix (h : digitRun? base needed s = some (ds, rest)) : rest <:+ s := by
  induction s generalizing needed ds with
  | nil =>
      rw [digitRun?] at h
      split_ifs at h
      cases h
      exact List.suffix_rfl
  | cons c s ih =>
      rw [digitRun?] at h
      split at h
      · obtain ⟨⟨more, after⟩, hrun, heq⟩ := Option.map_eq_some_iff.mp h
        cases heq
        exact (ih hrun).trans (List.suffix_cons c s)
      · split_ifs at h
        · exact (ih h).trans (List.suffix_cons c s)
        · cases h
          exact List.suffix_rfl

/-! ## The two readers -/

/-- The liberal reader takes digits in groups, unless there are too many of them. -/
theorem read_ten_eq_ok_iff (hs : IsTrimmed s) :
    read 10 (String.ofList s) = .ok n ↔
      ∃ first further, Denotes s first further n ∧
        (first ++ further.flatten).length ≤ digitLimit := by
  unfold read
  simp only [String.toList_ofList, dropWhile_isNumberBlank hs, afterBaseMark_ten]
  constructor
  · intro h
    split at h
    · cases h
    · rename_i ds rest hrun
      split_ifs at h with hlong hblank
      cases h
      have hlast : ∀ c ∈ s.getLast?, isNumberBlank c = false := fun c hc => by
        rw [isNumberBlank, hs.2 c hc, Bool.false_and]
      have hsuffix : rest <:+ s := (digitRun?_suffix hrun).trans (splitSign_suffix s)
      obtain rfl := eq_nil_of_all_isNumberBlank hsuffix hlast hblank
      obtain ⟨first, further, hbody, hne, hfirst, hfurther, rfl⟩ := exists_groups_of_digitRun? hrun
      have hdenotes : Denotes s first further _ :=
        ⟨hbody, List.forall_mem_cons.mpr ⟨⟨hne rfl, hfirst⟩, hfurther⟩, rfl⟩
      refine ⟨first, further, hdenotes, ?_⟩
      rw [← hdenotes.length_digits]
      simpa using hlong
  · rintro ⟨first, further, h, hlength⟩
    obtain ⟨hfirst, hfurther⟩ := List.forall_mem_cons.mp h.groups
    have hrun : digitRun? 10 true (splitSign s).2 =
        some ((first ++ further.flatten).filterMap decimalDigit?, []) := by
      rw [h.body, digitRun?_group hfirst, digitRun?_further hfurther, Option.map_some,
        List.filterMap_append]
    rw [hrun, h.value]
    simp only [h.length_digits, true_and, List.all_nil, if_true]
    rw [if_neg (by omega)]

theorem plainDigits?_of_denotes (h : Denotes s digits [] n) :
    plainDigits? s = some ((splitSign s).1, digits.filterMap decimalDigit?) := by
  have hgroup := h.groups digits List.mem_cons_self
  have hbody : (splitSign s).2 = digits := by simpa using h.body
  have hall : allDigits? (splitSign s).2 = some (digits.filterMap decimalDigit?) := by
    rw [hbody, allDigits?_eq_some_iff]
    exact ⟨hgroup.1, hgroup.2, rfl⟩
  rw [plainDigits?, hall]
  rfl

theorem exists_denotes_of_plainDigits? {negative : Bool}
    (h : plainDigits? s = some (negative, ds)) :
    ∃ digits, Denotes s digits [] (signed negative (ofDigits 10 ds)) ∧
      digits.length = ds.length := by
  obtain ⟨values, hall, heq⟩ := Option.map_eq_some_iff.mp h
  cases heq
  obtain ⟨hne, hdigits, rfl⟩ := allDigits?_eq_some_iff.mp hall
  refine ⟨(splitSign s).2, ⟨by simp, ?_, by simp⟩, (length_of_allDigits? hall).symm⟩
  simpa using ⟨hne, hdigits⟩

/-- The plain reader takes one group of digits, unless there are too many of them. -/
theorem ofPlainDigits_eq_ok_iff :
    (∃ p, plainDigits? s = some p ∧ ofPlainDigits p = .ok n) ↔
      ∃ digits, Denotes s digits [] n ∧ digits.length ≤ digitLimit := by
  constructor
  · rintro ⟨⟨negative, ds⟩, hp, h⟩
    unfold ofPlainDigits at h
    split_ifs at h with hlong
    cases h
    obtain ⟨digits, hdenotes, hlength⟩ := exists_denotes_of_plainDigits? hp
    exact ⟨digits, hdenotes, by simpa [hlength] using hlong⟩
  · rintro ⟨digits, h, hlength⟩
    refine ⟨_, plainDigits?_of_denotes h, ?_⟩
    have hdigits := h.length_digits
    have hvalue := h.value
    simp only [List.flatten_nil, List.append_nil] at hdigits hvalue
    rw [ofPlainDigits, if_neg (by simp only [hdigits]; omega), hvalue]

end ParamRules.Integer
