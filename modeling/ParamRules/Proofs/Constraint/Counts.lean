import ParamRules.Proofs.Constraint.Readers
import ParamRules.Proofs.Number.Grouped

/-!
# Constraints that hold one number

Lengths and a number of decimal places are configured by one number that is not negative, and their
parameter is meant to have one form: an optional sign and decimal digits.  A number of decimal
places is read like every integer of its type, but lengths go through the liberal reader and take
digits in groups as well.  Besides, no kind takes more digits than are read.  But for these two
cases the kinds take the same texts, with the same numbers (`configure_count_iff`).
-/

namespace ParamRules

open Text Result Integer

variable {p : String} {n : Nat} {t : DataType}

namespace Conversion

/-- An integer is read from digits without groups, in the range of its type. -/
theorem readInteger_eq_ok_iff {type : IntegerType} {n : Int} :
    readInteger type p = .ok (.int n) ↔
      (∃ digits, Denotes (trimChars p.toList) digits [] n ∧ digits.length ≤ digitLimit) ∧
        type.holds n = true := by
  rw [← ofPlainDigits_eq_ok_iff]
  simp only [readInteger]
  cases hplain : plainDigits? (trimChars p.toList) with
  | none => simp
  | some digits =>
      cases hread : ofPlainDigits digits with
      | error fault => simp [hread]
      | ok m =>
          by_cases hholds : type.holds m = true
          · simp only [hholds, if_true, Option.some.injEq, exists_eq_left', hread]
            constructor
            · intro h
              cases h
              exact ⟨rfl, hholds⟩
            · rintro ⟨h, -⟩
              cases h
              rfl
          · simp only [hholds, if_false, Bool.false_eq_true, Option.some.injEq, exists_eq_left',
              hread]
            constructor
            · intro h
              cases h
            · rintro ⟨h, hm⟩
              cases h
              exact absurd hm hholds

end Conversion

namespace Constraint

variable {name : String} {old : Nat}

/-- Kinds of constraints that hold one number. -/
inductive CountKind where
  | length | minLength | maxLength | decimalPlaces
deriving DecidableEq

namespace CountKind

/-- The constraint of a kind that holds a number. -/
def constraint : CountKind → Nat → Constraint
  | .length => .length
  | .minLength => .minLength
  | .maxLength => .maxLength
  | .decimalPlaces => .decimalPlaces

/-- Whether a parameter has the form of a number, an optional sign and decimal digits, and denotes
one that the kind can hold.  White space at its ends does not count. -/
def HasForm (k : CountKind) (p : String) (n : Nat) : Prop :=
  (∃ digits, Denotes (trimChars p.toList) digits [] n) ∧ (k = .decimalPlaces → n < 2 ^ 31)

/-- Whether a kind reads a number from a parameter: from digits in groups, of which there is only
one where the kind is the number of decimal places. -/
def Takes (k : CountKind) (p : String) (n : Nat) : Prop :=
  ∃ first further, Denotes (trimChars p.toList) first further n ∧
    (first ++ further.flatten).length ≤ digitLimit ∧
    (k = .decimalPlaces → further = [] ∧ n < 2 ^ 31)

/-- Whether a parameter is read as a length although it has several groups of digits. -/
def IsSeparated (k : CountKind) (p : String) : Prop :=
  k ≠ .decimalPlaces ∧ ∃ (n : Nat) (first : List Char) (further : List (List Char)),
    further ≠ [] ∧ Denotes (trimChars p.toList) first further n ∧
      (first ++ further.flatten).length ≤ digitLimit

/-- Whether a parameter has the form of a number, and more digits than are read. -/
def IsOverlong (k : CountKind) (p : String) : Prop :=
  ∃ (n : Nat) (digits : List Char), Denotes (trimChars p.toList) digits [] n ∧
    digitLimit < digits.length ∧ (k = .decimalPlaces → n < 2 ^ 31)

variable {k : CountKind}

/-! ## What is read and what has the form -/

theorem takes_of_single {digits : List Char} (h : Denotes (trimChars p.toList) digits [] n)
    (hlength : digits.length ≤ digitLimit) (hplaces : k = .decimalPlaces → n < 2 ^ 31) :
    k.Takes p n :=
  ⟨digits, [], h, by simpa using hlength, fun hk => ⟨rfl, hplaces hk⟩⟩

theorem Takes.exists_single (h : k.Takes p n) (hseparated : ¬ k.IsSeparated p) :
    ∃ digits, Denotes (trimChars p.toList) digits [] n ∧ digits.length ≤ digitLimit := by
  obtain ⟨first, further, hdenotes, hlength, hplaces⟩ := h
  have hsingle : further = [] := by
    by_contra hne
    exact hseparated ⟨fun hk => hne (hplaces hk).1, n, first, further, hne, hdenotes, hlength⟩
  subst hsingle
  exact ⟨first, hdenotes, by simpa using hlength⟩

theorem Takes.hasForm (h : k.Takes p n) (hseparated : ¬ k.IsSeparated p) : k.HasForm p n := by
  obtain ⟨digits, hdenotes, -⟩ := h.exists_single hseparated
  obtain ⟨_, _, -, -, hplaces⟩ := h
  exact ⟨⟨digits, hdenotes⟩, fun hk => (hplaces hk).2⟩

theorem HasForm.takes (h : k.HasForm p n) (hoverlong : ¬ k.IsOverlong p) : k.Takes p n := by
  obtain ⟨⟨digits, hdenotes⟩, hplaces⟩ := h
  refine takes_of_single hdenotes ?_ hplaces
  by_contra hlong
  exact hoverlong ⟨n, digits, hdenotes, not_le.mp hlong, hplaces⟩

theorem IsSeparated.exists_takes (h : k.IsSeparated p) : ∃ n, k.Takes p n ∧ ¬ k.HasForm p n := by
  obtain ⟨hk, n, first, further, hne, hdenotes, hlength⟩ := h
  refine ⟨n, ⟨first, further, hdenotes, hlength, fun hplaces => absurd hplaces hk⟩, ?_⟩
  rintro ⟨⟨digits, hsingle⟩, -⟩
  exact hne (hdenotes.eq_of_single hsingle).1

theorem IsOverlong.exists_hasForm (h : k.IsOverlong p) : ∃ n, k.HasForm p n ∧ ¬ k.Takes p n := by
  obtain ⟨n, digits, hdenotes, hlong, hplaces⟩ := h
  refine ⟨n, ⟨⟨digits, hdenotes⟩, hplaces⟩, ?_⟩
  rintro ⟨first, further, hother, hlength, -⟩
  obtain ⟨rfl, rfl, -⟩ := hother.eq_of_single hdenotes
  simp only [List.flatten_nil, List.append_nil] at hlength
  omega

/-- What is read is what has the form, but for digits in several groups and for too many digits. -/
theorem forall_takes_iff_hasForm :
    (∀ n, k.Takes p n ↔ k.HasForm p n) ↔ ¬ k.IsSeparated p ∧ ¬ k.IsOverlong p := by
  constructor
  · intro h
    refine ⟨fun hseparated => ?_, fun hoverlong => ?_⟩
    · obtain ⟨n, htakes, hform⟩ := hseparated.exists_takes
      exact hform ((h n).mp htakes)
    · obtain ⟨n, hform, htakes⟩ := hoverlong.exists_hasForm
      exact htakes ((h n).mpr hform)
  · rintro ⟨hseparated, hoverlong⟩ n
    exact ⟨fun h => h.hasForm hseparated, fun h => h.takes hoverlong⟩

end CountKind

/-! ## Readers -/

theorem readLength_eq_ok_iff :
    readLength name [p] = .ok n ↔
      ∃ first further, Denotes (trimChars p.toList) first further n ∧
        (first ++ further.flatten).length ≤ digitLimit := by
  rw [← read_ten_eq_ok_iff (isTrimmed_trimChars p.toList), readLength, bind_eq_ok_iff]
  simp only [single_eq_ok_iff, List.cons.injEq, and_true, exists_eq_left', trim]
  cases Integer.read 10 (String.ofList (trimChars p.toList)) with
  | error fault => simp
  | ok m =>
      by_cases hneg : m < 0
      · simp only [if_pos hneg, reduceCtorEq, Except.ok.injEq, false_iff]
        omega
      · simp only [if_neg hneg, Except.ok.injEq]
        omega

theorem holds_int32_iff (n : Nat) : IntegerType.int32.holds (n : Int) = true ↔ n < 2 ^ 31 := by
  simp only [IntegerType.holds, Bool.and_eq_true, decide_eq_true_eq]
  simp only [IntegerType.least, IntegerType.greatest]
  omega

theorem readPlaces_eq_ok_iff :
    readPlaces name [p] = .ok n ↔ Conversion.readInteger .int32 p = .ok (.int n) := by
  have hread : ∀ v, readParameter name .int32 [p] = .ok v ↔
      Conversion.readInteger .int32 p = .ok v := by
    intro v
    rw [readParameter_eq_ok_iff]
    simp only [List.cons.injEq, and_true, exists_eq_left']
    rfl
  rw [readPlaces, bind_eq_ok_iff]
  simp only [hread]
  constructor
  · rintro ⟨v, hv, h⟩
    obtain ⟨m, rfl, -⟩ := Conversion.readInteger_eq_ok hv
    simp only at h
    split_ifs at h with hneg
    cases h
    rw [hv, Int.toNat_of_nonneg (by omega)]
  · intro h
    refine ⟨_, h, ?_⟩
    simp only [if_neg (show ¬ (n : Int) < 0 by omega), Int.toNat_natCast]

theorem readInteger_eq_ok_iff_takes :
    Conversion.readInteger .int32 p = .ok (.int n) ↔ CountKind.decimalPlaces.Takes p n := by
  rw [Conversion.readInteger_eq_ok_iff, holds_int32_iff]
  constructor
  · rintro ⟨⟨digits, hdenotes, hlength⟩, hn⟩
    exact CountKind.takes_of_single hdenotes hlength fun _ => hn
  · rintro ⟨first, further, hdenotes, hlength, hplaces⟩
    obtain ⟨rfl, hn⟩ := hplaces rfl
    exact ⟨⟨first, hdenotes, by simpa using hlength⟩, hn⟩

theorem readLength_eq_ok_iff_takes {k : CountKind} (hk : k ≠ .decimalPlaces) :
    readLength name [p] = .ok n ↔ k.Takes p n := by
  rw [readLength_eq_ok_iff]
  simp only [CountKind.Takes, hk, false_implies, and_true]

/-! ## All kinds -/

/-- The reader of a kind. -/
def CountKind.read : CountKind → List String → Except Fault Nat
  | .length => readLength "Length"
  | .minLength => readLength "MinLength"
  | .maxLength => readLength "MaxLength"
  | .decimalPlaces => readPlaces "DecimalPlaces"

theorem CountKind.read_eq_ok_iff {k : CountKind} : k.read [p] = .ok n ↔ k.Takes p n := by
  cases k with
  | length | minLength | maxLength =>
      rw [CountKind.read, readLength_eq_ok_iff_takes]
      exact nofun
  | decimalPlaces => rw [CountKind.read, readPlaces_eq_ok_iff, readInteger_eq_ok_iff_takes]

theorem configure_constraint (k : CountKind) (ht : t ≠ .none)
    (hk : (k.constraint old).isConfiguredFor t = true) (ps : List String) :
    (k.constraint old).configure t ps = k.constraint <$> k.read ps := by
  have hfor : ¬ (!(k.constraint old).isConfiguredFor t) = true := by simp [hk]
  cases k with
  | length | minLength | maxLength | decimalPlaces =>
      rw [CountKind.constraint] at hfor ⊢
      rw [CountKind.read, configure, if_neg ht, if_neg hfor]
      rfl

/-- A length and a number of decimal places take a parameter if and only if it is an optional sign
and digits, in groups for the lengths, that denote a number which is not negative, and then they
hold that number.  This is the documented form but for parameters with several groups of digits,
which lengths take without it, and for those with more digits than are read.  Where there is only
one group, all kinds take what is read as an integer. -/
theorem configure_count_iff (k : CountKind) (ht : t ≠ .none)
    (hk : (k.constraint old).isConfiguredFor t = true) (p : String) :
    (∀ d, (k.constraint old).configure t [p] = .ok d ↔ ∃ n, d = k.constraint n ∧ k.Takes p n) ∧
      ((∀ n, k.Takes p n ↔ k.HasForm p n) ↔ ¬ k.IsSeparated p ∧ ¬ k.IsOverlong p) ∧
      ∀ hint n, n < 2 ^ 31 → ¬ k.IsSeparated p →
        (k.Takes p n ↔ Conversion.read hint .int32 p = .ok (.int n)) := by
  refine ⟨fun d => ?_, CountKind.forall_takes_iff_hasForm, fun hint n hn hseparated => ?_⟩
  · rw [configure_constraint k ht hk, map_eq_ok_iff]
    simp only [CountKind.read_eq_ok_iff]
    exact exists_congr fun n => by rw [and_comm, eq_comm]
  rw [Conversion.read_integer, readInteger_eq_ok_iff_takes]
  constructor
  · intro htakes
    obtain ⟨digits, hdenotes, hlength⟩ := htakes.exists_single hseparated
    exact CountKind.takes_of_single hdenotes hlength fun _ => hn
  · intro htakes
    obtain ⟨digits, hdenotes, hlength⟩ := htakes.exists_single fun h => h.1 rfl
    exact CountKind.takes_of_single hdenotes hlength fun _ => hn

/-- A sign and leading zeros belong to the form, white space around it does not count. -/
theorem configure_count_iff_signed :
    DataType.uri ≠ .none ∧ (CountKind.maxLength.constraint 0).isConfiguredFor .uri = true ∧
      (CountKind.maxLength.constraint 0).configure .uri [" +007 "] = .ok (.maxLength 7) := by
  have ht : DataType.uri ≠ .none := nofun
  have hk : (CountKind.maxLength.constraint 0).isConfiguredFor .uri = true := rfl
  have hdenotes : Denotes (trimChars " +007 ".toList) ['0', '0', '7'] [] (7 : Nat) := by
    have hgroup : IsGroup ['0', '0', '7'] := ⟨nofun, List.all_eq_true.mp rfl⟩
    exact ⟨by decide, List.forall_mem_singleton.mpr hgroup, by decide⟩
  have htakes : CountKind.maxLength.Takes " +007 " 7 :=
    CountKind.takes_of_single hdenotes (by decide) nofun
  obtain ⟨hconfigure, -, -⟩ := configure_count_iff .maxLength ht hk " +007 "
  exact ⟨ht, hk, (hconfigure _).mpr ⟨7, rfl, htakes⟩⟩

/-- A length of digits in two groups is read, though it does not have the form. -/
theorem not_hasForm_underscore :
    ¬ ∀ (k : CountKind) (old : Nat) (t : DataType) (p : String) (n : Nat), t ≠ .none →
      (k.constraint old).isConfiguredFor t = true →
      ((k.constraint old).configure t [p] = .ok (k.constraint n) ↔ k.HasForm p n) := by
  intro h
  have hread : (CountKind.minLength.constraint 0).configure .string ["1_0"] =
      .ok (CountKind.minLength.constraint 10) := rfl
  obtain ⟨⟨digits, hdenotes⟩, -⟩ := (h .minLength 0 .string "1_0" 10 nofun rfl).mp hread
  exact hdenotes.underscore_mem_iff.mp (by decide) rfl

end Constraint

end ParamRules
