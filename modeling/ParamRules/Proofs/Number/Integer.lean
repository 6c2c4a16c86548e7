import ParamRules.Proofs.Text.Digits
import ParamRules.Proofs.Text.Trim
import ParamRules.DataType

/-!
# Integers read back

Both readers give an integer back from its decimal text, unless it has more digits than are read.
Integers that were read, and those that an integer type holds, have no more digits than that.
-/

namespace ParamRules.Integer

open Text

/-! ## Written integers -/

@[simp] theorem toList_natText (n : Nat) : (natText n).toList = Nat.toDigits 10 n :=
  String.toList_ofList

theorem toList_text (n : Int) :
    (text n).toList = (if n < 0 then ['-'] else []) ++ Nat.toDigits 10 n.natAbs := by
  unfold text
  split_ifs <;> simp

theorem text_natCast (n : Nat) : text (n : Int) = natText n := by
  rw [text, if_neg (by omega), Int.natAbs_natCast]

theorem isTrimmed_of_allDigits {s : List Char} (h : AllDigits s) : IsTrimmed s :=
  isTrimmed_of_forall fun c hc => isBlank_of_isDigit (h c hc)

theorem isTrimmed_text (n : Int) : IsTrimmed (text n).toList := by
  rw [toList_text]
  have hdigits := isTrimmed_of_allDigits (AllDigits.toDigits n.natAbs)
  split_ifs
  · have hminus : IsTrimmed ['-'] := isTrimmed_of_forall (List.forall_mem_singleton.mpr rfl)
    exact hminus.append hdigits (by simp) Nat.toDigits_ne_nil
  · exact hdigits

theorem splitSign_of_isDecimalDigit {s : List Char} (hs : ∀ c ∈ s, isDecimalDigit c = true) :
    splitSign s = (false, s) := by
  unfold splitSign
  split
  · exact absurd (hs '-' List.mem_cons_self) (by decide)
  · exact absurd (hs '+' List.mem_cons_self) (by decide)
  · rfl

theorem splitSign_text (n : Int) :
    splitSign (text n).toList = (decide (n < 0), Nat.toDigits 10 n.natAbs) := by
  rw [toList_text]
  split_ifs with h
  · rw [decide_eq_true h]
    rfl
  · rw [decide_eq_false h, List.nil_append,
      splitSign_of_isDecimalDigit (AllDigits.toDigits _).forall_isDecimalDigit]

theorem isTooLong_eq_false_iff_lt {n : Int} :
    isTooLong n = false ↔ n.natAbs < 10 ^ digitLimit := by
  rw [isTooLong, decide_eq_false_iff_not, Nat.pow_eq, ge_iff_le, not_le]

theorem isTooLong_eq_false_iff {n : Int} :
    isTooLong n = false ↔ (Nat.toDigits 10 n.natAbs).length ≤ digitLimit := by
  rw [isTooLong_eq_false_iff_lt, Nat.length_toDigits_le_iff (by decide) (by decide)]

theorem isTooLong_of_lt {n : Int} {k : Nat} (hk : k ≤ digitLimit) (h : n.natAbs < 10 ^ k) :
    isTooLong n = false :=
  isTooLong_eq_false_iff_lt.mpr (h.trans_le (Nat.pow_le_pow_right (by decide) hk))

theorem isTooLong_of_holds {t : IntegerType} {n : Int} (h : t.holds n = true) :
    isTooLong n = false := by
  refine isTooLong_of_lt (k := 20) (by decide) ?_
  simp only [IntegerType.holds, Bool.and_eq_true, decide_eq_true_eq] at h
  cases t <;> simp only [IntegerType.least, IntegerType.greatest] at h <;> omega

theorem isTooLong_signed (negative : Bool) {ds : List Nat} (hds : ∀ d ∈ ds, d < 10)
    (h : ds.length ≤ digitLimit) : isTooLong (signed negative (ofDigits 10 ds)) = false := by
  refine isTooLong_of_lt h ?_
  have := ofDigits_lt hds
  unfold signed
  split_ifs <;> simpa using this

/-! ## The plain reader -/

theorem plainDigits?_text (n : Int) :
    plainDigits? (text n).toList =
      some (decide (n < 0), digitValues (Nat.toDigits 10 n.natAbs)) := by
  rw [plainDigits?, splitSign_text, (AllDigits.toDigits _).allDigits? Nat.toDigits_ne_nil]
  rfl

theorem lt_of_plainDigits? {s : List Char} {p : Bool × List Nat} (h : plainDigits? s = some p) :
    ∀ d ∈ p.2, d < 10 := by
  obtain ⟨ds, hds, rfl⟩ := Option.map_eq_some_iff.mp h
  unfold allDigits? at hds
  split_ifs at hds
  exact lt_of_mapM_decimalDigit? hds

theorem ofPlainDigits_toDigits {n : Int} (h : isTooLong n = false) :
    ofPlainDigits (decide (n < 0), digitValues (Nat.toDigits 10 n.natAbs)) = .ok n := by
  have hlength := isTooLong_eq_false_iff.mp h
  rw [ofPlainDigits, if_neg (by rw [length_digitValues]; omega), ofDigits_toDigits, signed_natAbs]

/-! ## The liberal reader -/

theorem digitIn?_ten (c : Char) : digitIn? 10 c = decimalDigit? c := by
  unfold digitIn?
  cases hc : decimalDigit? c with
  | some d => simp [decimalDigit?_lt hc]
  | none =>
      simp only
      split_ifs with hlower hupper
      · have : 'a'.toNat ≤ c.toNat := hlower.1
        have hcode : 'a'.toNat = 97 := rfl
        rw [Option.filter_some, if_neg (by simp; omega)]
      · have : 'A'.toNat ≤ c.toNat := hupper.1
        have hcode : 'A'.toNat = 65 := rfl
        rw [Option.filter_some, if_neg (by simp; omega)]
      · rfl

/-- Decimal digits are taken up to the end of the text. -/
theorem digitRun?_ten {s : List Char} (needed : Bool) (hne : needed = true → s ≠ [])
    (hs : ∀ c ∈ s, isDecimalDigit c = true) :
    digitRun? 10 needed s = some (s.filterMap decimalDigit?, []) := by
  induction s generalizing needed with
  | nil =>
      have hneeded : needed = false := by simpa using hne
      rw [hneeded]
      rfl
  | cons c s ih =>
      obtain ⟨hc, hs⟩ := List.forall_mem_cons.mp hs
      obtain ⟨d, hd⟩ := Option.isSome_iff_exists.mp hc
      rw [digitRun?, digitIn?_ten, hd, List.filterMap_cons_some hd]
      simp only [ih false (by simp) hs, Option.map_some]

theorem afterBaseMark_ten (s : List Char) : afterBaseMark 10 s = s := by
  unfold afterBaseMark
  split
  · rw [if_neg (by simp [baseMark?])]
  · rfl

theorem dropWhile_isNumberBlank {s : List Char} (h : IsTrimmed s) :
    s.dropWhile isNumberBlank = s := by
  cases s with
  | nil => rfl
  | cons c s =>
      have hc : isBlank c = false := h.1 c rfl
      rw [List.dropWhile_cons_of_neg (by simp [isNumberBlank, hc])]

theorem read_text {n : Int} (h : isTooLong n = false) : read 10 (text n) = .ok n := by
  have hdigits := AllDigits.toDigits n.natAbs
  have hrun := digitRun?_ten true (fun _ => Nat.toDigits_ne_nil) hdigits.forall_isDecimalDigit
  rw [hdigits.filterMap_decimalDigit?] at hrun
  have hlength := isTooLong_eq_false_iff.mp h
  unfold read
  simp only [dropWhile_isNumberBlank (isTrimmed_text n), splitSign_text, afterBaseMark_ten, hrun,
    length_digitValues]
  rw [if_neg (by omega), List.all_nil, if_pos rfl, ofDigits_toDigits, signed_natAbs]

theorem read_natText {n : Nat} (h : isTooLong n = false) : read 10 (natText n) = .ok (n : Int) := by
  rw [← text_natCast, read_text h]

theorem digitIn?_lt {base : Nat} {c : Char} {d : Nat} (h : digitIn? base c = some d) :
    d < base := by
  unfold digitIn? at h
  simpa using (Option.filter_eq_some_iff.mp h).2

theorem digitRun?_lt {base : Nat} {s rest : List Char} {needed : Bool} {ds : List Nat}
    (h : digitRun? base needed s = some (ds, rest)) : ∀ d ∈ ds, d < base := by
  induction s generalizing needed ds with
  | nil =>
      rw [digitRun?] at h
      split_ifs at h
      cases h
      exact nofun
  | cons c s ih =>
      rw [digitRun?] at h
      split at h
      · rename_i d hd
        obtain ⟨p, hp, heq⟩ := Option.map_eq_some_iff.mp h
        cases heq
        exact List.forall_mem_cons.mpr ⟨digitIn?_lt hd, ih hp⟩
      · split_ifs at h
        · exact ih h
        · cases h
          exact nofun

theorem isTooLong_of_read {s : String} {n : Int} (h : read 10 s = .ok n) :
    isTooLong n = false := by
  simp only [read] at h
  split at h
  · cases h
  · rename_i ds rest hrun
    split_ifs at h with hlong hrest
    cases h
    exact isTooLong_signed _ (digitRun?_lt hrun) (by simpa using hlong)

end ParamRules.Integer
