import ParamRules.Proofs.Number.Integer
import ParamRules.Number.Decimal

/-!
# Decimals read back

What the plain reader reads has no positive exponent: as many places as digits were written after
the point.  A decimal of this form is given back from its plain text digit for digit, so that
`1.50` stays apart from `1.5` and a negative zero keeps its sign.  Of a decimal with a positive
exponent, whose digits are followed by zeros in the plain text, the number is given back.
-/

namespace ParamRules.Decimal

open Text

/-- Whether a decimal is a whole number of some power of a tenth. -/
def IsPlain : Decimal → Prop
  | .finite _ _ exponent => exponent ≤ 0
  | _ => False

theorem isPlain_of_readPlain? {s : List Char} {d : Decimal} (h : readPlain? s = some d) :
    d.IsPlain := by
  simp only [readPlain?] at h
  split at h
  · cases h
    simp only [IsPlain]
    omega
  · cases h

theorem isFinite_of_isPlain {d : Decimal} (h : d.IsPlain) : d.isFinite = true := by
  cases d with
  | finite negative coefficient exponent => rfl
  | infinite negative => exact h.elim
  | undefined negative signals payload => exact h.elim

/-! ## Digits and a point -/

theorem readDigits?_whole {s : List Char} (hs : AllDigits s) (hne : s ≠ []) :
    readDigits? s = some (digitValues s, [], []) := by
  have htake := hs.takeWhile []
  have hdrop := hs.dropWhile []
  rw [List.append_nil, List.takeWhile_nil, List.append_nil] at htake
  rw [List.append_nil, List.dropWhile_nil] at hdrop
  simp [readDigits?, htake, hdrop, hs.filterMap_decimalDigit?, hne]

theorem readDigits?_point {s t : List Char} (hs : AllDigits s) (ht : AllDigits t) (hne : s ≠ []) :
    readDigits? (s ++ '.' :: t) = some (digitValues s, digitValues t, []) := by
  have hpoint : isDecimalDigit '.' = false := by decide
  have htake := ht.takeWhile []
  have hdrop := ht.dropWhile []
  rw [List.append_nil, List.takeWhile_nil, List.append_nil] at htake
  rw [List.append_nil, List.dropWhile_nil] at hdrop
  simp [readDigits?, hs.takeWhile, hs.dropWhile, hpoint, htake, hdrop, hs.filterMap_decimalDigit?,
    ht.filterMap_decimalDigit?, hne]

/-- The digits with zeros before them, so that there is one before the point. -/
def leadingDigits (s : List Char) (places : Nat) : List Char :=
  List.replicate (places + 1 - s.length) '0' ++ s

theorem lt_length_leadingDigits (s : List Char) (places : Nat) :
    places < (leadingDigits s places).length := by
  rw [leadingDigits, List.length_append, List.length_replicate]
  omega

theorem withPoint_eq (s : List Char) {places : Nat} (h : places ≠ 0) :
    withPoint s places =
      (leadingDigits s places).take ((leadingDigits s places).length - places) ++
        '.' :: (leadingDigits s places).drop ((leadingDigits s places).length - places) := by
  rw [withPoint, if_neg h]
  rfl

/-- Digits with a point before the last of them are read as these digits and that many places. -/
theorem readDigits?_withPoint {s : List Char} (hs : AllDigits s) (hne : s ≠ []) (places : Nat) :
    ∃ whole fraction, readDigits? (withPoint s places) = some (whole, fraction, []) ∧
      Integer.ofDigits 10 (whole ++ fraction) = Integer.ofDigits 10 (digitValues s) ∧
      fraction.length = places := by
  by_cases hplaces : places = 0
  · rw [hplaces, withPoint, if_pos rfl]
    exact ⟨_, _, readDigits?_whole hs hne, by rw [List.append_nil], rfl⟩
  · have hlength := lt_length_leadingDigits s places
    have hdigits : AllDigits (leadingDigits s places) := (AllDigits.replicate_zero _).append hs
    rw [withPoint_eq s hplaces]
    generalize hcut : (leadingDigits s places).length - places = cut
    refine ⟨_, _, readDigits?_point (hdigits.of_subset (List.take_subset _ _))
      (hdigits.of_subset (List.drop_subset _ _)) ?_, ?_, ?_⟩
    · rw [← List.length_pos_iff, List.length_take]
      omega
    · rw [← digitValues_append, List.take_append_drop, leadingDigits,
        ofDigits_replicate_zero_append]
    · rw [length_digitValues, List.length_drop]
      omega

theorem head?_withPoint {s : List Char} (hs : AllDigits s) (hne : s ≠ []) (places : Nat) :
    ∃ c r, withPoint s places = c :: r ∧ c.isDigit = true := by
  by_cases hplaces : places = 0
  · rw [withPoint, if_pos hplaces]
    obtain ⟨c, r, rfl⟩ := List.exists_cons_of_ne_nil hne
    exact ⟨c, r, rfl, hs c List.mem_cons_self⟩
  · have hlength := lt_length_leadingDigits s places
    have hdigits : AllDigits (leadingDigits s places) := (AllDigits.replicate_zero _).append hs
    rw [withPoint_eq s hplaces]
    obtain ⟨c, r, heq⟩ :=
      List.exists_cons_of_length_pos (by omega : 0 < (leadingDigits s places).length)
    obtain ⟨k, hk⟩ : ∃ k, (leadingDigits s places).length - places = k + 1 :=
      ⟨_, (Nat.succ_pred_eq_of_pos (by omega)).symm⟩
    rw [hk, heq, List.take_succ_cons]
    exact ⟨c, _, rfl, hdigits c (heq ▸ List.mem_cons_self)⟩

theorem splitSign_signText {s : List Char} {c : Char} {r : List Char} (hs : s = c :: r)
    (hc : c.isDigit = true) (negative : Bool) :
    Integer.splitSign (signText negative ++ s) = (negative, s) := by
  subst hs
  have hminus : c ≠ '-' := ne_of_isDigit hc rfl
  have hplus : c ≠ '+' := ne_of_isDigit hc rfl
  cases negative <;> simp [signText, Integer.splitSign, hminus, hplus]

/-! ## Plain texts -/

theorem toList_plainText {negative : Bool} {coefficient : Nat} {exponent : Int}
    (h : exponent ≤ 0) :
    (plainText (.finite negative coefficient exponent)).toList =
      signText negative ++ withPoint (Nat.toDigits 10 coefficient) (-exponent).toNat := by
  simp [plainText, h]

theorem readPlain?_plainText {d : Decimal} (h : d.IsPlain) :
    readPlain? d.plainText.toList = some d := by
  cases d with
  | infinite negative => exact h.elim
  | undefined negative signals payload => exact h.elim
  | finite negative coefficient exponent =>
      have hdigits := AllDigits.toDigits coefficient
      obtain ⟨whole, fraction, hread, hvalue, hlength⟩ :=
        readDigits?_withPoint hdigits Nat.toDigits_ne_nil (-exponent).toNat
      obtain ⟨c, r, heq, hc⟩ :=
        head?_withPoint hdigits Nat.toDigits_ne_nil (-exponent).toNat
      have hexponent : -(fraction.length : Int) = exponent := by
        have : exponent ≤ 0 := h
        omega
      rw [readPlain?, toList_plainText h, splitSign_signText heq hc]
      simp only [hread, hvalue, ofDigits_toDigits, hexponent]

theorem isBlank_of_mem_signText (negative : Bool) :
    ∀ c ∈ signText negative, isBlank c = false := by
  cases negative
  · exact nofun
  · exact List.forall_mem_singleton.mpr rfl

/-- Plain texts have digits, a sign and a point only. -/
theorem isBlank_of_mem_plainText {d : Decimal} (h : d.IsPlain) :
    ∀ c ∈ d.plainText.toList, isBlank c = false := by
  cases d with
  | infinite negative => exact h.elim
  | undefined negative signals payload => exact h.elim
  | finite negative coefficient exponent =>
      intro c hc
      rw [toList_plainText h, List.mem_append] at hc
      have hdigits := AllDigits.toDigits coefficient
      generalize Nat.toDigits 10 coefficient = s at hc hdigits
      rcases hc with hc | hc
      · exact isBlank_of_mem_signText negative c hc
      · unfold withPoint at hc
        split_ifs at hc
        · exact isBlank_of_isDigit (hdigits c hc)
        · have hzeros := AllDigits.replicate_zero ((-exponent).toNat + 1 - s.length)
          have hpadded := hzeros.append hdigits
          rw [List.mem_append, List.mem_cons] at hc
          rcases hc with hc | rfl | hc
          · exact isBlank_of_isDigit (hpadded c (List.mem_of_mem_take hc))
          · rfl
          · exact isBlank_of_isDigit (hpadded c (List.mem_of_mem_drop hc))

/-! ## Numbers read back -/

/-- The number that a finite decimal stands for. -/
def number? : Decimal → Option ℚ
  | .finite negative coefficient exponent =>
      some ((if negative then -1 else 1) * coefficient * 10 ^ exponent)
  | _ => none

end ParamRules.Decimal
