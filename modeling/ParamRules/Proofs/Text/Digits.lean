import ParamRules.Number.Integer
import ParamRules.Text.Split
import Mathlib

/-!
# Written digits are read back

Numbers are written with the digits zero to nine, and the readers know the digits of every script.
This module keeps the two apart: what a reader makes of the written digits is said once, for
digits that stand alone and for digits that something follows, and the padded forms of dates and
times are digits like all others.
-/

namespace ParamRules.Text

/-- Whether all characters are digits from zero to nine. -/
def AllDigits (s : List Char) : Prop :=
  ∀ c ∈ s, c.isDigit = true

/-- What the digits stand for, one by one. -/
def digitValues (s : List Char) : List Nat :=
  s.map fun c => c.toNat - 0x30

theorem toNat_of_isDigit {c : Char} (h : c.isDigit = true) : 0x30 ≤ c.toNat ∧ c.toNat ≤ 0x39 :=
  Char.isDigit_iff_toNat.mp h

theorem decimalDigit?_of_isDigit {c : Char} (h : c.isDigit = true) :
    decimalDigit? c = some (c.toNat - 0x30) := by
  have hval : c.val < 0x80 := by
    rw [UInt32.lt_iff_toNat_lt]
    have := toNat_of_isDigit h
    simp only [Char.toNat] at this
    change c.val.toNat < 128
    omega
  rw [decimalDigit?, if_pos hval, if_pos h]

theorem decimalDigit?_lt {c : Char} {d : Nat} (h : decimalDigit? c = some d) : d < 10 := by
  unfold decimalDigit? at h
  split_ifs at h with hascii hdigit
  · obtain rfl := Option.some.inj h
    have hrange := toNat_of_isDigit hdigit
    omega
  · obtain ⟨first, hfirst, rfl⟩ := Option.map_eq_some_iff.mp h
    have hnear := List.find?_some hfirst
    simp only [Bool.and_eq_true, decide_eq_true_eq] at hnear
    omega

theorem lt_of_mapM_decimalDigit? {s : List Char} {ds : List Nat}
    (h : s.mapM decimalDigit? = some ds) : ∀ d ∈ ds, d < 10 := by
  induction s generalizing ds with
  | nil =>
      obtain rfl : [] = ds := Option.some.inj h
      exact nofun
  | cons c s ih =>
      rw [List.mapM_cons] at h
      obtain ⟨d, hd, h⟩ := Option.bind_eq_some_iff.mp h
      obtain ⟨rest, hrest, h⟩ := Option.bind_eq_some_iff.mp h
      obtain rfl := Option.some.inj h
      exact List.forall_mem_cons.mpr ⟨decimalDigit?_lt hd, ih hrest⟩

theorem isDecimalDigit_of_isDigit {c : Char} (h : c.isDigit = true) : isDecimalDigit c = true := by
  rw [isDecimalDigit, decimalDigit?_of_isDigit h, Option.isSome_some]

theorem isBlank_of_isDigit {c : Char} (h : c.isDigit = true) : isBlank c = false := by
  have := toNat_of_isDigit h
  simp only [isBlank, Bool.or_eq_false_iff, Bool.and_eq_false_iff, decide_eq_false_iff_not,
    beq_eq_false_iff_ne]
  omega

theorem ne_of_isDigit {c d : Char} (h : c.isDigit = true) (hd : d.isDigit = false) : c ≠ d := by
  rintro rfl
  rw [h] at hd
  cases hd

namespace AllDigits

theorem nil : AllDigits [] := nofun

theorem toDigits (n : Nat) : AllDigits (Nat.toDigits 10 n) := fun _ hc =>
  Nat.isDigit_of_mem_toDigits (by decide) (by decide) hc

theorem replicate_zero (n : Nat) : AllDigits (List.replicate n '0') := by
  intro c hc
  rw [List.eq_of_mem_replicate hc]
  rfl

variable {s t : List Char}

theorem append (hs : AllDigits s) (ht : AllDigits t) : AllDigits (s ++ t) :=
  List.forall_mem_append.mpr ⟨hs, ht⟩

theorem of_subset (hs : AllDigits s) (h : t ⊆ s) : AllDigits t :=
  fun c hc => hs c (h hc)

theorem forall_isDecimalDigit (hs : AllDigits s) : ∀ c ∈ s, isDecimalDigit c = true :=
  fun c hc => isDecimalDigit_of_isDigit (hs c hc)

theorem mapM_decimalDigit? (hs : AllDigits s) : s.mapM decimalDigit? = some (digitValues s) := by
  induction s with
  | nil => rfl
  | cons c s ih =>
      obtain ⟨hc, hs⟩ := List.forall_mem_cons.mp hs
      rw [List.mapM_cons, decimalDigit?_of_isDigit hc, ih hs]
      rfl

theorem filterMap_decimalDigit? (hs : AllDigits s) : s.filterMap decimalDigit? = digitValues s := by
  induction s with
  | nil => rfl
  | cons c s ih =>
      obtain ⟨hc, hs⟩ := List.forall_mem_cons.mp hs
      rw [List.filterMap_cons_some (decimalDigit?_of_isDigit hc), ih hs]
      rfl

theorem takeWhile (hs : AllDigits s) (t : List Char) :
    (s ++ t).takeWhile isDecimalDigit = s ++ t.takeWhile isDecimalDigit :=
  List.takeWhile_append_of_pos hs.forall_isDecimalDigit

theorem dropWhile (hs : AllDigits s) (t : List Char) :
    (s ++ t).dropWhile isDecimalDigit = t.dropWhile isDecimalDigit :=
  List.dropWhile_append_of_pos hs.forall_isDecimalDigit

theorem allDigits? (hs : AllDigits s) (hne : s ≠ []) :
    Integer.allDigits? s = some (digitValues s) := by
  rw [Integer.allDigits?, if_neg (by simpa using hne), hs.mapM_decimalDigit?]

end AllDigits

/-! ## Values of digits -/

@[simp] theorem length_digitValues (s : List Char) : (digitValues s).length = s.length :=
  List.length_map _

theorem digitValues_append (s t : List Char) :
    digitValues (s ++ t) = digitValues s ++ digitValues t :=
  List.map_append

theorem ofDigits_digitValues (s : List Char) :
    Integer.ofDigits 10 (digitValues s) = Nat.ofDigitChars 10 s 0 := by
  rw [Integer.ofDigits, digitValues, List.foldl_map, Nat.ofDigitChars_eq_foldl]
  congr 1
  funext n c
  rw [Nat.mul_comm]
  rfl

theorem ofDigits_toDigits (n : Nat) :
    Integer.ofDigits 10 (digitValues (Nat.toDigits 10 n)) = n := by
  rw [ofDigits_digitValues, Nat.ofDigitChars_ten_toDigits]

theorem ofDigits_replicate_zero_append (k : Nat) (s : List Char) :
    Integer.ofDigits 10 (digitValues (List.replicate k '0' ++ s)) =
      Integer.ofDigits 10 (digitValues s) := by
  rw [ofDigits_digitValues, Nat.ofDigitChars_append, Nat.ofDigitChars_replicate_zero, Nat.mul_zero,
    ofDigits_digitValues]

theorem ofDigits_append_values (s t : List Char) :
    Integer.ofDigits 10 (digitValues (s ++ t)) =
      10 ^ t.length * Integer.ofDigits 10 (digitValues s) +
        Integer.ofDigits 10 (digitValues t) := by
  rw [ofDigits_digitValues, Nat.ofDigitChars_append, Nat.ofDigitChars_eq_ofDigitChars_zero,
    ofDigits_digitValues, ofDigits_digitValues]

theorem ofDigits_lt {ds : List Nat} (h : ∀ d ∈ ds, d < 10) :
    Integer.ofDigits 10 ds < 10 ^ ds.length := by
  suffices ∀ n, ds.foldl (fun n d => n * 10 + d) n < (n + 1) * 10 ^ ds.length by
    simpa [Integer.ofDigits] using this 0
  induction ds with
  | nil => simp
  | cons d ds ih =>
      intro n
      obtain ⟨hd, hds⟩ := List.forall_mem_cons.mp h
      calc
        _ < (n * 10 + d + 1) * 10 ^ ds.length := ih hds (n * 10 + d)
        _ ≤ (n + 1) * 10 * 10 ^ ds.length := Nat.mul_le_mul_right _ (by omega)
        _ = (n + 1) * 10 ^ (d :: ds).length := by
            rw [List.length_cons, Nat.pow_succ, Nat.mul_assoc, Nat.mul_comm 10]

/-! ## Padded numbers -/

theorem toList_padded (width n : Nat) :
    (padded width n).toList =
      List.replicate (width - (Nat.toDigits 10 n).length) '0' ++ Nat.toDigits 10 n := by
  simp [padded, Nat.toList_repr, ← String.length_toList]

theorem AllDigits.padded (width n : Nat) : AllDigits (padded width n).toList := by
  rw [toList_padded]
  exact (replicate_zero _).append (toDigits n)

theorem length_padded (width : Nat) {n : Nat} (hwidth : 0 < width) (h : n < 10 ^ width) :
    (padded width n).toList.length = width := by
  have := (Nat.length_toDigits_le_iff (by decide) hwidth).mpr h
  rw [toList_padded, List.length_append, List.length_replicate]
  omega

theorem ofDigits_padded (width n : Nat) :
    Integer.ofDigits 10 (digitValues (padded width n).toList) = n := by
  rw [toList_padded, ofDigits_replicate_zero_append, ofDigits_toDigits]

end ParamRules.Text
