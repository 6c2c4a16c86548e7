import ParamRules.Proofs.Time.Written

/-!
# Durations read back

A duration is written part by part, and a part that is zero is left out.  What is written has the
form that the reader takes, so that it finds the digits of each part again, and they add up to the
duration.
-/

namespace ParamRules.Duration

open Text

/-- What the reader takes from a written part: its digits, or nothing where it is zero. -/
def partDigits (n : Nat) : Option (List Nat) :=
  if n = 0 then none else some (digitValues (Nat.toDigits 10 n))

/-- What the reader takes from written seconds. -/
def secondsDigits (seconds micros : Nat) : Option (List Nat × List Nat) :=
  if seconds = 0 ∧ micros = 0 then none
  else
    some (digitValues (Nat.toDigits 10 seconds),
      if micros = 0 then [] else digitValues (fraction micros))

/-! ## One part -/

theorem isPart_part (n : Nat) (letter : Char) : IsPart letter (partDigits n) (part n letter) := by
  unfold partDigits part
  split_ifs
  · rfl
  · exact ⟨Nat.toDigits 10 n, (AllDigits.toDigits n).allDigits? Nat.toDigits_ne_nil, rfl⟩

/-! ## Fractions of a second -/

theorem allDigits_fraction (micros : Nat) : AllDigits (fraction micros) :=
  (AllDigits.padded 6 micros).of_subset (List.rdropWhile_prefix _ _).subset

theorem exists_padded_eq_fraction (micros : Nat) :
    ∃ k, (padded 6 micros).toList = fraction micros ++ List.replicate k '0' := by
  have hsplit : fraction micros ++ (padded 6 micros).toList.rtakeWhile (· = '0') =
      (padded 6 micros).toList := List.rdropWhile_append_rtakeWhile
  have hzeros : ∀ c ∈ (padded 6 micros).toList.rtakeWhile (· = '0'), c = '0' := fun c hc => by
    simpa using List.mem_rtakeWhile_imp hc
  exact ⟨_, by rw [← List.eq_replicate_of_mem hzeros, hsplit]⟩

/-- The zeros that are left out stand for nothing but their places. -/
theorem ofDigits_fraction {micros : Nat} (h : micros < 1000000) :
    (fraction micros).length ≤ 6 ∧
      Integer.ofDigits 10 (digitValues (fraction micros)) * 10 ^ (6 - (fraction micros).length) =
        micros := by
  obtain ⟨k, hk⟩ := exists_padded_eq_fraction micros
  have hlength : (padded 6 micros).toList.length = 6 :=
    length_padded 6 (by decide) (by simpa using h)
  have hvalue := ofDigits_padded 6 micros
  rw [hk, List.length_append, List.length_replicate] at hlength
  rw [hk, ofDigits_digitValues, Nat.ofDigitChars_append, Nat.ofDigitChars_replicate_zero,
    ← ofDigits_digitValues] at hvalue
  have hplaces : 6 - (fraction micros).length = k := by omega
  exact ⟨by omega, by rw [hplaces, Nat.mul_comm, hvalue]⟩

theorem fraction_ne_nil {micros : Nat} (h : micros < 1000000) (hne : micros ≠ 0) :
    fraction micros ≠ [] := by
  intro hnil
  have := (ofDigits_fraction h).2
  rw [hnil] at this
  exact hne (by simpa [digitValues, Integer.ofDigits] using this.symm)

theorem isSeconds_secondsPart (seconds : Nat) {micros : Nat} (h : micros < 1000000) :
    IsSeconds (secondsDigits seconds micros) (secondsPart seconds micros) := by
  have hwhole := (AllDigits.toDigits seconds).allDigits? Nat.toDigits_ne_nil
  unfold secondsDigits secondsPart
  split_ifs with hzero hmicros
  · rfl
  · exact ⟨Nat.toDigits 10 seconds, hwhole, rfl⟩
  · have hplaces := (allDigits_fraction micros).allDigits? (fraction_ne_nil h hmicros)
    -- The digits are kept from being computed.
    generalize fraction micros = f at hplaces
    exact isSeconds_places hwhole hplaces

theorem roundDiv_mul {d : Nat} (hd : 0 < d) (q : Nat) : Decimal.roundDiv (d * q) d = q := by
  simp [Decimal.roundDiv, Nat.mul_div_cancel_left q hd, hd]

/-- Up to six places are whole microseconds, so that reading them rounds nothing away. -/
theorem microsOfSeconds_eq {whole places : List Nat} (hlength : places.length ≤ 6)
    (hsmall : Integer.ofDigits 10 (whole ++ places) < 10 ^ 22) :
    microsOfSeconds whole places =
      Integer.ofDigits 10 (whole ++ places) * 10 ^ (6 - places.length) := by
  generalize hdigits : Integer.ofDigits 10 (whole ++ places) = digits at hsmall
  have hcount : Decimal.digitCount (digits * perSecond) - Decimal.precision = 0 := by
    rw [Nat.sub_eq_zero_iff_le, Decimal.digitCount,
      Nat.length_toDigits_le_iff (by decide) (by decide)]
    simp only [perSecond, Decimal.precision]
    omega
  have hpower : perSecond = 10 ^ places.length * 10 ^ (6 - places.length) := by
    rw [← Nat.pow_add, Nat.add_sub_cancel' hlength]
    rfl
  rw [microsOfSeconds, hdigits]
  simp only [Decimal.roundToPrecision, hcount, if_true, Decimal.toWhole]
  split_ifs with hplaces
  · rw [Int.neg_neg, Int.toNat_natCast, Nat.pow_eq, hpower, Nat.mul_left_comm,
      roundDiv_mul (Nat.pow_pos (by decide))]
  · have : places.length = 0 := by omega
    simp [this, perSecond]

theorem microsOfSeconds_written {seconds micros : Nat} (hseconds : seconds < 10 ^ 15)
    (hmicros : micros < 1000000) {digits : List Nat × List Nat}
    (h : secondsDigits seconds micros = some digits) :
    microsOfSeconds digits.1 digits.2 = seconds * perSecond + micros := by
  unfold secondsDigits at h
  split_ifs at h with hzero hwhole
  · cases h
    rw [microsOfSeconds_eq (by simp) (by rw [List.append_nil, ofDigits_toDigits]; omega),
      List.append_nil, ofDigits_toDigits, hwhole]
    simp [perSecond]
  · cases h
    obtain ⟨hlength, hvalue⟩ := ofDigits_fraction hmicros
    generalize fraction micros = f at hlength hvalue
    have hpower : 10 ^ f.length * 10 ^ (6 - f.length) = perSecond := by
      rw [← Nat.pow_add, Nat.add_sub_cancel' hlength]
      rfl
    have hdigits := ofDigits_append_values (Nat.toDigits 10 seconds) f
    rw [digitValues_append, ofDigits_toDigits] at hdigits
    have hsum : (10 ^ f.length * seconds + Integer.ofDigits 10 (digitValues f)) *
        10 ^ (6 - f.length) = seconds * perSecond + micros := by
      rw [Nat.add_mul, hvalue, ← hpower, Nat.mul_right_comm, Nat.mul_comm]
    have hsmall : 10 ^ f.length * seconds + Integer.ofDigits 10 (digitValues f) < 10 ^ 22 := by
      have := Nat.le_mul_of_pos_right
        (10 ^ f.length * seconds + Integer.ofDigits 10 (digitValues f))
        (Nat.pow_pos (n := 6 - f.length) (by decide : 0 < 10))
      have hunit : perSecond = 1000000 := rfl
      rw [hsum, hunit] at this
      omega
    rw [microsOfSeconds_eq (by simpa using hlength) (by rw [hdigits]; exact hsmall), hdigits,
      length_digitValues, hsum]

/-! ## All parts -/

/-- The time of a written duration, with its mark. -/
def timeText (hours minutes seconds micros : Nat) : List Char :=
  part hours 'H' ++ part minutes 'M' ++ secondsPart seconds micros

theorem timeText_eq_nil_iff {hours minutes seconds micros : Nat} :
    timeText hours minutes seconds micros = [] ↔
      hours = 0 ∧ minutes = 0 ∧ seconds = 0 ∧ micros = 0 := by
  have hpart : ∀ (n : Nat) (letter : Char), part n letter = [] ↔ n = 0 := by
    intro n letter
    unfold part
    split_ifs with h <;> simp [h]
  have hseconds : secondsPart seconds micros = [] ↔ seconds = 0 ∧ micros = 0 := by
    unfold secondsPart
    split_ifs with h h' <;> simp [h]
  rw [timeText, List.append_eq_nil_iff, List.append_eq_nil_iff, hpart, hpart, hseconds, and_assoc]

/-- The parts of a written duration are found again. -/
theorem parts?_written (negative : Bool) (days hours minutes seconds : Nat) {micros : Nat}
    (hmicros : micros < 1000000)
    (hne : ¬ (part days 'D' = [] ∧ timeText hours minutes seconds micros = [])) :
    parts? (signText negative ++
        'P' :: (part days 'D' ++ marked (timeText hours minutes seconds micros))) =
      some ⟨negative, partDigits days, partDigits hours, partDigits minutes,
        secondsDigits seconds micros⟩ := by
  apply parts?_of_isWritten
  apply Parts.IsWritten.intro (isPart_part days 'D') (isPart_part hours 'H')
    (isPart_part minutes 'M') (isSeconds_secondsPart seconds hmicros)
  rwa [List.append_assoc, List.append_assoc, ne_eq, List.append_eq_nil_iff, ← List.append_assoc,
    ← timeText]

/-! ## What the parts add up to -/

theorem ofDigits_partDigits (n : Nat) : Integer.ofDigits 10 ((partDigits n).getD []) = n := by
  unfold partDigits
  split_ifs with h
  · exact h.symm
  · exact ofDigits_toDigits n

theorem length_partDigits {n : Nat} (h : n < 10 ^ 10) :
    ((partDigits n).getD []).length ≤ Integer.digitLimit := by
  have hlength : (Nat.toDigits 10 n).length ≤ 10 :=
    (Nat.length_toDigits_le_iff (by decide) (by decide)).mpr h
  unfold partDigits
  split_ifs
  · exact Nat.zero_le _
  · rw [Option.getD_some, length_digitValues]
    exact hlength.trans (by decide)

theorem total?_written (negative : Bool) {days hours minutes seconds micros : Nat}
    (hdays : days < 10 ^ 10) (hhours : hours < 10 ^ 10) (hminutes : minutes < 10 ^ 10)
    (hseconds : seconds < 10 ^ 15) (hmicros : micros < 1000000) :
    Parts.total? ⟨negative, partDigits days, partDigits hours, partDigits minutes,
        secondsDigits seconds micros⟩ =
      some (Integer.signed negative (days * perDay + hours * perHour + minutes * perMinute +
        (seconds * perSecond + micros))) := by
  have hshort : ∀ {n : Nat}, n < 10 ^ 10 →
      ¬ ((partDigits n).getD []).length > Integer.digitLimit := fun h =>
    not_lt.mpr (length_partDigits h)
  simp only [Parts.total?, hshort hdays, hshort hhours, hshort hminutes, decide_false,
    Bool.or_false, Bool.false_eq_true, if_false, ofDigits_partDigits]
  cases h : secondsDigits seconds micros with
  | none =>
      have hzero : seconds = 0 ∧ micros = 0 := by simpa [secondsDigits] using h
      rw [hzero.1, hzero.2, Nat.zero_mul]
  | some digits => simp only [microsOfSeconds_written hseconds hmicros h]

/-- The microseconds of a duration by their parts. -/
theorem micros_eq_parts (n : Nat) :
    n / perDay * perDay + n % perDay / perHour * perHour + n % perHour / perMinute * perMinute +
      (n % perMinute / perSecond * perSecond + n % perSecond) = n := by
  simp only [perDay, perHour, perMinute, perSecond]
  omega

/-- The written form of a duration that is not negative, by its parts. -/
def partsText (days hours minutes seconds micros : Nat) : List Char :=
  if (part days 'D').isEmpty && (timeText hours minutes seconds micros).isEmpty then
    "PT0S".toList
  else
    'P' :: part days 'D' ++
      (if (timeText hours minutes seconds micros).isEmpty then []
      else 'T' :: timeText hours minutes seconds micros)

theorem magnitudeText_eq (n : Nat) :
    magnitudeText n =
      partsText (n / perDay) (n % perDay / perHour) (n % perHour / perMinute)
        (n % perMinute / perSecond) (n % perSecond) := rfl

theorem total?_parts?_partsText (negative : Bool) {days hours minutes seconds micros : Nat}
    (hdays : days < 10 ^ 10) (hhours : hours < 10 ^ 10) (hminutes : minutes < 10 ^ 10)
    (hseconds : seconds < 10 ^ 15) (hmicros : micros < 1000000) :
    (parts? (signText negative ++ partsText days hours minutes seconds micros)).bind Parts.total? =
      some (Integer.signed negative (days * perDay + hours * perHour + minutes * perMinute +
        (seconds * perSecond + micros))) := by
  by_cases hzero : part days 'D' = [] ∧ timeText hours minutes seconds micros = []
  · obtain ⟨hday, htime⟩ := hzero
    obtain rfl : days = 0 := by
      by_contra hne
      simp [part, hne] at hday
    obtain ⟨rfl, rfl, rfl, rfl⟩ := timeText_eq_nil_iff.mp htime
    cases negative <;> decide +kernel
  · have htext : partsText days hours minutes seconds micros =
        'P' :: (part days 'D' ++ marked (timeText hours minutes seconds micros)) := by
      rw [partsText, if_neg (by simpa using hzero)]
      simp [marked]
    rw [htext, parts?_written negative days hours minutes seconds hmicros hzero]
    exact total?_written negative hdays hhours hminutes hseconds hmicros

theorem total?_parts?_magnitudeText (negative : Bool) {n : Nat} (h : n ≤ 1000000000 * perDay) :
    (parts? (signText negative ++ magnitudeText n)).bind Parts.total? =
      some (Integer.signed negative n) := by
  have hbounds : n / perDay < 10 ^ 10 ∧ n % perDay / perHour < 10 ^ 10 ∧
      n % perHour / perMinute < 10 ^ 10 ∧ n % perMinute / perSecond < 10 ^ 15 ∧
      n % perSecond < 1000000 := by
    simp only [perDay, perHour, perMinute, perSecond] at h ⊢
    omega
  obtain ⟨hdays, hhours, hminutes, hseconds, hmicros⟩ := hbounds
  rw [magnitudeText_eq, total?_parts?_partsText negative hdays hhours hminutes hseconds hmicros,
    micros_eq_parts]

/-- A duration in range is read back from its text. -/
theorem read_text {d : Duration} (h : ofMicros? d.micros = some d) :
    read d.text.toList = .ok d := by
  have hrange : min.micros ≤ d.micros ∧ d.micros ≤ max.micros := by
    unfold ofMicros? at h
    split_ifs at h with hrange
    exact hrange
  have hn : d.micros.natAbs ≤ 1000000000 * perDay := by
    simp only [min, max, perDay, perHour, perMinute, perSecond] at hrange ⊢
    omega
  have hsign : (if d.micros < 0 then ['-'] else []) = signText (decide (d.micros < 0)) := by
    simp [signText]
  rw [text, String.toList_ofList, hsign, read, total?_parts?_magnitudeText _ hn,
    Integer.signed_natAbs]
  simp only [h]

theorem ofMicros?_of_read {s : List Char} {d : Duration} (h : read s = .ok d) :
    ofMicros? d.micros = some d := by
  unfold read at h
  split at h
  · cases h
  · split at h
    · rename_i hd
      cases h
      have := hd
      unfold ofMicros? at this
      split_ifs at this
      cases this
      exact hd
    · cases h

/-! ## Characters -/

theorem isBlank_of_mem_part (letter : Char) (hletter : isBlank letter = false) (n : Nat) :
    ∀ c ∈ part n letter, isBlank c = false := by
  unfold part
  split_ifs
  · exact nofun
  · rw [List.forall_mem_append, List.forall_mem_singleton]
    exact ⟨fun c hc => isBlank_of_isDigit (AllDigits.toDigits n c hc), hletter⟩

theorem isBlank_of_mem_timeText (hours minutes seconds micros : Nat) :
    ∀ c ∈ timeText hours minutes seconds micros, isBlank c = false := by
  have hseconds : ∀ c ∈ secondsPart seconds micros, isBlank c = false := by
    have hdigits : ∀ c ∈ Nat.toDigits 10 seconds, isBlank c = false := fun c hc =>
      isBlank_of_isDigit (AllDigits.toDigits seconds c hc)
    have hplaces : ∀ c ∈ fraction micros, isBlank c = false := fun c hc =>
      isBlank_of_isDigit (allDigits_fraction micros c hc)
    unfold secondsPart
    split_ifs
    · exact nofun
    · exact List.forall_mem_append.mpr ⟨hdigits, List.forall_mem_singleton.mpr rfl⟩
    · rw [List.append_assoc, List.cons_append, List.forall_mem_append, List.forall_mem_cons,
        List.forall_mem_append]
      exact ⟨hdigits, rfl, hplaces, List.forall_mem_singleton.mpr rfl⟩
  rw [timeText, List.forall_mem_append, List.forall_mem_append]
  exact ⟨⟨isBlank_of_mem_part 'H' rfl hours, isBlank_of_mem_part 'M' rfl minutes⟩, hseconds⟩

theorem isBlank_of_mem_partsText (days hours minutes seconds micros : Nat) :
    ∀ c ∈ partsText days hours minutes seconds micros, isBlank c = false := by
  have hdays := isBlank_of_mem_part 'D' rfl days
  have htime := isBlank_of_mem_timeText hours minutes seconds micros
  unfold partsText
  split_ifs
  · have hzero : "PT0S".toList.all (fun c => isBlank c = false) = true := by decide +kernel
    exact fun c hc => of_decide_eq_true (List.all_eq_true.mp hzero c hc)
  · rw [List.append_nil, List.forall_mem_cons]
    exact ⟨rfl, hdays⟩
  · rw [List.cons_append, List.forall_mem_cons, List.forall_mem_append, List.forall_mem_cons]
    exact ⟨rfl, hdays, rfl, htime⟩

theorem isBlank_of_mem_text (d : Duration) : ∀ c ∈ d.text.toList, isBlank c = false := by
  rw [text, String.toList_ofList, List.forall_mem_append, magnitudeText_eq]
  refine ⟨?_, isBlank_of_mem_partsText _ _ _ _ _⟩
  split_ifs
  · exact List.forall_mem_singleton.mpr rfl
  · exact nofun

end ParamRules.Duration
