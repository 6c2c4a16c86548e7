import ParamRules.Proofs.Number.Numeral
import ParamRules.Time.Duration

/-!
# The written forms of a duration

A duration is written as `[-]P[nD][T[nH][nM][n[.n]S]]`, where at least one part is there and the
mark of the time is followed by one.  The digits are those of any script.  `parts?_eq_some_iff` says
that the reader takes the texts of this form, each with the digits of its parts, and no others.
-/

namespace ParamRules.Duration

open Text

/-- A part as it is written: its digits and its letter, or nothing. -/
def IsPart (letter : Char) (digits : Option (List Nat)) (s : List Char) : Prop :=
  match digits with
  | none => s = []
  | some ds => ∃ t, Integer.allDigits? t = some ds ∧ s = t ++ [letter]

/-- Seconds as they are written, with a point where there is a fraction. -/
def IsSeconds (digits : Option (List Nat × List Nat)) (s : List Char) : Prop :=
  match digits with
  | none => s = []
  | some (whole, []) => IsPart 'S' (some whole) s
  | some (whole, places) =>
      ∃ t u, Integer.allDigits? t = some whole ∧ Integer.allDigits? u = some places ∧
        s = t ++ '.' :: u ++ ['S']

/-- The sign as it is written. -/
def signText (negative : Bool) : List Char :=
  if negative then ['-'] else []

/-- The mark of the time before its parts, where there are any. -/
def marked (s : List Char) : List Char :=
  if s = [] then [] else 'T' :: s

/-- Whether a text is a duration with the given parts. -/
inductive Parts.IsWritten (p : Parts) : List Char → Prop
  | intro {days hours minutes seconds : List Char} (hdays : IsPart 'D' p.days days)
      (hhours : IsPart 'H' p.hours hours) (hminutes : IsPart 'M' p.minutes minutes)
      (hseconds : IsSeconds p.seconds seconds) (hne : days ++ hours ++ minutes ++ seconds ≠ []) :
      p.IsWritten (signText p.negative ++ 'P' :: (days ++ marked (hours ++ minutes ++ seconds)))

variable {letter d : Char} {s r t : List Char} {ds : List Nat} {digits : Option (List Nat)}
  {seconds : Option (List Nat × List Nat)} {p : Parts}

/-! ## One part -/

theorem takePart?_of_not_digit (hd : isDecimalDigit d = false) :
    takePart? letter (d :: r) = none := by
  simp [takePart?, hd]

/-- Digits that a character follows which is none. -/
theorem takePart?_append (ht : Integer.allDigits? t = some ds) (hd : isDecimalDigit d = false) :
    takePart? letter (t ++ d :: r) = if d = letter then some (ds, r) else none := by
  obtain ⟨hne, hdigits, rfl⟩ := Integer.allDigits?_eq_some_iff.mp ht
  have htake : (t ++ d :: r).takeWhile isDecimalDigit = t := by
    rw [List.takeWhile_append_of_pos hdigits]
    simp [hd]
  have hdrop : (t ++ d :: r).dropWhile isDecimalDigit = d :: r := by
    rw [List.dropWhile_append_of_pos hdigits]
    simp [hd]
  simp [takePart?, htake, hdrop, hne]

theorem takePart?_eq_some_iff (hletter : isDecimalDigit letter = false) :
    takePart? letter s = some (ds, r) ↔
      ∃ t, Integer.allDigits? t = some ds ∧ s = t ++ letter :: r := by
  constructor
  · intro h
    unfold takePart? at h
    simp only at h
    split at h
    · rename_i c rest hrest
      split_ifs at h with hc
      cases h
      refine ⟨s.takeWhile isDecimalDigit, Integer.allDigits?_eq_some_iff.mpr ⟨?_, ?_, rfl⟩, ?_⟩
      · simpa using hc.2
      · exact fun c hc => List.mem_takeWhile_imp hc
      · rw [← hc.1, ← hrest, List.takeWhile_append_dropWhile]
    · cases h
  · rintro ⟨t, ht, rfl⟩
    rw [takePart?_append ht hletter, if_pos rfl]

/-- What is taken as a part that may be absent, and what is left. -/
theorem exists_optionalPart (letter : Char) (hletter : isDecimalDigit letter = false)
    (s : List Char) :
    ∃ part, IsPart letter (optionalPart letter s).1 part ∧
      s = part ++ (optionalPart letter s).2 := by
  unfold optionalPart
  split
  · rename_i ds rest htake
    obtain ⟨t, ht, rfl⟩ := (takePart?_eq_some_iff hletter).mp htake
    exact ⟨t ++ [letter], ⟨t, ht, rfl⟩, by simp⟩
  · exact ⟨[], rfl, rfl⟩

theorem optionalPart_append (hletter : isDecimalDigit letter = false)
    (hpart : IsPart letter digits s) (hr : takePart? letter r = none) :
    optionalPart letter (s ++ r) = (digits, r) := by
  unfold optionalPart
  cases digits with
  | none =>
      obtain rfl : s = [] := hpart
      rw [List.nil_append, hr]
  | some ds =>
      obtain ⟨t, ht, rfl⟩ := hpart
      rw [List.append_assoc, List.singleton_append, takePart?_append ht hletter, if_pos rfl]

/-- A part with another letter is passed over. -/
theorem takePart?_other (hd : isDecimalDigit d = false) (hne : d ≠ letter)
    (hpart : IsPart d digits s) (hr : takePart? letter r = none) :
    takePart? letter (s ++ r) = none := by
  cases digits with
  | none =>
      obtain rfl : s = [] := hpart
      rwa [List.nil_append]
  | some ds =>
      obtain ⟨t, ht, rfl⟩ := hpart
      rw [List.append_assoc, List.singleton_append, takePart?_append ht hd, if_neg hne]

/-! ## Seconds -/

theorem takePart?_isSeconds (hS : 'S' ≠ letter) (hpoint : '.' ≠ letter)
    (h : IsSeconds seconds s) : takePart? letter s = none := by
  match seconds, h with
  | none, h =>
      obtain rfl : s = [] := h
      rfl
  | some (whole, []), h =>
      obtain ⟨t, ht, rfl⟩ := h
      rw [takePart?_append ht (by decide), if_neg hS]
  | some (whole, _ :: _), h =>
      obtain ⟨t, u, ht, -, rfl⟩ := h
      rw [List.append_assoc, List.cons_append, takePart?_append ht (by decide), if_neg hpoint]

theorem isSeconds_places {u : List Char} {places : List Nat} (ht : Integer.allDigits? t = some ds)
    (hu : Integer.allDigits? u = some places) :
    IsSeconds (some (ds, places)) (t ++ '.' :: u ++ ['S']) := by
  cases places with
  | nil =>
      have hlength := Integer.length_of_allDigits? hu
      have hne := (Integer.allDigits?_eq_some_iff.mp hu).1
      exact absurd (List.length_eq_zero_iff.mp hlength.symm) hne
  | cons place places => exact ⟨t, u, ht, hu, rfl⟩

theorem exists_optionalSeconds (s : List Char) :
    ∃ part, IsSeconds (optionalSeconds s).1 part ∧ s = part ++ (optionalSeconds s).2 := by
  unfold optionalSeconds
  split
  · rename_i ds rest htake
    obtain ⟨t, ht, rfl⟩ := (takePart?_eq_some_iff (by decide)).mp htake
    exact ⟨t ++ ['S'], ⟨t, ht, rfl⟩, by simp⟩
  · split
    · exact ⟨[], rfl, rfl⟩
    · rename_i whole rest hwhole
      split
      · rename_i places rest' hplaces
        obtain ⟨t, ht, rfl⟩ := (takePart?_eq_some_iff (by decide)).mp hwhole
        obtain ⟨u, hu, rfl⟩ := (takePart?_eq_some_iff (by decide)).mp hplaces
        exact ⟨t ++ '.' :: u ++ ['S'], isSeconds_places ht hu, by simp⟩
      · exact ⟨[], rfl, rfl⟩

theorem optionalSeconds_of_isSeconds (h : IsSeconds seconds s) :
    optionalSeconds s = (seconds, []) := by
  match seconds, h with
  | none, h =>
      obtain rfl : s = [] := h
      rfl
  | some (whole, []), h =>
      obtain ⟨t, ht, rfl⟩ := h
      rw [optionalSeconds, takePart?_append ht (by decide), if_pos rfl]
  | some (whole, place :: places), h =>
      obtain ⟨t, u, ht, hu, rfl⟩ := h
      rw [List.append_assoc, List.cons_append, optionalSeconds, takePart?_append ht (by decide),
        if_neg (by decide), takePart?_append ht (by decide), if_pos rfl]
      simp only
      rw [takePart?_append hu (by decide), if_pos rfl]

/-! ## All parts -/

theorem isPart_nil_iff : IsPart letter digits [] ↔ digits = none := by
  cases digits <;> simp [IsPart]

theorem isSeconds_nil_iff : IsSeconds seconds [] ↔ seconds = none := by
  match seconds with
  | none => simp [IsSeconds]
  | some (whole, []) => simp [IsSeconds, IsPart]
  | some (whole, _ :: _) => simp [IsSeconds]

theorem exists_signed (h : parts? s = some p) :
    ∃ negative r, s = signText negative ++ 'P' :: r := by
  unfold parts? at h
  split at h
  rename_i negative body hsigned
  have hs : s = signText negative ++ body := by
    split at hsigned <;> cases hsigned <;> rfl
  split at h
  · exact ⟨negative, _, hs⟩
  · cases h

/-- The parts behind the mark of the time, with the days before it. -/
def timeParts? (negative : Bool) (days : Option (List Nat)) (s : List Char) : Option Parts :=
  let hours := optionalPart 'H' s
  let minutes := optionalPart 'M' hours.2
  let seconds := optionalSeconds minutes.2
  if !seconds.2.isEmpty || (hours.1.isNone && minutes.1.isNone && seconds.1.isNone) then none
  else some ⟨negative, days, hours.1, minutes.1, seconds.1⟩

theorem parts?_signed (negative : Bool) (r : List Char) :
    parts? (signText negative ++ 'P' :: r) =
      match (optionalPart 'D' r).2 with
      | [] =>
        if (optionalPart 'D' r).1.isNone then none
        else some ⟨negative, (optionalPart 'D' r).1, none, none, none⟩
      | 'T' :: time => timeParts? negative (optionalPart 'D' r).1 time
      | _ => none := by
  cases negative <;> rfl

/-- The parts behind the mark of the time are hours, minutes and seconds, not all of them absent. -/
theorem exists_of_timeParts? {negative : Bool} (h : timeParts? negative digits s = some p) :
    p.negative = negative ∧ p.days = digits ∧ s ≠ [] ∧ ∃ hours minutes seconds,
      IsPart 'H' p.hours hours ∧ IsPart 'M' p.minutes minutes ∧ IsSeconds p.seconds seconds ∧
        s = hours ++ minutes ++ seconds := by
  obtain ⟨hours, hhours, hs⟩ := exists_optionalPart 'H' (by decide) s
  obtain ⟨minutes, hminutes, hafter⟩ :=
    exists_optionalPart 'M' (by decide) (optionalPart 'H' s).2
  obtain ⟨seconds, hseconds, hlast⟩ :=
    exists_optionalSeconds (optionalPart 'M' (optionalPart 'H' s).2).2
  have hne : s ≠ [] := by
    rintro rfl
    cases h
  unfold timeParts? at h
  simp only at h
  split_ifs at h with hrest
  rw [Bool.or_eq_true, not_or, Bool.not_eq_true', Bool.not_eq_false, List.isEmpty_iff] at hrest
  cases h
  refine ⟨rfl, rfl, hne, hours, minutes, seconds, hhours, hminutes, hseconds, ?_⟩
  rw [hrest.1, List.append_nil] at hlast
  rw [hs, hafter, hlast, List.append_assoc]

theorem isWritten_of_parts? (h : parts? s = some p) : p.IsWritten s := by
  obtain ⟨negative, r, rfl⟩ := exists_signed h
  obtain ⟨days, hdays, hr⟩ := exists_optionalPart 'D' (by decide) r
  rw [parts?_signed] at h
  split at h
  · rename_i hnil
    split_ifs at h with hnone
    cases h
    rw [hnil, List.append_nil] at hr
    have hne : days ≠ [] := by
      rintro rfl
      exact hnone (by rw [isPart_nil_iff.mp hdays]; rfl)
    have hwritten : Parts.IsWritten ⟨negative, (optionalPart 'D' r).1, none, none, none⟩
        (signText negative ++ 'P' :: (days ++ marked ([] ++ [] ++ []))) :=
      .intro hdays rfl rfl rfl (by simpa using hne)
    simp only [marked, List.append_nil, if_true, ← hr] at hwritten
    exact hwritten
  · rename_i time htime
    obtain ⟨rfl, hdigits, hne, hours, minutes, seconds, hhours, hminutes, hseconds, rfl⟩ :=
      exists_of_timeParts? h
    rw [htime] at hr
    rw [← hdigits] at hdays
    have hwritten := Parts.IsWritten.intro hdays hhours hminutes hseconds (by simp_all)
    rwa [marked, if_neg hne, ← hr] at hwritten
  · cases h

theorem timeParts?_append {negative : Bool} {hours minutes seconds : List Char}
    (hhours : IsPart 'H' p.hours hours) (hminutes : IsPart 'M' p.minutes minutes)
    (hseconds : IsSeconds p.seconds seconds) (hne : hours ++ minutes ++ seconds ≠ []) :
    timeParts? negative digits (hours ++ minutes ++ seconds) =
      some ⟨negative, digits, p.hours, p.minutes, p.seconds⟩ := by
  have htakeMinutes : takePart? 'M' seconds = none :=
    takePart?_isSeconds (by decide) (by decide) hseconds
  have htakeHours : takePart? 'H' seconds = none :=
    takePart?_isSeconds (by decide) (by decide) hseconds
  have hfirst : optionalPart 'H' (hours ++ (minutes ++ seconds)) = (p.hours, minutes ++ seconds) :=
    optionalPart_append (by decide) hhours (takePart?_other (by decide) (by decide) hminutes
      htakeHours)
  have hsecond : optionalPart 'M' (minutes ++ seconds) = (p.minutes, seconds) :=
    optionalPart_append (by decide) hminutes htakeMinutes
  have hany : (p.hours.isNone && p.minutes.isNone && p.seconds.isNone) = false := by
    by_contra hnone
    rw [Bool.not_eq_false, Bool.and_eq_true, Bool.and_eq_true, Option.isNone_iff_eq_none,
      Option.isNone_iff_eq_none, Option.isNone_iff_eq_none] at hnone
    obtain ⟨⟨hnoHours, hnoMinutes⟩, hnoSeconds⟩ := hnone
    rw [hnoHours] at hhours
    rw [hnoMinutes] at hminutes
    rw [hnoSeconds] at hseconds
    obtain rfl : hours = [] := hhours
    obtain rfl : minutes = [] := hminutes
    obtain rfl : seconds = [] := hseconds
    exact hne rfl
  rw [List.append_assoc, timeParts?, hfirst]
  simp only [hsecond, optionalSeconds_of_isSeconds hseconds, hany]
  rfl

theorem parts?_of_isWritten (h : p.IsWritten s) : parts? s = some p := by
  obtain ⟨hdays, hhours, hminutes, hseconds, hne⟩ := h
  rename_i days hours minutes seconds
  have hmark : takePart? 'D' (marked (hours ++ minutes ++ seconds)) = none := by
    unfold marked
    split_ifs
    · rfl
    · exact takePart?_of_not_digit (by decide)
  rw [parts?_signed, optionalPart_append (by decide) hdays hmark]
  by_cases htime : hours ++ minutes ++ seconds = []
  · obtain ⟨rfl, rfl, rfl⟩ : hours = [] ∧ minutes = [] ∧ seconds = [] := by simpa using htime
    have hsome : p.days.isNone = false := by
      rw [Option.isNone_eq_false_iff, Option.isSome_iff_ne_none]
      intro hnone
      rw [hnone] at hdays
      obtain rfl : days = [] := hdays
      exact hne rfl
    rw [isPart_nil_iff] at hhours hminutes
    rw [isSeconds_nil_iff] at hseconds
    obtain ⟨negative, _, _, _, _⟩ := p
    obtain rfl := hhours
    obtain rfl := hminutes
    obtain rfl := hseconds
    simp only [marked, htime, if_true, hsome, Bool.false_eq_true, if_false]
  · rw [marked, if_neg htime]
    exact timeParts?_append hhours hminutes hseconds htime

theorem parts?_eq_some_iff : parts? s = some p ↔ p.IsWritten s :=
  ⟨isWritten_of_parts?, parts?_of_isWritten⟩

end ParamRules.Duration
