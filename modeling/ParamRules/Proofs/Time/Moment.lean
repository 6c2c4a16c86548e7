import ParamRules.Proofs.Time.Duration
import ParamRules.Time.Moment

/-!
# Moments read back

Moments are written in the extended form, each number padded to its width.  The reader takes the
numbers one after the other, so a lemma for one padded number carries the date, the time of day and
the distance from universal time, which is a signed time of day itself.
-/

namespace ParamRules.Moment

open Text

variable {r : List Char} {next : Option Char}

/-! ## Padded numbers -/

theorem takeNumber?_append {s : List Char} (hs : AllDigits s) (r : List Char) :
    takeNumber? s.length (s ++ r) = some (Integer.ofDigits 10 (digitValues s), r) := by
  have hall : s.all isAsciiDigit = true := List.all_eq_true.mpr hs
  simp [takeNumber?, hall, digitValues]

theorem takeNumber?_padded (width : Nat) {n : Nat} (hwidth : 0 < width) (h : n < 10 ^ width)
    (r : List Char) : takeNumber? width ((padded width n).toList ++ r) = some (n, r) := by
  have := takeNumber?_append (AllDigits.padded width n) r
  rwa [length_padded width hwidth h, ofDigits_padded] at this

theorem exists_padded_eq_cons (width : Nat) {n : Nat} (hwidth : 0 < width) (h : n < 10 ^ width) :
    ∃ c t, (padded width n).toList = c :: t ∧ c.isDigit = true := by
  obtain ⟨c, t, heq⟩ := List.exists_cons_of_length_pos
    (by rw [length_padded width hwidth h]; exact hwidth)
  exact ⟨c, t, heq, AllDigits.padded width n c (heq ▸ List.mem_cons_self)⟩

/-! ## Dates -/

/-- A date as it is written. -/
def dateText (year month day : Nat) : List Char :=
  (padded 4 year).toList ++ '-' :: ((padded 2 month).toList ++ '-' :: (padded 2 day).toList)

variable {year month day : Nat}

theorem length_dateText (hyear : year < 10000) (hmonth : month < 100) (hday : day < 100) :
    (dateText year month day).length = 10 := by
  have h₁ := length_padded 4 (by decide) hyear
  have h₂ := length_padded 2 (by decide) hmonth
  have h₃ := length_padded 2 (by decide) hday
  simp only [dateText, List.length_append, List.length_cons]
  omega

theorem readDate?_dateText (hyear : year < 10000) (hmonth : month < 100) (hday : day < 100) :
    readDate? (dateText year month day) = some (year, month, day) := by
  obtain ⟨c, t, heq, hc⟩ := exists_padded_eq_cons 2 (by decide) hmonth
  have hne : c ≠ 'W' := ne_of_isDigit hc rfl
  have hmonths := takeNumber?_padded 2 (by decide) hmonth
    ('-' :: (padded 2 day).toList)
  have hdays := takeNumber?_padded 2 (by decide) hday []
  rw [List.append_nil] at hdays
  rw [heq, List.cons_append] at hmonths
  rw [readDate?, dateText, takeNumber?_padded 4 (by decide) hyear, heq]
  simp [hne, hmonths, hdays, takeDash?]

theorem dateLength?_dateText (hyear : year < 10000) (hmonth : month < 100) (hday : day < 100)
    (r : List Char) : dateLength? (dateText year month day ++ r) = some 10 := by
  obtain ⟨c, t, heq, hc⟩ := exists_padded_eq_cons 2 (by decide) hmonth
  have hne : c ≠ 'W' := ne_of_isDigit hc rfl
  have hlength := length_dateText hyear hmonth hday
  have hfour := length_padded 4 (by decide) hyear
  have h₄ : (dateText year month day ++ r)[4]? = some '-' := by
    rw [dateText, List.append_assoc, List.getElem?_append_right (by omega), hfour]
    rfl
  have h₅ : (dateText year month day ++ r)[5]? = some c := by
    rw [dateText, List.append_assoc, List.getElem?_append_right (by omega), hfour, heq]
    rfl
  have hseven : ¬ (dateText year month day ++ r).length = 7 := by
    rw [List.length_append]
    omega
  simp only [dateLength?, h₄, h₅, if_neg hseven, if_true, Option.some.injEq, if_neg hne]

/-! ## Times of day -/

/-- A time of day as it is written, with or without seconds. -/
def clockText (hour minute : Nat) (hasSeconds : Bool) (second micro : Nat) : List Char :=
  (padded 2 hour).toList ++ ':' :: ((padded 2 minute).toList ++
    if hasSeconds then
      ':' :: ((padded 2 second).toList ++
        if micro ≠ 0 then '.' :: (padded 6 micro).toList else [])
    else [])

theorem clockNumbers?_last {n : Nat} (h : n < 100) (count : Nat) (colons : Option Bool) :
    clockNumbers? next (count + 1) colons (padded 2 n).toList = some ([n], .stop next.isSome) := by
  have := takeNumber?_padded 2 (by decide) h []
  rw [List.append_nil] at this
  simp [clockNumbers?, this]

theorem clockNumbers?_colon {n : Nat} (h : n < 100) (count : Nat) {colons : Option Bool}
    (hcolons : colons.getD true = true) (hr : r ≠ []) :
    clockNumbers? next (count + 1) colons ((padded 2 n).toList ++ ':' :: r) =
      (clockNumbers? next count (some true) r).map fun p => (n :: p.1, p.2) := by
  have := takeNumber?_padded 2 (by decide) h (':' :: r)
  rw [clockNumbers?, this]
  cases hrest : clockNumbers? next count (some true) r <;> simp [hcolons, hr, hrest]

theorem clockNumbers?_point {n : Nat} (h : n < 100) (count : Nat) (hr : r ≠ []) :
    clockNumbers? next (count + 1) (some true) ((padded 2 n).toList ++ '.' :: r) =
      some ([n], .fraction r) := by
  have := takeNumber?_padded 2 (by decide) h ('.' :: r)
  rw [clockNumbers?, this]
  simp [hr]

theorem readFraction?_padded {micro : Nat} (h : micro < 1000000) :
    readFraction? (padded 6 micro).toList next = some (micro, next.isSome) := by
  have hlength := length_padded 6 (by decide) h
  have hnumber := takeNumber?_padded 6 (by decide) h []
  rw [List.append_nil] at hnumber
  simp only [readFraction?, hlength, Nat.min_self]
  cases next <;> simp [hnumber]

theorem padded_ne_nil (width : Nat) {n : Nat} (hwidth : 0 < width) (h : n < 10 ^ width) :
    (padded width n).toList ≠ [] := by
  rw [← List.length_pos_iff, length_padded width hwidth h]
  exact hwidth

variable {hour minute second micro : Nat}

theorem readClock?_clockText {hasSeconds : Bool} (hhour : hour < 100) (hminute : minute < 100)
    (hsecond : second < 100) (hmicro : micro < 1000000)
    (hzero : hasSeconds = false → second = 0 ∧ micro = 0) :
    readClock? (clockText hour minute hasSeconds second micro) next =
      some ⟨hour, minute, second, micro, next.isSome⟩ := by
  have hminutes := padded_ne_nil 2 (by decide) hminute
  have hseconds := padded_ne_nil 2 (by decide) hsecond
  have hplaces := padded_ne_nil 6 (by decide) hmicro
  cases hasSeconds with
  | false =>
      obtain ⟨rfl, rfl⟩ := hzero rfl
      simp only [clockText, Bool.false_eq_true, if_false, List.append_nil, readClock?]
      rw [clockNumbers?_colon hhour 2 rfl hminutes, clockNumbers?_last hminute]
      rfl
  | true =>
      by_cases hwhole : micro = 0
      · subst hwhole
        simp only [clockText, if_true, ne_eq, not_true_eq_false, if_false, List.append_nil,
          readClock?]
        rw [clockNumbers?_colon hhour 2 rfl (by simp), clockNumbers?_colon hminute 1 rfl hseconds,
          clockNumbers?_last hsecond]
        rfl
      · simp only [clockText, if_true, ne_eq, hwhole, not_false_eq_true, readClock?]
        rw [clockNumbers?_colon hhour 2 rfl (by simp), clockNumbers?_colon hminute 1 rfl (by simp),
          clockNumbers?_point hsecond 0 hplaces]
        simp [readFraction?_padded hmicro]

theorem startsOffset_of_isDigit {c : Char} (h : c.isDigit = true) : startsOffset c = false := by
  have hplus : c ≠ '+' := ne_of_isDigit h rfl
  have hminus : c ≠ '-' := ne_of_isDigit h rfl
  have hletter : c ≠ 'Z' := ne_of_isDigit h rfl
  simp [startsOffset, hplus, hminus, hletter]

/-- Written times of day are made of digits, colons and a point. -/
theorem forall_mem_clockText {P : Char → Prop} (hdigit : ∀ c : Char, c.isDigit = true → P c)
    (hcolon : P ':') (hpoint : P '.') (hasSeconds : Bool) :
    ∀ c ∈ clockText hour minute hasSeconds second micro, P c := by
  have hdigits : ∀ width n : Nat, ∀ c ∈ (padded width n).toList, P c := fun width n c hc =>
    hdigit c (AllDigits.padded width n c hc)
  unfold clockText
  rw [List.forall_mem_append, List.forall_mem_cons, List.forall_mem_append]
  refine ⟨hdigits 2 hour, hcolon, hdigits 2 minute, ?_⟩
  split_ifs with hseconds hmicro
  · rw [List.forall_mem_cons, List.forall_mem_append, List.forall_mem_cons]
    exact ⟨hcolon, hdigits 2 second, hpoint, hdigits 6 micro⟩
  · rw [List.append_nil, List.forall_mem_cons]
    exact ⟨hcolon, hdigits 2 second⟩
  · exact nofun

theorem startsOffset_of_mem_clockText (hasSeconds : Bool) :
    ∀ c ∈ clockText hour minute hasSeconds second micro, startsOffset c = false :=
  forall_mem_clockText (fun _ h => startsOffset_of_isDigit h) rfl rfl hasSeconds

/-! ## Distances from universal time -/

/-- A distance from universal time as it is written, or nothing where there is none. -/
def zoneText : Option Int → List Char
  | none => []
  | some offset => (offsetText offset).toList

/-- A distance of so many microseconds as a time of day, with seconds where they are needed. -/
def distanceText (n : Nat) : List Char :=
  clockText (n / Duration.perSecond / 3600) (n / Duration.perSecond / 60 % 60)
    (decide (n / Duration.perSecond % 60 ≠ 0 ∨ n % Duration.perSecond ≠ 0))
    (n / Duration.perSecond % 60) (n % Duration.perSecond)

theorem toList_offsetText (offset : Int) :
    (offsetText offset).toList =
      (if offset < 0 then '-' else '+') :: distanceText offset.natAbs := by
  simp only [offsetText, distanceText, clockText]
  generalize offset.natAbs / Duration.perSecond = seconds
  generalize offset.natAbs % Duration.perSecond = micros
  by_cases hmicros : micros = 0
  · by_cases hseconds : seconds % 60 = 0 <;> by_cases hsign : offset < 0 <;>
      simp [hmicros, hseconds, hsign]
  · by_cases hsign : offset < 0 <;> simp [hmicros, hsign]

/-- A distance of less than a day is a time of day. -/
theorem readClock?_distanceText {n : Nat} (h : n < Duration.perDay) :
    readClock? (distanceText n) none =
      some ⟨n / Duration.perSecond / 3600, n / Duration.perSecond / 60 % 60,
        n / Duration.perSecond % 60, n % Duration.perSecond, false⟩ := by
  have hbounds : n / Duration.perSecond / 3600 < 100 ∧ n / Duration.perSecond / 60 % 60 < 100 ∧
      n / Duration.perSecond % 60 < 100 ∧ n % Duration.perSecond < 1000000 := by
    simp only [Duration.perDay, Duration.perHour, Duration.perMinute, Duration.perSecond] at h ⊢
    omega
  obtain ⟨hhour, hminute, hsecond, hmicro⟩ := hbounds
  refine readClock?_clockText hhour hminute hsecond hmicro fun hzero => ?_
  simpa only [decide_eq_false_iff_not, not_or, not_not] using hzero

theorem micros_eq_clock (n : Nat) :
    (n / Duration.perSecond / 3600 * 3600 + n / Duration.perSecond / 60 % 60 * 60 +
      n / Duration.perSecond % 60) * Duration.perSecond + n % Duration.perSecond = n := by
  simp only [Duration.perSecond]
  omega

theorem readTime?_written (hhour : hour < 100) (hminute : minute < 100)
    (hsecond : second < 100) (hmicro : micro < 1000000) {offset : Option Int}
    (hoffset : ∀ o ∈ offset, o.natAbs < Duration.perDay) :
    readTime? (clockText hour minute true second micro ++ zoneText offset) =
      some (⟨hour, minute, second, micro, offset.isSome⟩, offset) := by
  have hbody : ∀ c ∈ clockText hour minute true second micro, (!startsOffset c) = true := by
    intro c hc
    rw [startsOffset_of_mem_clockText true c hc]
    rfl
  have hclock : ∀ next, readClock? (clockText hour minute true second micro) next =
      some ⟨hour, minute, second, micro, next.isSome⟩ := fun next =>
    readClock?_clockText hhour hminute hsecond hmicro nofun
  cases offset with
  | none =>
      rw [zoneText, readTime?, List.takeWhile_append_of_pos hbody,
        List.dropWhile_append_of_pos hbody, List.takeWhile_nil, List.dropWhile_nil,
        List.append_nil, hclock]
      rfl
  | some o =>
      have hzone := readClock?_distanceText (hoffset o rfl)
      have hsigned := Integer.signed_natAbs o
      rw [zoneText, toList_offsetText, readTime?, List.takeWhile_append_of_pos hbody,
        List.dropWhile_append_of_pos hbody]
      by_cases hsign : o < 0
      · have hstart : startsOffset '-' = true := rfl
        rw [decide_eq_true hsign] at hsigned
        simp [hsign, hstart, hclock, hzone, micros_eq_clock, hsigned]
      · have hstart : startsOffset '+' = true := rfl
        rw [decide_eq_false hsign] at hsigned
        simp [hsign, hstart, hclock, hzone, micros_eq_clock, hsigned]

/-! ## Moments -/

theorem toList_text (m : Moment) :
    m.text.toList = dateText m.year m.month m.day ++
      'T' :: (clockText m.hour m.minute true m.second m.micro ++ zoneText m.offset) := by
  cases hoffset : m.offset <;> by_cases hmicro : m.micro = 0 <;>
    simp [text, dateText, clockText, zoneText, hoffset, hmicro]

/-- What it takes for a moment to be one. -/
theorem bounds_of_isValid {m : Moment} (h : m.isValid = true) :
    m.year < 10000 ∧ m.month < 100 ∧ m.day < 100 ∧ m.hour < 100 ∧ m.minute < 100 ∧
      m.second < 100 ∧ m.micro < 1000000 ∧ ∀ o ∈ m.offset, o.natAbs < Duration.perDay := by
  simp only [isValid, Calendar.isDate, Bool.and_eq_true, decide_eq_true_eq] at h
  obtain
    ⟨⟨⟨⟨⟨⟨⟨⟨⟨⟨-, hyear⟩, -⟩, hmonth⟩, -⟩, hday⟩, hhour⟩, hminute⟩, hsecond⟩, hmicro⟩, hoffset⟩ :=
    h
  have hdays : Calendar.daysInMonth m.year m.month ≤ 31 := by
    unfold Calendar.daysInMonth
    split <;> (try split_ifs) <;> omega
  refine ⟨by omega, by omega, by omega, by omega, by omega, by omega, hmicro, ?_⟩
  intro o ho
  rw [Option.mem_def.mp ho] at hoffset
  simpa using hoffset

/-- A moment is read back from its text. -/
theorem read?_text {m : Moment} (h : m.isValid = true) : read? m.text.toList = some m := by
  obtain ⟨hyear, hmonth, hday, hhour, hminute, hsecond, hmicro, hoffset⟩ := bounds_of_isValid h
  have hlength := length_dateText hyear hmonth hday
  have hstop := dateLength?_dateText hyear hmonth hday
    ('T' :: (clockText m.hour m.minute true m.second m.micro ++ zoneText m.offset))
  have htime := readTime?_written hhour hminute hsecond hmicro hoffset
  rw [toList_text]
  generalize clockText m.hour m.minute true m.second m.micro ++ zoneText m.offset = time at *
  have hdate : (dateText m.year m.month m.day ++ 'T' :: time).take 10 =
      dateText m.year m.month m.day := List.take_left' hlength
  have hrest : (dateText m.year m.month m.day ++ 'T' :: time).drop (10 + 1) = time := by
    rw [List.drop_append, hlength, List.drop_of_length_le (by omega)]
    rfl
  have hlong : (dateText m.year m.month m.day ++ 'T' :: time).length = time.length + 11 := by
    rw [List.length_append, List.length_cons, hlength]
    omega
  have hmin : ¬ time.length + 11 < 7 := by omega
  have hdated : ¬ time.length + 11 ≤ 10 := by omega
  rw [read?]
  simp only [hlong, if_neg hmin, if_neg hdated, hstop, hdate, hrest, htime,
    readDate?_dateText hyear hmonth hday, Option.bind_eq_bind, Option.bind_some, h, if_true]

theorem isValid_of_read? {s : List Char} {m : Moment} (h : read? s = some m) :
    m.isValid = true := by
  have hchecked : ∀ k : Moment, (if k.isValid = true then some k else none) = some m →
      m.isValid = true := by
    intro k hk
    split_ifs at hk with hvalid
    cases hk
    exact hvalid
  simp only [read?, Option.bind_eq_bind, Option.bind_some] at h
  by_cases hshort : s.length < 7
  · rw [if_pos hshort] at h
    cases h
  · rw [if_neg hshort] at h
    obtain ⟨stop, -, h⟩ := Option.bind_eq_some_iff.mp h
    obtain ⟨date, -, h⟩ := Option.bind_eq_some_iff.mp h
    split at h
    · exact hchecked _ h
    · obtain ⟨time, -, h⟩ := Option.bind_eq_some_iff.mp h
      exact hchecked _ h

theorem isBlank_of_mem_text (m : Moment) : ∀ c ∈ m.text.toList, isBlank c = false := by
  have hdigits : ∀ width n : Nat, ∀ c ∈ (padded width n).toList, isBlank c = false :=
    fun width n c hc => isBlank_of_isDigit (AllDigits.padded width n c hc)
  have hclock : ∀ (hour minute : Nat) (hasSeconds : Bool) (second micro : Nat),
      ∀ c ∈ clockText hour minute hasSeconds second micro, isBlank c = false :=
    fun _ _ hasSeconds _ _ =>
      forall_mem_clockText (fun _ h => isBlank_of_isDigit h) rfl rfl hasSeconds
  have hzone : ∀ c ∈ zoneText m.offset, isBlank c = false := by
    cases m.offset with
    | none => exact nofun
    | some o =>
        rw [zoneText, toList_offsetText, List.forall_mem_cons]
        exact ⟨by split_ifs <;> rfl, hclock _ _ _ _ _⟩
  rw [toList_text, dateText, List.forall_mem_append, List.forall_mem_append, List.forall_mem_cons,
    List.forall_mem_append, List.forall_mem_cons, List.forall_mem_cons, List.forall_mem_append]
  exact ⟨⟨hdigits 4 _, rfl, hdigits 2 _, rfl, hdigits 2 _⟩, rfl, hclock _ _ _ _ _, hzone⟩

end ParamRules.Moment
