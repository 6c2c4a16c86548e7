import ParamRules.Proofs.Constraint.Represents
import ParamRules.Proofs.Conversion.Order

/-!
# Bounds by default

A bound that is not given is the least or the greatest value of its type.  Integers, durations and
versions are kept apart from other values by their ranges, which end at these bounds.  Decimals have
no such range: their bounds are those of a decimal of 96 bits, so that greater ones are too large
and lesser ones too small.  Moments are ordered by their instants, and those that have a date in
universal time lie between the bounds.  All values in these ranges are taken
(`default_bounds_admit`).
-/

namespace ParamRules

open Text Result Conversion

/-! ## The calendar ends -/

namespace Calendar

variable {year month day : Nat}

theorem daysBeforeMonth_add_le (hmonth : 1 ≤ month) (hmonth' : month ≤ 12)
    (hday : day ≤ daysInMonth year month) :
    daysBeforeMonth year month + day ≤ 365 + if isLeap year then 1 else 0 := by
  interval_cases month <;> simp only [daysBeforeMonth, daysInMonth] at hday ⊢ <;> split_ifs at * <;>
    omega

theorem daysBeforeYear_add_le (hyear : 1 ≤ year) (hyear' : year < 9999) :
    daysBeforeYear year + 366 ≤ daysBeforeYear 9999 + 365 := by
  simp only [daysBeforeYear]
  omega

/-- The days of the years 1 to 9999 are numbered from one to the number of the last one. -/
theorem dayNumber_bounds (h : isDate year month day = true) :
    1 ≤ dayNumber year month day ∧ dayNumber year month day ≤ dayNumber 9999 12 31 := by
  simp only [isDate, Bool.and_eq_true, decide_eq_true_eq] at h
  obtain ⟨⟨⟨⟨⟨hyear, hyear'⟩, hmonth⟩, hmonth'⟩, hday⟩, hday'⟩ := h
  have hrest := daysBeforeMonth_add_le hmonth hmonth' hday'
  have hlast : dayNumber 9999 12 31 = daysBeforeYear 9999 + 365 := by decide
  refine ⟨by unfold dayNumber; omega, ?_⟩
  rw [hlast, dayNumber]
  rcases hyear'.lt_or_eq with hlt | rfl
  · have hbefore := daysBeforeYear_add_le hyear hlt
    split_ifs at hrest <;> omega
  · rw [show isLeap 9999 = false from rfl] at hrest
    simp only [Bool.false_eq_true, if_false] at hrest
    omega

end Calendar

namespace Moment

variable {m : Moment}

/-- The clock runs from the first moment to the last one. -/
theorem clock_bounds (h : m.isValid = true) : min.clock ≤ m.clock ∧ m.clock ≤ max.clock := by
  simp only [isValid, Bool.and_eq_true, decide_eq_true_eq] at h
  obtain ⟨⟨⟨⟨⟨hdate, hhour⟩, hminute⟩, hsecond⟩, hmicro⟩, -⟩ := h
  obtain ⟨hfirst, hlast⟩ := Calendar.dayNumber_bounds hdate
  have hmin : min.clock = 86400000000 := by decide
  have hmax : max.clock =
      Calendar.dayNumber 9999 12 31 * 86400000000 + 86399999999 := by decide
  have hclock : m.clock = Calendar.dayNumber m.year m.month m.day * 86400000000 +
      (m.hour * 3600 + m.minute * 60 + m.second) * 1000000 + m.micro := rfl
  rw [hmin, hmax, hclock]
  constructor <;> omega

/-- Whether the instant has a date in universal time. -/
def IsUniversal (m : Moment) : Prop :=
  ∃ u : Moment, u.isValid = true ∧ u.offset = some 0 ∧ u.instant? = m.instant?

/-- An instant with a date in universal time is neither before the first moment nor after the last
one. -/
theorem IsUniversal.bounds (h : m.IsUniversal) {i : Int} (hi : m.instant? = some i) :
    min.clock ≤ i ∧ i ≤ max.clock := by
  obtain ⟨u, hvalid, hoffset, hinstant⟩ := h
  rw [hi, instant?, hoffset] at hinstant
  obtain rfl : u.clock - 0 = i := Option.some.inj hinstant
  rw [sub_zero]
  exact clock_bounds hvalid

end Moment

/-! ## The least and the greatest value -/

theorem IntegerType.holds_iff {t : IntegerType} {n : Int} :
    t.holds n = true ↔ t.least ≤ n ∧ n ≤ t.greatest := by
  simp [holds]

theorem Duration.bounds_of_ofMicros? {d : Duration} {n : Int} (h : ofMicros? n = some d) :
    min.micros ≤ n ∧ n ≤ max.micros := by
  unfold ofMicros? at h
  split_ifs at h with hrange
  exact hrange

/-- The number of the least decimal: the greatest one negated, rounded to 28 digits. -/
theorem Conversion.number?_decimalMin :
    decimalMin.number? = some (-79228162514264337593543950340) := by
  have hmin : decimalMin = .finite true 7922816251426433759354395034 1 := by rfl
  rw [hmin, Decimal.number?]
  norm_num

theorem Conversion.number?_decimalMax :
    (Decimal.finite false decimalMax 0).number? = some (2 ^ 96 - 1) := by
  rw [Decimal.number?, decimalMax]
  norm_num

/-- Whether a value is in the range that bounds by default leave to its type: decimals in that of
96 bits, moments in that of universal time. -/
def Value.IsBounded : Value → Prop
  | .decimal d => ∀ q, d.number? = some q → |q| ≤ 2 ^ 96 - 1
  | .moment m => m.IsUniversal
  | _ => True

namespace Bound

variable {b low high : Bound}

/-- A value in range is neither before the least nor after the greatest of its type. -/
theorem between_extremes (hb : b.IsHeld) (hrange : b.value.IsBounded)
    (hlow : least? b.dataType = some low) (hhigh : greatest? b.dataType = some high) :
    ¬ b.value.Precedes low.value ∧ ¬ high.value.Precedes b.value := by
  cases b with
  | amount a =>
      cases a with
      | integer t n =>
          cases hlow
          cases hhigh
          obtain ⟨hleast, hgreatest⟩ := IntegerType.holds_iff.mp hb
          exact ⟨Value.precedes_int_iff.not.mpr (not_lt.mpr hleast),
            Value.precedes_int_iff.not.mpr (not_lt.mpr hgreatest)⟩
      | decimal d =>
          cases hlow
          cases hhigh
          obtain ⟨q, hq⟩ := Decimal.exists_number? hb
          obtain ⟨hleast, hgreatest⟩ := abs_le.mp (hrange q hq)
          -- The least decimal was rounded, away from zero.
          have hrounded : (-79228162514264337593543950340 : ℚ) ≤ -(2 ^ 96 - 1) := by norm_num
          exact ⟨(Value.precedes_decimal_iff hq number?_decimalMin).not.mpr
              (not_lt.mpr (hrounded.trans hleast)),
            (Value.precedes_decimal_iff number?_decimalMax hq).not.mpr (not_lt.mpr hgreatest)⟩
  | moment m =>
      cases hlow
      cases hhigh
      obtain ⟨i, hi⟩ := Moment.exists_instant? hb.2
      obtain ⟨hleast, hgreatest⟩ := hrange.bounds hi
      have hfirst : Moment.min.instant? = some Moment.min.clock := by decide
      have hlast : Moment.max.instant? = some Moment.max.clock := by decide
      exact ⟨(Value.precedes_moment_iff hi hfirst).not.mpr (not_lt.mpr hleast),
        (Value.precedes_moment_iff hlast hi).not.mpr (not_lt.mpr hgreatest)⟩
  | duration d =>
      cases hlow
      cases hhigh
      obtain ⟨hleast, hgreatest⟩ := Duration.bounds_of_ofMicros? hb
      exact ⟨Value.precedes_duration_iff.not.mpr (not_lt.mpr hleast),
        Value.precedes_duration_iff.not.mpr (not_lt.mpr hgreatest)⟩
  | version a =>
      cases hlow
      cases hhigh
      obtain ⟨hmajor, hminor, hbuild, hrevision, -⟩ := Version.ofParts_eq_ok_iff.mp hb
      constructor <;> refine Value.precedes_version_iff.not.mpr ?_ <;>
        simp only [Version.parts, Version.min, Version.max, List.cons_lt_cons_iff, List.not_lt_nil,
          and_false, or_false] <;>
        omega

end Bound

namespace Conversion

variable {hint : Hint} {t : DataType} {v w : Value} {text : String}

/-- Whether a value is one that a data type takes: it is accepted as one, or a text is read as
it. -/
inductive Takes (t : DataType) (v : Value) : Prop where
  | accepted {hint : Hint} {w : Value} (hv : v.IsProper) (h : coerce hint t v = .ok w) : Takes t v
  | read {hint : Hint} {text : String} (h : read hint t text = .ok v) : Takes t v

theorem read_congr (ht : t ≠ .enumeration) (hint : Hint) (text : String) :
    Conversion.read hint t text = Conversion.read none t text := by
  cases t with
  | enumeration => exact absurd rfl ht
  | _ => rfl

/-- What an ordered type takes has a form there, which is the value of a bound. -/
theorem Takes.exists_bound (ht : t.isOrdered = true) (h : Takes t v) :
    ∃ b : Bound, b.dataType = t ∧ b.IsHeld ∧ ∀ hint, coerce hint t v = .ok b.value := by
  have henum : t ≠ .enumeration := by rintro rfl; cases ht
  cases h with
  | accepted hv h =>
      have hcoerced := coerced_of_coerce henum h
      obtain ⟨b, rfl, rfl⟩ := Bound.exists_of_coerced ht hcoerced
      exact ⟨b, rfl, Bound.isHeld_of_coerced hv hcoerced, fun _ => coerce_of_coerced hcoerced⟩
  | read h =>
      rw [read_congr henum] at h
      obtain ⟨b, rfl, rfl, hheld⟩ := Cell.exists_bound_of_read ht h
      exact ⟨b, rfl, hheld, fun _ => coerce_of_coerced (Bound.coerced_of_isHeld hheld)⟩

end Conversion

namespace Constraint

variable {t : DataType} {v member shown : Value} {place label : String} {b low high : Bound}

/-! ## Constraints built without a bound -/

/-- Whether a builder makes a constraint of a data type alone. -/
def BuildsFrom (kind : String) (t : DataType) (c : Constraint) : Prop :=
  ∃ build, builder? kind = some build ∧ build ⟨[.ofDataType t], []⟩ = .ok c

theorem boundArgument_of_none {name boundName : String} {extreme? : DataType → Option Bound}
    (ht : t.isOrdered = true) (h : extreme? t = some b) (htype : b.dataType = t) :
    boundArgument name extreme? ⟨[.ofDataType t], []⟩ boundName = .ok b := by
  have htypeArgument : typeArgument (.ofDataType t) DataType.isOrdered notOrdered = .ok t := by
    rw [typeArgument, dataType?_ofDataType]
    simp only [Option.filter_some, ht, if_true]
  have hbound : boundOf? t b.value = some b := boundOf?_eq_some_iff.mpr ⟨htype, rfl⟩
  unfold boundArgument
  simp only [Arguments.get, Arguments.get?, List.getElem?_cons_zero, Option.some_or,
    Option.getD_some, htypeArgument, bind, Except.bind]
  simp [h, hbound, pure, Except.pure]

theorem buildsFrom_bounds (ht : t.isOrdered = true) (hlow : least? t = some low)
    (hhigh : greatest? t = some high) :
    BuildsFrom "MinimumValueConstraint" t (.minValue low) ∧
      BuildsFrom "MaximumValueConstraint" t (.maxValue high) := by
  have hminimum : builder? "MinimumValueConstraint" =
      some fun a => .minValue <$> boundArgument "MinValue" least? a "minimum" := rfl
  have hmaximum : builder? "MaximumValueConstraint" =
      some fun a => .maxValue <$> boundArgument "MaxValue" greatest? a "maximum" := rfl
  refine ⟨⟨_, hminimum, ?_⟩, _, hmaximum, ?_⟩
  · simp only [boundArgument_of_none ht hlow (isHeld_of_least? hlow).1]
    rfl
  · simp only [boundArgument_of_none ht hhigh (isHeld_of_greatest? hhigh).1]
    rfl

theorem exists_extremes (ht : t.isOrdered = true) :
    ∃ low high, least? t = some low ∧ greatest? t = some high := by
  cases t <;> first | exact ⟨_, _, rfl, rfl⟩ | cases ht

/-- The bounds that are left out exclude no value of their type, but for decimals that take more
than 96 bits and for instants without a date in universal time.  Greater decimals are too large, and
lesser ones too small. -/
theorem default_bounds_admit (r : Registry) (ht : t.isOrdered = true) (hv : Takes t v)
    (hmember : Argument.nameText "member_name" member = .ok place)
    (hshown : shownName place shown = .ok label) :
    ∃ (w : Value) (low high : Bound), (∀ hint, coerce hint t v = .ok w) ∧
      least t = .ok low.value ∧ greatest t = .ok high.value ∧
      BuildsFrom "MinimumValueConstraint" t (.minValue low) ∧
      BuildsFrom "MaximumValueConstraint" t (.maxValue high) ∧
      (w.IsBounded → ¬ w.Precedes low.value ∧ ¬ high.value.Precedes w ∧
        (Constraint.minValue low).checkWith r (.ofDataType t) v member shown = .ok [] ∧
        (Constraint.maxValue high).checkWith r (.ofDataType t) v member shown = .ok []) ∧
      (t = .decimal →
        (w.Precedes low.value →
          (Constraint.minValue low).checkWith r (.ofDataType t) v member shown =
            .ok [Outcome.failure (.minValue low) place .valueTooSmall
              (label ++ " " ++ ("must be greater than or equal to " ++ low.text))]) ∧
        (high.value.Precedes w →
          (Constraint.maxValue high).checkWith r (.ofDataType t) v member shown =
            .ok [Outcome.failure (.maxValue high) place .valueTooLarge
              (label ++ " " ++ ("must be less than or equal to " ++ high.text))])) := by
  obtain ⟨b, rfl, hheld, hcoerce⟩ := hv.exists_bound ht
  obtain ⟨low, high, hlow, hhigh⟩ := exists_extremes ht
  obtain ⟨hlowType, hlowHeld⟩ := isHeld_of_least? hlow
  obtain ⟨hhighType, hhighHeld⟩ := isHeld_of_greatest? hhigh
  obtain ⟨o, hcompare, hlt, -⟩ := exists_compare?_of_isHeld hheld hlowHeld hlowType.symm
  obtain ⟨o', hcompare', -, hgt⟩ := exists_compare?_of_isHeld hheld hhighHeld hhighType.symm
  have hnone := b.dataType_ne.1
  have hsmall :=
    check_bound (r := r) (c := .minValue low) ht rfl (hcoerce none) hcompare place label
  have hlarge := check_bound (r := r) (c := .maxValue high) ht rfl (hcoerce none) hcompare' place
    label
  rw [← checkWith_ofDataType hnone hmember hshown] at hsmall hlarge
  obtain ⟨hminimum, hmaximum⟩ := buildsFrom_bounds ht hlow hhigh
  refine ⟨b.value, low, high, hcoerce, by rw [least, hlow], by rw [greatest, hhigh], hminimum,
    hmaximum, fun hrange => ?_, fun _ => ⟨fun hbefore => ?_, fun hafter => ?_⟩⟩
  · obtain ⟨hbefore, hafter⟩ := Bound.between_extremes hheld hrange hlow hhigh
    rw [if_neg (hlt.not.mpr hbefore)] at hsmall
    rw [if_neg (hgt.not.mpr hafter)] at hlarge
    exact ⟨hbefore, hafter, hsmall, hlarge⟩
  · rw [hsmall, if_pos (hlt.mpr hbefore)]
  · rw [hlarge, if_pos (hgt.mpr hafter)]

/-- Half an hour before the last midnight one hour east of universal time. -/
theorem default_bounds_admit_east :
    DataType.dateTimeOffset.isOrdered = true ∧
      Takes .dateTimeOffset (.moment ⟨9999, 12, 31, 23, 30, 0, 0, some 3600000000⟩) ∧
      Argument.nameText "member_name" (.text "m") = .ok "m" ∧ shownName "m" .null = .ok "m" ∧
      ∃ low high : Bound, BuildsFrom "MinimumValueConstraint" .dateTimeOffset (.minValue low) ∧
        BuildsFrom "MaximumValueConstraint" .dateTimeOffset (.maxValue high) ∧
        (Constraint.minValue low).checkWith .empty (.ofDataType .dateTimeOffset)
          (.moment ⟨9999, 12, 31, 23, 30, 0, 0, some 3600000000⟩) (.text "m") .null = .ok [] ∧
        (Constraint.maxValue high).checkWith .empty (.ofDataType .dateTimeOffset)
          (.moment ⟨9999, 12, 31, 23, 30, 0, 0, some 3600000000⟩) (.text "m") .null = .ok [] := by
  have htakes : Takes .dateTimeOffset (.moment ⟨9999, 12, 31, 23, 30, 0, 0, some 3600000000⟩) :=
    .read (show read none .dateTimeOffset "9999-12-31T23:30:00+01:00" = .ok _ from rfl)
  obtain ⟨w, low, high, hw, -, -, hminimum, hmaximum, hrange, -⟩ :=
    default_bounds_admit .empty (t := .dateTimeOffset) rfl htakes
      (show Argument.nameText "member_name" (.text "m") = .ok "m" from rfl)
      (show shownName "m" .null = .ok "m" from rfl)
  obtain rfl : Value.moment ⟨9999, 12, 31, 23, 30, 0, 0, some 3600000000⟩ = w :=
    Except.ok.inj (hw none)
  have huniversal : Moment.IsUniversal ⟨9999, 12, 31, 23, 30, 0, 0, some 3600000000⟩ :=
    ⟨⟨9999, 12, 31, 22, 30, 0, 0, some 0⟩, by decide, rfl, by decide⟩
  obtain ⟨-, -, hsmall, hlarge⟩ := hrange huniversal
  exact ⟨rfl, htakes, rfl, rfl, low, high, hminimum, hmaximum, hsmall, hlarge⟩

/-- The decimal that is greater by one than the greatest of 96 bits is refused. -/
theorem not_default_bounds_admit_decimal :
    ¬ ∀ (r : Registry) (t : DataType) (v member shown : Value) (place label : String)
        (c : Constraint), t.isOrdered = true → Takes t v →
      Argument.nameText "member_name" member = .ok place → shownName place shown = .ok label →
      BuildsFrom "MaximumValueConstraint" t c →
      c.checkWith r (.ofDataType t) v member shown = .ok [] := by
  intro h
  have htakes : Takes .decimal (.decimal (.finite false 79228162514264337593543950336 0)) :=
    .read (show read none .decimal "79228162514264337593543950336" = .ok _ from rfl)
  have htaken := h .empty .decimal _ (.text "m") .null "m" "m"
    (.maxValue (.amount (.decimal (.finite false decimalMax 0)))) rfl htakes rfl rfl ⟨_, rfl, rfl⟩
  cases htaken

end Constraint

end ParamRules
