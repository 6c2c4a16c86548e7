import ParamRules.Proofs.Conversion.Envelope
import ParamRules.Proofs.Number.Rounding
import ParamRules.Proofs.Time.Written

/-!
# What a written duration stands for

The parts of a duration stand for a number of microseconds: the days, hours and minutes for a whole
one, and the seconds for the number that their digits denote, rounded once, a half to the even
neighbour.  Reading a text is meant to give this number.  It does, unless a whole part has more
digits than are read, or the digits that the product of the seconds keeps end in a half that the
number itself is not (`isReadExactly_iff`).  In the latter case the duration is off by one
microsecond.
-/

namespace ParamRules

open Text Decimal

namespace Duration

variable {p : Parts} {d : Duration} {negative : Bool} {whole places : List Nat} {n : ℤ}

/-! ## Exact values -/

/-- The number of seconds that digits before and after the point denote. -/
def secondsValue : Option (List Nat × List Nat) → ℚ
  | none => 0
  | some (whole, places) => Integer.ofDigits 10 (whole ++ places) * 10 ^ (-(places.length : ℤ))

/-- The microseconds that the seconds denote. -/
def Parts.secondsMicros (p : Parts) : ℚ :=
  secondsValue p.seconds * perSecond

/-- The number that the digits of a whole part denote, zero for a part that is absent. -/
def wholeValue (digits : Option (List Nat)) : Nat :=
  Integer.ofDigits 10 (digits.getD [])

/-- The microseconds that days, hours and minutes denote. -/
def Parts.wholeMicros (p : Parts) : Nat :=
  wholeValue p.days * perDay + wholeValue p.hours * perHour + wholeValue p.minutes * perMinute

/-- One, with the sign of the duration. -/
def Parts.sign (p : Parts) : ℤ :=
  if p.negative then -1 else 1

/-- The microseconds that a duration denotes, with its seconds rounded once. -/
def Parts.micros (p : Parts) : ℤ :=
  p.sign * (p.wholeMicros + nearest p.secondsMicros)

/-- Whether a whole part has more digits than are read as a number. -/
def Parts.IsTooLong (p : Parts) : Prop :=
  ∃ digits ∈ [p.days, p.hours, p.minutes], Integer.digitLimit < (digits.getD []).length

/-- Whether the seconds are rounded to the wrong side. -/
def Parts.IsMisrounded (p : Parts) : Prop :=
  IsLowered p.secondsMicros ∨ IsRaised p.secondsMicros

/-! ## What the parts add up to -/

theorem microsOfSeconds_eq_nearest (whole places : List Nat) :
    (microsOfSeconds whole places : ℤ) =
      nearest (significant (secondsValue (some (whole, places)) * perSecond)) := by
  rw [microsOfSeconds, toWhole_eq_nearest, value_roundToPrecision, secondsValue, Nat.cast_mul,
    mul_right_comm]

theorem signed_eq (n : Nat) : Integer.signed p.negative n = p.sign * n := by
  unfold Integer.signed Parts.sign
  split_ifs <;> ring

/-- The parts are added up, with the microseconds of the digits that a product keeps. -/
theorem total?_of_not_isTooLong (h : ¬ p.IsTooLong) :
    p.total? = some (p.sign * (p.wholeMicros + nearest (significant p.secondsMicros))) := by
  simp only [Parts.IsTooLong, List.mem_cons, List.not_mem_nil, or_false, exists_eq_or_imp,
    exists_eq_left, not_or] at h
  obtain ⟨hdays, hhours, hminutes⟩ := h
  simp only [Parts.total?, gt_iff_lt, hdays, hhours, hminutes, decide_false, Bool.or_false,
    Bool.false_eq_true, if_false, signed_eq]
  congr 2
  cases hseconds : p.seconds with
  | none => simp [Parts.secondsMicros, hseconds, secondsValue, Parts.wholeMicros, wholeValue]
  | some digits =>
      rw [Parts.secondsMicros, hseconds, ← microsOfSeconds_eq_nearest]
      push_cast [Parts.wholeMicros, wholeValue]
      rfl

theorem total?_of_isTooLong (h : p.IsTooLong) : p.total? = none := by
  simp only [Parts.IsTooLong, List.mem_cons, List.not_mem_nil, or_false, exists_eq_or_imp,
    exists_eq_left] at h
  rw [Parts.total?]
  simp only [gt_iff_lt]
  rw [if_pos]
  simpa [or_assoc] using h

/-! ## Durations in range -/

theorem ofMicros?_eq_some_iff :
    ofMicros? n = some d ↔ n = d.micros ∧ min.micros ≤ n ∧ n ≤ max.micros := by
  obtain ⟨micros⟩ := d
  unfold ofMicros?
  split_ifs with h <;> simp [h]

theorem nonneg_secondsMicros (p : Parts) : 0 ≤ p.secondsMicros := by
  unfold Parts.secondsMicros secondsValue
  split <;> positivity

/-- The seconds of a duration in range are not so many that a product keeps none of the digits
after the point. -/
theorem secondsMicros_lt (h : ofMicros? p.micros = some d) :
    p.secondsMicros < 10 ^ (precision - 1) := by
  obtain ⟨-, hmin, hmax⟩ := ofMicros?_eq_some_iff.mp h
  have herror := abs_le.mp (nearest_error p.secondsMicros)
  have hnonneg : 0 ≤ nearest p.secondsMicros :=
    le_nearest (by exact_mod_cast nonneg_secondsMicros p)
  have hsmall : nearest p.secondsMicros ≤ 10 ^ 20 := by
    simp only [Parts.micros, Parts.sign, min, max, perDay, perHour, perMinute, perSecond]
      at hmin hmax
    split_ifs at hmin hmax <;> omega
  have hcast : (nearest p.secondsMicros : ℚ) ≤ 10 ^ 20 := by exact_mod_cast hsmall
  calc p.secondsMicros ≤ 10 ^ 20 + 1 / 2 := by linarith
    _ < 10 ^ (precision - 1) := by norm_num [precision]

/-- The digits that a product keeps give the seconds rounded once, or one microsecond less or
more. -/
theorem nearest_secondsMicros (h : ofMicros? p.micros = some d) :
    (nearest (significant p.secondsMicros) = nearest p.secondsMicros ↔ ¬ p.IsMisrounded) ∧
      (IsLowered p.secondsMicros →
        nearest (significant p.secondsMicros) = nearest p.secondsMicros - 1) ∧
      (IsRaised p.secondsMicros →
        nearest (significant p.secondsMicros) = nearest p.secondsMicros + 1) := by
  have hplace := lastPlace_neg (secondsMicros_lt h)
  refine ⟨?_, nearest_significant_of_isLowered hplace, nearest_significant_of_isRaised hplace⟩
  rw [nearest_significant_iff hplace, Parts.IsMisrounded, not_or]

/-- Up to six places are a whole number of microseconds. -/
theorem exists_secondsMicros_eq (hseconds : p.seconds = some (whole, places))
    (hplaces : places.length ≤ 6) : ∃ k : ℕ, p.secondsMicros = k := by
  refine ⟨Integer.ofDigits 10 (whole ++ places) * 10 ^ (6 - places.length), ?_⟩
  have hpower : (10 : ℚ) ^ (-(places.length : ℤ)) * perSecond = 10 ^ (6 - places.length) := by
    have hunit : (perSecond : ℚ) = 10 ^ (6 : ℤ) := by norm_num [perSecond]
    rw [hunit, ← zpow_add₀ (by norm_num), ← zpow_natCast]
    congr 1
    omega
  rw [Parts.secondsMicros, hseconds, secondsValue, mul_assoc, hpower]
  push_cast
  rfl

theorem not_isMisrounded_of_places (hseconds : p.seconds = some (whole, places))
    (hplaces : places.length ≤ 6) (h : ofMicros? p.micros = some d) : ¬ p.IsMisrounded := by
  obtain ⟨k, hk⟩ := exists_secondsMicros_eq hseconds hplaces
  have hsmall : k < 10 ^ (precision - 1) := by
    have hlt := secondsMicros_lt h
    rw [hk] at hlt
    exact_mod_cast hlt
  have hcount : digitCount k ≤ precision :=
    (Nat.length_toDigits_le_iff (by decide) (by decide)).mpr
      (hsmall.trans (by decide))
  have hkept : significant p.secondsMicros = p.secondsMicros := by
    simpa [hk] using significant_of_digitCount_le hcount 0
  rintro (hlowered | hraised)
  · exact not_isLowered_of_significant hkept hlowered
  · exact not_isRaised_of_significant hkept hraised

end Duration

namespace Conversion

open Duration (Parts)

variable {hint : Hint} {text : String} {p : Parts} {d : Duration}

/-- A number of microseconds as a duration, or the fault of one that is out of range. -/
def durationOf (n : ℤ) : Except Fault Value :=
  match Duration.ofMicros? n with
  | some d => .ok (.duration d)
  | none => .error (.plain .durationRange)

theorem durationOf_eq_ok_iff {n : ℤ} :
    durationOf n = .ok (.duration d) ↔ Duration.ofMicros? n = some d := by
  unfold durationOf
  cases Duration.ofMicros? n <;> simp

/-- What a written duration is read as. -/
theorem read_of_isWritten (hp : p.IsWritten (trimChars text.toList)) :
    read hint .timeSpan text =
      match p.total? with
      | none => .error (.conversion .timeSpan (.text text) .impossible none)
      | some n => durationOf n := by
  have hparts := Duration.parts?_eq_some_iff.mpr hp
  rw [read_timeSpan, Duration.read, hparts, Option.bind_some]
  cases p.total? with
  | none => rfl
  | some n =>
      simp only [durationOf]
      cases Duration.ofMicros? n <;> rfl

theorem read_of_not_isWritten (h : ∀ p : Parts, ¬ p.IsWritten (trimChars text.toList)) :
    read hint .timeSpan text = .error (.conversion .timeSpan (.text text) .impossible none) := by
  have hnone : Duration.parts? (trimChars text.toList) = none := by
    apply Option.eq_none_iff_forall_ne_some.mpr
    exact fun p hp => h p (Duration.parts?_eq_some_iff.mp hp)
  rw [read_timeSpan, Duration.read, hnone]
  rfl

theorem read_of_not_isTooLong (hp : p.IsWritten (trimChars text.toList)) (h : ¬ p.IsTooLong) :
    read hint .timeSpan text =
      durationOf (p.sign * (p.wholeMicros + nearest (significant p.secondsMicros))) := by
  rw [read_of_isWritten hp, Duration.total?_of_not_isTooLong h]

theorem read_of_isTooLong (hp : p.IsWritten (trimChars text.toList)) (h : p.IsTooLong) :
    read hint .timeSpan text = .error (.conversion .timeSpan (.text text) .impossible none) := by
  rw [read_of_isWritten hp, Duration.total?_of_isTooLong h]

/-- Whether a text is read as the duration that it stands for, and refused where it stands for
none.  Of the durations that are out of range nothing is said. -/
def IsReadExactly (hint : Hint) (text : String) : Prop :=
  (∀ (p : Parts) (d : Duration), p.IsWritten (trimChars text.toList) →
      Duration.ofMicros? p.micros = some d → read hint .timeSpan text = .ok (.duration d)) ∧
    ((∀ p : Parts, ¬ p.IsWritten (trimChars text.toList)) →
      ∃ fault, read hint .timeSpan text = .error fault ∧ fault.kind = .conversion)

/-- A duration in range is read as what it stands for where no number is too long and the seconds
are not rounded to the wrong side. -/
theorem read_eq_ok_iff (hp : p.IsWritten (trimChars text.toList))
    (hrange : Duration.ofMicros? p.micros = some d) :
    read hint .timeSpan text = .ok (.duration d) ↔ ¬ p.IsTooLong ∧ ¬ p.IsMisrounded := by
  by_cases hlong : p.IsTooLong
  · rw [read_of_isTooLong hp hlong]
    simp [hlong]
  · have hsign : p.sign ≠ 0 := by
      unfold Parts.sign
      split_ifs <;> decide
    have hd := (Duration.ofMicros?_eq_some_iff.mp hrange).1
    rw [read_of_not_isTooLong hp hlong, durationOf_eq_ok_iff,
      ← (Duration.nearest_secondsMicros hrange).1]
    constructor
    · intro h
      have heq := (Duration.ofMicros?_eq_some_iff.mp h).1.trans hd.symm
      rw [Parts.micros, mul_right_inj' hsign, add_right_inj] at heq
      exact ⟨hlong, heq⟩
    · rintro ⟨-, heq⟩
      rw [heq]
      exact hrange

/-- Seconds that are rounded to the wrong side are one microsecond off. -/
theorem read_of_isLowered (hp : p.IsWritten (trimChars text.toList)) (hshort : ¬ p.IsTooLong)
    (hrange : Duration.ofMicros? p.micros = some d) (h : IsLowered p.secondsMicros) :
    read hint .timeSpan text = durationOf (p.micros - p.sign) := by
  rw [read_of_not_isTooLong hp hshort, (Duration.nearest_secondsMicros hrange).2.1 h, Parts.micros]
  congr 1
  ring

theorem read_of_isRaised (hp : p.IsWritten (trimChars text.toList)) (hshort : ¬ p.IsTooLong)
    (hrange : Duration.ofMicros? p.micros = some d) (h : IsRaised p.secondsMicros) :
    read hint .timeSpan text = durationOf (p.micros + p.sign) := by
  rw [read_of_not_isTooLong hp hshort, (Duration.nearest_secondsMicros hrange).2.2 h, Parts.micros]
  congr 1
  ring

/-- A text is read as the duration that it stands for, unless a number in it is too long or its
seconds are rounded to the wrong side.  With a number that is too long the text is refused, and
seconds that are rounded to the wrong side are one microsecond off.  Up to six places are never
rounded. -/
theorem isReadExactly_iff (hint : Hint) (text : String) :
    (IsReadExactly hint text ↔
      ∀ (p : Parts) (d : Duration), p.IsWritten (trimChars text.toList) →
        Duration.ofMicros? p.micros = some d → ¬ p.IsTooLong ∧ ¬ p.IsMisrounded) ∧
      ((∀ p : Parts, ¬ p.IsWritten (trimChars text.toList)) →
        ∃ fault, read hint .timeSpan text = .error fault ∧ fault.kind = .conversion) ∧
      ∀ (p : Parts) (d : Duration), p.IsWritten (trimChars text.toList) →
        Duration.ofMicros? p.micros = some d →
          (p.IsTooLong → ∃ fault,
            read hint .timeSpan text = .error fault ∧ fault.kind = .conversion) ∧
          (¬ p.IsTooLong → IsLowered p.secondsMicros →
            read hint .timeSpan text = durationOf (p.micros - p.sign)) ∧
          (¬ p.IsTooLong → IsRaised p.secondsMicros →
            read hint .timeSpan text = durationOf (p.micros + p.sign)) ∧
          ∀ whole places, p.seconds = some (whole, places) → places.length ≤ 6 →
            (nearest p.secondsMicros : ℚ) = p.secondsMicros ∧ ¬ p.IsMisrounded := by
  have hrefused : (∀ p : Parts, ¬ p.IsWritten (trimChars text.toList)) →
      ∃ fault, read hint .timeSpan text = .error fault ∧ fault.kind = .conversion := fun h =>
    ⟨_, read_of_not_isWritten h, kind_conversion_text⟩
  refine ⟨⟨?_, ?_⟩, hrefused, ?_⟩
  · rintro ⟨hexact, -⟩ p d hp hrange
    exact (read_eq_ok_iff hp hrange).mp (hexact p d hp hrange)
  · intro h
    exact ⟨fun p d hp hrange => (read_eq_ok_iff hp hrange).mpr (h p d hp hrange), hrefused⟩
  · intro p d hp hrange
    refine ⟨fun hlong => ⟨_, read_of_isTooLong hp hlong, kind_conversion_text⟩,
      fun hshort => read_of_isLowered hp hshort hrange,
      fun hshort => read_of_isRaised hp hshort hrange, fun whole places hseconds hplaces => ?_⟩
    obtain ⟨k, hk⟩ := Duration.exists_secondsMicros_eq hseconds hplaces
    exact ⟨by simp [hk], Duration.not_isMisrounded_of_places hseconds hplaces hrange⟩

theorem isReadExactly_iff_time :
    IsReadExactly none "P1DT2H3M4.5S" ∧
      read none .timeSpan "P1DT2H3M4.5S" = .ok (.duration ⟨93784500000⟩) := by
  have hparts : Duration.parts? (trimChars "P1DT2H3M4.5S".toList) =
      some ⟨false, some [1], some [2], some [3], some ([4], [5])⟩ := rfl
  obtain ⟨hiff, -, hread⟩ := isReadExactly_iff none "P1DT2H3M4.5S"
  have hexact : IsReadExactly none "P1DT2H3M4.5S" := by
    refine hiff.mpr fun p d hp hrange => ?_
    have hplaces := (hread p d hp hrange).2.2.2
    obtain rfl := Option.some.inj (hparts.symm.trans (Duration.parts?_eq_some_iff.mpr hp))
    refine ⟨?_, (hplaces [4] [5] rfl (by decide)).2⟩
    simp [Parts.IsTooLong, Integer.digitLimit]
  refine ⟨hexact, hexact.1 _ _ (Duration.parts?_eq_some_iff.mp hparts) ?_⟩
  have hseconds : Parts.secondsMicros ⟨false, some [1], some [2], some [3], some ([4], [5])⟩ =
      (4500000 : ℕ) := by
    norm_num [Parts.secondsMicros, Duration.secondsValue, Integer.ofDigits, Duration.perSecond]
  rw [Parts.micros, hseconds, nearest_natCast]
  rfl

/-- Half a microsecond and a little more is read as none. -/
theorem not_isReadExactly_half : ¬ ∀ (hint : Hint) (text : String), IsReadExactly hint text := by
  intro h
  have hparts : Duration.parts? (trimChars "PT0.00000050000000000000000000000000001S".toList) =
      some ⟨false, none, none, none,
        some ([0], [0, 0, 0, 0, 0, 0, 5, 0, 0, 0, 0, 0, 0, 0, 0, 0, 0, 0, 0, 0, 0, 0, 0, 0, 0, 0,
          0, 0, 0, 0, 0, 0, 0, 0, 1])⟩ := rfl
  have hmicros : Parts.micros ⟨false, none, none, none,
      some ([0], [0, 0, 0, 0, 0, 0, 5, 0, 0, 0, 0, 0, 0, 0, 0, 0, 0, 0, 0, 0, 0, 0, 0, 0, 0, 0,
        0, 0, 0, 0, 0, 0, 0, 0, 1])⟩ = 1 := by
    rw [Parts.micros, nearest_of_abs_lt (n := 1)]
    · rfl
    · rw [abs_lt]
      constructor <;>
        norm_num [Parts.secondsMicros, Duration.secondsValue, Integer.ofDigits, Duration.perSecond]
  have hexact := (h none "PT0.00000050000000000000000000000000001S").1 _ ⟨1⟩
    (Duration.parts?_eq_some_iff.mp hparts) (by rw [hmicros]; rfl)
  have hread : Duration.read (trimChars "PT0.00000050000000000000000000000000001S".toList) =
      .ok ⟨0⟩ := by decide +kernel
  rw [read_timeSpan, hread] at hexact
  cases hexact

end Conversion

end ParamRules
