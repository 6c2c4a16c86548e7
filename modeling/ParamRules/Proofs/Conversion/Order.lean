import ParamRules.Proofs.Constraint.Equality

/-!
# The order of what values denote

Values of ordered types stand for something that has an order of its own: integers for themselves,
decimals for rational numbers, moments for instants of universal time, durations for microseconds,
versions for their parts.  Comparison decides this order for all values of one type
(`exists_compare?_of_isHeld`), and so for all that texts of it are read as, however they are
written.  The check of a bound reports nothing but the side of it that a value is on
(`check_bound`).
-/

namespace ParamRules

open Constraint

/-! ## Denoted values -/

/-- The order of the values of ordered types by what they denote. -/
inductive Value.Precedes : Value → Value → Prop where
  | int {m n : Int} : m < n → Precedes (.int m) (.int n)
  /-- Decimals by their exact value, whatever their digits and zeros. -/
  | decimal {c d : Decimal} {q p : ℚ} :
      c.number? = some q → d.number? = some p → q < p → Precedes (.decimal c) (.decimal d)
  /-- Moments by the instant in universal time, whatever their offsets. -/
  | moment {m n : Moment} {i j : Int} :
      m.instant? = some i → n.instant? = some j → i < j → Precedes (.moment m) (.moment n)
  | duration {d e : Duration} : d.micros < e.micros → Precedes (.duration d) (.duration e)
  /-- Versions part by part, where a part that is absent is below zero. -/
  | version {a b : Version} : a.parts < b.parts → Precedes (.version a) (.version b)

namespace Value

/-- Whether an outcome of comparison says which of two values precedes the other. -/
def Decides (o : Ordering) (v w : Value) : Prop :=
  (o = .lt ↔ Precedes v w) ∧ (o = .gt ↔ Precedes w v)

theorem precedes_int_iff {m n : Int} : Precedes (.int m) (.int n) ↔ m < n :=
  ⟨fun | .int h => h, .int⟩

theorem precedes_decimal_iff {c d : Decimal} {q p : ℚ} (hc : c.number? = some q)
    (hd : d.number? = some p) : Precedes (.decimal c) (.decimal d) ↔ q < p := by
  constructor
  · rintro (_ | ⟨hc', hd', h⟩)
    rw [Option.some.inj (hc.symm.trans hc'), Option.some.inj (hd.symm.trans hd')]
    exact h
  · exact .decimal hc hd

theorem precedes_moment_iff {m n : Moment} {i j : Int} (hm : m.instant? = some i)
    (hn : n.instant? = some j) : Precedes (.moment m) (.moment n) ↔ i < j := by
  constructor
  · rintro (_ | _ | ⟨hm', hn', h⟩)
    rw [Option.some.inj (hm.symm.trans hm'), Option.some.inj (hn.symm.trans hn')]
    exact h
  · exact .moment hm hn

theorem precedes_duration_iff {d e : Duration} :
    Precedes (.duration d) (.duration e) ↔ d.micros < e.micros :=
  ⟨fun | .duration h => h, .duration⟩

theorem precedes_version_iff {a b : Version} :
    Precedes (.version a) (.version b) ↔ a.parts < b.parts :=
  ⟨fun | .version h => h, .version⟩

end Value

/-! ## Comparison of one type -/

theorem Decimal.number?_ofInt (n : Int) : (ofInt n).number? = some (n : ℚ) := by
  rw [ofInt, number?, zpow_zero, mul_one]
  congr 1
  by_cases hn : n < 0
  · have habs : ((n.natAbs : Int) : ℚ) = ((-n : Int) : ℚ) := by
      congr 1
      omega
    rw [decide_eq_true hn, if_pos rfl, ← Int.cast_natCast, habs]
    push_cast
    ring
  · have habs : ((n.natAbs : Int) : ℚ) = (n : ℚ) := by
      congr 1
      omega
    rw [decide_eq_false hn, if_neg Bool.false_ne_true, ← Int.cast_natCast, habs, one_mul]

theorem Decimal.exists_number? {d : Decimal} (h : d.isFinite = true) : ∃ q, d.number? = some q := by
  cases d with
  | finite negative coefficient exponent => exact ⟨_, rfl⟩
  | infinite | undefined => cases h

theorem Moment.exists_instant? {m : Moment} (h : m.offset.isSome = true) :
    ∃ i, m.instant? = some i :=
  Option.isSome_iff_exists.mp (by rw [instant?, Option.isSome_map]; exact h)

namespace Version

/-- Comparison of versions decides the order of their parts. -/
theorem compare_eq_lt_iff {a b : Version} : a.compare b = .lt ↔ a.parts < b.parts := by
  simp only [compare, parts, Ordering.then_eq_lt, compare_lt_iff_lt, compare_eq_iff_eq,
    List.cons_lt_cons_iff]
  simp

theorem compare_eq_gt_iff {a b : Version} : a.compare b = .gt ↔ b.parts < a.parts := by
  simp only [compare, parts, Ordering.then_eq_gt, compare_gt_iff_gt, compare_eq_iff_eq,
    List.cons_lt_cons_iff]
  simp [eq_comm]

end Version

/-! ## Comparison of what is read -/

namespace Value

theorem decides_compare {α : Type} [LinearOrder α] {x y : α} {v w : Value}
    (h : Precedes v w ↔ x < y) (h' : Precedes w v ↔ y < x) : Decides (Ord.compare x y) v w :=
  ⟨compare_lt_iff_lt.trans h.symm, compare_gt_iff_gt.trans h'.symm⟩

theorem decides_numbers {c d : Decimal} {q p : ℚ} {v w : Value} (hc : decimalOf? v = some c)
    (hd : decimalOf? w = some d) (hq : c.number? = some q) (hp : d.number? = some p)
    (h : Precedes v w ↔ q < p) (h' : Precedes w v ↔ p < q) :
    ∃ o, compare? v w = some o ∧ Decides o v w := by
  refine ⟨Ord.compare q p, ?_, decides_compare h h'⟩
  unfold compare?
  split
  · cases hc
  · cases hc
  · cases hc
  · rw [hc, hd]
    exact Decimal.compare?_eq_compare hq hp

end Value

open Value

/-- Comparison of two values of one ordered type decides the order of what they denote. -/
theorem exists_compare?_of_isHeld {b c : Bound} (hb : b.IsHeld) (hc : c.IsHeld)
    (htype : b.dataType = c.dataType) :
    ∃ o, compare? b.value c.value = some o ∧ Decides o b.value c.value := by
  cases b with
  | amount x =>
      cases x with
      | integer t m =>
          cases c with
          | amount y =>
              cases y with
              | integer t' n =>
                  exact decides_numbers rfl rfl (Decimal.number?_ofInt m) (Decimal.number?_ofInt n)
                    (precedes_int_iff.trans Int.cast_lt.symm)
                    (precedes_int_iff.trans Int.cast_lt.symm)
              | decimal d => cases htype
          | _ => cases htype
      | decimal d =>
          cases c with
          | amount y =>
              cases y with
              | integer t n => cases htype
              | decimal e =>
                  obtain ⟨q, hq⟩ := Decimal.exists_number? hb
                  obtain ⟨p, hp⟩ := Decimal.exists_number? hc
                  exact decides_numbers rfl rfl hq hp (precedes_decimal_iff hq hp)
                    (precedes_decimal_iff hp hq)
          | _ => cases htype
  | moment m =>
      cases c with
      | moment n =>
          obtain ⟨i, hi⟩ := Moment.exists_instant? hb.2
          obtain ⟨j, hj⟩ := Moment.exists_instant? hc.2
          refine ⟨Ord.compare i j, ?_, decides_compare (precedes_moment_iff hi hj)
            (precedes_moment_iff hj hi)⟩
          rw [Bound.value, Bound.value, compare?, hi, hj]
          rfl
      | amount y => cases y <;> cases htype
      | _ => cases htype
  | duration d =>
      cases c with
      | duration e =>
          exact ⟨_, rfl, decides_compare precedes_duration_iff precedes_duration_iff⟩
      | amount y => cases y <;> cases htype
      | _ => cases htype
  | version v =>
      cases c with
      | version w =>
          exact ⟨_, rfl, Version.compare_eq_lt_iff.trans precedes_version_iff.symm,
            Version.compare_eq_gt_iff.trans precedes_version_iff.symm⟩
      | amount y => cases y <;> cases htype
      | _ => cases htype

/-- Comparison of two values that texts of one type are read as decides the order of what they
denote. -/
theorem exists_compare?_of_isReadable {b c : Bound} (hb : b.IsReadable) (hc : c.IsReadable)
    (htype : b.dataType = c.dataType) :
    ∃ o, compare? b.value c.value = some o ∧ Decides o b.value c.value :=
  exists_compare?_of_isHeld hb.isHeld hc.isHeld htype

/-! ## Bounds are checked -/

namespace Constraint

open Conversion

variable {r : Registry} {c : Constraint} {t : DataType} {v w : Value} {b : Bound}
  {o wrong : Ordering} {failing : Failing}

/-- A value fails a bound that it is compared with once, on the wrong side of it, or not at all. -/
theorem check_bound (hjudges : c.judges t = true)
    (hfailings : c.failings r t v = c.boundFailings t b v wrong failing)
    (hw : coerce none t v = .ok w) (h : compare? w b.value = some o) (member shown : String) :
    c.check r t v member shown = .ok (if o = wrong then
      [Outcome.failure c member failing.1 (shown ++ " " ++ (failing.2 ++ b.text))] else []) := by
  have hnull : v ≠ .null := by
    rintro rfl
    cases t <;> cases hw
  rw [check_eq hjudges hnull, hfailings, boundFailings_of_some hw h]
  by_cases ho : o = wrong
  · simp only [ho, ne_eq, not_true, decide_false, failsUnless, Bool.false_eq_true, if_false,
      if_true]
    rfl
  · simp only [ho, ne_eq, not_false_iff, decide_true, failsUnless, if_false, if_true]
    rfl

end Constraint

end ParamRules
