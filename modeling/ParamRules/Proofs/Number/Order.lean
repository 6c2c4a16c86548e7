import ParamRules.Proofs.Number.Decimal

/-!
# The order of decimals

Decimals are compared by the places of their leading digits and, where these agree, digit by digit
at a common exponent.  That is the order of the numbers that they stand for, so two decimals that
stand for the same number are compared alike with every other one.
-/

namespace ParamRules.Decimal

variable {x y z : Decimal} {q p : ℚ} {c c₁ c₂ : Nat} {e₁ e₂ : Int}

/-! ## Magnitudes -/

theorem lt_pow_digitCount (c : Nat) : c < 10 ^ digitCount c := by
  have hpos : 0 < digitCount c := List.length_pos_iff.mpr Nat.toDigits_ne_nil
  exact (Nat.length_toDigits_le_iff (by decide) hpos).mp le_rfl

theorem pow_digitCount_le (hc : c ≠ 0) : 10 ^ (digitCount c - 1) ≤ c := by
  by_contra hlt
  rw [not_le] at hlt
  by_cases hone : digitCount c - 1 = 0
  · rw [hone, pow_zero] at hlt
    omega
  · have hle := (Nat.length_toDigits_le_iff (by decide) (Nat.pos_of_ne_zero hone)).mpr hlt
    have hcount : digitCount c ≤ digitCount c - 1 := hle
    omega

theorem magnitude_lt_pow (c : Nat) (e : Int) :
    (c : ℚ) * 10 ^ e < 10 ^ (e + (digitCount c : Int)) := by
  have hc : (c : ℚ) < 10 ^ digitCount c := by exact_mod_cast lt_pow_digitCount c
  have hpos : (0 : ℚ) < 10 ^ e := zpow_pos (by norm_num) e
  calc (c : ℚ) * 10 ^ e < 10 ^ digitCount c * 10 ^ e := mul_lt_mul_of_pos_right hc hpos
    _ = 10 ^ (e + (digitCount c : Int)) := by
        rw [add_comm, zpow_add₀ (by norm_num), zpow_natCast]

theorem pow_le_magnitude (hc : c ≠ 0) (e : Int) :
    (10 : ℚ) ^ (e + (digitCount c : Int) - 1) ≤ c * 10 ^ e := by
  have hcount : 1 ≤ digitCount c := List.length_pos_iff.mpr Nat.toDigits_ne_nil
  have hle : (10 : ℚ) ^ (digitCount c - 1) ≤ c := by exact_mod_cast pow_digitCount_le hc
  have hpos : (0 : ℚ) < 10 ^ e := zpow_pos (by norm_num) e
  have hexponent : e + (digitCount c : Int) - 1 = ((digitCount c - 1 : Nat) : Int) + e := by
    omega
  calc (10 : ℚ) ^ (e + (digitCount c : Int) - 1)
      = 10 ^ (digitCount c - 1) * 10 ^ e := by
        rw [hexponent, zpow_add₀ (by norm_num), zpow_natCast]
    _ ≤ c * 10 ^ e := mul_le_mul_of_nonneg_right hle hpos.le

/-- Where the leading digits stand at different places, they decide. -/
theorem magnitude_lt_of_top_lt (hc₂ : c₂ ≠ 0)
    (htop : e₁ + (digitCount c₁ : Int) < e₂ + (digitCount c₂ : Int)) :
    (c₁ : ℚ) * 10 ^ e₁ < c₂ * 10 ^ e₂ := by
  calc (c₁ : ℚ) * 10 ^ e₁ < 10 ^ (e₁ + (digitCount c₁ : Int)) := magnitude_lt_pow c₁ e₁
    _ ≤ 10 ^ (e₂ + (digitCount c₂ : Int) - 1) :=
        zpow_le_zpow_right₀ (by norm_num) (by omega)
    _ ≤ c₂ * 10 ^ e₂ := pow_le_magnitude hc₂ e₂

/-- A magnitude at a smaller exponent. -/
theorem magnitude_eq_at (c : Nat) {e e' : Int} (h : e' ≤ e) :
    (c : ℚ) * 10 ^ e = ((c * Nat.pow 10 (e - e').toNat : Nat) : ℚ) * 10 ^ e' := by
  have hpower : (10 : ℚ) ^ e = 10 ^ (e - e').toNat * 10 ^ e' := by
    rw [← zpow_natCast, Int.toNat_of_nonneg (by omega), ← zpow_add₀ (by norm_num)]
    congr 1
    omega
  rw [hpower, Nat.pow_eq, Nat.cast_mul, Nat.cast_pow, mul_assoc]
  rfl

theorem compare_mul_pos {a b k : ℚ} (hk : 0 < k) : compare (a * k) (b * k) = compare a b := by
  rcases lt_trichotomy a b with h | h | h
  · rw [compare_lt_iff_lt.mpr h, compare_lt_iff_lt.mpr (mul_lt_mul_of_pos_right h hk)]
  · rw [h, compare_eq_iff_eq.mpr rfl, compare_eq_iff_eq.mpr rfl]
  · rw [compare_gt_iff_gt.mpr h, compare_gt_iff_gt.mpr (mul_lt_mul_of_pos_right h hk)]

theorem compare_natCast (m n : Nat) : compare (m : ℚ) (n : ℚ) = compare m n := by
  rcases lt_trichotomy m n with h | h | h
  · rw [compare_lt_iff_lt.mpr h, compare_lt_iff_lt.mpr (Nat.cast_lt.mpr h)]
  · rw [h, compare_eq_iff_eq.mpr rfl, compare_eq_iff_eq.mpr rfl]
  · rw [compare_gt_iff_gt.mpr h, compare_gt_iff_gt.mpr (Nat.cast_lt.mpr h)]

theorem compareMagnitude_eq (c₁ : Nat) (e₁ : Int) (c₂ : Nat) (e₂ : Int) :
    compareMagnitude c₁ e₁ c₂ e₂ = compare ((c₁ : ℚ) * 10 ^ e₁) (c₂ * 10 ^ e₂) := by
  have hpos : ∀ e : Int, (0 : ℚ) < 10 ^ e := fun e => zpow_pos (by norm_num) e
  unfold compareMagnitude
  simp only
  split_ifs with hzero hlt hgt
  · rw [← compare_natCast]
    rcases hzero with rfl | rfl
    · rw [Nat.cast_zero, zero_mul, ← compare_mul_pos (hpos e₂), zero_mul]
    · rw [Nat.cast_zero, zero_mul, ← compare_mul_pos (hpos e₁), zero_mul]
  · rw [not_or] at hzero
    exact (compare_lt_iff_lt.mpr (magnitude_lt_of_top_lt hzero.2 hlt)).symm
  · rw [not_or] at hzero
    exact (compare_gt_iff_gt.mpr (magnitude_lt_of_top_lt hzero.1 hgt)).symm
  · rw [magnitude_eq_at c₁ (min_le_left e₁ e₂), magnitude_eq_at c₂ (min_le_right e₁ e₂),
      compare_mul_pos (hpos _), compare_natCast]

/-! ## Numbers with a sign -/

theorem compare_neg (a b : ℚ) : compare (-a) (-b) = compare b a := by
  rcases lt_trichotomy a b with h | h | h
  · rw [compare_gt_iff_gt.mpr h, compare_gt_iff_gt.mpr (neg_lt_neg h)]
  · rw [h, compare_eq_iff_eq.mpr rfl, compare_eq_iff_eq.mpr rfl]
  · rw [compare_lt_iff_lt.mpr h, compare_lt_iff_lt.mpr (neg_lt_neg h)]

theorem magnitude_pos (hc : c ≠ 0) (e : Int) : (0 : ℚ) < c * 10 ^ e :=
  mul_pos (Nat.cast_pos.mpr (Nat.pos_of_ne_zero hc)) (zpow_pos (by norm_num) e)

/-- The number of a finite decimal: its magnitude, negated unless it is zero. -/
theorem number?_finite (negative : Bool) (c : Nat) (e : Int) :
    number? (.finite negative c e) =
      some (if (negative && decide (c ≠ 0)) = true then -((c : ℚ) * 10 ^ e)
        else (c : ℚ) * 10 ^ e) := by
  by_cases hc : c = 0
  · simp [number?, hc]
  · cases negative <;> simp [number?, hc]

/-- The order of finite decimals is the order of the numbers that they stand for. -/
theorem compare?_eq_compare (hx : x.number? = some q) (hy : y.number? = some p) :
    x.compare? y = some (compare q p) := by
  cases x with
  | infinite | undefined => cases hx
  | finite n₁ c₁ e₁ =>
      cases y with
      | infinite | undefined => cases hy
      | finite n₂ c₂ e₂ =>
          rw [number?_finite] at hx hy
          obtain rfl := Option.some.inj hx
          obtain rfl := Option.some.inj hy
          have hnonneg : ∀ (c : Nat) (e : Int), (0 : ℚ) ≤ c * 10 ^ e := fun c e => by positivity
          by_cases hzero : c₁ = 0 ∧ c₂ = 0
          · simp [compare?, hzero.1, hzero.2]
          · simp only [compare?, if_neg hzero]
            cases h₁ : n₁ && decide (c₁ ≠ 0) with
            | false =>
                cases h₂ : n₂ && decide (c₂ ≠ 0) with
                | false => simp [compareMagnitude_eq]
                | true =>
                    have hc₂ : c₂ ≠ 0 := of_decide_eq_true (Bool.and_eq_true_iff.mp h₂).2
                    have hpos := magnitude_pos hc₂ e₂
                    have hgt : -((c₂ : ℚ) * 10 ^ e₂) < c₁ * 10 ^ e₁ := by
                      linarith [hnonneg c₁ e₁]
                    simp [compare_gt_iff_gt.mpr hgt]
            | true =>
                have hc₁ : c₁ ≠ 0 := of_decide_eq_true (Bool.and_eq_true_iff.mp h₁).2
                cases h₂ : n₂ && decide (c₂ ≠ 0) with
                | false =>
                    have hpos := magnitude_pos hc₁ e₁
                    have hlt : -((c₁ : ℚ) * 10 ^ e₁) < c₂ * 10 ^ e₂ := by
                      linarith [hnonneg c₂ e₂]
                    simp [compare_lt_iff_lt.mpr hlt]
                | true => simp [compareMagnitude_eq, compare_neg]

end ParamRules.Decimal
