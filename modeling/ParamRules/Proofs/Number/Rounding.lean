import ParamRules.Proofs.Number.Order

/-!
# Rounding to significant digits and to whole numbers

A product of decimals keeps a number of significant digits, and a number of seconds becomes a whole
number of microseconds.  Both go to the nearest neighbour, and a half goes to the even one.

* `value_roundToPrecision`, `toWhole_eq_nearest`: the two steps as functions of the number that
  coefficient and exponent stand for;
* `nearest_significant_iff`: taking one step after the other is rounding once, unless the kept
  digits end in a half that the number itself is not, and the half goes to the other side.
-/

namespace ParamRules.Decimal

variable {q : ℚ} {n : ℤ} {c : Nat}

/-! ## Whole numbers -/

/-- The whole number nearest to a number, a half to the even neighbour. -/
def nearest (q : ℚ) : ℤ :=
  if Int.fract q < 1 / 2 then ⌊q⌋
  else if 1 / 2 < Int.fract q then ⌊q⌋ + 1
  else ⌊q⌋ + ⌊q⌋ % 2

theorem nearest_of_abs_lt (h : |q - n| < 1 / 2) : nearest q = n := by
  rw [abs_lt] at h
  have hfract := Int.self_sub_floor q
  by_cases hle : (n : ℚ) ≤ q
  · have hfloor : ⌊q⌋ = n := Int.floor_eq_iff.mpr ⟨hle, by linarith⟩
    rw [hfloor] at hfract
    rw [nearest, hfloor, if_pos (by linarith)]
  · have hfloor : ⌊q⌋ = n - 1 := by
      apply Int.floor_eq_iff.mpr
      push_cast
      exact ⟨by linarith, by linarith⟩
    rw [hfloor] at hfract
    push_cast at hfract
    rw [nearest, hfloor, if_neg (by linarith), if_pos (by linarith), sub_add_cancel]

@[simp] theorem nearest_intCast (n : ℤ) : nearest n = n :=
  nearest_of_abs_lt (by simp)

@[simp] theorem nearest_natCast (n : ℕ) : nearest n = n :=
  nearest_intCast n

@[simp] theorem nearest_zero : nearest 0 = 0 := by
  exact_mod_cast nearest_intCast 0

theorem nearest_of_fract_eq (h : Int.fract q = 1 / 2) : nearest q = ⌊q⌋ + ⌊q⌋ % 2 := by
  rw [nearest, h, if_neg (lt_irrefl _), if_neg (lt_irrefl _)]

theorem abs_sub_nearest_lt (h : Int.fract q ≠ 1 / 2) : |q - nearest q| < 1 / 2 := by
  have hfract := Int.self_sub_floor q
  have hnonneg := Int.fract_nonneg q
  have hlt := Int.fract_lt_one q
  unfold nearest
  rw [abs_lt]
  split_ifs with hdown hup
  · constructor <;> linarith
  · push_cast
    constructor <;> linarith
  · exact absurd (le_antisymm (not_lt.mp hup) (not_lt.mp hdown)) h

theorem nearest_error (q : ℚ) : |q - nearest q| ≤ 1 / 2 := by
  by_cases h : Int.fract q = 1 / 2
  · have hfract := Int.self_sub_floor q
    have hparity := Int.emod_two_eq_zero_or_one ⌊q⌋
    rw [nearest_of_fract_eq h, abs_le]
    rcases hparity with hparity | hparity <;> rw [hparity] <;> push_cast <;>
      constructor <;> linarith
  · exact (abs_sub_nearest_lt h).le

theorem nearest_le {k : ℤ} (h : q ≤ k) : nearest q ≤ k := by
  have herror := (abs_le.mp (nearest_error q)).1
  have hlt : (nearest q : ℚ) < (k + 1 : ℤ) := by
    push_cast
    linarith
  exact Int.lt_add_one_iff.mp (Int.cast_lt.mp hlt)

theorem le_nearest {k : ℤ} (h : k ≤ q) : k ≤ nearest q := by
  have herror := (abs_le.mp (nearest_error q)).2
  have hlt : (k : ℚ) < (nearest q + 1 : ℤ) := by
    push_cast
    linarith
  exact Int.lt_add_one_iff.mp (Int.cast_lt.mp hlt)

/-- The quotient of natural numbers is rounded to the nearest whole number. -/
theorem roundDiv_eq_nearest (c : Nat) {d : Nat} (hd : 0 < d) :
    (roundDiv c d : ℤ) = nearest (c / d : ℚ) := by
  have hfloor : ⌊(c / d : ℚ)⌋ = ((c / d : Nat) : ℤ) := by
    rw [← Nat.floor_div_eq_div (K := ℚ) c d, Int.natCast_floor_eq_floor (by positivity)]
  have hfract : Int.fract (c / d : ℚ) = ((c % d : Nat) : ℚ) / d := by
    have hsplit : (c : ℚ) = d * (c / d : Nat) + (c % d : Nat) := by
      exact_mod_cast (Nat.div_add_mod c d).symm
    have hne : (d : ℚ) ≠ 0 := by positivity
    rw [Int.fract, hfloor, Int.cast_natCast, eq_div_iff hne, sub_mul, div_mul_cancel₀ _ hne]
    linarith
  have hpos : (0 : ℚ) < d := by exact_mod_cast hd
  have hdown : ((c % d : Nat) : ℚ) / d < 1 / 2 ↔ 2 * (c % d) < d := by
    rw [div_lt_div_iff₀ hpos (by norm_num), mul_comm, one_mul]
    exact_mod_cast Iff.rfl
  have hup : 1 / 2 < ((c % d : Nat) : ℚ) / d ↔ 2 * (c % d) > d := by
    rw [div_lt_div_iff₀ (by norm_num) hpos, mul_comm _ (2 : ℚ), one_mul]
    exact_mod_cast Iff.rfl
  rw [nearest, hfloor, hfract]
  simp only [roundDiv, hdown, hup]
  split_ifs <;> omega

theorem toWhole_eq_nearest (c : Nat) (e : ℤ) :
    (toWhole c e : ℤ) = nearest (c * 10 ^ e) := by
  unfold toWhole
  split_ifs with he
  · have hpower : (c : ℚ) * 10 ^ e = c / (10 ^ (-e).toNat : Nat) := by
      have hcast : ((-e).toNat : ℤ) = -e := Int.toNat_of_nonneg (by omega)
      rw [Nat.cast_pow, ← zpow_natCast, hcast, zpow_neg]
      simp [div_eq_mul_inv]
    rw [hpower, Nat.pow_eq, roundDiv_eq_nearest c (by positivity)]
  · have hpower : (c : ℚ) * 10 ^ e = ((c * 10 ^ e.toNat : Nat) : ℚ) := by
      rw [Nat.cast_mul, Nat.cast_pow, ← zpow_natCast, Int.toNat_of_nonneg (by omega)]
      rfl
    rw [hpower, nearest_natCast, Nat.pow_eq]

/-! ## Significant digits -/

/-- The exponent of the last digit that a product keeps. -/
def lastPlace (q : ℚ) : ℤ :=
  Int.log 10 q + 1 - precision

/-- The number with as many leading digits as a product keeps. -/
def significant (q : ℚ) : ℚ :=
  nearest (q / 10 ^ lastPlace q) * 10 ^ lastPlace q

theorem significant_of_multiple {m : ℤ} (h : q = m * 10 ^ lastPlace q) : significant q = q := by
  have hne : (10 : ℚ) ^ lastPlace q ≠ 0 := zpow_ne_zero _ (by norm_num)
  rw [significant]
  nth_rewrite 1 [h]
  rw [mul_div_cancel_right₀ _ hne, nearest_intCast, ← h]

@[simp] theorem significant_zero : significant 0 = 0 :=
  significant_of_multiple (m := 0) (by simp)

theorem log_magnitude (hc : c ≠ 0) (e : ℤ) :
    Int.log 10 ((c : ℚ) * 10 ^ e) = e + digitCount c - 1 := by
  have hpos : (0 : ℚ) < c * 10 ^ e := by positivity
  have hbase : ((10 : Nat) : ℚ) = 10 := by norm_num
  have hle := (Int.zpow_le_iff_le_log (b := 10) (by norm_num) hpos).mp
    (by rw [hbase]; exact pow_le_magnitude hc e)
  have hlt := (Int.lt_zpow_iff_log_lt (b := 10) (by norm_num) hpos).mp
    (by rw [hbase]; exact magnitude_lt_pow c e)
  omega

theorem lastPlace_magnitude (hc : c ≠ 0) (e : ℤ) :
    lastPlace ((c : ℚ) * 10 ^ e) = e + digitCount c - precision := by
  rw [lastPlace, log_magnitude hc, sub_add_cancel]

/-- A number with no more digits than a product keeps is kept as it is. -/
theorem significant_of_digitCount_le (h : digitCount c ≤ precision) (e : ℤ) :
    significant (c * 10 ^ e) = c * 10 ^ e := by
  by_cases hc : c = 0
  · rw [hc, Nat.cast_zero, zero_mul, significant_zero]
  · refine significant_of_multiple (m := c * 10 ^ (precision - digitCount c)) ?_
    rw [lastPlace_magnitude hc]
    push_cast
    rw [mul_assoc, ← zpow_natCast, ← zpow_add₀ (by norm_num)]
    congr 2
    omega

theorem roundDiv_le {c d m : Nat} (hd : 0 < d) (h : c < m * d) : roundDiv c d ≤ m := by
  have hq : c / d < m := (Nat.div_lt_iff_lt_mul hd).mpr h
  unfold roundDiv
  simp only
  split_ifs <;> omega

theorem significant_of_precision_lt (h : precision < digitCount c) (e : ℤ) :
    significant (c * 10 ^ e) =
      (roundDiv c (10 ^ (digitCount c - precision)) : Nat) *
        10 ^ (e + (digitCount c - precision : Nat) : ℤ) := by
  have hc : c ≠ 0 := by
    rintro rfl
    exact absurd h (by decide)
  generalize hexcess : digitCount c - precision = excess
  have hplace : lastPlace ((c : ℚ) * 10 ^ e) = e + excess := by
    rw [lastPlace_magnitude hc]
    omega
  have hquotient : (c : ℚ) * 10 ^ e / 10 ^ (e + excess : ℤ) = c / (10 ^ excess : Nat) := by
    rw [zpow_add₀ (by norm_num), zpow_natCast, mul_comm, Nat.cast_pow,
      mul_div_mul_left _ _ (zpow_ne_zero _ (by norm_num))]
    rfl
  rw [significant, hplace, hquotient, ← roundDiv_eq_nearest c (by positivity), Int.cast_natCast]

/-- The coefficient and exponent that a product keeps stand for its leading digits. -/
theorem value_roundToPrecision (c : Nat) (e : ℤ) :
    ((roundToPrecision c e).1 : ℚ) * 10 ^ (roundToPrecision c e).2 = significant (c * 10 ^ e) := by
  by_cases hshort : digitCount c ≤ precision
  · have hzero : digitCount c - precision = 0 := by omega
    rw [significant_of_digitCount_le hshort]
    simp only [roundToPrecision, hzero, if_true]
  · rw [significant_of_precision_lt (by omega)]
    have hpos : digitCount c - precision ≠ 0 := by omega
    have hbound : c < 10 ^ precision * 10 ^ (digitCount c - precision) := by
      rw [← pow_add, show precision + (digitCount c - precision) = digitCount c by omega]
      exact lt_pow_digitCount c
    have hle : roundDiv c (10 ^ (digitCount c - precision)) ≤ 10 ^ precision :=
      roundDiv_le (by positivity) hbound
    simp only [roundToPrecision, if_neg hpos, Nat.pow_eq]
    generalize roundDiv c (10 ^ (digitCount c - precision)) = rounded at hle ⊢
    split_ifs with hcarry
    · -- One digit too many can only be the power of ten above all that are kept.
      have hge : 10 ^ precision ≤ rounded := by
        by_contra hlt
        have hcount : digitCount rounded ≤ precision :=
          (Nat.length_toDigits_le_iff (by decide) (by decide)).mpr (not_le.mp hlt)
        omega
      rw [le_antisymm hle hge, zpow_add_one₀ (by norm_num)]
      norm_num [precision]
      ring
    · rfl

/-! ## Rounding twice -/

/-- Halves are multiples of the digits after the point. -/
theorem exists_half_eq {p : ℤ} (hp : p < 0) (k : ℤ) : ∃ j : ℤ, (k : ℚ) + 1 / 2 = j * 10 ^ p := by
  refine ⟨(2 * k + 1) * (5 * 10 ^ (-p - 1).toNat), ?_⟩
  have hcast : ((-p - 1).toNat : ℤ) = -p - 1 := Int.toNat_of_nonneg (by omega)
  have hpower : (10 : ℚ) ^ (-p - 1).toNat * 10 ^ p = 1 / 10 := by
    rw [← zpow_natCast, hcast, ← zpow_add₀ (by norm_num), show -p - 1 + p = -1 by omega]
    norm_num
  push_cast
  calc (k : ℚ) + 1 / 2 = (2 * k + 1) * (5 * (1 / 10)) := by ring
    _ = (2 * k + 1) * (5 * 10 ^ (-p - 1).toNat) * 10 ^ p := by rw [← hpower]; ring

variable (hplace : lastPlace q < 0)

include hplace

/-- The digits that are kept do not pass over a half. -/
theorem significant_le_half {k : ℤ} (h : q ≤ k + 1 / 2) : significant q ≤ k + 1 / 2 := by
  obtain ⟨j, hj⟩ := exists_half_eq hplace k
  have hpos : (0 : ℚ) < 10 ^ lastPlace q := zpow_pos (by norm_num) _
  rw [hj] at h ⊢
  apply mul_le_mul_of_nonneg_right _ hpos.le
  exact_mod_cast nearest_le ((div_le_iff₀ hpos).mpr h)

theorem half_le_significant {k : ℤ} (h : k + 1 / 2 ≤ q) : k + 1 / 2 ≤ significant q := by
  obtain ⟨j, hj⟩ := exists_half_eq hplace k
  have hpos : (0 : ℚ) < 10 ^ lastPlace q := zpow_pos (by norm_num) _
  rw [hj] at h ⊢
  apply mul_le_mul_of_nonneg_right _ hpos.le
  exact_mod_cast le_nearest ((le_div_iff₀ hpos).mpr h)

theorem significant_error : |q - significant q| < 1 / 2 := by
  have hpos : (0 : ℚ) < 10 ^ lastPlace q := zpow_pos (by norm_num) _
  have hsmall : (10 : ℚ) ^ lastPlace q ≤ 10 ^ (-1 : ℤ) :=
    zpow_le_zpow_right₀ (by norm_num) (by omega)
  have herror := nearest_error (q / 10 ^ lastPlace q)
  have hscaled : q - significant q =
      (q / 10 ^ lastPlace q - nearest (q / 10 ^ lastPlace q)) * 10 ^ lastPlace q := by
    rw [sub_mul, div_mul_cancel₀ _ hpos.ne', significant]
  calc |q - significant q| ≤ 1 / 2 * 10 ^ lastPlace q := by
        rw [hscaled, abs_mul, abs_of_pos hpos]
        exact mul_le_mul_of_nonneg_right herror hpos.le
    _ ≤ 1 / 2 * 10 ^ (-1 : ℤ) := mul_le_mul_of_nonneg_left hsmall (by norm_num)
    _ < 1 / 2 := by norm_num

/-- Kept digits that do not end in a half are rounded like the number itself. -/
theorem nearest_significant_of_ne_half (hhalf : Int.fract (significant q) ≠ 1 / 2) :
    nearest (significant q) = nearest q := by
  have hnear := abs_lt.mp (abs_sub_nearest_lt hhalf)
  generalize nearest (significant q) = n at hnear ⊢
  symm
  apply nearest_of_abs_lt
  rw [abs_lt]
  constructor
  · by_contra hlow
    have hkept := significant_le_half hplace (k := n - 1) (by push_cast; linarith)
    push_cast at hkept
    linarith
  · by_contra hhigh
    have hkept := half_le_significant hplace (k := n) (by linarith)
    linarith

/-- What a number is rounded to whose kept digits end in a half: the neighbour on its own side. -/
theorem nearest_of_half (hhalf : Int.fract (significant q) = 1 / 2) :
    (q < significant q → nearest q = ⌊significant q⌋) ∧
      (significant q < q → nearest q = ⌊significant q⌋ + 1) := by
  have herror := abs_lt.mp (significant_error hplace)
  have hkept := Int.floor_add_fract (significant q)
  rw [hhalf] at hkept
  refine ⟨fun hlt => nearest_of_abs_lt ?_, fun hgt => nearest_of_abs_lt ?_⟩
  · rw [abs_lt]
    constructor <;> linarith
  · rw [abs_lt]
    push_cast
    constructor <;> linarith

omit hplace

/-- Whether the kept digits end in a half that the number is above, and the half goes down. -/
def IsLowered (q : ℚ) : Prop :=
  Int.fract (significant q) = 1 / 2 ∧ Even ⌊significant q⌋ ∧ significant q < q

/-- Whether the kept digits end in a half that the number is below, and the half goes up. -/
def IsRaised (q : ℚ) : Prop :=
  Int.fract (significant q) = 1 / 2 ∧ Odd ⌊significant q⌋ ∧ q < significant q

include hplace

theorem nearest_significant_of_isLowered (h : IsLowered q) :
    nearest (significant q) = nearest q - 1 := by
  obtain ⟨hhalf, heven, hlt⟩ := h
  have hparity := Int.even_iff.mp heven
  rw [nearest_of_fract_eq hhalf, (nearest_of_half hplace hhalf).2 hlt]
  omega

theorem nearest_significant_of_isRaised (h : IsRaised q) :
    nearest (significant q) = nearest q + 1 := by
  obtain ⟨hhalf, hodd, hlt⟩ := h
  have hparity := Int.odd_iff.mp hodd
  rw [nearest_of_fract_eq hhalf, (nearest_of_half hplace hhalf).1 hlt]
  omega

theorem nearest_significant_of_not (hlowered : ¬ IsLowered q) (hraised : ¬ IsRaised q) :
    nearest (significant q) = nearest q := by
  by_cases hhalf : Int.fract (significant q) = 1 / 2
  · rcases lt_trichotomy q (significant q) with hlt | heq | hgt
    · have heven : Even ⌊significant q⌋ := by
        by_contra hodd
        exact hraised ⟨hhalf, Int.not_even_iff_odd.mp hodd, hlt⟩
      have hparity := Int.even_iff.mp heven
      rw [nearest_of_fract_eq hhalf, (nearest_of_half hplace hhalf).1 hlt]
      omega
    · rw [← heq]
    · have hodd : Odd ⌊significant q⌋ := by
        by_contra heven
        exact hlowered ⟨hhalf, Int.not_odd_iff_even.mp heven, hgt⟩
      have hparity := Int.odd_iff.mp hodd
      rw [nearest_of_fract_eq hhalf, (nearest_of_half hplace hhalf).2 hgt]
      omega
  · exact nearest_significant_of_ne_half hplace hhalf

/-- Rounding the kept digits is rounding the number, unless it is lowered or raised. -/
theorem nearest_significant_iff :
    nearest (significant q) = nearest q ↔ ¬ IsLowered q ∧ ¬ IsRaised q := by
  refine ⟨fun h => ⟨fun hlowered => ?_, fun hraised => ?_⟩, fun h =>
    nearest_significant_of_not hplace h.1 h.2⟩
  · rw [nearest_significant_of_isLowered hplace hlowered] at h
    omega
  · rw [nearest_significant_of_isRaised hplace hraised] at h
    omega

omit hplace

/-- A number that is not too great keeps digits after the point. -/
theorem lastPlace_neg (h : q < 10 ^ (precision - 1)) : lastPlace q < 0 := by
  unfold lastPlace
  by_cases hpos : 0 < q
  · have hlog := (Int.lt_zpow_iff_log_lt (b := 10) (x := (precision - 1 : Nat)) (by norm_num)
      hpos).mp (by exact_mod_cast h)
    simp only [precision] at hlog ⊢
    omega
  · rw [Int.log_of_right_le_zero 10 (not_lt.mp hpos)]
    decide

/-- A number with no more digits than a product keeps is rounded once. -/
theorem not_isLowered_of_significant (h : significant q = q) : ¬ IsLowered q := fun hlowered =>
  absurd hlowered.2.2 (by rw [h]; exact lt_irrefl q)

theorem not_isRaised_of_significant (h : significant q = q) : ¬ IsRaised q := fun hraised =>
  absurd hraised.2.2 (by rw [h]; exact lt_irrefl q)

end ParamRules.Decimal
