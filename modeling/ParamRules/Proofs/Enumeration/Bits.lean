import ParamRules.Enumeration
import Mathlib

/-!
# Sets of bits

An integer as the set of the bits that it has in two's complement: a negative one has all but
finitely many.  Two integers with the same bits are the same (`eq_of_testBit_eq`), so that what is
to be known of unions and intersections is read off one bit at a time.
-/

namespace ParamRules.Enumeration

variable {m n b : Int} {i j : Nat}

/-! ## One bit at a time -/

theorem ldiff_add_and (m n : Nat) : m.ldiff n + (m &&& n) = m := by
  induction m using Nat.binaryRec generalizing n with
  | zero => simp [Nat.ldiff]
  | bit a m ih =>
      obtain ⟨b, n, rfl⟩ : ∃ b k, n = Nat.bit b k := ⟨n.bodd, n.div2, (Nat.bit_bodd_div2 n).symm⟩
      have hrest := ih n
      rw [Nat.ldiff_bit, Nat.land_bit, Nat.bit_val, Nat.bit_val, Nat.bit_val]
      cases a <;> cases b <;> simp <;> omega

theorem ldiff_eq_sub (m n : Nat) : m.ldiff n = m - (m &&& n) := by
  have hsum := ldiff_add_and m n
  omega

theorem inter_eq_land (m n : Int) : inter m n = m.land n := by
  cases m with
  | ofNat m =>
      cases n with
      | ofNat n => rfl
      | negSucc n =>
          show Int.ofNat (m - (m &&& n)) = ((m.ldiff n : Nat) : Int)
          rw [ldiff_eq_sub]
          rfl
  | negSucc m =>
      cases n with
      | ofNat n =>
          show Int.ofNat (n - (n &&& m)) = ((n.ldiff m : Nat) : Int)
          rw [ldiff_eq_sub]
          rfl
      | negSucc n => rfl

@[simp] theorem testBit_inter (m n : Int) (k : Nat) :
    (inter m n).testBit k = (m.testBit k && n.testBit k) := by
  rw [inter_eq_land, Int.testBit_land]

@[simp] theorem testBit_not (n : Int) (k : Nat) : (Int.not n).testBit k = !n.testBit k := by
  have hnot : Int.not n = n.lnot := by cases n <;> rfl
  rw [hnot, Int.testBit_lnot]

@[simp] theorem testBit_union (m n : Int) (k : Nat) :
    (union m n).testBit k = (m.testBit k || n.testBit k) := by
  show (Int.not (inter (Int.not m) (Int.not n))).testBit k = _
  simp

@[simp] theorem testBit_zero (k : Nat) : (0 : Int).testBit k = false :=
  Nat.zero_testBit k

/-- A number that is not negative has only bits below some place, one that is negative has all bits
from some place on. -/
theorem exists_testBit_eq (n : Int) : ∃ k, ∀ j ≥ k, n.testBit j = decide (n < 0) := by
  cases n with
  | ofNat n =>
      refine ⟨n, fun j hj => ?_⟩
      have hlt : n < 2 ^ j := lt_of_le_of_lt hj Nat.lt_two_pow_self
      show n.testBit j = _
      rw [Nat.testBit_lt_two_pow hlt]
      simp
  | negSucc n =>
      refine ⟨n, fun j hj => ?_⟩
      have hlt : n < 2 ^ j := lt_of_le_of_lt hj Nat.lt_two_pow_self
      show (!n.testBit j) = _
      rw [Nat.testBit_lt_two_pow hlt]
      simp [Int.negSucc_lt_zero]

theorem eq_of_testBit_eq (h : ∀ k, m.testBit k = n.testBit k) : m = n := by
  have hsign : decide (m < 0) = decide (n < 0) := by
    obtain ⟨i, hi⟩ := exists_testBit_eq m
    obtain ⟨j, hj⟩ := exists_testBit_eq n
    rw [← hi (max i j) (le_max_left i j), ← hj (max i j) (le_max_right i j), h]
  cases m with
  | ofNat m =>
      cases n with
      | ofNat n => exact congrArg Int.ofNat (Nat.eq_of_testBit_eq h)
      | negSucc n => simp [Int.negSucc_lt_zero] at hsign; omega
  | negSucc m =>
      cases n with
      | ofNat n => simp [Int.negSucc_lt_zero] at hsign; omega
      | negSucc n =>
          have hbits : ∀ k, m.testBit k = n.testBit k := by
            intro k
            exact Bool.not_inj (h k)
          exact congrArg Int.negSucc (Nat.eq_of_testBit_eq hbits)

/-! ## Laws of union and intersection -/

@[simp] theorem zero_union (n : Int) : union 0 n = n :=
  eq_of_testBit_eq fun k => by simp

@[simp] theorem union_zero (n : Int) : union n 0 = n :=
  eq_of_testBit_eq fun k => by simp

@[simp] theorem inter_zero (n : Int) : inter n 0 = 0 :=
  eq_of_testBit_eq fun k => by simp

@[simp] theorem zero_inter (n : Int) : inter 0 n = 0 :=
  eq_of_testBit_eq fun k => by simp

theorem union_assoc (m n b : Int) : union (union m n) b = union m (union n b) :=
  eq_of_testBit_eq fun k => by simp [Bool.or_assoc]

theorem inter_inter_self (m n : Int) : inter (inter m n) n = inter m n :=
  eq_of_testBit_eq fun k => by simp

/-- Whether every bit of a number is a bit of another one. -/
def IsWithin (m n : Int) : Prop :=
  inter m n = m

theorem isWithin_iff : IsWithin m n ↔ ∀ k, m.testBit k = true → n.testBit k = true := by
  constructor
  · intro h k hk
    rw [← h, testBit_inter, Bool.and_eq_true] at hk
    exact hk.2
  · intro h
    apply eq_of_testBit_eq
    intro k
    cases hk : m.testBit k with
    | false => simp [hk]
    | true => simp [hk, h k hk]

theorem isWithin_inter (m n : Int) : IsWithin (inter m n) n :=
  inter_inter_self m n

theorem IsWithin.union (hm : IsWithin m b) (hn : IsWithin n b) : IsWithin (union m n) b := by
  rw [isWithin_iff] at *
  intro k hk
  rw [testBit_union, Bool.or_eq_true] at hk
  rcases hk with hk | hk
  · exact hm k hk
  · exact hn k hk

/-- The bits of a number that are within another one are no more than there are in it. -/
theorem inter_nonneg (m : Int) (hn : 0 ≤ n) : 0 ≤ inter m n := by
  cases n with
  | ofNat n => cases m <;> exact Int.natCast_nonneg _
  | negSucc n => exact absurd hn (by omega)

theorem union_nonneg (hm : 0 ≤ m) (hn : 0 ≤ n) : 0 ≤ union m n := by
  cases m with
  | negSucc m => exact absurd hm (by omega)
  | ofNat m =>
      cases n with
      | negSucc n => exact absurd hn (by omega)
      | ofNat n => exact Int.natCast_nonneg _

theorem isWithin_refl (n : Int) : IsWithin n n :=
  isWithin_iff.mpr fun _ h => h

theorem IsWithin.trans {a b c : Int} (hab : IsWithin a b) (hbc : IsWithin b c) : IsWithin a c :=
  isWithin_iff.mpr fun i h => isWithin_iff.mp hbc i (isWithin_iff.mp hab i h)

/-- A number has no bits outside one that it is within. -/
theorem inter_not_of_isWithin (h : IsWithin m n) : inter m (Int.not n) = 0 := by
  apply eq_of_testBit_eq
  intro k
  rw [testBit_inter, testBit_not, testBit_zero]
  cases hk : m.testBit k with
  | false => rfl
  | true => rw [isWithin_iff.mp h k hk, Bool.not_true, Bool.and_false]

theorem inter_not_eq_zero_iff : inter m (Int.not n) = 0 ↔ IsWithin m n := by
  constructor
  · intro h
    rw [isWithin_iff]
    intro k hk
    have hbit : (inter m (Int.not n)).testBit k = false := by rw [h, testBit_zero]
    rw [testBit_inter, testBit_not, hk, Bool.true_and] at hbit
    simpa using hbit
  · exact inter_not_of_isWithin

/-- A number changed in the places of another one keeps of its bits those that the other one has
not. -/
theorem lxor_land (m n : Int) : (m.xor n).land m = inter m (Int.not n) := by
  apply eq_of_testBit_eq
  intro k
  rw [Int.testBit_land, Int.testBit_lxor, testBit_inter, testBit_not]
  cases m.testBit k <;> cases n.testBit k <;> rfl

theorem union_eq_lor (m n : Int) : union m n = m.lor n :=
  eq_of_testBit_eq fun k => by rw [testBit_union, Int.testBit_lor]

/-! ## Numbers moved by a power of two -/

theorem testBit_eq_decide (n : Int) (i : Nat) :
    n.testBit i = decide (n / ((2 ^ i : Nat) : Int) % 2 = 1) := by
  cases n with
  | ofNat n =>
      show n.testBit i = _
      rw [Nat.testBit_eq_decide_div_mod_eq, Bool.eq_iff_iff, decide_eq_true_iff,
        decide_eq_true_iff, Int.ofNat_eq_natCast, ← Int.natCast_ediv]
      omega
  | negSucc n =>
      have hpos : (0 : Int) < ((2 ^ i : Nat) : Int) := Int.natCast_pos.mpr (Nat.two_pow_pos i)
      show (!n.testBit i) = _
      rw [Nat.testBit_eq_decide_div_mod_eq, ← decide_not, Bool.eq_iff_iff, decide_eq_true_iff,
        decide_eq_true_iff, Int.negSucc_ediv n hpos, ← Int.div_def, ← Int.natCast_ediv]
      omega

/-- A power of two that is added changes no bit in a lower place. -/
theorem testBit_add_two_pow (hij : i < j) (n : Int) :
    (n + ((2 ^ j : Nat) : Int)).testBit i = n.testBit i := by
  have hpos : ((2 ^ i : Nat) : Int) ≠ 0 := by
    exact_mod_cast (Nat.two_pow_pos i).ne'
  obtain ⟨d, rfl⟩ : ∃ d, j = d + 1 + i := ⟨j - i - 1, by omega⟩
  have hsplit : ((2 ^ (d + 1 + i) : Nat) : Int) =
      2 * ((2 ^ d : Nat) : Int) * ((2 ^ i : Nat) : Int) := by
    push_cast
    ring
  rw [testBit_eq_decide, testBit_eq_decide, hsplit, Int.add_mul_ediv_right _ _ hpos]
  congr 2
  omega

/-- A negative number has every bit from the place on whose power it does not go below. -/
theorem testBit_of_neg (hn : n < 0) (hlow : -((2 ^ j : Nat) : Int) ≤ n) (hij : j ≤ i) :
    n.testBit i = true := by
  cases n with
  | ofNat n => exact absurd hn (not_lt.mpr (Int.natCast_nonneg n))
  | negSucc n =>
      have hpow : 2 ^ j ≤ 2 ^ i := Nat.pow_le_pow_right (by decide) hij
      have hlt : n < 2 ^ i := by omega
      show (!n.testBit i) = true
      rw [Nat.testBit_lt_two_pow hlt, Bool.not_false]

theorem testBit_of_lt_two_pow (hn : 0 ≤ n) (hlt : n < ((2 ^ j : Nat) : Int)) (hij : j ≤ i) :
    n.testBit i = false := by
  obtain ⟨n, rfl⟩ := Int.eq_ofNat_of_zero_le hn
  have hpow : 2 ^ j ≤ 2 ^ i := Nat.pow_le_pow_right (by decide) hij
  exact Nat.testBit_lt_two_pow (by omega)

/-- A negative number that is brought above zero by a power of two keeps the bits below it. -/
theorem isWithin_add_two_pow (hn : n < 0) (hlow : -((2 ^ j : Nat) : Int) ≤ n) :
    IsWithin (n + ((2 ^ j : Nat) : Int)) n := by
  rw [isWithin_iff]
  intro i hi
  by_cases hij : i < j
  · rwa [testBit_add_two_pow hij] at hi
  · have hnone : (n + ((2 ^ j : Nat) : Int)).testBit i = false :=
      testBit_of_lt_two_pow (j := j) (by omega) (by omega) (by omega)
    exact absurd (hnone.symm.trans hi) (by decide)

/-! ## Unions of many -/

theorem foldl_union (ns : List Int) (m : Int) :
    ns.foldl union m = union m (ns.foldl union 0) := by
  induction ns generalizing m with
  | nil => simp
  | cons n ns ih =>
      rw [List.foldl_cons, List.foldl_cons, ih, ih (union 0 n), zero_union, union_assoc]

theorem foldl_union_cons (n : Int) (ns : List Int) :
    (n :: ns).foldl union 0 = union n (ns.foldl union 0) := by
  rw [List.foldl_cons, zero_union, foldl_union]

theorem isWithin_foldl_union {ns : List Int} (h : n ∈ ns) : IsWithin n (ns.foldl union 0) := by
  induction ns with
  | nil => cases h
  | cons m ns ih =>
      rw [isWithin_iff, foldl_union_cons]
      intro k hk
      rw [testBit_union, Bool.or_eq_true]
      rcases List.mem_cons.mp h with rfl | h
      · exact .inl hk
      · exact .inr (isWithin_iff.mp (ih h) k hk)

theorem testBit_foldl_union (ns : List Int) (k : Nat) :
    (ns.foldl union 0).testBit k = ns.any (·.testBit k) := by
  induction ns with
  | nil => exact testBit_zero k
  | cons n ns ih => rw [foldl_union_cons, testBit_union, ih, List.any_cons]

theorem isWithin_zero (n : Int) : IsWithin 0 n :=
  zero_inter n

/-- A union is within what each of its numbers is within. -/
theorem foldl_union_isWithin {ns : List Int} (h : ∀ m ∈ ns, IsWithin m n) :
    IsWithin (ns.foldl union 0) n := by
  induction ns with
  | nil => exact isWithin_zero n
  | cons m ns ih =>
      obtain ⟨hm, hns⟩ := List.forall_mem_cons.mp h
      rw [foldl_union_cons]
      exact hm.union (ih hns)

/-! ## Single bits -/

end ParamRules.Enumeration
