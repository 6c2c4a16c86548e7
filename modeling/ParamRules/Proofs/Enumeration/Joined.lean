import ParamRules.Proofs.Enumeration.Members

/-!
# Members of any enumeration

The members of an enumeration are those that have a name, and the flags that are joined from them.
Nothing is asked of the declaration here: flags may have negative numbers or truth values among
their values, so that the bits of all of them together can be all but finitely many.  Even then a
number that flags stand for has the bits of the number it is made from only (`isWithin_wrapped`) or
those of members only (`isWithin_conformed`), and the value of a member is that of an entry or a set
of bits that the entries have (`IsMember.value`).
-/

namespace ParamRules.Enumeration

variable {e : Enumeration} {m k : Member} {name : String} {v w : Literal} {n : Int}

/-! ## The bits of flags -/

theorem allBits_add_one (e : Enumeration) :
    e.allBits + 1 = ((2 ^ bitLength e.mask.natAbs : Nat) : Int) := by
  simp [allBits]

/-- The number that a value of flags stands for has bits of that value only. -/
theorem isWithin_wrapped (e : Enumeration) (n : Int) : IsWithin (e.wrapped n) n := by
  unfold wrapped
  split_ifs with hn hcovered
  · exact isWithin_refl n
  · simp only [isCovered, Bool.and_eq_true, decide_eq_true_eq] at hcovered
    rw [add_comm, allBits_add_one]
    rw [allBits_add_one] at hcovered
    exact isWithin_add_two_pow (by omega) hcovered.1.1
  · have hlt : n.natAbs < 2 ^ bitLength n.natAbs := lt_two_pow_bitLength n.natAbs
    rw [add_comm, allBits_add_one, Nat.pow_eq]
    rcases le_total ((2 ^ bitLength e.mask.natAbs : Nat) : Int) (2 ^ bitLength n.natAbs : Nat) with
      hle | hle
    · rw [max_eq_right hle]
      exact isWithin_add_two_pow (by omega) (by omega)
    · rw [max_eq_left hle]
      exact isWithin_add_two_pow (by omega) (by omega)

/-- What is left without the bits that no member has are bits of members, also where the members
have all bits from some place on. -/
theorem isWithin_conformed (e : Enumeration) (n : Int) : IsWithin (e.conformed n) e.mask := by
  have hinter : IsWithin (inter n e.mask) e.mask := isWithin_inter n e.mask
  simp only [conformed]
  split_ifs with hknown
  · exact hinter
  · have hmask : e.mask < 0 := by
      by_contra hnonneg
      exact hknown (inter_nonneg n (by omega))
    have hlt : e.mask.natAbs < 2 ^ bitLength e.mask.natAbs := lt_two_pow_bitLength _
    rw [isWithin_iff, add_comm, allBits_add_one]
    intro i hi
    by_cases hij : i < bitLength e.mask.natAbs
    · rw [testBit_add_two_pow hij] at hi
      exact isWithin_iff.mp hinter i hi
    · exact testBit_of_neg hmask (by omega) (not_lt.mp hij)

/-! ## Members -/

/-- Whether a member belongs to an enumeration: it has a name there or, among flags, it is joined
from members. -/
inductive IsMember (e : Enumeration) : Member → Prop where
  | named {name : String} {m : Member} (h : e.byName? name = some m) : IsMember e m
  | joined {m k : Member} (hflags : e.isFlags = true) (hm : IsMember e m) (hk : IsMember e k) :
      IsMember e (m.join k)

/-- Whether a value is one that a member can have: that of an entry or, for flags, bits that the
entries have. -/
def HasValue (e : Enumeration) (v : Literal) : Prop :=
  (∃ entry ∈ e.entries, entry.2 = v) ∨
    e.isFlags = true ∧ ∃ n, v = .int n ∧ IsWithin n e.mask

theorem mem_entries_of_lookup (h : e.entries.lookup name = some v) : (name, v) ∈ e.entries := by
  obtain ⟨before, after, heq, -⟩ := List.lookup_eq_some_iff.mp h
  rw [heq]
  exact List.mem_append_right before List.mem_cons_self

theorem hasValue_of_byName? (h : e.byName? name = some m) : e.HasValue m.value := by
  unfold byName? at h
  obtain ⟨v, hv, rfl⟩ := Option.map_eq_some_iff.mp h
  split
  · rename_i first w hentry
    exact .inl ⟨_, mem_entries_of_entryOf? hentry, rfl⟩
  · exact .inl ⟨_, mem_entries_of_lookup hv, rfl⟩

theorem hasValue_ofBits (hflags : e.isFlags = true) (hn : IsWithin n e.mask) :
    e.HasValue (byValue?.ofBits e n).value := by
  unfold byValue?.ofBits
  split
  · rename_i first w hentry
    exact .inl ⟨_, mem_entries_of_entryOf? hentry, rfl⟩
  · exact .inr ⟨hflags, n, rfl, hn⟩

/-- What flags have under bits of members has a value of the enumeration. -/
theorem hasValue_of_byValue? (hflags : e.isFlags = true) (hn : IsWithin n e.mask)
    (h : e.byValue? (.int n) = some m) : e.HasValue m.value := by
  rcases byValue?_cases h with ⟨first, w, hentry, rfl⟩ | ⟨-, k, hk, hmade⟩
  · exact .inl ⟨_, mem_entries_of_entryOf? hentry, rfl⟩
  · obtain rfl : n = k := Option.some.inj hk
    rcases hmade with ⟨-, rfl⟩ | ⟨-, -, rfl⟩ | ⟨-, rfl⟩
    · exact hasValue_ofBits hflags (isWithin_conformed e n)
    · exact hasValue_ofBits hflags ((isWithin_wrapped e n).trans hn)
    · exact hasValue_ofBits hflags ((isWithin_wrapped e n).trans hn)

theorem HasValue.isWithin (h : e.HasValue v) (hv : v.number? = some n) : IsWithin n e.mask := by
  rcases h with ⟨entry, hentry, rfl⟩ | ⟨-, k, rfl, hk⟩
  · exact isWithin_foldl_union (List.mem_filterMap.mpr ⟨entry, hentry, hv⟩)
  · obtain rfl : k = n := Option.some.inj hv
    exact hk

theorem IsMember.enumeration (h : e.IsMember m) : m.enumeration = e := by
  induction h with
  | named h => exact enumeration_of_byName? h
  | joined _ _ _ ihm _ => rw [Member.enumeration_join, ihm]

/-- The value of a member is that of an entry or, for flags, a set of bits that the entries have. -/
theorem IsMember.value (h : e.IsMember m) : e.HasValue m.value := by
  induction h with
  | named h => exact hasValue_of_byName? h
  | @joined m k hflags hm _ ihm ihk =>
      unfold Member.join
      split
      · rename_i a b ha hb
        rw [hm.enumeration]
        cases hfound : e.byValue? (.int (union a b)) with
        | none => exact ihm
        | some joined =>
            exact hasValue_of_byValue? hflags ((ihm.isWithin ha).union (ihk.isWithin hb)) hfound
      · exact ihm

end ParamRules.Enumeration
