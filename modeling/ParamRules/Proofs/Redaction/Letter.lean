import ParamRules.Proofs.Pattern.Letter
import ParamRules.Proofs.Redaction.Names

/-!
# Letters of sensitive names

A sensitive name is found in any case of its letters, and a few letters have more than two cases:
the sign for kelvin counts as a `k`.  What all forms of the letters have in common is decided form
by form: they are no sign and end no assigned text, they go on with a word just when the letter
does, and no other letter has them (`of_spells`, `eq_of_spells`).
-/

namespace ParamRules.Redaction

open Text

variable {c p q : Char}

/-- The letters of sensitive names. -/
def letters : List Char :=
  (sensitiveNames.flatMap String.toList).dedup

/-- The letters that sensitive names start with. -/
def initials : List Char :=
  sensitiveNames.filterMap fun name => name.toList.head?

/-- Whether a character is a letter of a name, in any case. -/
def Spells (p c : Char) : Prop :=
  Pattern.Folding.full.isSame c.toNat p.toNat = true

theorem mem_letters {name : String} (hname : name ∈ sensitiveNames) (hp : p ∈ name.toList) :
    p ∈ letters :=
  List.mem_dedup.mpr (List.mem_flatMap.mpr ⟨name, hname, hp⟩)

theorem mem_letters_of_mem_initials (hp : p ∈ initials) : p ∈ letters := by
  obtain ⟨name, hname, hhead⟩ := List.mem_filterMap.mp hp
  exact mem_letters hname (List.mem_of_mem_head? hhead)

/-- What is asked of a letter: it is a form of itself, the letters that count as the same stand in a
group that starts with it, and none of their forms is a sign or ends a text. -/
def isTame (p : Char) : Bool :=
  Pattern.Folding.full.isSame p.toNat p.toNat &&
    ((Pattern.sameAs p.toNat).all fun m =>
      m < 0x180 && (Pattern.sameAs m).head? = some p.toNat) &&
    (Pattern.forms p).all fun n =>
      isAssigned (Char.ofNat n) && Char.ofNat n ≠ ':' && Char.ofNat n ≠ '=' &&
        isWordCharacter (Char.ofNat n) = isWordCharacter p

theorem isTame_letters : letters.all isTame := by
  decide +kernel

theorem isTame_of_mem_letters (hp : p ∈ letters) :
    Spells p p ∧
      (∀ m ∈ Pattern.sameAs p.toNat, m < 0x180 ∧ (Pattern.sameAs m).head? = some p.toNat) ∧
      ∀ n ∈ Pattern.forms p, isAssigned (Char.ofNat n) = true ∧ Char.ofNat n ≠ ':' ∧
        Char.ofNat n ≠ '=' ∧ isWordCharacter (Char.ofNat n) = isWordCharacter p := by
  have htame := List.all_eq_true.mp isTame_letters p hp
  simpa [isTame, Spells, List.all_eq_true, and_assoc] using htame

theorem spells_self (hp : p ∈ letters) : Spells p p :=
  (isTame_of_mem_letters hp).1

theorem of_spells (hp : p ∈ letters) (h : Spells p c) :
    isAssigned c = true ∧ c ≠ ':' ∧ c ≠ '=' ∧ isWordCharacter c = isWordCharacter p := by
  obtain ⟨-, hsame, hforms⟩ := isTame_of_mem_letters hp
  have hmem := Pattern.mem_forms (fun m hm => (hsame m hm).1) h
  have hform := hforms _ hmem
  rwa [Char.ofNat_toNat] at hform

/-- A character stands for one letter at most. -/
theorem eq_of_spells (hp : p ∈ letters) (hq : q ∈ letters) (h : Spells p c) (h' : Spells q c) :
    p = q := by
  rw [Spells, Pattern.Folding.isSame, List.contains_iff_mem] at h h'
  have hhead := ((isTame_of_mem_letters hp).2.1 _ h).2
  have hhead' := ((isTame_of_mem_letters hq).2.1 _ h').2
  exact Char.toNat_inj.mp (Option.some.inj (hhead.symm.trans hhead'))

end ParamRules.Redaction
