import ParamRules.Proofs.Redaction.Letter
import ParamRules.Proofs.Text.Trim

/-!
# Assignments

What stands before an assigned text is a sensitive name and a sign, with white space around the sign
(`IsLead`).  A text starts with an assignment exactly when it starts with a lead and an assigned
character comes next (`assignment?_eq_some_iff`).  No sensitive name starts within a lead
(`passes_lead`), and so a name that starts a word stands behind it or before it
(`exists_of_append_eq`).
-/

namespace ParamRules.Redaction

open Text

variable {c p sign : Char} {s t kept lead name other rest separator spelled spelled' : List Char}
  {inWord : Bool}

/-! ## Names -/

/-- Whether a text is a sensitive name, its letters in any case. -/
def SpellsName (s : List Char) : Prop :=
  ∃ name ∈ sensitiveNames, List.Forall₂ Spells name.toList s

theorem toNat_lt_of_toLower (h : c.toLower.toNat < 128) : c.toNat < 128 := by
  unfold Char.toLower at h
  split at h
  · rename_i hupper
    exact lt_of_le_of_lt (UInt32.le_iff_toNat_le.mp hupper.2) (by decide)
  · exact h

/-- A name is spelled by any mixture of its small and capital letters. -/
theorem IsName.spellsName (h : IsName s) : SpellsName s := by
  refine ⟨_, h, ?_⟩
  rw [String.toList_ofList, List.forall₂_map_left_iff, List.forall₂_same]
  intro c hc
  have hlower : c.toLower.toNat < 128 := by
    refine lt_of_isKeyCharacter (isKey_of_mem_sensitiveNames _ h _ ?_)
    rw [String.toList_ofList]
    exact List.mem_map_of_mem hc
  exact (isSame_iff (toNat_lt_of_toLower hlower) hlower).mpr rfl

theorem startsWithName_iff_spells :
    startsWithName name s = true ↔ ∃ spelled, List.Forall₂ Spells name spelled ∧ spelled <+: s := by
  induction name generalizing s with
  | nil => simp [startsWithName]
  | cons p name ih =>
      cases s with
      | nil => simp [startsWithName]
      | cons c s =>
          rw [startsWithName, Bool.and_eq_true, ih]
          constructor
          · rintro ⟨hc, spelled, hspelled, hstart⟩
            exact ⟨c :: spelled, .cons hc hspelled, List.cons_prefix_cons.mpr ⟨rfl, hstart⟩⟩
          · rintro ⟨_, hspelled, hstart⟩
            cases hspelled with
            | cons hc hspelled =>
                obtain ⟨rfl, htail⟩ := List.cons_prefix_cons.mp hstart
                exact ⟨hc, _, hspelled, htail⟩

theorem prefix_of_spells (hname : ∀ p ∈ name, p ∈ letters) (hother : ∀ p ∈ other, p ∈ letters)
    (h : List.Forall₂ Spells name spelled) (h' : List.Forall₂ Spells other spelled')
    (hstart : spelled <+: spelled') : name <+: other := by
  induction h generalizing other spelled' with
  | nil => exact List.nil_prefix
  | cons hc _ ih =>
      cases h' with
      | nil => exact absurd hstart (by simp)
      | cons hc' h' =>
          obtain ⟨rfl, htail⟩ := List.cons_prefix_cons.mp hstart
          obtain ⟨hp, hname⟩ := List.forall_mem_cons.mp hname
          obtain ⟨hq, hother⟩ := List.forall_mem_cons.mp hother
          exact List.cons_prefix_cons.mpr
            ⟨eq_of_spells hp hq hc hc', ih hname hother h' htail⟩

/-- A text starts with one sensitive name at most. -/
theorem find?_of_spells {name : String} (hname : name ∈ sensitiveNames)
    (h : List.Forall₂ Spells name.toList spelled) :
    sensitiveNames.find? (fun name => startsWithName name.toList (spelled ++ s)) = some name := by
  cases hfind : sensitiveNames.find? fun name => startsWithName name.toList (spelled ++ s) with
  | none =>
      have hstarts := startsWithName_iff_spells.mpr ⟨spelled, h, List.prefix_append spelled s⟩
      exact absurd hstarts (List.find?_eq_none.mp hfind name hname)
  | some other =>
      have hother := List.mem_of_find?_eq_some hfind
      have hstarts := List.find?_some hfind
      obtain ⟨spelled', h', hstart'⟩ := startsWithName_iff_spells.mp hstarts
      rcases List.prefix_or_prefix_of_prefix (List.prefix_append spelled s) hstart' with hle | hle
      · rw [eq_of_prefix_sensitiveNames name hname other hother
          (prefix_of_spells (fun _ => mem_letters hname) (fun _ => mem_letters hother) h h' hle)]
      · rw [eq_of_prefix_sensitiveNames other hother name hname
          (prefix_of_spells (fun _ => mem_letters hother) (fun _ => mem_letters hname) h' h hle)]

/-! ## What stands before an assigned text -/

/-- Whether a text is a sign with white space around it. -/
inductive IsSeparator (sign : Char) : List Char → Prop
  | intro (gap gap' : List Char) (hgap : ∀ c ∈ gap, isBlank c = true)
      (hsign : sign = ':' ∨ sign = '=') (hgap' : ∀ c ∈ gap', isBlank c = true) :
      IsSeparator sign (gap ++ sign :: gap')

/-- What stands before an assigned text, and what is kept of it. -/
inductive IsLead : List Char → List Char → Prop
  | intro (spelled separator : List Char) (sign : Char) (hname : SpellsName spelled)
      (hseparator : IsSeparator sign separator) :
      IsLead (spelled ++ [sign]) (spelled ++ separator)

theorem of_sign (hsign : sign = ':' ∨ sign = '=') :
    isBlank sign = false ∧ isWordCharacter sign = false ∧ isAssigned sign = true := by
  rcases hsign with rfl | rfl
  · decide
  · decide

theorem isAssigned_of_isBlank (hc : isBlank c = true) : isAssigned c = false := by
  simp [isAssigned, hc]

/-- A sign ends a word, and so does white space. -/
theorem IsSeparator.head?_isWordCharacter (h : IsSeparator sign separator) :
    (separator ++ s).head?.any isWordCharacter = false := by
  obtain ⟨gap, gap', hgap, hsign, -⟩ := h
  cases gap with
  | nil => exact (of_sign hsign).2.1
  | cons c gap =>
      exact forall_blank (P := fun c => isWordCharacter c = false) (by decide +kernel)
        (hgap c List.mem_cons_self)

theorem afterName?_eq_some_iff :
    afterName? s = some (sign, rest) ↔ ∃ separator value, s = separator ++ value ∧
      IsSeparator sign separator ∧ value.head?.any isAssigned = true ∧
        value.dropWhile isAssigned = rest := by
  constructor
  · intro h
    rw [afterName?] at h
    cases hgap : s.dropWhile isBlank with
    | nil => simp [hgap] at h
    | cons sign' r =>
        simp only [hgap] at h
        split_ifs at h with hif
        obtain ⟨rfl, rfl⟩ := Prod.mk.inj (Option.some.inj h)
        simp only [Bool.and_eq_true, Bool.or_eq_true, decide_eq_true_eq] at hif
        refine ⟨s.takeWhile isBlank ++ sign' :: r.takeWhile isBlank, r.dropWhile isBlank, ?_,
          .intro _ _ (fun _ => List.mem_takeWhile_imp) hif.1 (fun _ => List.mem_takeWhile_imp),
          hif.2, rfl⟩
        rw [List.append_assoc, List.cons_append, List.takeWhile_append_dropWhile, ← hgap,
          List.takeWhile_append_dropWhile]
  · rintro ⟨_, value, rfl, ⟨gap, gap', hgap, hsign, hgap'⟩, hvalue, rfl⟩
    obtain ⟨v, value, rfl⟩ : ∃ v r, value = v :: r := by
      cases value with
      | nil => simp at hvalue
      | cons v r => exact ⟨v, r, rfl⟩
    have hblank : ¬ isBlank v = true := by
      intro hv
      simp [isAssigned_of_isBlank hv] at hvalue
    have hsign' : (decide (sign = ':') || decide (sign = '=')) = true := by simpa using hsign
    rw [afterName?, List.append_assoc, List.dropWhile_append_of_pos hgap, List.cons_append,
      List.dropWhile_cons_of_neg (by simp [(of_sign hsign).1])]
    simp only [List.dropWhile_append_of_pos hgap', List.dropWhile_cons_of_neg hblank, hsign',
      hvalue, Bool.and_self, if_true]

/-- An assignment is a lead and an assigned text, which goes on as long as it can. -/
theorem assignment?_eq_some_iff :
    assignment? s = some (kept, rest) ↔ ∃ lead value, s = lead ++ value ∧ IsLead kept lead ∧
      value.head?.any isAssigned = true ∧ value.dropWhile isAssigned = rest := by
  constructor
  · intro h
    cases hfind : sensitiveNames.find? fun name => startsWithName name.toList s with
    | none => simp [assignment?, hfind, bind, Option.bind] at h
    | some name =>
        have hstarts := List.find?_some hfind
        obtain ⟨spelled, hspelled, r, rfl⟩ := startsWithName_iff_spells.mp hstarts
        have hname : SpellsName spelled := ⟨name, List.mem_of_find?_eq_some hfind, hspelled⟩
        simp only [assignment?, hfind, bind, Option.bind, hspelled.length_eq, List.drop_left,
          List.take_left] at h
        split at h
        · cases h
        · cases hafter : afterName? r with
          | none => simp [hafter] at h
          | some after =>
              obtain ⟨sign, rest'⟩ := after
              simp only [hafter] at h
              obtain ⟨rfl, rfl⟩ := Prod.mk.inj (Option.some.inj h)
              obtain ⟨separator, value, rfl, hseparator, hvalue⟩ := afterName?_eq_some_iff.mp hafter
              exact ⟨spelled ++ separator, value, (List.append_assoc ..).symm,
                .intro spelled separator sign hname hseparator, hvalue⟩
  · rintro ⟨_, value, rfl, ⟨spelled, separator, sign, hname, hseparator⟩, hvalue⟩
    obtain ⟨name, hname, hspelled⟩ := hname
    have hafter : afterName? (separator ++ value) = some (sign, rest) :=
      afterName?_eq_some_iff.mpr ⟨separator, value, rfl, hseparator, hvalue⟩
    have hword := hseparator.head?_isWordCharacter (s := value)
    rw [List.append_assoc]
    simp only [assignment?, find?_of_spells hname hspelled, bind, Option.bind, hspelled.length_eq,
      List.drop_left, List.take_left, hafter, hword]
    rfl

/-- What is kept of a lead is a lead. -/
theorem IsLead.isLead_kept (h : IsLead kept lead) : IsLead kept kept := by
  obtain ⟨spelled, separator, sign, hname, hseparator⟩ := h
  obtain ⟨-, -, -, hsign, -⟩ := hseparator
  exact .intro spelled [sign] sign hname (.intro [] [] (by simp) hsign (by simp))

/-! ## Where names start -/

/-- Whether a sensitive name can start with a character. -/
def isInitial (c : Char) : Bool :=
  initials.any fun p => Pattern.Folding.full.isSame c.toNat p.toNat

/-- Whether no sensitive name starts in a text.  `inWord` tells whether a word goes on where the
text starts. -/
def passes (inWord : Bool) : List Char → Bool
  | [] => true
  | c :: s => (inWord || !isInitial c) && passes (isWordCharacter c) s

/-- In the names that have two words, the second word is no start of a name. -/
theorem passes_sensitiveNames :
    sensitiveNames.all fun name => passes true name.toList := by
  decide

theorem isInitial_iff : isInitial c = true ↔ ∃ p ∈ initials, Spells p c :=
  List.any_eq_true

theorem isInitial_of_spells (hp : p ∈ letters) (h : Spells p c) : isInitial c = isInitial p := by
  rw [Bool.eq_iff_iff, isInitial_iff, isInitial_iff]
  have hself := spells_self hp
  constructor
  · rintro ⟨q, hq, hqc⟩
    obtain rfl := eq_of_spells hp (mem_letters_of_mem_initials hq) h hqc
    exact ⟨p, hq, hself⟩
  · rintro ⟨q, hq, hqp⟩
    obtain rfl := eq_of_spells hp (mem_letters_of_mem_initials hq) hself hqp
    exact ⟨p, hq, h⟩

theorem of_isInitial (h : isInitial c = true) : isAssigned c = true ∧ c ≠ ':' ∧ c ≠ '=' := by
  obtain ⟨p, hp, hpc⟩ := isInitial_iff.mp h
  obtain ⟨hassigned, hcolon, hequals, -⟩ := of_spells (mem_letters_of_mem_initials hp) hpc
  exact ⟨hassigned, hcolon, hequals⟩

theorem passes_append :
    passes inWord (s ++ t) =
      (passes inWord s && passes (s.getLast?.elim inWord isWordCharacter) t) := by
  induction s generalizing inWord with
  | nil => rfl
  | cons c s ih =>
      rw [List.cons_append, passes, passes, ih, elim_getLast?_cons, Bool.and_assoc]

theorem passes_of_forall (h : ∀ c ∈ s, isInitial c = false) : passes inWord s = true := by
  induction s generalizing inWord with
  | nil => rfl
  | cons c s ih =>
      obtain ⟨hc, hs⟩ := List.forall_mem_cons.mp h
      rw [passes, hc, ih hs, Bool.not_false, Bool.or_true, Bool.and_true]

theorem passes_spelled (hname : ∀ p ∈ name, p ∈ letters) (h : List.Forall₂ Spells name spelled) :
    passes inWord spelled = passes inWord name := by
  induction h generalizing inWord with
  | nil => rfl
  | cons hc _ ih =>
      obtain ⟨hp, hname⟩ := List.forall_mem_cons.mp hname
      rw [passes, passes, isInitial_of_spells hp hc, (of_spells hp hc).2.2.2, ih hname]

theorem IsSeparator.isInitial_eq_false (h : IsSeparator sign separator) :
    ∀ c ∈ separator, isInitial c = false := by
  intro c hc
  obtain ⟨gap, gap', hgap, hsign, hgap'⟩ := h
  rw [Bool.eq_false_iff]
  intro hinitial
  obtain ⟨hassigned, hcolon, hequals⟩ := of_isInitial hinitial
  have hblank : ¬ isBlank c = true := fun hblank => by
    simp [isAssigned_of_isBlank hblank] at hassigned
  rcases List.mem_append.mp hc with hc | hc
  · exact hblank (hgap c hc)
  · rcases List.mem_cons.mp hc with rfl | hc
    · exact hsign.elim hcolon hequals
    · exact hblank (hgap' c hc)

/-- Behind its first character no sensitive name starts in a lead. -/
theorem passes_lead (h : IsLead kept lead) : passes true lead = true := by
  obtain ⟨spelled, separator, sign, ⟨name, hname, hspelled⟩, hseparator⟩ := h
  rw [passes_append, passes_of_forall hseparator.isInitial_eq_false, Bool.and_true,
    passes_spelled (fun _ => mem_letters hname) hspelled]
  exact List.all_eq_true.mp passes_sensitiveNames name hname

theorem SpellsName.exists_cons (h : SpellsName s) : ∃ c r, s = c :: r ∧ isInitial c = true := by
  obtain ⟨name, hname, hspelled⟩ := h
  have hne := toList_ne_nil_of_mem_sensitiveNames name hname
  cases hchars : name.toList with
  | nil => exact absurd hchars hne
  | cons p ps =>
      rw [hchars] at hspelled
      cases hspelled with
      | cons hc _ =>
          have hp : p ∈ initials := List.mem_filterMap.mpr ⟨name, hname, by simp [hchars]⟩
          exact ⟨_, _, rfl, isInitial_iff.mpr ⟨p, hp, hc⟩⟩

/-- A lead starts with a character that a name can start with, and this character is kept. -/
theorem IsLead.exists_cons (h : IsLead kept lead) :
    ∃ c kept' lead', kept = c :: kept' ∧ lead = c :: lead' ∧ isInitial c = true := by
  obtain ⟨spelled, separator, sign, hname, -⟩ := h
  obtain ⟨c, r, rfl, hc⟩ := hname.exists_cons
  exact ⟨c, r ++ [sign], r ++ separator, rfl, rfl, hc⟩

/-- Where no name starts in the first of two parts of a text, a name that starts a word stands in
the second. -/
theorem exists_of_append_eq {a b u : List Char} (ha : passes inWord a = true)
    (heq : a ++ b = u ++ c :: t) (hc : isInitial c = true)
    (hword : u.getLast?.elim inWord isWordCharacter = false) :
    ∃ v, u = a ++ v ∧ b = v ++ c :: t := by
  induction a generalizing u inWord with
  | nil => exact ⟨u, rfl, heq⟩
  | cons x a ih =>
      rw [passes, Bool.and_eq_true] at ha
      cases u with
      | nil =>
          obtain ⟨rfl, -⟩ := List.cons.inj heq
          obtain rfl : inWord = false := hword
          simp [hc] at ha
      | cons y u =>
          obtain ⟨rfl, htail⟩ := List.cons.inj heq
          obtain ⟨v, rfl, rfl⟩ := ih ha.2 htail ((elim_getLast?_cons x u inWord).symm.trans hword)
          exact ⟨v, rfl, rfl⟩

end ParamRules.Redaction
