import ParamRules.Proofs.Redaction.Masked

/-!
# Assigned texts leave no trace

Two texts that differ in what is assigned to one sensitive name are the same once masked.  What
stands before the name may be an assignment itself, and then it ends before the name or takes in all
that is written, up to the end of the assigned text (`assignment?_append_reassigned`).  In neither
case does it depend on that text, so the steps through one text are steps through the other
(`Masked.reassigned`).
-/

namespace ParamRules.Redaction

open Text

variable {sign : Char} {s t t' u w w' kept name rest : List Char} {inWord : Bool}

/-! ## Texts that differ in one assigned text -/

/-- Whether a text is all assigned when it follows a sign. -/
def IsAssignedText (w : List Char) : Prop :=
  w ≠ [] ∧ ∀ c ∈ w, isAssigned c = true

instance : DecidablePred IsAssignedText := fun w =>
  @instDecidableAnd _ _ _ (List.decidableBAll _ w)

/-- Whether a text ends every assigned text before it. -/
def EndsAssigned (s : List Char) : Prop :=
  ∀ c ∈ s.head?, isAssigned c = false

/-- Texts that start with an assignment to one name and go on in one way, whatever is assigned. -/
inductive Reassigned : List Char → List Char → Prop
  | intro (name w w' rest : List Char) (sign : Char) (hname : SpellsName name)
      (hsign : sign = ':' ∨ sign = '=') (hw : IsAssignedText w) (hw' : IsAssignedText w')
      (hrest : EndsAssigned rest) :
      Reassigned (name ++ sign :: (w ++ rest)) (name ++ sign :: (w' ++ rest))

theorem Reassigned.symm (h : Reassigned t t') : Reassigned t' t := by
  obtain ⟨name, w, w', rest, sign, hname, hsign, hw, hw', hrest⟩ := h
  exact .intro name w' w rest sign hname hsign hw' hw hrest

theorem SpellsName.isAssigned (h : SpellsName s) : ∀ c ∈ s, isAssigned c = true := by
  obtain ⟨name, hname, hspelled⟩ := h
  intro c hc
  obtain ⟨i, hi, rfl⟩ := List.getElem_of_mem hc
  have hlength : i < name.toList.length := hspelled.length_eq ▸ hi
  exact (of_spells (mem_letters hname (List.getElem_mem hlength)) (hspelled.get hlength hi)).1

theorem dropWhile_isAssigned (hw : IsAssignedText w) (hrest : EndsAssigned rest) :
    (w ++ rest).dropWhile isAssigned = rest := by
  rw [List.dropWhile_append_of_pos hw.2]
  cases rest with
  | nil => rfl
  | cons c rest => exact List.dropWhile_cons_of_neg (by simp [hrest c rfl])

theorem head?_isAssigned (hw : IsAssignedText w) (rest : List Char) :
    (w ++ rest).head?.any isAssigned = true := by
  rw [List.head?_append_of_ne_nil _ hw.1]
  cases w with
  | nil => exact absurd rfl hw.1
  | cons c w => exact hw.2 c List.mem_cons_self

/-- A name, a sign and a text are all assigned when they follow a sign themselves. -/
theorem dropWhile_of_spellsName (hname : SpellsName name) (hsign : sign = ':' ∨ sign = '=')
    (hw : IsAssignedText w) (hrest : EndsAssigned rest) :
    (name ++ sign :: (w ++ rest)).dropWhile isAssigned = rest := by
  rw [List.dropWhile_append_of_pos hname.isAssigned,
    List.dropWhile_cons_of_pos (of_sign hsign).2.2, dropWhile_isAssigned hw hrest]

theorem assignment?_of_spellsName (hname : SpellsName name) (hsign : sign = ':' ∨ sign = '=')
    (hw : IsAssignedText w) (hrest : EndsAssigned rest) :
    assignment? (name ++ sign :: (w ++ rest)) = some (name ++ [sign], rest) := by
  have hlead : IsLead (name ++ [sign]) (name ++ [sign]) :=
    .intro name [sign] sign hname (.intro [] [] (by simp) hsign (by simp))
  have happend := assignment?_append hlead (head?_isAssigned hw rest)
  rwa [dropWhile_isAssigned hw hrest, List.append_assoc, List.singleton_append] at happend

/-- What is kept of the assignment, and what follows it, are the same. -/
theorem Reassigned.assignment?_eq (h : Reassigned t t') :
    ∃ found, assignment? t = some found ∧ assignment? t' = some found := by
  obtain ⟨name, w, w', rest, sign, hname, hsign, hw, hw', hrest⟩ := h
  exact ⟨(name ++ [sign], rest), assignment?_of_spellsName hname hsign hw hrest,
    assignment?_of_spellsName hname hsign hw' hrest⟩

theorem Reassigned.dropWhile_eq (h : Reassigned t t') :
    t.dropWhile isAssigned = t'.dropWhile isAssigned := by
  obtain ⟨name, w, w', rest, sign, hname, hsign, hw, hw', hrest⟩ := h
  rw [dropWhile_of_spellsName hname hsign hw hrest, dropWhile_of_spellsName hname hsign hw' hrest]

theorem Reassigned.exists_cons (h : Reassigned t t') :
    ∃ c r r', t = c :: r ∧ t' = c :: r' ∧ isInitial c = true := by
  obtain ⟨name, w, w', rest, sign, hname, -⟩ := h
  obtain ⟨c, r, rfl, hc⟩ := hname.exists_cons
  exact ⟨c, r ++ sign :: (w ++ rest), r ++ sign :: (w' ++ rest), rfl, rfl, hc⟩

/-! ## An assignment before the name -/

/-- An assignment that starts before the name ends before it, or it ends where the assigned text
does. -/
theorem assignment?_append_reassigned (h : Reassigned t t')
    (hword : u.getLast?.elim true isWordCharacter = false)
    (hassigned : assignment? (u ++ t) = some (kept, rest)) :
    assignment? (u ++ t') = some (kept, rest) ∨
      ∃ v, v <:+ u ∧ rest = v ++ t ∧ assignment? (u ++ t') = some (kept, v ++ t') := by
  obtain ⟨lead, value, heq, hlead, hvalue, rfl⟩ := assignment?_eq_some_iff.mp hassigned
  obtain ⟨c, r, r', rfl, rfl, hc⟩ := h.exists_cons
  obtain ⟨q, rfl, rfl⟩ := exists_of_append_eq (passes_lead hlead) heq.symm hc hword
  have hhead : (q ++ c :: r').head?.any isAssigned = true := by
    cases q with
    | nil => exact (of_isInitial hc).1
    | cons x q => exact hvalue
  rw [List.append_assoc, assignment?_append hlead hhead, List.dropWhile_append,
    List.dropWhile_append, h.dropWhile_eq]
  split_ifs with hq
  · exact .inl rfl
  · refine .inr ⟨q.dropWhile isAssigned, ?_, rfl, rfl⟩
    exact (List.dropWhile_suffix isAssigned).trans (List.suffix_append lead q)

theorem assignment?_append_eq_none (h : Reassigned t t')
    (hword : u.getLast?.elim true isWordCharacter = false) (hnone : assignment? (u ++ t) = none) :
    assignment? (u ++ t') = none := by
  rw [Option.eq_none_iff_forall_ne_some]
  rintro ⟨kept, rest⟩ hassigned
  rcases assignment?_append_reassigned h.symm hword hassigned with hsame | ⟨v, -, -, hsame⟩
  · rw [hnone] at hsame
    cases hsame
  · rw [hnone] at hsame
    cases hsame

/-- No word goes on behind the last part of a text if none goes on behind the text. -/
theorem elim_getLast?_of_suffix (hv : v <:+ u)
    (hword : u.getLast?.elim true isWordCharacter = false) :
    v.getLast?.elim false isWordCharacter = false := by
  obtain ⟨b, rfl⟩ := hv
  cases v with
  | nil => rfl
  | cons x v =>
      rw [List.getLast?_append_of_ne_nil _ (List.cons_ne_nil x v), elim_getLast?_cons] at hword
      rwa [elim_getLast?_cons]

/-- The steps through one text are steps through the other. -/
theorem Masked.reassigned (h : Reassigned t t') (hmasked : Masked inWord (u ++ t) s)
    (hword : u.getLast?.elim inWord isWordCharacter = false) : Masked inWord (u ++ t') s := by
  generalize hu : u ++ t = text at hmasked
  -- The part before the name gets shorter with every step, by one character or by an assignment.
  induction hmasked generalizing u with
  | nil =>
      obtain ⟨c, r, r', rfl, -, -⟩ := h.exists_cons
      simp at hu
  | @passed inWord c s m hnone hrest ih =>
      cases u with
      | nil =>
          obtain rfl : inWord = false := hword
          obtain ⟨found, hfound, -⟩ := h.assignment?_eq
          rw [List.nil_append] at hu
          rw [← hu, hfound] at hnone
          cases hnone rfl
      | cons x u =>
          obtain ⟨rfl, rfl⟩ := List.cons.inj hu
          rw [elim_getLast?_cons] at hword
          have hword' := (elim_getLast?_cons x u true).trans hword
          exact .passed (fun hstart => assignment?_append_eq_none h hword' (hnone hstart))
            (ih hword rfl)
  | @masked text kept rest m hassigned hrest ih =>
      subst hu
      cases u with
      | nil =>
          obtain ⟨found, hfound, hfound'⟩ := h.assignment?_eq
          rw [List.nil_append] at hassigned ⊢
          rw [hfound] at hassigned
          exact .masked (hfound'.trans hassigned) hrest
      | cons x u =>
          rw [elim_getLast?_cons] at hword
          have hword' := (elim_getLast?_cons x u true).trans hword
          rcases assignment?_append_reassigned h hword' hassigned with hsame | ⟨v, hv, rfl, hsame⟩
          · exact .masked hsame hrest
          · exact .masked hsame (ih (elim_getLast?_of_suffix hv hword') rfl)

/-! ## Redacted texts -/

/-- Whether a word starts or ends between two texts. -/
def IsBoundary (s t : List Char) : Prop :=
  s.getLast?.any isWordCharacter ≠ t.head?.any isWordCharacter

instance : DecidableRel IsBoundary := fun _ _ =>
  inferInstanceAs (Decidable (_ ≠ _))

theorem initials_isWordCharacter : initials.all isWordCharacter := by
  decide

/-- Before a name a boundary is the end of a word, or of no word. -/
theorem elim_getLast?_of_isBoundary (hname : SpellsName name) (h : IsBoundary s name) :
    s.getLast?.elim false isWordCharacter = false := by
  obtain ⟨c, r, rfl, hc⟩ := hname.exists_cons
  obtain ⟨p, hp, hpc⟩ := isInitial_iff.mp hc
  have hword : isWordCharacter c = true := by
    rw [(of_spells (mem_letters_of_mem_initials hp) hpc).2.2.2]
    exact List.all_eq_true.mp initials_isWordCharacter p hp
  rw [IsBoundary, List.head?_cons, Option.any_some, hword] at h
  cases hlast : s.getLast? with
  | none => rfl
  | some x =>
      rw [hlast] at h
      simpa using h

/-- A text that is assigned to a sensitive name, right behind the sign, leaves no trace. -/
theorem redact_reassigned (before name text text' after : String) (sign : Char)
    (hname : SpellsName name.toList) (hword : IsBoundary before.toList name.toList)
    (hsign : sign = ':' ∨ sign = '=') (htext : IsAssignedText text.toList)
    (htext' : IsAssignedText text'.toList) (hafter : EndsAssigned after.toList) :
    redact (.text (before ++ name ++ sign.toString ++ text ++ after)) =
      redact (.text (before ++ name ++ sign.toString ++ text' ++ after)) := by
  have hchars : ∀ text : String, (before ++ name ++ sign.toString ++ text ++ after).toList =
      before.toList ++ (name.toList ++ sign :: (text.toList ++ after.toList)) := by
    intro text
    simp
  have hreassigned : Reassigned _ _ := .intro name.toList text.toList text'.toList after.toList sign
    hname hsign htext htext' hafter
  have hmasked := masked_maskAssignments (before ++ name ++ sign.toString ++ text ++ after)
  rw [hchars] at hmasked
  have hmasked' := hmasked.reassigned hreassigned (elim_getLast?_of_isBoundary hname hword)
  rw [← hchars] at hmasked'
  rw [redact_text, redact_text, maskAssignments_eq_of_masked hmasked']

/-- What stands before the name is masked with it or by itself, and the text may look like an
assignment of its own. -/
theorem redact_reassigned_token :
    SpellsName "ToKeN".toList ∧ IsBoundary "secret=a;password: x-".toList "ToKeN".toList ∧
      redact (.text ("secret=a;password: x-" ++ "ToKeN" ++ ('=').toString ++ "token:b" ++ ", c")) =
        redact (.text ("secret=a;password: x-" ++ "ToKeN" ++ ('=').toString ++ "d" ++ ", c")) := by
  have hname : SpellsName "ToKeN".toList := IsName.spellsName (by unfold IsName; decide)
  have hword : IsBoundary "secret=a;password: x-".toList "ToKeN".toList := by decide
  have htext : IsAssignedText "token:b".toList := by decide
  have htext' : IsAssignedText "d".toList := by decide
  have hafter : EndsAssigned ", c".toList := by
    intro c hc
    obtain rfl : ',' = c := by simpa using hc
    decide
  exact ⟨hname, hword, redact_reassigned _ _ _ _ _ _ hname hword (.inr rfl) htext htext' hafter⟩

end ParamRules.Redaction
