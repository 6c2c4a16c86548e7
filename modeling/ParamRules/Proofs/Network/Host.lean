import ParamRules.Network.Host
import ParamRules.Proofs.Text.Split
import ParamRules.Proofs.Text.Trim

/-!
# The characters of a host

A host is an address of four octets, an address of eight groups or a dotted name.  What an endpoint
is cut at, colons and brackets, tells them apart: names and addresses of octets have none of these,
an address of groups has two colons at least, and only the scope behind a percent sign may hold a
bracket.
-/

namespace ParamRules.Network

open Text

variable {s address : List Char} {parts : List (List Char)} {c : Char}

/-! ## Characters that nothing is cut at -/

/-- Whether a character is one of those that an endpoint is cut at. -/
def IsMark (c : Char) : Prop :=
  c = '[' ∨ c = ']' ∨ c = ':'

/-- Whether a text holds none of the characters that an endpoint is cut at. -/
def IsUnmarked (s : List Char) : Prop :=
  ∀ c ∈ s, ¬ IsMark c

theorem not_isMark {p : Char → Bool} (h : p '[' = false ∧ p ']' = false ∧ p ':' = false)
    (hc : p c = true) : ¬ IsMark c := by
  rintro (rfl | rfl | rfl)
  · rw [h.1] at hc
    cases hc
  · rw [h.2.1] at hc
    cases hc
  · rw [h.2.2] at hc
    cases hc

theorem isUnmarked_of_splitChars (h : ∀ piece ∈ splitChars '.' s, IsUnmarked piece) :
    IsUnmarked s := by
  rw [← splitOn_join '.' s]
  apply forall_mem_intercalate _ h
  rintro c hc (rfl | rfl | rfl) <;> simp at hc

theorem isDigit_of_isOctetAddress (h : isOctetAddress s = true) :
    ∀ c ∈ s, c.isDigit = true ∨ c = '.' := by
  rw [isOctetAddress, Bool.and_eq_true] at h
  rw [← splitOn_join '.' s]
  apply forall_mem_intercalate
  · exact fun c hc => .inr (List.mem_singleton.mp hc)
  · intro piece hpiece c hc
    have hoctet := List.all_eq_true.mp h.2 piece hpiece
    simp only [isOctet, Bool.and_eq_true] at hoctet
    exact .inl (List.all_eq_true.mp hoctet.1.1.1.2 c hc)

theorem isUnmarked_of_isOctetAddress (h : isOctetAddress s = true) : IsUnmarked s := by
  intro c hc
  rcases isDigit_of_isOctetAddress h c hc with hdigit | rfl
  · exact not_isMark (by decide) hdigit
  · rintro (h | h | h) <;> cases h

theorem isUnmarked_of_isLabel (h : isLabel s = true) : IsUnmarked s := by
  intro c hc
  simp only [isLabel, Bool.and_eq_true] at h
  exact not_isMark (by decide) (List.all_eq_true.mp h.1.1.2 c hc)

theorem isUnmarked_of_isDottedName (h : isDottedName s = true) : IsUnmarked s := by
  simp only [isDottedName, Bool.and_eq_true] at h
  have hbare : IsUnmarked (if s.getLast? = some '.' then s.dropLast else s) :=
    isUnmarked_of_splitChars fun piece hpiece =>
      isUnmarked_of_isLabel (List.all_eq_true.mp h.2 piece hpiece)
  split_ifs at hbare with hdot
  · obtain ⟨front, rfl⟩ := List.getLast?_eq_some_iff.mp hdot
    rw [List.dropLast_concat] at hbare
    rintro c hc
    rcases List.mem_append.mp hc with hc | hc
    · exact hbare c hc
    · rw [List.mem_singleton.mp hc]
      rintro (h | h | h) <;> cases h
  · exact hbare

/-! ## Addresses of groups -/

theorem getElem?_findIdx_isEmpty (h : parts.filter List.isEmpty ≠ []) :
    parts[parts.findIdx List.isEmpty]? = some [] := by
  obtain ⟨part, hpart⟩ := List.exists_mem_of_ne_nil _ h
  have hempty : ∃ part ∈ parts, part.isEmpty = true :=
    ⟨part, (List.mem_filter.mp hpart).1, (List.mem_filter.mp hpart).2⟩
  have hget := List.findIdx_getElem?_eq_getElem_of_exists hempty
  rw [hget, List.isEmpty_iff.mp (List.findIdx_of_getElem?_eq_some hget)]

/-- Of the parts before the gap only the first can be empty. -/
theorem isGroup_of_lt_gap {i j k : Nat} {part : List Char} (hj : parts[j]? = some part)
    (hlt : j < i + 1)
    (hk : k = if (parts.head?.getD []).isEmpty = true then i + 1 - 1 else i + 1)
    (hhead : (parts.head?.getD []).isEmpty = false ∨ k = 0)
    (hgroups : ∀ part ∈ parts.take k, isGroup part = true) : part = [] ∨ isGroup part = true := by
  cases hempty : (parts.head?.getD []).isEmpty with
  | true =>
      rw [hempty, if_pos rfl] at hk
      rw [hempty] at hhead
      have hzero := hhead.resolve_left nofun
      obtain rfl : j = 0 := by omega
      rw [List.head?_eq_getElem?, hj] at hempty
      exact .inl (List.isEmpty_iff.mp hempty)
  | false =>
      rw [hempty, if_neg Bool.false_ne_true] at hk
      refine .inr (hgroups part (List.mem_iff_getElem?.mpr ⟨j, ?_⟩))
      rw [hk, List.getElem?_take_of_lt hlt, hj]

/-- Of the parts after the gap only the last can be empty. -/
theorem isGroup_of_gap_lt {i j k : Nat} {part : List Char} (hj : parts[j]? = some part)
    (hlt : i + 1 < j)
    (hk : k = if (parts.getLast?.getD []).isEmpty = true then parts.length - (i + 1) - 1 - 1
      else parts.length - (i + 1) - 1)
    (hlast : (parts.getLast?.getD []).isEmpty = false ∨ k = 0)
    (hgroups : ∀ part ∈ parts.drop (parts.length - k), isGroup part = true) :
    part = [] ∨ isGroup part = true := by
  have hbound := (List.getElem?_eq_some_iff.mp hj).1
  cases hempty : (parts.getLast?.getD []).isEmpty with
  | true =>
      rw [hempty, if_pos rfl] at hk
      rw [hempty] at hlast
      have hzero := hlast.resolve_left nofun
      obtain rfl : j = parts.length - 1 := by omega
      rw [List.getLast?_eq_getElem?, hj] at hempty
      exact .inl (List.isEmpty_iff.mp hempty)
  | false =>
      rw [hempty, if_neg Bool.false_ne_true] at hk
      refine .inr (hgroups part (List.mem_iff_getElem?.mpr ⟨j - (i + 2), ?_⟩))
      rw [List.getElem?_drop, ← hj]
      congr 1
      omega

/-- The parts of an address are groups, but for those of the run of zeros that is left out. -/
theorem isGroup_of_areGroups (h : areGroups parts = true) :
    ∀ part ∈ parts, part = [] ∨ isGroup part = true := by
  unfold areGroups at h
  simp only at h
  split at h
  · rw [Bool.and_eq_true] at h
    exact fun part hpart => .inr (List.all_eq_true.mp h.2 part hpart)
  · rename_i hone
    have hinner := getElem?_findIdx_isEmpty (List.ne_nil_of_length_pos (by omega) :
      ((parts.drop 1).dropLast).filter List.isEmpty ≠ [])
    generalize ((parts.drop 1).dropLast).findIdx List.isEmpty = i at h hinner
    -- The gap is at `i` among the parts between the first and the last.
    have hgap : parts[i + 1]? = some [] := by
      have hlt := (List.getElem?_eq_some_iff.mp hinner).1
      rw [List.length_dropLast] at hlt
      rwa [List.getElem?_dropLast, if_pos hlt, List.getElem?_drop, Nat.add_comm] at hinner
    simp only [Bool.and_eq_true, Bool.not_eq_true', Bool.and_eq_false_iff, decide_eq_false_iff_not,
      not_not, List.all_eq_true] at h
    obtain ⟨⟨⟨⟨hhead, hlast⟩, -⟩, hbefore⟩, hafter⟩ := h
    intro part hpart
    obtain ⟨j, hj⟩ := List.mem_iff_getElem?.mp hpart
    rcases lt_trichotomy j (i + 1) with hlow | rfl | hhigh
    · exact isGroup_of_lt_gap hj hlow rfl hhead hbefore
    · rw [hgap] at hj
      exact .inl (Option.some.inj hj).symm
    · exact isGroup_of_gap_lt hj hhigh rfl hlast hafter
  · cases h

/-- Whether a character may stand in an address of groups. -/
def IsAddressCharacter (c : Char) : Prop :=
  isHexDigit c = true ∨ c = ':' ∨ c = '.'

theorem isAddressCharacter_of_isGroup (h : s = [] ∨ isGroup s = true) :
    ∀ c ∈ s, IsAddressCharacter c := by
  rcases h with rfl | h
  · exact nofun
  · simp only [isGroup, Bool.and_eq_true] at h
    exact fun c hc => .inl (List.all_eq_true.mp h.2 c hc)

theorem isAddressCharacter_of_isOctetAddress (h : isOctetAddress s = true) :
    ∀ c ∈ s, IsAddressCharacter c := by
  intro c hc
  rcases isDigit_of_isOctetAddress h c hc with hdigit | hdot
  · exact .inl (by rw [isHexDigit, hdigit, Bool.true_or, Bool.true_or])
  · exact .inr (.inr hdot)

/-- The pieces between the colons of an address are its groups, and four octets may be the last. -/
theorem isAddressCharacter_of_mem_splitChars (hgroups : groups? s = some parts)
    (hparts : areGroups parts = true) :
    3 ≤ (splitChars ':' s).length ∧ ∀ piece ∈ splitChars ':' s, ∀ c ∈ piece,
      IsAddressCharacter c := by
  have hcharacters : ∀ part ∈ parts, ∀ c ∈ part, IsAddressCharacter c := fun part hpart =>
    isAddressCharacter_of_isGroup (isGroup_of_areGroups hparts part hpart)
  unfold groups? at hgroups
  simp only at hgroups
  split_ifs at hgroups with hshort
  refine ⟨not_lt.mp hshort, ?_⟩
  split at hgroups
  · cases hgroups
  · rename_i last hlast
    obtain ⟨front, hfront⟩ := List.getLast?_eq_some_iff.mp hlast
    rw [hfront, List.dropLast_concat] at hgroups
    rw [hfront]
    split_ifs at hgroups with hdot hoctets
    · cases hgroups
      rw [List.forall_mem_append, List.forall_mem_singleton]
      exact ⟨(List.forall_mem_append.mp hcharacters).1,
        isAddressCharacter_of_isOctetAddress hoctets⟩
    · cases hgroups
      exact hcharacters

theorem isAddressCharacter_of_groups? (hgroups : groups? s = some parts)
    (hparts : areGroups parts = true) :
    (∀ c ∈ s, IsAddressCharacter c) ∧ 2 ≤ s.count ':' := by
  obtain ⟨hlength, hpieces⟩ := isAddressCharacter_of_mem_splitChars hgroups hparts
  rw [length_splitChars] at hlength
  refine ⟨?_, by omega⟩
  rw [← splitOn_join ':' s]
  apply forall_mem_intercalate _ hpieces
  exact fun c hc => .inr (.inl (List.mem_singleton.mp hc))

/-- An address of groups begins with one without a scope. -/
theorem exists_of_isGroupAddress (h : isGroupAddress s = true) :
    ∃ address scope, s = address ++ scope ∧ (∀ c ∈ address, IsAddressCharacter c) ∧
      2 ≤ address.count ':' ∧ (scope = [] ∨ ∃ r, scope = '%' :: r) := by
  simp only [isGroupAddress, Bool.and_eq_true] at h
  obtain ⟨-, h⟩ := h
  split at h
  · cases h
  · rename_i address haddress
    split at h
    · cases h
    · rename_i parts hgroups
      rw [Bool.and_eq_true] at h
      obtain ⟨hcharacters, hcount⟩ := isAddressCharacter_of_groups? hgroups h.2
      unfold withoutScope? at haddress
      split at haddress
      · cases haddress
        exact ⟨s, [], (List.append_nil s).symm, hcharacters, hcount, .inl rfl⟩
      · rename_i before after hcut
        split_ifs at haddress
        cases haddress
        obtain ⟨-, rfl⟩ := cutChars?_eq_some_iff.mp hcut
        exact ⟨_, _, rfl, hcharacters, hcount, .inr ⟨_, rfl⟩⟩

theorem isAddressCharacter_ne (h : IsAddressCharacter c) : c ≠ '[' ∧ c ≠ ']' ∧ c ≠ '%' := by
  refine ⟨?_, ?_, ?_⟩ <;> rintro rfl <;> revert h <;> simp [IsAddressCharacter, isHexDigit]

/-! ## Hosts -/

theorem two_le_count_of_isGroupAddress (h : isGroupAddress s = true) : 2 ≤ s.count ':' := by
  obtain ⟨address, scope, rfl, -, hcount, -⟩ := exists_of_isGroupAddress h
  rw [List.count_append]
  omega

theorem head?_of_isGroupAddress (h : isGroupAddress s = true) : s.head? ≠ some '[' := by
  obtain ⟨address, scope, rfl, hcharacters, hcount, -⟩ := exists_of_isGroupAddress h
  cases address with
  | nil => simp at hcount
  | cons c address =>
      rw [List.cons_append, List.head?_cons, Option.some_inj.ne]
      exact (isAddressCharacter_ne (hcharacters c List.mem_cons_self)).1

/-- A bracket is in an address of groups only where it has a scope. -/
theorem not_mem_of_isGroupAddress (h : isGroupAddress s = true) (hscope : '%' ∉ s) : ']' ∉ s := by
  obtain ⟨address, scope, rfl, hcharacters, -, rfl | ⟨r, rfl⟩⟩ := exists_of_isGroupAddress h
  · rw [List.append_nil]
    exact fun hmem => (isAddressCharacter_ne (hcharacters _ hmem)).2.1 rfl
  · simp at hscope

/-- A host is an address of groups, or holds none of the characters that an endpoint is cut at. -/
theorem isGroupAddress_or_isUnmarked (h : isHost s = true) :
    isGroupAddress s = true ∨ IsUnmarked s := by
  simp only [isHost, Bool.and_eq_true, Bool.or_eq_true] at h
  rcases h.2 with haddress | hname
  · rw [isAddress, Bool.or_eq_true] at haddress
    rcases haddress with hoctets | hgroups
    · exact .inr (isUnmarked_of_isOctetAddress hoctets)
    · exact .inl hgroups
  · exact .inr (isUnmarked_of_isDottedName hname)

theorem ne_nil_of_isHost (h : isHost s = true) : s ≠ [] := by
  rintro rfl
  cases h

theorem head?_of_isHost (h : isHost s = true) : s.head? ≠ some '[' := by
  rcases isGroupAddress_or_isUnmarked h with hgroups | hunmarked
  · exact head?_of_isGroupAddress hgroups
  · intro hhead
    exact hunmarked '[' (List.mem_of_head? hhead) (.inl rfl)

/-- A host with a colon is an address of groups. -/
theorem isGroupAddress_of_colon (h : isHost s = true) (hcolon : ':' ∈ s) :
    isGroupAddress s = true := by
  rcases isGroupAddress_or_isUnmarked h with hgroups | hunmarked
  · exact hgroups
  · exact absurd (.inr (.inr rfl)) (hunmarked ':' hcolon)

/-- A text with a host in it is not blank. -/
theorem isAllBlank_of_isHost {t : List Char} (h : isHost s = true) (hsub : s ⊆ t) :
    isAllBlank (String.ofList t) = false := by
  by_contra hblank
  rw [Bool.not_eq_false, isAllBlank, String.toList_ofList, List.all_eq_true] at hblank
  have hnil := trimChars_eq_nil_iff.mpr fun c hc => hblank c (hsub hc)
  simp only [isHost, Bool.and_eq_true, decide_eq_true_eq] at h
  rw [hnil] at h
  exact absurd h.1.2.symm (by simpa using h.1.1)

end ParamRules.Network
