import ParamRules.Proofs.Constraint.Checks
import ParamRules.Proofs.Constraint.Pairs
import ParamRules.Proofs.Enumeration.Members

/-!
# What a list of values declares

A list of values is read entry by entry, a name with a number.  An entry whose name was read before
takes its place: the list has the names in the order in which they come first, each with the number
that it has last (`lookup_declared`, `names_declared`).  An entry is therefore lost where its name
comes again with another number, and only there.  Then the number may be refused although it was
written.  Where no name has two numbers, the list is what was written, without repetitions, and
every number that was written is taken, for flags every union of such numbers
(`configure_values_declares_iff`).
-/

namespace ParamRules.Constraint

open Text Result
open Enumeration (union inter IsWithin)

variable {name key : String} {m n : Int} {t : IntegerType} {texts : List String}
  {pairs read entries : List (String × Int)} {entry : String × Int} {l : ValueList} {v : Value}

/-- What is left of entries that are put one after the other. -/
def declared (entries : List (String × Int)) : List (String × Int) :=
  entries.foldl (fun pairs entry => put entry.1 entry.2 pairs) []

/-- Whether no name has two numbers. -/
def IsConsistent (entries : List (String × Int)) : Prop :=
  ∀ a ∈ entries, ∀ b ∈ entries, a.1 = b.1 → a.2 = b.2

/-- The numbers that entries allow: those that are written and, for flags, all unions of them. -/
def IsWritten (flags : Bool) (entries : List (String × Int)) (n : Int) : Prop :=
  if flags then ∃ ns : List Int, (∀ m ∈ ns, m ∈ entries.map Prod.snd) ∧ n = ns.foldl union 0
  else n ∈ entries.map Prod.snd

/-- Whether a list keeps all entries: it has each name with its number, they stand in the order in
which they were written, and the check takes every number that they allow. -/
structure Declares (l : ValueList) (entries : List (String × Int)) : Prop where
  found : ∀ entry ∈ entries, l.pairs.lookup entry.1 = some entry.2
  ordered : l.pairs = entries.eraseDups
  taken : ∀ n, IsWritten l.flags entries n → ∀ v : Value, v.unwrapped = .int n →
    ∀ (r : Registry) (member shown : String),
      (Constraint.values (some l)).check r .enumeration v member shown = .ok []

/-! ## Entries put one after the other -/

theorem declared_append_singleton (entries : List (String × Int)) (entry : String × Int) :
    declared (entries ++ [entry]) = put entry.1 entry.2 (declared entries) := by
  rw [declared, List.foldl_append]
  rfl

/-- A name has the number of the last entry with it. -/
theorem lookup_declared (entries : List (String × Int)) (key : String) :
    (declared entries).lookup key = entries.reverse.lookup key := by
  induction entries using List.reverseRecOn with
  | nil => rfl
  | append_singleton entries entry ih =>
      obtain ⟨k, m⟩ := entry
      rw [declared_append_singleton, lookup_put, List.reverse_append, List.reverse_singleton,
        List.singleton_append, lookup_cons_eq, ih]

theorem eraseDups_append_singleton {α : Type} [BEq α] [LawfulBEq α] (s : List α) (a : α) :
    (s ++ [a]).eraseDups = if a ∈ s then s.eraseDups else s.eraseDups ++ [a] := by
  rw [List.eraseDups_append]
  split_ifs with ha <;> simp [List.removeAll, ha, List.eraseDups_cons]

/-- The names stand in the order in which they come first. -/
theorem names_declared (entries : List (String × Int)) :
    (declared entries).map Prod.fst = (entries.map Prod.fst).eraseDups := by
  induction entries using List.reverseRecOn with
  | nil => rfl
  | append_singleton entries entry ih =>
      rw [declared_append_singleton, List.map_append, List.map_singleton,
        eraseDups_append_singleton]
      split_ifs with hname
      · rw [← List.mem_eraseDups, ← ih] at hname
        rw [names_put_of_mem hname, ih]
      · rw [← List.mem_eraseDups, ← ih] at hname
        rw [put_of_not_mem hname, List.map_append, ih]
        rfl

theorem put_of_lookup (h : pairs.lookup key = some n) : put key n pairs = pairs := by
  induction pairs with
  | nil => cases h
  | cons p pairs ih =>
      obtain ⟨k, m⟩ := p
      rw [lookup_cons_eq] at h
      rw [put]
      split_ifs at h ⊢ with hkey hk hk
      · rw [Option.some.inj h]
      · exact absurd hkey.symm hk
      · exact absurd hk.symm hkey
      · rw [ih h]

/-- An entry is found with its number if and only if no other entry gives its name another one. -/
theorem forall_lookup_declared_iff :
    (∀ entry ∈ entries, (declared entries).lookup entry.1 = some entry.2) ↔
      IsConsistent entries := by
  constructor
  · intro hfound a ha b hb hab
    have hb' := hfound b hb
    rw [← hab, hfound a ha] at hb'
    exact Option.some.inj hb'
  · intro hconsistent entry hentry
    rw [lookup_declared]
    cases hlast : entries.reverse.lookup entry.1 with
    | none =>
        have hnone := List.lookup_eq_none_iff.mp hlast entry (List.mem_reverse.mpr hentry)
        simp at hnone
    | some n =>
        obtain ⟨before, after, heq, -⟩ := List.lookup_eq_some_iff.mp hlast
        have hmem : (entry.1, n) ∈ entries := by
          rw [← List.mem_reverse, heq]
          simp
        exact congrArg some (hconsistent (entry.1, n) hmem entry hentry rfl)

theorem declared_eq_eraseDups (h : IsConsistent entries) :
    declared entries = entries.eraseDups := by
  induction entries using List.reverseRecOn with
  | nil => rfl
  | append_singleton entries entry ih =>
      have hbefore : IsConsistent entries := fun a ha b hb =>
        h a (List.mem_append_left _ ha) b (List.mem_append_left _ hb)
      rw [declared_append_singleton, ih hbefore, eraseDups_append_singleton]
      split_ifs with hentry
      · apply put_of_lookup
        rw [← ih hbefore]
        exact forall_lookup_declared_iff.mpr hbefore entry hentry
      · apply put_of_not_mem
        intro hmem
        obtain ⟨other, hother, hname⟩ := List.mem_map.mp hmem
        rw [List.mem_eraseDups] at hother
        have hnumber := h other (List.mem_append_left _ hother) entry (by simp) hname
        exact hentry (Prod.ext hname hnumber ▸ hother)

/-! ## Lists that are read -/

/-- A list is read entry by entry, and has what is declared by them. -/
theorem mapM_of_readPairs (h : readPairs name t texts read = .ok pairs) :
    ∃ entries, texts.mapM (readPair name) = .ok entries ∧
      pairs = entries.foldl (fun pairs entry => put entry.1 entry.2 pairs) read := by
  induction texts generalizing read with
  | nil =>
      cases h
      exact ⟨[], rfl, rfl⟩
  | cons text texts ih =>
      rw [readPairs] at h
      obtain ⟨⟨k, m⟩, hpair, h⟩ := bind_eq_ok_iff.mp h
      simp only at h
      split_ifs at h
      obtain ⟨entries, hentries, rfl⟩ := ih h
      refine ⟨(k, m) :: entries, ?_, rfl⟩
      rw [List.mapM_cons, hpair]
      change (texts.mapM (readPair name) >>= fun rest => pure ((k, m) :: rest)) = _
      rw [hentries]
      rfl

/-! ## Numbers that are checked -/

theorem mem_numbers (hfound : ∀ entry ∈ entries, pairs.lookup entry.1 = some entry.2)
    (hn : n ∈ entries.map Prod.snd) : n ∈ pairs.map Prod.snd := by
  obtain ⟨entry, hentry, rfl⟩ := List.mem_map.mp hn
  obtain ⟨before, after, heq, -⟩ := List.lookup_eq_some_iff.mp (hfound entry hentry)
  exact List.mem_map.mpr ⟨(entry.1, entry.2), by rw [heq]; simp, rfl⟩

/-- What entries allow is taken where they are all found. -/
theorem listedFailings_of_isWritten
    (hfound : ∀ entry ∈ entries, l.pairs.lookup entry.1 = some entry.2)
    (hn : IsWritten l.flags entries n) (hv : v.unwrapped = .int n) :
    listedFailings l v = .ok [] := by
  rw [listedFailings, listedFailingsIn, hv]
  simp only
  cases hflags : l.flags with
  | false =>
      rw [IsWritten, hflags, if_neg Bool.false_ne_true] at hn
      have hlisted : (l.pairs.map fun p => Literal.int p.2).any (·.same (.int n)) = true := by
        obtain ⟨p, hp, rfl⟩ := List.mem_map.mp (mem_numbers hfound hn)
        exact List.any_eq_true.mpr ⟨.int p.2, List.mem_map_of_mem hp, Literal.same_refl _⟩
      have hmask : ValueList.mask? l = none := by
        rw [ValueList.mask?, hflags, if_neg Bool.false_ne_true]
      rw [hmask, numberFailings, if_pos hlisted]
      intro mask k hnone
      cases hnone
  | true =>
      rw [IsWritten, hflags, if_pos rfl] at hn
      obtain ⟨ns, hns, rfl⟩ := hn
      have hmask : ValueList.mask? l = some ((l.pairs.map Prod.snd).foldl union 0) := by
        rw [ValueList.mask?, hflags, if_pos rfl]
      have hwithin : IsWithin (ns.foldl union 0) ((l.pairs.map Prod.snd).foldl union 0) :=
        Enumeration.foldl_union_isWithin fun m hm =>
          Enumeration.isWithin_foldl_union (mem_numbers hfound (hns m hm))
      have hnone := Enumeration.inter_not_of_isWithin hwithin
      rw [hmask]
      simp only [numberFailings, Literal.number?, hnone, decide_true, failsUnless, if_true]

theorem check_values_of_isWritten
    (hfound : ∀ entry ∈ entries, l.pairs.lookup entry.1 = some entry.2)
    (hn : IsWritten l.flags entries n) (hv : v.unwrapped = .int n) (r : Registry)
    (member shown : String) :
    (Constraint.values (some l)).check r .enumeration v member shown = .ok [] := by
  have hnull : v ≠ .null := by
    rintro rfl
    cases hv
  rw [check_eq rfl hnull, failings, listedFailings_of_isWritten hfound hn hv]
  rfl

/-- What a list of values keeps of the entries that it was written with.  A name has the number that
it has last, and the names stand in the order in which they come first.  The list declares all
entries if and only if none of their names has two numbers. -/
theorem configure_values_declares_iff {old : Option ValueList} {t : DataType} {ps : List String}
    {c : Constraint} (h : configure (.values old) t ps = .ok c) :
    ∃ l entries, c = .values (some l) ∧
      (writtenPairs ps).mapM (readPair "Values") = .ok entries ∧
      (∀ key, l.pairs.lookup key = entries.reverse.lookup key) ∧
      l.pairs.map Prod.fst = (entries.map Prod.fst).eraseDups ∧
      (Declares l entries ↔ IsConsistent entries) := by
  obtain ⟨l, rfl, hread⟩ := exists_of_configure_values h
  obtain ⟨entries, hentries, hpairs⟩ := mapM_of_readPairs hread
  change l.pairs = declared entries at hpairs
  refine ⟨l, entries, rfl, hentries, ?_, ?_, ?_, ?_⟩
  · intro key
    rw [hpairs, lookup_declared]
  · rw [hpairs, names_declared]
  · intro hdeclares
    have hfound := hdeclares.found
    rw [hpairs] at hfound
    exact forall_lookup_declared_iff.mp hfound
  · intro hconsistent
    have hfound : ∀ entry ∈ entries, l.pairs.lookup entry.1 = some entry.2 := by
      rw [hpairs]
      exact forall_lookup_declared_iff.mpr hconsistent
    refine ⟨hfound, hpairs.trans (declared_eq_eraseDups hconsistent), ?_⟩
    intro n hn v hv r member shown
    exact check_values_of_isWritten hfound hn hv r member shown

theorem configure_values_declares_iff_flags :
    configure (.values none) .enumeration ["Byte", "Flags", "Read=1", "Write=0x2"] =
        .ok (.values (some ⟨.byte, true, [("Read", 1), ("Write", 2)]⟩)) ∧
      Declares ⟨.byte, true, [("Read", 1), ("Write", 2)]⟩ [("Read", 1), ("Write", 2)] := by
  have h : configure (.values none) .enumeration ["Byte", "Flags", "Read=1", "Write=0x2"] =
      .ok (.values (some ⟨.byte, true, [("Read", 1), ("Write", 2)]⟩)) := rfl
  have hread : (writtenPairs ["Byte", "Flags", "Read=1", "Write=0x2"]).mapM (readPair "Values") =
      .ok [("Read", 1), ("Write", 2)] := rfl
  obtain ⟨l, entries, hl, hentries, -, -, hiff⟩ := configure_values_declares_iff h
  cases hl
  cases hread.symm.trans hentries
  exact ⟨h, hiff.mpr (by unfold IsConsistent; decide)⟩

/-- A name that is written again with another number loses the first one, which is then refused. -/
theorem not_declares_repeated :
    ¬ ∀ (old : Option ValueList) (t : DataType) (ps : List String) (c : Constraint),
      configure (.values old) t ps = .ok c → ∃ l entries, c = .values (some l) ∧
        (writtenPairs ps).mapM (readPair "Values") = .ok entries ∧ Declares l entries := by
  intro h
  have hok : configure (.values none) .enumeration ["Int32", "A=1", "A=2"] =
      .ok (.values (some ⟨.int32, false, [("A", 2)]⟩)) := rfl
  have hread : (writtenPairs ["Int32", "A=1", "A=2"]).mapM (readPair "Values") =
      .ok [("A", 1), ("A", 2)] := rfl
  obtain ⟨l, entries, hl, hentries, hdeclares⟩ := h _ _ _ _ hok
  cases hl
  cases hread.symm.trans hentries
  have hwritten : IsWritten false [("A", 1), ("A", 2)] 1 := by
    rw [IsWritten, if_neg Bool.false_ne_true]
    decide
  have htaken := hdeclares.taken 1 hwritten (.int 1) rfl .empty "m" "m"
  have hrefused : ((Constraint.values (some ⟨.int32, false, [("A", 2)]⟩)).check .empty .enumeration
      (.int 1) "m" "m").toOption.map List.isEmpty = some false := by decide +kernel
  rw [htaken] at hrefused
  cases hrefused

end ParamRules.Constraint
