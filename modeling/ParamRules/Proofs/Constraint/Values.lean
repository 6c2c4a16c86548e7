import ParamRules.Constraint.Configure
import ParamRules.Constraint.Written
import ParamRules.Proofs.Number.Integer
import ParamRules.Proofs.Result
import ParamRules.Proofs.Text.Split

/-!
# Lists of values read back

A list of values is read pair by pair, and a name that comes twice keeps its place and takes the
later value.  What is left is a list of different names, trimmed and without an equals sign, with
values in the range of their type.  Such a list is written pair by pair and read as it is.
-/

namespace ParamRules.Constraint

open Text Result

variable {name key : String} {n : Int} {t : IntegerType} {pairs read : List (String × Int)}

/-- Whether a text can stand before the equals sign of a pair. -/
def IsKey (s : String) : Prop :=
  IsTrimmed s.toList ∧ s ≠ "" ∧ '=' ∉ s.toList

/-- Names that can be written, each with a value of the type, and no name twice. -/
structure IsReadableList (t : IntegerType) (pairs : List (String × Int)) : Prop where
  keys : ∀ p ∈ pairs, IsKey p.1
  holds : ∀ p ∈ pairs, t.holds p.2 = true
  nodup : (pairs.map Prod.fst).Nodup

/-- A name with its value as it is written. -/
def pairText (p : String × Int) : String :=
  p.1 ++ "=" ++ Integer.text p.2

/-! ## One pair -/

theorem IsKey.isAllBlank (h : IsKey key) : Text.isAllBlank key = false := by
  have hne : ¬ trim key = "" := by
    rw [trim_eq_self h.1]
    exact h.2.1
  rwa [← isAllBlank_iff_trim_eq_empty, Bool.not_eq_true] at hne

theorem isKey_trim {s : String} (hblank : Text.isAllBlank s = false) (h : '=' ∉ s.toList) :
    IsKey (trim s) := by
  refine ⟨?_, ?_, ?_⟩
  · rw [toList_trim]
    exact isTrimmed_trimChars _
  · rw [ne_eq, ← isAllBlank_iff_trim_eq_empty, hblank]
    exact Bool.false_ne_true
  · rw [toList_trim]
    exact fun hmem => h (subset_of_trimChars _ hmem)

theorem equals_not_mem_text (n : Int) : '=' ∉ (Integer.text n).toList := by
  intro h
  rw [Integer.toList_text, List.mem_append] at h
  rcases h with h | h
  · split_ifs at h <;> simp at h
  · exact absurd (AllDigits.toDigits _ _ h) (by decide)

theorem isHexText_text (n : Int) : isHexText (Integer.text n) = false := by
  have hdigits := AllDigits.toDigits n.natAbs
  rw [isHexText, Integer.toList_text]
  split_ifs
  · rfl
  · rw [List.nil_append]
    generalize Nat.toDigits 10 n.natAbs = s at hdigits
    split
    · rename_i c _
      have hc := hdigits c (by simp)
      simp [ne_of_isDigit hc (show 'x'.isDigit = false from rfl),
        ne_of_isDigit hc (show 'X'.isDigit = false from rfl)]
    · rfl

theorem toList_pairText (p : String × Int) :
    (pairText p).toList = p.1.toList ++ '=' :: (Integer.text p.2).toList := by
  simp [pairText]

theorem text_ne_nil (n : Int) : (Integer.text n).toList ≠ [] := by
  rw [Integer.toList_text]
  simp [Nat.toDigits_ne_nil]

theorem IsKey.toList_ne_nil (h : IsKey key) : key.toList ≠ [] := by
  rw [ne_eq, String.toList_eq_nil_iff]
  exact h.2.1

theorem isTrimmed_pairText {p : String × Int} (h : IsKey p.1) : IsTrimmed (pairText p).toList := by
  have hsign : IsTrimmed ['='] := isTrimmed_of_forall (List.forall_mem_singleton.mpr rfl)
  have hequals : IsTrimmed ('=' :: (Integer.text p.2).toList) :=
    hsign.append (Integer.isTrimmed_text p.2) (by simp) (text_ne_nil p.2)
  rw [toList_pairText]
  exact h.1.append hequals h.toList_ne_nil (by simp)

theorem isAllBlank_text (n : Int) : isAllBlank (Integer.text n) = false := by
  have hne : ¬ trim (Integer.text n) = "" := by
    rw [trim_eq_self (Integer.isTrimmed_text n), ← String.toList_eq_nil_iff]
    exact text_ne_nil n
  rwa [← isAllBlank_iff_trim_eq_empty, Bool.not_eq_true] at hne

theorem readPair_pairText (hkey : IsKey key) (hn : t.holds n = true) :
    readPair name (pairText (key, n)) = .ok (key, n) := by
  have hsplit : splitChars '=' (trimChars (pairText (key, n)).toList) =
      [key.toList, (Integer.text n).toList] := by
    rw [trimChars_eq_self (isTrimmed_pairText (p := (key, n)) hkey), toList_pairText,
      splitChars_append_cons hkey.2.2, splitChars_of_not_mem (equals_not_mem_text n)]
  have hfilter : ([key.toList, (Integer.text n).toList].filter (!·.isEmpty)) =
      [key.toList, (Integer.text n).toList] := by
    simp [hkey.toList_ne_nil, text_ne_nil n]
  rw [readPair, hsplit, hfilter]
  simp only [List.map_cons, List.map_nil, String.ofList_toList, hkey.isAllBlank, isAllBlank_text,
    Bool.or_self, Bool.false_eq_true, if_false, trim_eq_self (Integer.isTrimmed_text n),
    trim_eq_self hkey.1, readPairNumber, isHexText_text,
    Integer.read_text (Integer.isTooLong_of_holds hn)]

theorem isKey_of_readPair {pair : String} (h : readPair name pair = .ok (key, n)) : IsKey key := by
  unfold readPair at h
  split at h
  · rename_i first second heq
    have hpiece : ∀ piece ∈ (splitChars '=' (trimChars pair.toList)).filter (!·.isEmpty),
        '=' ∉ piece := fun piece hpiece =>
      not_mem_of_mem_splitChars (List.mem_of_mem_filter hpiece)
    have hfirst : '=' ∉ first.toList := by
      have hmem : first ∈ ((splitChars '=' (trimChars pair.toList)).filter
          (!·.isEmpty)).map String.ofList := heq ▸ List.mem_cons_self
      obtain ⟨piece, hpieceMem, rfl⟩ := List.mem_map.mp hmem
      rw [String.toList_ofList]
      exact hpiece piece hpieceMem
    split_ifs at h with hblank
    split at h
    · cases h
      rw [Bool.or_eq_true, not_or, Bool.not_eq_true, Bool.not_eq_true] at hblank
      exact isKey_trim hblank.1 hfirst
    · cases h
  · cases h

/-! ## All pairs -/

theorem put_of_not_mem (h : key ∉ pairs.map Prod.fst) : put key n pairs = pairs ++ [(key, n)] := by
  induction pairs with
  | nil => rfl
  | cons p pairs ih =>
      obtain ⟨k, m⟩ := p
      rw [List.map_cons, List.mem_cons, not_or] at h
      rw [put, if_neg (Ne.symm h.1), ih h.2, List.cons_append]

/-- Putting a name changes the value of a pair that is there, or adds a pair at the end. -/
theorem mem_put {p : String × Int} (h : p ∈ put key n pairs) : p = (key, n) ∨ p ∈ pairs := by
  induction pairs with
  | nil => exact .inl (List.mem_singleton.mp h)
  | cons q pairs ih =>
      obtain ⟨k, m⟩ := q
      rw [put] at h
      split_ifs at h with hk
      · rcases List.mem_cons.mp h with rfl | h
        · exact .inl (by rw [hk])
        · exact .inr (List.mem_cons_of_mem _ h)
      · rcases List.mem_cons.mp h with rfl | h
        · exact .inr List.mem_cons_self
        · exact (ih h).imp_right (List.mem_cons_of_mem _)

/-- A name that is there keeps its place. -/
theorem names_put_of_mem (h : key ∈ pairs.map Prod.fst) (n : Int) :
    (put key n pairs).map Prod.fst = pairs.map Prod.fst := by
  induction pairs with
  | nil => cases h
  | cons p pairs ih =>
      obtain ⟨k, m⟩ := p
      rw [put]
      split_ifs with hk
      · rfl
      · rw [List.map_cons, List.mem_cons] at h
        rw [List.map_cons, List.map_cons, ih (h.resolve_left (Ne.symm hk))]

theorem nodup_put (h : (pairs.map Prod.fst).Nodup) :
    ((put key n pairs).map Prod.fst).Nodup := by
  by_cases hkey : key ∈ pairs.map Prod.fst
  · rwa [names_put_of_mem hkey]
  · rw [put_of_not_mem hkey, List.map_append, List.nodup_append]
    refine ⟨h, by simp, fun k hk m hm heq => ?_⟩
    obtain rfl : m = key := by simpa using hm
    exact hkey (heq ▸ hk)

theorem IsReadableList.put (h : IsReadableList t pairs) (hkey : IsKey key)
    (hn : t.holds n = true) : IsReadableList t (put key n pairs) where
  keys p hp := (mem_put hp).elim (fun heq => heq ▸ hkey) (h.keys p)
  holds p hp := (mem_put hp).elim (fun heq => heq ▸ hn) (h.holds p)
  nodup := nodup_put h.nodup

theorem isReadableList_of_readPairs {texts : List String} (hread : IsReadableList t read)
    (h : readPairs name t texts read = .ok pairs) : IsReadableList t pairs := by
  induction texts generalizing read with
  | nil =>
      cases h
      exact hread
  | cons text texts ih =>
      rw [readPairs] at h
      obtain ⟨⟨k, m⟩, hpair, h⟩ := bind_eq_ok_iff.mp h
      simp only at h
      split_ifs at h with hholds
      exact ih (hread.put (isKey_of_readPair hpair) hholds) h

theorem readPairs_pairText (h : IsReadableList t (read ++ pairs)) :
    readPairs name t (pairs.map pairText) read = .ok (read ++ pairs) := by
  induction pairs generalizing read with
  | nil => rw [List.append_nil]; rfl
  | cons p pairs ih =>
      obtain ⟨k, m⟩ := p
      have hp : (k, m) ∈ read ++ (k, m) :: pairs := by simp
      have hnew : k ∉ read.map Prod.fst := by
        have hnodup := h.nodup
        rw [List.map_append, List.map_cons] at hnodup
        exact fun hmem =>
          (List.nodup_append.mp hnodup).2.2 k hmem k List.mem_cons_self rfl
      have hrest : IsReadableList t ((read ++ [(k, m)]) ++ pairs) := by simpa using h
      rw [List.map_cons, readPairs, readPair_pairText (h.keys _ hp) (h.holds _ hp)]
      simp only [bind, Except.bind, h.holds _ hp, if_true, put_of_not_mem hnew, ih hrest,
        List.append_assoc, List.singleton_append]

/-! ## Lists of values -/

theorem ofName?_trim_integer (t : IntegerType) :
    DataType.ofName? (trim t.name) = some (.integer t) := by
  cases t <;> decide +kernel

/-- A pair is not the mark of flags, since it has an equals sign. -/
theorem trim_pairText_ne {p : String × Int} (h : IsKey p.1) : trim (pairText p) ≠ "Flags" := by
  rw [trim_eq_self (isTrimmed_pairText h)]
  intro heq
  have hmem : '=' ∈ (pairText p).toList := by simp [toList_pairText]
  rw [heq] at hmem
  revert hmem
  decide

theorem put_ne_nil : put key n pairs ≠ [] := by
  cases pairs with
  | nil => exact List.cons_ne_nil _ _
  | cons p pairs =>
      rw [put]
      split_ifs <;> exact List.cons_ne_nil _ _

theorem ne_nil_of_readPairs {texts : List String} (hne : texts ≠ [] ∨ read ≠ [])
    (h : readPairs name t texts read = .ok pairs) : pairs ≠ [] := by
  induction texts generalizing read with
  | nil =>
      cases h
      exact hne.resolve_left (by simp)
  | cons text texts ih =>
      rw [readPairs] at h
      obtain ⟨⟨k, m⟩, -, h⟩ := bind_eq_ok_iff.mp h
      simp only at h
      split_ifs at h
      exact ih (.inr put_ne_nil) h

/-- The texts of pairs, after the mark of flags where it is there. -/
def pairTexts (first : String) (rest : List String) : List String :=
  if trim first = "Flags" then rest else first :: rest

theorem readValues_eq_ok_iff {typeText first : String} {rest : List String} {l : ValueList} :
    readValues name (typeText :: first :: rest) = .ok l ↔
      DataType.ofName? (trim typeText) = some (.integer l.type) ∧
        l.flags = decide (trim first = "Flags") ∧ pairTexts first rest ≠ [] ∧
        readPairs name l.type (pairTexts first rest) [] = .ok l.pairs := by
  obtain ⟨type, flags, pairs⟩ := l
  have hpairs : (if decide (trim first = "Flags") = true then rest else first :: rest) =
      pairTexts first rest := by
    simp [pairTexts]
  simp only [readValues, hpairs]
  cases hname : DataType.ofName? (trim typeText) with
  | none => simp
  | some named =>
      cases named with
      | integer named =>
          by_cases hempty : pairTexts first rest = []
          · simp [hempty, bind, Except.bind]
          · have hisEmpty : (pairTexts first rest).isEmpty = false := by simpa using hempty
            simp only [hisEmpty, Bool.false_eq_true, if_false]
            constructor
            · intro h
              obtain ⟨read, hread, h⟩ := bind_eq_ok_iff.mp h
              cases h
              exact ⟨rfl, rfl, hempty, hread⟩
            · rintro ⟨htype, rfl, -, hread⟩
              cases htype
              exact bind_eq_ok_iff.mpr ⟨pairs, hread, rfl⟩
      | _ => simp

theorem isReadableList_of_readValues {ps : List String} {l : ValueList}
    (h : readValues name ps = .ok l) : IsReadableList l.type l.pairs ∧ l.pairs ≠ [] := by
  match ps, h with
  | [], h => cases h
  | [_], h => cases h
  | typeText :: first :: rest, h =>
      obtain ⟨-, -, hne, hread⟩ := readValues_eq_ok_iff.mp h
      refine ⟨isReadableList_of_readPairs ?_ hread, ne_nil_of_readPairs (.inl hne) hread⟩
      exact ⟨nofun, nofun, List.nodup_nil⟩

theorem readValues_parameters {l : ValueList} (h : IsReadableList l.type l.pairs)
    (hne : l.pairs ≠ []) : readValues name l.parameters = .ok l := by
  have hread : readPairs name l.type (l.pairs.map pairText) [] = .ok l.pairs :=
    readPairs_pairText h
  obtain ⟨p, pairs, hpairs⟩ := List.exists_cons_of_ne_nil hne
  have hkey : IsKey p.1 := h.keys p (hpairs ▸ List.mem_cons_self)
  have hparameters : l.parameters =
      l.type.name :: ((if l.flags then ["Flags"] else []) ++ l.pairs.map pairText) := rfl
  cases hflags : l.flags with
  | true =>
      rw [hparameters, hflags, if_pos rfl, List.singleton_append, readValues_eq_ok_iff]
      have htexts : pairTexts "Flags" (l.pairs.map pairText) = l.pairs.map pairText := by
        rw [pairTexts, if_pos (by decide +kernel)]
      rw [htexts]
      exact ⟨ofName?_trim_integer _, by rw [hflags]; decide +kernel, by simpa using hne, hread⟩
  | false =>
      have htexts : pairTexts (pairText p) (pairs.map pairText) = l.pairs.map pairText := by
        rw [pairTexts, if_neg (trim_pairText_ne hkey), hpairs, List.map_cons]
      rw [hparameters, hflags, if_neg Bool.false_ne_true, List.nil_append, hpairs, List.map_cons,
        readValues_eq_ok_iff, htexts]
      exact ⟨ofName?_trim_integer _, by rw [hflags, decide_eq_false (trim_pairText_ne hkey)],
        by simpa using hne, hread⟩

end ParamRules.Constraint
