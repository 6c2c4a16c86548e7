import ParamRules.Proofs.Constraint.Values
import ParamRules.Proofs.Number.Numeral

/-!
# The written form of names with values

A list of values is written with pairs: a name, an equals sign and a number, which is decimal with
an optional sign, or hexadecimal behind its mark.  The reader takes more than that.  It passes over
further equals signs, and leaves the number to the liberal reader, which takes underscores, and
behind the mark white space, a sign and a second mark.  Of the pairs that are read these are the
ones that do not have the form (`isPair_iff_not_isLax`).
-/

namespace ParamRules.Constraint

open Text Result

variable {name key : String} {m n : Int} {c : Char} {s r : List Char} {ds : List Nat}

/-! ## Numbers -/

/-- What follows the mark of base sixteen, where it is there. -/
def hexBody? : List Char → Option (List Char)
  | '0' :: c :: r => if c = 'x' ∨ c = 'X' then some r else none
  | _ => none

/-- The written forms of a number: decimal digits with an optional sign, or hexadecimal digits
behind their mark. -/
inductive IsNumeral (s : List Char) : Int → Prop where
  | decimal {negative : Bool} {ds : List Nat}
      (h : Integer.plainDigits? s = some (negative, ds)) :
      IsNumeral s (Integer.signed negative (Integer.ofDigits 10 ds))
  | hexadecimal {r : List Char} {ds : List Nat} (hs : hexBody? s = some r) (hne : r ≠ [])
      (hds : r.mapM (Integer.digitIn? 16) = some ds) : IsNumeral s (Integer.ofDigits 16 ds)

/-- Whether a number holds what only the liberal reader takes: an underscore, or behind its mark
white space, a sign or a second mark. -/
def IsLoose (s : List Char) : Prop :=
  '_' ∈ s ∨ ∃ r, hexBody? s = some r ∧
    ((∃ c ∈ r.head?, Integer.isNumberBlank c = true ∨ c = '+' ∨ c = '-') ∨ hexBody? r ≠ none)

theorem hexBody?_eq_some_iff : hexBody? s = some r ↔ s = '0' :: 'x' :: r ∨ s = '0' :: 'X' :: r := by
  unfold hexBody?
  split
  · rename_i c t
    split_ifs with hc
    · rcases hc with rfl | rfl <;> simp
    · rw [not_or] at hc
      simp [hc.1, hc.2]
  · rename_i hnone
    simp only [reduceCtorEq, false_iff, not_or]
    exact ⟨fun hs => hnone _ _ hs, fun hs => hnone _ _ hs⟩

theorem isHexText_of_hexBody? (h : hexBody? s = none) : isHexText (String.ofList s) = false := by
  unfold isHexText
  rw [String.toList_ofList]
  split
  · rw [hexBody?] at h
    split_ifs at h with hc
    simpa [not_or] using hc
  · rfl

/-- A number is read in base sixteen where it has the mark, and in base ten otherwise. -/
theorem readPairNumber_eq (s : List Char) :
    readPairNumber (String.ofList s) =
      match hexBody? s with
      | some r => Integer.read 16 (String.ofList r)
      | none => Integer.read 10 (String.ofList s) := by
  cases hbody : hexBody? s with
  | none => rw [readPairNumber, isHexText_of_hexBody? hbody, if_neg Bool.false_ne_true]
  | some r =>
      rcases hexBody?_eq_some_iff.mp hbody with rfl | rfl <;> simp [readPairNumber, isHexText]

/-- A plain number is a sign, where there is one, and digits. -/
theorem cases_of_plainDigits? {p : Bool × List Nat} (h : Integer.plainDigits? s = some p)
    (hc : c ∈ s) : c = '-' ∨ c = '+' ∨ isDecimalDigit c = true := by
  obtain ⟨ds, hds, -⟩ := Option.map_eq_some_iff.mp h
  have hdigits := (Integer.allDigits?_eq_some_iff.mp hds).2.1
  unfold Integer.splitSign at hdigits
  split at hdigits
  · rcases List.mem_cons.mp hc with rfl | hc
    · exact .inl rfl
    · exact .inr (.inr (hdigits c hc))
  · rcases List.mem_cons.mp hc with rfl | hc
    · exact .inr (.inl rfl)
    · exact .inr (.inr (hdigits c hc))
  · exact .inr (.inr (hdigits c hc))

theorem hexBody?_of_plainDigits? {p : Bool × List Nat} (h : Integer.plainDigits? s = some p) :
    hexBody? s = none := by
  rw [Option.eq_none_iff_forall_ne_some]
  intro r hr
  rcases hexBody?_eq_some_iff.mp hr with rfl | rfl
  · rcases cases_of_plainDigits? (c := 'x') h (by simp) with hc | hc | hc <;> revert hc <;> decide
  · rcases cases_of_plainDigits? (c := 'X') h (by simp) with hc | hc | hc <;> revert hc <;> decide

theorem isSome_of_mapM (h : r.mapM (Integer.digitIn? 16) = some ds) (hc : c ∈ r) :
    (Integer.digitIn? 16 c).isSome = true :=
  (mapM_eq_some_iff.mp h).1 c hc

/-- A text has one numeral form at most. -/
theorem IsNumeral.unique (hm : IsNumeral s m) (hn : IsNumeral s n) : m = n := by
  cases hm with
  | decimal h =>
      cases hn with
      | decimal h' =>
          cases h.symm.trans h'
          rfl
      | hexadecimal hs _ _ => cases hs.symm.trans (hexBody?_of_plainDigits? h)
  | hexadecimal hs hne hds =>
      cases hn with
      | decimal h => cases hs.symm.trans (hexBody?_of_plainDigits? h)
      | hexadecimal hs' _ hds' =>
          cases hs.symm.trans hs'
          cases hds.symm.trans hds'
          rfl

theorem not_isLoose_of_isNumeral (h : IsNumeral s n) : ¬ IsLoose s := by
  cases h with
  | decimal h =>
      rintro (hmem | ⟨r, hr, -⟩)
      · rcases cases_of_plainDigits? h hmem with hc | hc | hc <;> revert hc <;> decide +kernel
      · cases hr.symm.trans (hexBody?_of_plainDigits? h)
  | hexadecimal hs hne hds =>
      rename_i r ds
      rintro (hmem | ⟨r', hr', hloose⟩)
      · have hmem' : '_' ∈ r := by
          rcases hexBody?_eq_some_iff.mp hs with rfl | rfl <;> simpa using hmem
        exact absurd (isSome_of_mapM hds hmem') (by decide)
      · cases hs.symm.trans hr'
        rcases hloose with ⟨c, hc, hblank | rfl | rfl⟩ | hmark
        · have hdigit := isSome_of_mapM hds (List.mem_of_mem_head? hc)
          rw [Integer.digitIn?_blank (Integer.isBlank_of_isNumberBlank hblank)] at hdigit
          cases hdigit
        · exact absurd (isSome_of_mapM hds (List.mem_of_mem_head? hc)) (by decide)
        · exact absurd (isSome_of_mapM hds (List.mem_of_mem_head? hc)) (by decide)
        · obtain ⟨t, ht⟩ := Option.ne_none_iff_exists'.mp hmark
          rcases hexBody?_eq_some_iff.mp ht with rfl | rfl
          · exact absurd (isSome_of_mapM (c := 'x') hds (by simp)) (by decide)
          · exact absurd (isSome_of_mapM (c := 'X') hds (by simp)) (by decide)

theorem toLower_eq_x (h : c.toLower = 'x') : c = 'x' ∨ c = 'X' := by
  unfold Char.toLower at h
  split_ifs at h with hupper
  · have hval : c.val + ('a'.val - 'A'.val) = 'X'.val + ('a'.val - 'A'.val) := congrArg Char.val h
    exact .inr (Char.ext (add_right_cancel hval))
  · exact .inl h

/-- The liberal reader sees no mark where there is none. -/
theorem afterBaseMark_of_hexBody? (h : hexBody? s = none) : Integer.afterBaseMark 16 s = s := by
  unfold Integer.afterBaseMark
  split
  · rename_i mark t
    rw [hexBody?] at h
    split_ifs at h with hmark
    rw [if_neg]
    intro heq
    exact hmark (toLower_eq_x (Option.some.inj heq).symm)
  · rfl

/-- Nothing is passed over before a body that begins with neither white space nor a sign. -/
theorem read_prefix_of_head?
    (h : ¬ ∃ c ∈ r.head?, Integer.isNumberBlank c = true ∨ c = '+' ∨ c = '-') :
    r.dropWhile Integer.isNumberBlank = r ∧ Integer.splitSign r = (false, r) := by
  cases r with
  | nil => exact ⟨rfl, rfl⟩
  | cons c r =>
      have hc : ∀ d, d = c → ¬ (Integer.isNumberBlank d = true ∨ d = '+' ∨ d = '-') := by
        rintro d rfl hd
        exact h ⟨d, rfl, hd⟩
      refine ⟨List.dropWhile_cons_of_neg fun hblank => hc c rfl (.inl hblank), ?_⟩
      unfold Integer.splitSign
      split
      · rename_i heq
        exact absurd (.inr (.inr rfl)) (hc '-' (List.cons.inj heq).1.symm)
      · rename_i heq
        exact absurd (.inr (.inl rfl)) (hc '+' (List.cons.inj heq).1.symm)
      · rfl

/-- What is read of a number in base sixteen that is not loose is hexadecimal digits. -/
theorem isNumeral_of_read_sixteen (hbody : hexBody? s = some r) (hs : IsTrimmed s)
    (hloose : ¬ IsLoose s) (h : Integer.read 16 (String.ofList r) = .ok n) : IsNumeral s n := by
  rw [IsLoose, not_or, not_exists] at hloose
  obtain ⟨hunderscore, hloose⟩ := hloose
  have hmarked := hloose r
  rw [not_and, not_or, not_not] at hmarked
  obtain ⟨hhead, hmark⟩ := hmarked hbody
  obtain ⟨hdrop, hsign⟩ := read_prefix_of_head? hhead
  have hsuffix : r <:+ s := by
    rcases hexBody?_eq_some_iff.mp hbody with rfl | rfl
    · exact ⟨['0', 'x'], rfl⟩
    · exact ⟨['0', 'X'], rfl⟩
  have hlast : ∀ c ∈ r.getLast?, Integer.isNumberBlank c = false := by
    intro c hc
    obtain ⟨front, rfl⟩ := hsuffix
    have hne : r ≠ [] := by
      rintro rfl
      cases hc
    have hmem : c ∈ (front ++ r).getLast? := by
      rwa [List.getLast?_append_of_ne_nil _ hne]
    rw [Integer.isNumberBlank, hs.2 c hmem, Bool.false_and]
  obtain ⟨ds, hne, hds, rfl⟩ := Integer.exists_of_read
    (fun hmem => hunderscore (hsuffix.subset hmem)) hdrop hlast
    (by rw [hsign]; exact afterBaseMark_of_hexBody? hmark) h
  rw [hsign] at hne hds ⊢
  exact .hexadecimal hbody hne hds

/-- A number that is read has the form of one, or is loose. -/
theorem isNumeral_of_readPairNumber (hs : IsTrimmed s) (hloose : ¬ IsLoose s)
    (h : readPairNumber (String.ofList s) = .ok n) : IsNumeral s n := by
  rw [readPairNumber_eq] at h
  split at h
  · rename_i r hbody
    exact isNumeral_of_read_sixteen hbody hs hloose h
  · obtain ⟨negative, ds, hplain, rfl⟩ :=
      Integer.exists_plainDigits?_of_read hs (fun hmem => hloose (.inl hmem)) h
    exact .decimal hplain

/-! ## Pairs -/

variable {pair : String} {before after : List Char}

/-- Whether a pair is a name, an equals sign and a number, white space around each left out. -/
def IsPair (pair key : String) (n : Int) : Prop :=
  ∃ before after, trimChars pair.toList = before ++ '=' :: after ∧ '=' ∉ before ∧ '=' ∉ after ∧
    key.toList = trimChars before ∧ key ≠ "" ∧ IsNumeral (trimChars after) n

/-- What keeps a pair that is read from the form: equals signs beside the first, or a number that is
loose. -/
inductive IsLax (pair : String) : Prop where
  | equals (h : (trimChars pair.toList).count '=' ≠ 1)
  | number {before after : List Char} (h : trimChars pair.toList = before ++ '=' :: after)
      (hloose : IsLoose (trimChars after))

theorem count_eq_one (hbefore : '=' ∉ before) (hafter : '=' ∉ after) :
    (before ++ '=' :: after).count '=' = 1 := by
  rw [List.count_append, List.count_cons_self, List.count_eq_zero_of_not_mem hbefore,
    List.count_eq_zero_of_not_mem hafter]

theorem exists_of_count_eq_one (h : s.count '=' = 1) :
    ∃ before after, s = before ++ '=' :: after ∧ '=' ∉ before ∧ '=' ∉ after := by
  cases hcut : cutChars? '=' s with
  | none =>
      rw [List.count_eq_zero_of_not_mem (cutChars?_eq_none_iff.mp hcut)] at h
      cases h
  | some p =>
      obtain ⟨hbefore, rfl⟩ := cutChars?_eq_some_iff.mp hcut
      refine ⟨p.1, p.2, rfl, hbefore, ?_⟩
      rw [List.count_append, List.count_cons_self, List.count_eq_zero_of_not_mem hbefore] at h
      exact List.count_eq_zero.mp (by omega)

theorem append_equals_inj {before' after' : List Char} (hbefore : '=' ∉ before)
    (hbefore' : '=' ∉ before') (h : before ++ '=' :: after = before' ++ '=' :: after') :
    before = before' ∧ after = after' := by
  have hcut := cutChars?_append hbefore after
  rw [h, cutChars?_append hbefore'] at hcut
  cases hcut
  exact ⟨rfl, rfl⟩

/-- What is read of a pair with one equals sign. -/
theorem readPair_of_equals (hpair : trimChars pair.toList = before ++ '=' :: after)
    (hbefore : '=' ∉ before) (hafter : '=' ∉ after) (h : readPair name pair = .ok (key, n)) :
    key.toList = trimChars before ∧ key ≠ "" ∧
      readPairNumber (String.ofList (trimChars after)) = .ok n := by
  have hkey := (isKey_of_readPair h).2.1
  rw [readPair, hpair, splitChars_append_cons hbefore, splitChars_of_not_mem hafter] at h
  split at h
  · rename_i first second hpieces
    split_ifs at h
    split at h
    · rename_i hnumber
      have heq : [before, after].filter (!·.isEmpty) = [before, after] := by
        apply List.filter_eq_self.mpr
        have hlength := congrArg List.length hpieces
        rw [List.length_map] at hlength
        exact List.filter_eq_self.mp (List.filter_sublist.eq_of_length (by simpa using hlength))
      rw [heq] at hpieces
      cases hpieces
      cases h
      refine ⟨?_, hkey, ?_⟩
      · rw [toList_trim, String.toList_ofList]
      · rwa [trim, String.toList_ofList] at hnumber
    · cases h
  · cases h

theorem isPair_of_readPair (h : readPair name pair = .ok (key, n)) (hlax : ¬ IsLax pair) :
    IsPair pair key n := by
  have hcount : (trimChars pair.toList).count '=' = 1 := by
    by_contra hcount
    exact hlax (.equals hcount)
  obtain ⟨before, after, hpair, hbefore, hafter⟩ := exists_of_count_eq_one hcount
  obtain ⟨hkey, hne, hnumber⟩ := readPair_of_equals hpair hbefore hafter h
  have hloose : ¬ IsLoose (trimChars after) := fun hloose => hlax (.number hpair hloose)
  exact ⟨before, after, hpair, hbefore, hafter, hkey, hne,
    isNumeral_of_readPairNumber (isTrimmed_trimChars after) hloose hnumber⟩

theorem not_isLax_of_isPair (h : IsPair pair key n) : ¬ IsLax pair := by
  obtain ⟨before, after, hpair, hbefore, hafter, -, -, hnumeral⟩ := h
  rintro (hcount | ⟨hpair', hloose⟩)
  · rw [hpair] at hcount
    exact hcount (count_eq_one hbefore hafter)
  · rename_i before' after'
    have hbefore' : '=' ∉ before' := by
      have hcount := count_eq_one hbefore hafter
      rw [← hpair, hpair', List.count_append, List.count_cons_self] at hcount
      exact List.count_eq_zero.mp (by omega)
    obtain ⟨-, rfl⟩ := append_equals_inj hbefore hbefore' (hpair.symm.trans hpair')
    exact not_isLoose_of_isNumeral hnumeral hloose

/-- A pair that is read has the form unless it is lax. -/
theorem isPair_iff_not_isLax (h : readPair name pair = .ok (key, n)) :
    IsPair pair key n ↔ ¬ IsLax pair :=
  ⟨not_isLax_of_isPair, isPair_of_readPair h⟩

/-- A pair gives one name and one number at most. -/
theorem IsPair.unique {key' : String} (hm : IsPair pair key m) (hn : IsPair pair key' n) :
    key = key' ∧ m = n := by
  obtain ⟨before, after, hpair, hbefore, hafter, hkey, -, hnumeral⟩ := hm
  obtain ⟨before', after', hpair', hbefore', -, hkey', -, hnumeral'⟩ := hn
  obtain ⟨rfl, rfl⟩ := append_equals_inj hbefore hbefore' (hpair.symm.trans hpair')
  exact ⟨String.toList_injective (hkey.trans hkey'.symm), hnumeral.unique hnumeral'⟩

/-! ## All pairs -/

variable {t : IntegerType} {pairs read : List (String × Int)} {texts : List String}
  {key' : String}

theorem lookup_cons_eq (k : String) (m : Int) (pairs : List (String × Int)) (key : String) :
    ((k, m) :: pairs).lookup key = if key = k then some m else pairs.lookup key := by
  rw [List.lookup_cons]
  by_cases hkey : key = k
  · rw [if_pos hkey, beq_iff_eq.mpr hkey]
  · rw [if_neg hkey, beq_eq_false_iff_ne.mpr hkey]

/-- A name that is put has its new number, and every other name what it had. -/
theorem lookup_put (key : String) (n : Int) (pairs : List (String × Int)) (key' : String) :
    (put key n pairs).lookup key' = if key' = key then some n else pairs.lookup key' := by
  induction pairs with
  | nil => exact lookup_cons_eq key n [] key'
  | cons p pairs ih =>
      obtain ⟨k, m⟩ := p
      rw [put]
      split_ifs with hk hkey hkey
      · rw [lookup_cons_eq, if_pos (hkey.trans hk.symm)]
      · rw [lookup_cons_eq, lookup_cons_eq, if_neg (hk ▸ hkey), if_neg (hk ▸ hkey)]
      · rw [lookup_cons_eq, ih, if_pos hkey, if_neg fun heq => hk (heq.symm.trans hkey)]
      · rw [lookup_cons_eq, lookup_cons_eq, ih, if_neg hkey]

/-- Reading pairs: each of them is read, its number is one of the type, and a name has the number of
a pair with it. -/
structure AreRead (name : String) (t : IntegerType) (texts : List String)
    (read pairs : List (String × Int)) : Prop where
  each : ∀ pair ∈ texts, ∃ key n, readPair name pair = .ok (key, n) ∧ t.holds n = true ∧
    (pairs.lookup key).isSome = true
  found : ∀ key n, pairs.lookup key = some n →
    (∃ pair ∈ texts, readPair name pair = .ok (key, n)) ∨ read.lookup key = some n
  kept : ∀ key, (read.lookup key).isSome = true → (pairs.lookup key).isSome = true

theorem areRead_of_readPairs (h : readPairs name t texts read = .ok pairs) :
    AreRead name t texts read pairs := by
  induction texts generalizing read with
  | nil =>
      cases h
      exact ⟨nofun, fun key n hn => .inr hn, fun key hkey => hkey⟩
  | cons pair texts ih =>
      rw [readPairs] at h
      obtain ⟨⟨k, m⟩, hpair, h⟩ := bind_eq_ok_iff.mp h
      simp only at h
      split_ifs at h with hholds
      have hrest := ih h
      have hkept : ∀ key, key = k ∨ (read.lookup key).isSome = true →
          (pairs.lookup key).isSome = true := by
        intro key hkey
        apply hrest.kept key
        rw [lookup_put]
        split_ifs with heq
        · rfl
        · exact hkey.resolve_left heq
      refine ⟨?_, ?_, fun key hkey => hkept key (.inr hkey)⟩
      · rw [List.forall_mem_cons]
        exact ⟨⟨k, m, hpair, hholds, hkept k (.inl rfl)⟩, hrest.each⟩
      · intro key n hn
        rcases hrest.found key n hn with ⟨other, hother, hread⟩ | hput
        · exact .inl ⟨other, List.mem_cons_of_mem pair hother, hread⟩
        · rw [lookup_put] at hput
          split_ifs at hput with heq
          · cases hput
            exact .inl ⟨pair, List.mem_cons_self, by rw [heq]; exact hpair⟩
          · exact .inr hput

/-- Whether a pair has the form, and its name has its number, which is one of the type. -/
def IsStored (l : ValueList) (pair : String) : Prop :=
  ∃ key n, IsPair pair key n ∧ l.pairs.lookup key = some n ∧ l.type.holds n = true

/-- Whether two pairs give a name different numbers. -/
def AreAtOdds (texts : List String) : Prop :=
  ∃ pair ∈ texts, ∃ other ∈ texts, ∃ key m n, IsPair pair key m ∧ IsPair other key n ∧ m ≠ n

/-- All pairs that are read are stored as they are written where none of them is lax and no two of
them are at odds. -/
theorem forall_isStored_iff {l : ValueList}
    (h : readPairs name l.type texts [] = .ok l.pairs) :
    (∀ pair ∈ texts, IsStored l pair) ↔ (∀ pair ∈ texts, ¬ IsLax pair) ∧ ¬ AreAtOdds texts := by
  have hread := areRead_of_readPairs h
  constructor
  · intro hstored
    refine ⟨fun pair hpair => ?_, ?_⟩
    · obtain ⟨key, n, hform, -, -⟩ := hstored pair hpair
      exact not_isLax_of_isPair hform
    · rintro ⟨pair, hpair, other, hother, key, m, n, hm, hn, hne⟩
      obtain ⟨k, m', hform, hlookup, -⟩ := hstored pair hpair
      obtain ⟨k', n', hform', hlookup', -⟩ := hstored other hother
      obtain ⟨rfl, rfl⟩ := hm.unique hform
      obtain ⟨rfl, rfl⟩ := hn.unique hform'
      exact hne (Option.some.inj (hlookup.symm.trans hlookup'))
  · rintro ⟨hlax, hodds⟩ pair hpair
    obtain ⟨key, n, hok, hholds, hsome⟩ := hread.each pair hpair
    have hform := isPair_of_readPair hok (hlax pair hpair)
    obtain ⟨m, hm⟩ := Option.isSome_iff_exists.mp hsome
    refine ⟨key, n, hform, ?_, hholds⟩
    rcases hread.found key m hm with ⟨other, hother, hread'⟩ | hnil
    · have hform' := isPair_of_readPair hread' (hlax other hother)
      by_contra hne
      refine hodds ⟨pair, hpair, other, hother, key, n, m, hform, hform', ?_⟩
      rintro rfl
      exact hne hm
    · cases hnil

/-! ## Parameters -/

/-- The texts of the pairs among the parameters of a list of values. -/
def writtenPairs : List String → List String
  | _ :: first :: rest => pairTexts first rest
  | _ => []

theorem exists_of_configure_values {old : Option ValueList} {t : DataType} {ps : List String}
    {c : Constraint} (h : configure (.values old) t ps = .ok c) :
    ∃ l, c = .values (some l) ∧
      readPairs "Values" l.type (writtenPairs ps) [] = .ok l.pairs := by
  unfold configure at h
  split_ifs at h
  obtain ⟨l, hl, rfl⟩ := map_eq_ok_iff.mp h
  refine ⟨l, rfl, ?_⟩
  match ps, hl with
  | [], hl => cases hl
  | [_], hl => cases hl
  | typeText :: first :: rest, hl => exact (readValues_eq_ok_iff.mp hl).2.2.2

/-- A pair of a list that is read has the form, with a number of the type, unless it is lax.  All of
them are stored as they are written where none is lax and no two are at odds. -/
theorem configure_values_iff {old : Option ValueList} {t : DataType} {ps : List String}
    {c : Constraint} (h : configure (.values old) t ps = .ok c) :
    ∃ l, c = .values (some l) ∧
      (∀ pair ∈ writtenPairs ps,
        (∃ key n, IsPair pair key n ∧ l.type.holds n = true) ↔ ¬ IsLax pair) ∧
      ((∀ pair ∈ writtenPairs ps, IsStored l pair) ↔
        (∀ pair ∈ writtenPairs ps, ¬ IsLax pair) ∧ ¬ AreAtOdds (writtenPairs ps)) := by
  obtain ⟨l, rfl, hread⟩ := exists_of_configure_values h
  refine ⟨l, rfl, fun pair hpair => ?_, forall_isStored_iff hread⟩
  obtain ⟨key, n, hok, hholds, -⟩ := (areRead_of_readPairs hread).each pair hpair
  rw [← isPair_iff_not_isLax hok]
  constructor
  · rintro ⟨key', n', hform, -⟩
    exact (isPair_iff_not_isLax hok).mpr (not_isLax_of_isPair hform)
  · exact fun hform => ⟨key, n, hform, hholds⟩

theorem configure_values_iff_mark :
    configure (.values none) .enumeration ["Int32", "Read=0x1F"] =
        .ok (.values (some ⟨.int32, false, [("Read", 31)]⟩)) ∧
      IsStored ⟨.int32, false, [("Read", 31)]⟩ "Read=0x1F" := by
  have h : configure (.values none) .enumeration ["Int32", "Read=0x1F"] =
      .ok (.values (some ⟨.int32, false, [("Read", 31)]⟩)) := rfl
  have hwritten : writtenPairs ["Int32", "Read=0x1F"] = ["Read=0x1F"] := by decide +kernel
  have hdigits : ['1', 'F'].mapM (Integer.digitIn? 16) = some [1, 15] := by decide +kernel
  have hform : IsPair "Read=0x1F" "Read" 31 :=
    ⟨"Read".toList, "0x1F".toList, by decide +kernel, by decide, by decide, by decide +kernel,
      by decide, .hexadecimal (by decide +kernel) (by decide) hdigits⟩
  obtain ⟨l, hl, -, hstored⟩ := configure_values_iff h
  cases hl
  rw [hwritten, List.forall_mem_singleton] at hstored
  refine ⟨h, hstored.mpr ⟨?_, ?_⟩⟩
  · rw [List.forall_mem_singleton]
    exact not_isLax_of_isPair hform
  · rintro ⟨pair, hpair, other, hother, key, m, n, hm, hn, hne⟩
    rw [List.mem_singleton.mp hpair] at hm
    rw [List.mem_singleton.mp hother] at hn
    exact hne (hm.unique hn).2

/-- A second mark before a number passes. -/
theorem not_isStored_second_mark :
    ¬ ∀ (old : Option ValueList) (t : DataType) (ps : List String) (c : Constraint),
      configure (.values old) t ps = .ok c →
        ∃ l, c = .values (some l) ∧ ∀ pair ∈ writtenPairs ps, IsStored l pair := by
  intro h
  have hok : configure (.values none) .enumeration ["Int32", "A=0x0x10"] =
      .ok (.values (some ⟨.int32, false, [("A", 16)]⟩)) := rfl
  obtain ⟨l, -, hstored⟩ := h _ _ _ _ hok
  obtain ⟨key, n, hform, -, -⟩ := hstored "A=0x0x10" (by decide +kernel)
  have hlax : IsLax "A=0x0x10" := by
    have hpair : trimChars "A=0x0x10".toList = ['A'] ++ '=' :: "0x0x10".toList := by decide +kernel
    refine .number hpair (.inr ⟨"0x10".toList, by decide +kernel, .inr ?_⟩)
    decide +kernel
  exact not_isLax_of_isPair hform hlax

end ParamRules.Constraint
