import ParamRules.Proofs.Conversion.Bounds
import ParamRules.Setting

/-!
# Settings with a list of values

A value of an enumeration that is given by a list of values is stored as its number, and a stored
text is first looked up among the names of the list.  So a number is read back unless a name of the
list is written like it, or it lies outside the integer type of the list (`takesBack_iff`): what is
stored is checked against neither.
-/

namespace ParamRules.Setting

open Text Constraint Conversion

variable {r : Registry} {s : Setting} {cs : List Constraint} {l : ValueList} {v : Value} {n : Int}

/-! ## Numbers as texts -/

theorem listedText_of_unwrapped (hv : v.unwrapped = .int n) :
    listedText v =
      if Integer.isTooLong n then .error (.plain .longToWrite) else .ok (Integer.text n) := by
  rw [listedText, hv]

/-- What the text of a number is read as: the number of the name that is written like it, or the
number itself. -/
theorem readListed_text (hlong : Integer.isTooLong n = false) :
    (∀ m, l.pairs.lookup (Integer.text n) = some m →
        readListed l (Integer.text n) = .ok (.int m)) ∧
      (l.pairs.lookup (Integer.text n) = none → l.type.holds n = true →
        readListed l (Integer.text n) = .ok (.int n)) ∧
      (l.pairs.lookup (Integer.text n) = none → l.type.holds n = false →
        ∃ fault, readListed l (Integer.text n) = .error fault ∧ fault.kind = .conversion) := by
  have htrim : trim (Integer.text n) = Integer.text n := trim_eq_self (Integer.isTrimmed_text n)
  refine ⟨fun m hm => ?_, fun hnone hholds => ?_, fun hnone hholds => ?_⟩
  · rw [readListed, htrim, hm]
  · rw [readListed, htrim, hnone]
    simp only [read_integer, readInteger_text_of_short l.type hlong, if_pos hholds]
  · rw [readListed, htrim, hnone]
    simp only [read_integer, readInteger_text_of_short l.type hlong, hholds]
    exact ⟨_, rfl, rfl⟩

/-! ## Settings -/

/-- A setting of an enumeration whose constraints list the values and name no type. -/
structure IsListed (s : Setting) (cs : List Constraint) (l : ValueList) : Prop where
  dataType : s.dataType = .enumeration
  parsed : s.parsedConstraints.result = .ok cs
  values : valuesConstraint? cs = some l
  typeless : typeConstraint? cs = none

/-- A number is stored as it is written, whatever the list says. -/
theorem result_withValue_of_isListed (h : s.IsListed cs l) (hv : v.unwrapped = .int n) :
    (s.withValue r v).result =
      if Integer.isTooLong n then .error (.plain .longToWrite)
      else .ok { s with value := some (Integer.text n) } := by
  obtain ⟨name, _, constraints, value, displayName, parser⟩ := s
  obtain ⟨rfl, hparsed, -, htypeless⟩ := h
  have hlisted := listedText_of_unwrapped hv
  rw [withValue, Recorded.result_bind hparsed, htypeless]
  split
  · cases hv
  · rw [hlisted]
    split_ifs <;> rfl
  · rename_i hother
    exact absurd rfl (hother rfl)

theorem result_nativeValue_of_isListed (h : s.IsListed cs l) (text : String) :
    ((({ s with value := some text } : Setting).nativeValue r).result) = readListed l text := by
  obtain ⟨name, _, constraints, value, displayName, parser⟩ := s
  obtain ⟨rfl, hparsed, hvalues, htypeless⟩ := h
  have hparsed' : (parsedConstraints ⟨name, .enumeration, constraints, some text, displayName,
      parser⟩).result = .ok cs := hparsed
  rw [nativeValue]
  simp only
  rw [Recorded.result_bind hparsed', hvalues, htypeless]
  rfl

/-- A number that is stored in a setting with a list of values is read back exactly when the list
has it under its own numeral as a name, or has no such name and the number lies in the type of the
list.  Where the name stands for another number that one comes back, and where there is no name a
number outside the type is refused. -/
theorem takesBack_iff (r : Registry) (v : Value) (n : Int) (h : s.IsListed cs l)
    (hv : v.unwrapped = .int n) :
    ((∃ s', (s.withValue r v).result = .ok s') ↔ Integer.isTooLong n = false) ∧
      ∀ s', (s.withValue r v).result = .ok s' →
        ((s'.nativeValue r).result = .ok (.int n) ↔
          l.pairs.lookup (Integer.text n) = some n ∨
            (l.pairs.lookup (Integer.text n) = none ∧ l.type.holds n = true)) ∧
        (∀ m, l.pairs.lookup (Integer.text n) = some m →
          (s'.nativeValue r).result = .ok (.int m)) ∧
        (l.pairs.lookup (Integer.text n) = none → l.type.holds n = false →
          ∃ fault, (s'.nativeValue r).result = .error fault ∧ fault.kind = .conversion) := by
  rw [result_withValue_of_isListed h hv]
  cases hlong : Integer.isTooLong n with
  | true => simp
  | false =>
      refine ⟨by simp, fun s' hs' => ?_⟩
      obtain rfl : { s with value := some (Integer.text n) } = s' := by simpa using hs'
      obtain ⟨hnamed, hheld, hrefused⟩ := readListed_text (l := l) hlong
      rw [result_nativeValue_of_isListed h]
      refine ⟨?_, hnamed, hrefused⟩
      cases hlookup : l.pairs.lookup (Integer.text n) with
      | some m => simp [hnamed m hlookup]
      | none =>
          cases hholds : l.type.holds n with
          | true => simp [hheld hlookup hholds]
          | false =>
              obtain ⟨fault, hfault, -⟩ := hrefused hlookup hholds
              simp [hfault]

/-- A name that is the numeral of another number takes its place. -/
theorem takesBack_iff_numeral :
    let s : Setting := ⟨"mode", .enumeration, "[Values(Int32,1=2,Off=0)]", none, none, none⟩
    let l : ValueList := ⟨.int32, false, [("1", 2), ("Off", 0)]⟩
    s.IsListed [.values (some l)] l ∧ (Value.int 1).unwrapped = .int 1 ∧
      ∃ s', (s.withValue .empty (.int 1)).result = .ok s' ∧
        (s'.nativeValue .empty).result = .ok (.int 2) := by
  intro s l
  have hparsed : (Parser.standard.parse "[Values(Int32,1=2,Off=0)]" .enumeration).result =
      .ok [.values (some ⟨.int32, false, [("1", 2), ("Off", 0)]⟩)] := by rfl
  have h : s.IsListed [.values (some l)] l := ⟨rfl, hparsed, rfl, rfl⟩
  obtain ⟨hstored, hread⟩ := takesBack_iff .empty (.int 1) 1 h rfl
  obtain ⟨s', hs'⟩ := hstored.mpr (by decide +kernel)
  exact ⟨h, rfl, s', hs', (hread s' hs').2.1 2 (by decide +kernel)⟩

/-- A number outside the integer type of the list is stored and cannot be read. -/
theorem not_takesBack_outside :
    ¬ ∀ (r : Registry) (s s' : Setting) (cs : List Constraint) (l : ValueList) (v : Value)
      (n : Int), s.IsListed cs l → v.unwrapped = .int n → (s.withValue r v).result = .ok s' →
        (s'.nativeValue r).result = .ok (.int n) := by
  intro hall
  have hparsed : (Parser.standard.parse "[Values(Byte,On=1)]" .enumeration).result =
      .ok [.values (some ⟨.byte, false, [("On", 1)]⟩)] := by rfl
  have h : IsListed ⟨"mode", .enumeration, "[Values(Byte,On=1)]", none, none, none⟩
      [.values (some ⟨.byte, false, [("On", 1)]⟩)] ⟨.byte, false, [("On", 1)]⟩ :=
    ⟨rfl, hparsed, rfl, rfl⟩
  have hlong : Integer.isTooLong 300 = false := by decide +kernel
  have hstored := result_withValue_of_isListed (r := .empty) (v := .int 300) h rfl
  simp only [hlong, Bool.false_eq_true, if_false] at hstored
  have hnative := hall _ _ _ _ _ _ 300 h rfl hstored
  obtain ⟨fault, hfault, -⟩ := (readListed_text (l := ⟨.byte, false, [("On", 1)]⟩) hlong).2.2
    (by decide +kernel) (by decide +kernel)
  rw [result_nativeValue_of_isListed h, hfault] at hnative
  cases hnative

end ParamRules.Setting
