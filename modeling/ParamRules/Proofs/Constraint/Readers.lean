import ParamRules.Constraint.Configure
import ParamRules.Constraint.Written
import ParamRules.Proofs.Conversion.Bounds
import ParamRules.Proofs.Result

/-!
# Readers of parameters keep what they gave

Each reader makes something of the parameters of a constraint, and that something is written as
parameters again.  A reader need not give back the parameters that it took, since white space,
leading zeros and the order of options are lost, but it gives the same result for what is written.
-/

namespace ParamRules.Constraint

open Text Result Conversion

variable {name : String} {t : DataType} {ps : List String}

theorem single_eq_ok_iff {p : String} : single name ps = .ok p ↔ ps = [p] := by
  unfold single
  split
  · simp [eq_comm]
  · rename_i hne
    constructor
    · exact nofun
    · rintro rfl
      exact absurd rfl (hne p)

theorem orInvalid_eq_ok_iff {p : String} {result : Except Fault Value} {v : Value} :
    orInvalid name p result = .ok v ↔ result = .ok v := by
  unfold orInvalid
  split
  · simp
  · split <;> simp

/-! ## Numbers and bounds -/

theorem readLength_natText {n : Nat} (h : readLength name ps = .ok n) :
    readLength name [Integer.natText n] = .ok n := by
  obtain ⟨p, -, h⟩ := bind_eq_ok_iff.mp h
  split at h
  · cases h
  · rename_i m hm
    split_ifs at h with hneg
    cases h
    have hlong := Integer.isTooLong_of_read hm
    obtain ⟨n, rfl⟩ := Int.eq_ofNat_of_zero_le (Int.not_lt.mp hneg)
    have htrim : trim (Integer.natText n) = Integer.natText n := by
      rw [← Integer.text_natCast]
      exact trim_eq_self (Integer.isTrimmed_text n)
    rw [readLength, single_eq_ok_iff.mpr rfl]
    simp only [bind, Except.bind, Int.toNat_natCast, htrim, Integer.read_natText hlong, if_neg hneg]

theorem readParameter_eq_ok_iff {v : Value} :
    readParameter name t ps = .ok v ↔ ∃ p, ps = [p] ∧ read none t p = .ok v := by
  rw [readParameter, bind_eq_ok_iff]
  simp only [single_eq_ok_iff, orInvalid_eq_ok_iff]

/-- A parameter is read for what its value stands for, with the type and the value of that. -/
theorem exists_readParameter_iff {β : Type} {of? : Value → Option β} {type : β → DataType}
    {value : β → Value} {b : β} (hof : ∀ v, of? v = some b ↔ type b = t ∧ value b = v) :
    (∃ v, readParameter name t ps = .ok v ∧ of? v = some b) ↔
      ∃ p, ps = [p] ∧ type b = t ∧ read none (type b) p = .ok (value b) := by
  simp only [readParameter_eq_ok_iff, hof]
  constructor
  · rintro ⟨_, ⟨p, hp, hv⟩, rfl, rfl⟩
    exact ⟨p, hp, rfl, hv⟩
  · rintro ⟨p, hp, rfl, hv⟩
    exact ⟨value b, ⟨p, hp, hv⟩, rfl, rfl⟩

theorem readBound_eq_ok_iff {b : Bound} :
    readBound name t ps = .ok b ↔
      ∃ p, ps = [p] ∧ b.dataType = t ∧ read none b.dataType p = .ok b.value := by
  rw [readBound, bind_eq_ok_iff, ← exists_readParameter_iff fun _ => boundOf?_eq_some_iff]
  refine exists_congr fun v => and_congr_right fun _ => ?_
  cases boundOf? t v <;> simp

theorem readBound_text {b : Bound} (h : readBound name t ps = .ok b) :
    readBound name t [b.text] = .ok b := by
  obtain ⟨p, -, ht, hread⟩ := readBound_eq_ok_iff.mp h
  exact readBound_eq_ok_iff.mpr
    ⟨b.text, rfl, ht, read_text_of_isReadable (isReadable_of_read hread)⟩

theorem readAmount_eq_ok_iff {a : Amount} :
    readAmount name t ps = .ok a ↔
      ∃ p, ps = [p] ∧ a.dataType = t ∧ read none a.dataType p = .ok a.value := by
  rw [readAmount, bind_eq_ok_iff, ← exists_readParameter_iff fun _ => amountOf?_eq_some_iff]
  refine exists_congr fun v => and_congr_right fun _ => ?_
  cases amountOf? t v <;> simp

theorem readAmount_text {a : Amount} (h : readAmount name t ps = .ok a) :
    readAmount name t [a.text] = .ok a := by
  obtain ⟨p, -, ht, hread⟩ := readAmount_eq_ok_iff.mp h
  exact readAmount_eq_ok_iff.mpr
    ⟨a.text, rfl, ht, read_text_of_isReadable (b := .amount a) (isReadable_of_read hread)⟩

theorem holds_of_readPlaces {n : Nat} (h : readPlaces name ps = .ok n) :
    IntegerType.int32.holds n = true := by
  obtain ⟨v, hv, h⟩ := bind_eq_ok_iff.mp h
  obtain ⟨p, -, hread⟩ := readParameter_eq_ok_iff.mp hv
  rw [read_integer] at hread
  obtain ⟨m, rfl, hholds⟩ := readInteger_eq_ok hread
  simp only at h
  split_ifs at h with hneg
  obtain rfl : m.toNat = n := Except.ok.inj h
  rw [Int.toNat_of_nonneg (Int.not_lt.mp hneg)]
  exact hholds

theorem readPlaces_of_holds {n : Nat} (h : IntegerType.int32.holds n = true) :
    readPlaces name [Integer.natText n] = .ok n := by
  have hwritten : readParameter name .int32 [Integer.natText n] = .ok (.int n) := by
    rw [← Integer.text_natCast]
    exact readParameter_eq_ok_iff.mpr ⟨_, rfl, (read_integer _).trans (readInteger_text h)⟩
  rw [readPlaces, hwritten]
  simp [bind, Except.bind]

theorem readPlaces_natText {n : Nat} (h : readPlaces name ps = .ok n) :
    readPlaces name [Integer.natText n] = .ok n :=
  readPlaces_of_holds (holds_of_readPlaces h)

/-! ## Texts -/

theorem readHints_eq_ok {hints : List String} (h : readHints name ps = .ok hints) :
    hints = ps := by
  unfold readHints at h
  split_ifs at h
  split at h
  · cases h
  · cases h
    rfl

theorem readTypeName_trimmed {typeName : String} (h : readTypeName name ps = .ok typeName) :
    readTypeName name [typeName] = .ok typeName := by
  obtain ⟨p, -, h⟩ := bind_eq_ok_iff.mp h
  split_ifs at h with hblank
  cases h
  rw [readTypeName, single_eq_ok_iff.mpr rfl]
  simp only [bind, Except.bind, isAllBlank_trim, if_neg hblank, trim_idem]

theorem readSchemes_trimmed {schemes : List String} (h : readSchemes name ps = .ok schemes) :
    readSchemes name schemes = .ok schemes := by
  unfold readSchemes at h ⊢
  split_ifs at h with hblank
  cases h
  simp only [List.isEmpty_map, List.any_map, Function.comp_def, isAllBlank_trim,
    if_neg hblank, List.map_map, trim_idem]

theorem ofName?_trim_characterSet (set : CharacterSet) :
    CharacterSet.ofName? (trim set.name) = some set := by
  cases set <;> decide +kernel

/-! ## Patterns -/

theorem ofName?_trim_option (option : RegexOption) :
    RegexOption.ofName? (trim option.name) = some option := by
  cases option <;> decide +kernel

theorem normalized_normalized (options : List RegexOption) :
    RegexOption.normalized (RegexOption.normalized options) = RegexOption.normalized options := by
  unfold RegexOption.normalized
  refine List.filter_congr fun option hoption => ?_
  rw [Bool.eq_iff_iff, List.contains_iff_mem, List.contains_iff_mem, List.mem_filter,
    List.contains_iff_mem]
  exact and_iff_right hoption

theorem ofPattern_eq_ok {pattern : String} {options : List RegexOption} {e : Expression}
    (h : Expression.ofPattern pattern options = .ok e) :
    e.pattern = pattern ∧ e.options = options := by
  unfold Expression.ofPattern at h
  split at h
  · cases h
    exact ⟨rfl, rfl⟩
  · cases h

/-- Options by their names, with white space around them. -/
def OptionNames (raw : List String) (options : List RegexOption) : Prop :=
  List.Forall₂ (fun r option => RegexOption.ofName? (trim r) = some option) raw options

theorem optionNames_map_name (options : List RegexOption) :
    OptionNames (options.map RegexOption.name) options := by
  induction options with
  | nil => exact .nil
  | cons option options ih => exact .cons (ofName?_trim_option option) ih

theorem mapM_ofName?_eq_ok_iff {raw : List String} {options : List RegexOption}
    {fault : String → Fault} :
    (raw.mapM fun r =>
      match RegexOption.ofName? (trim r) with
      | some o => Except.ok o
      | none => .error (fault r)) = .ok options ↔ OptionNames raw options := by
  have hstep : ∀ (r : String) (option : RegexOption),
      (match RegexOption.ofName? (trim r) with
        | some o => Except.ok o
        | none => .error (fault r)) = .ok option ↔
      RegexOption.ofName? (trim r) = some option := by
    intro r option
    cases RegexOption.ofName? (trim r) <;> simp
  rw [mapM_eq_ok_iff, OptionNames]
  simp only [hstep]

theorem match_ofPattern_eq_ok_iff {pattern : String} {options : List RegexOption}
    {malformed : Fault} {e : Expression} :
    (match Expression.ofPattern pattern options with
      | .ok e => Except.ok e
      | .error refusal => .error (patternFault malformed refusal)) = .ok e ↔
      Expression.ofPattern pattern options = .ok e := by
  cases Expression.ofPattern pattern options <;> simp

theorem readExpression_eq_ok_iff {e : Expression} :
    readExpression name ps = .ok e ↔
      ∃ pattern raw options, ps = pattern :: raw ∧ isAllBlank pattern = false ∧
        OptionNames raw options ∧
        Expression.ofPattern pattern (RegexOption.normalized options) = .ok e := by
  cases ps with
  | nil => simp [readExpression]
  | cons pattern raw =>
      rw [readExpression]
      by_cases hblank : isAllBlank pattern = true
      · rw [if_pos hblank]
        constructor
        · intro h
          cases h
        · rintro ⟨pattern', raw', options, heq, hfalse, -⟩
          cases heq
          rw [hblank] at hfalse
          cases hfalse
      · rw [if_neg hblank]
        constructor
        · intro h
          obtain ⟨options, hraw, h⟩ := bind_eq_ok_iff.mp h
          exact ⟨pattern, raw, options, rfl, by simpa using hblank,
            mapM_ofName?_eq_ok_iff.mp hraw, match_ofPattern_eq_ok_iff.mp h⟩
        · rintro ⟨pattern', raw', options, heq, -, hraw, he⟩
          cases heq
          exact bind_eq_ok_iff.mpr
            ⟨options, mapM_ofName?_eq_ok_iff.mpr hraw, match_ofPattern_eq_ok_iff.mpr he⟩

theorem readExpression_parameters {e : Expression} (h : readExpression name ps = .ok e) :
    readExpression name (e.pattern :: e.options.map RegexOption.name) = .ok e := by
  obtain ⟨pattern, raw, options, -, hblank, -, he⟩ := readExpression_eq_ok_iff.mp h
  obtain ⟨hpattern, hoptions⟩ := ofPattern_eq_ok he
  rw [hpattern, hoptions]
  exact readExpression_eq_ok_iff.mpr ⟨pattern, _, RegexOption.normalized options, rfl, hblank,
    optionNames_map_name _, by rw [normalized_normalized, he]⟩

end ParamRules.Constraint
