import ParamRules.Proofs.Constraint.Configured

/-!
# What configuring fails with

A parser takes the faults of values and of types for refusals of the parameters, and reports them as
faults of its own.  All faults of the readers are of these kinds except two, which are overflows:
that of a bound that is a duration out of range, and that of a pattern with a repeat count that is
too large.  Each reader is gone through once, with what it fails with.
-/

namespace ParamRules

open Text Result Conversion

namespace Fault

/-- Whether a fault is one of values or of types. -/
def IsRefusal (fault : Fault) : Prop :=
  fault.kind.isValueOrType = true

instance : DecidablePred IsRefusal :=
  fun fault => inferInstanceAs (Decidable (fault.kind.isValueOrType = true))

theorem isRefusal_mk_parameters (name : Option String) (problem : ParameterProblem)
    (code : ErrorCode) (cause : Option Fault) :
    (Fault.mk (.parameters name problem code) cause).IsRefusal := rfl

@[simp] theorem isRefusal_inParameters (name : String) (problem : ParameterProblem) :
    (inParameters name problem).IsRefusal := rfl

@[simp] theorem isRefusal_plain_dataType (name : String) (t : DataType) (problem : TypeProblem)
    (code : ErrorCode) : (plain (.dataType name t problem code)).IsRefusal := rfl

/-- The fault of a conversion is one, unless the value cannot be written. -/
theorem conversion_cases (t : DataType) (v : Value) (problem : ConversionProblem)
    (cause : Option Fault) :
    (conversion t v problem cause).kind = .conversion ∨
      conversion t v problem cause = .plain .longToWrite := by
  have hwritten : (if v.isTooLong then Fault.plain .longToWrite
      else .mk (.conversion t v problem) cause).kind = .conversion ∨
      (if v.isTooLong then Fault.plain .longToWrite
      else .mk (.conversion t v problem) cause) = .plain .longToWrite := by
    split_ifs
    · exact .inr rfl
    · exact .inl rfl
  unfold conversion
  split
  all_goals first | exact hwritten | exact .inl rfl

@[simp] theorem isRefusal_conversion (t : DataType) (v : Value) (problem : ConversionProblem)
    (cause : Option Fault) : (conversion t v problem cause).IsRefusal := by
  rcases conversion_cases t v problem cause with h | h
  · rw [IsRefusal, h]
    rfl
  · rw [h]
    rfl

@[simp] theorem isRefusal_ofNumber (fault : Integer.ReadFault) : (ofNumber fault).IsRefusal := by
  cases fault <;> rfl

end Fault

open Fault

namespace Constraint

variable {name : String} {t : DataType} {ps : List String} {c : Constraint} {fault : Fault}

theorem failsWith_single : FailsWith IsRefusal (single name ps) := by
  unfold single
  split <;> simp

theorem failsWith_orInvalid {P : Fault → Prop} {p : String} {result : Except Fault Value}
    (hP : ∀ fault, fault.IsRefusal → P fault) (h : FailsWith P result) :
    FailsWith P (orInvalid name p result) := by
  unfold orInvalid
  split
  · simp
  · split_ifs
    · exact failsWith_error.mpr (hP _ (isRefusal_mk_parameters _ _ _ _))
    · exact h

/-! ## Bounds -/

/-- The overflow of a text that is read as a value of a type: it is a duration out of range. -/
def IsDurationOverflow (t : DataType) (text : String) (fault : Fault) : Prop :=
  t = .timeSpan ∧ Duration.read (trimChars text.toList) = .error .outOfRange ∧
    fault = .plain .durationRange

theorem failsWith_readInteger (type : IntegerType) (text : String) :
    FailsWith IsRefusal (readInteger type text) := by
  unfold readInteger
  simp only
  split
  · simp
  · split
    · simp
    · split_ifs <;> simp

theorem failsWith_read (h : t.isOrdered = true) (text : String) :
    FailsWith (fun fault => fault.IsRefusal ∨ IsDurationOverflow t text fault)
      (read none t text) := by
  cases t with
  | integer type => exact (failsWith_readInteger type text).or_left
  | decimal =>
      rw [read_decimal]
      split
      · simp
      · simp
  | dateTimeOffset =>
      rw [read_dateTimeOffset]
      split
      · simp
      · simp
  | timeSpan =>
      rw [read_timeSpan]
      split
      · simp
      · simp
      · rename_i hread
        exact failsWith_error.mpr (.inr ⟨rfl, hread, rfl⟩)
  | version =>
      rw [read_version]
      split
      · simp
      · simp
  | _ => cases h

theorem failsWith_readParameter (h : t.isOrdered = true) :
    FailsWith (fun fault => fault.IsRefusal ∨ ∃ text, ps = [text] ∧ IsDurationOverflow t text fault)
      (readParameter name t ps) := by
  refine failsWith_single.or_left.bind fun text htext => ?_
  refine failsWith_orInvalid (fun _ => .inl) ((failsWith_read h text).mono fun fault hfault => ?_)
  exact hfault.imp_right fun hover => ⟨text, single_eq_ok_iff.mp htext, hover⟩

theorem failsWith_readBound (h : t.isOrdered = true) :
    FailsWith (fun fault => fault.IsRefusal ∨ ∃ text, ps = [text] ∧ IsDurationOverflow t text fault)
      (readBound name t ps) := by
  refine (failsWith_readParameter h).bind fun v _ => ?_
  split <;> simp

/-- Types with steps have no durations. -/
theorem failsWith_readParameter_of_isStepped (h : t.isStepped = true) :
    FailsWith IsRefusal (readParameter name t ps) := by
  have hordered : t.isOrdered = true := by cases t <;> first | rfl | cases h
  refine (failsWith_readParameter hordered).mono fun fault hfault => ?_
  rcases hfault with hfault | ⟨text, -, rfl, -⟩
  · exact hfault
  · cases h

theorem failsWith_readAmount (h : t.isStepped = true) :
    FailsWith IsRefusal (readAmount name t ps) := by
  refine (failsWith_readParameter_of_isStepped h).bind fun v _ => ?_
  split <;> simp

theorem failsWith_readPlaces : FailsWith IsRefusal (readPlaces name ps) := by
  refine (failsWith_readParameter_of_isStepped rfl).bind fun v _ => ?_
  split
  · split_ifs <;> simp
  · simp

theorem failsWith_readLength : FailsWith IsRefusal (readLength name ps) := by
  refine failsWith_single.bind fun p _ => ?_
  split
  · simp
  · split_ifs <;> simp

/-! ## Texts -/

theorem failsWith_readHints : FailsWith IsRefusal (readHints name ps) := by
  unfold readHints
  split_ifs
  · simp
  · split <;> simp

theorem failsWith_readSchemes : FailsWith IsRefusal (readSchemes name ps) := by
  unfold readSchemes
  split_ifs <;> simp

theorem failsWith_readTypeName : FailsWith IsRefusal (readTypeName name ps) := by
  refine failsWith_single.bind fun p _ => ?_
  split_ifs <;> simp

/-! ## Values -/

theorem failsWith_readPair (pair : String) : FailsWith IsRefusal (readPair name pair) := by
  unfold readPair
  split
  · split_ifs
    · simp
    · split <;> simp
  · simp

theorem failsWith_readPairs (type : IntegerType) (read : List (String × Int)) :
    FailsWith IsRefusal (readPairs name type ps read) := by
  induction ps generalizing read with
  | nil => simp [readPairs]
  | cons pair r ih =>
      refine (failsWith_readPair pair).bind fun entry _ => ?_
      obtain ⟨key, n⟩ := entry
      simp only
      split_ifs
      · exact ih _
      · simp

theorem failsWith_readValues : FailsWith IsRefusal (readValues name ps) := by
  unfold readValues
  split
  · split
    · simp
    · rename_i typeText first rest _ type _
      simp only
      generalize (if decide (trim first = "Flags") = true then rest else first :: rest) = pairs
      split_ifs
      · exact failsWith_error.mpr (isRefusal_inParameters _ _)
      · exact (failsWith_readPairs _ _).bind fun _ _ => failsWith_ok _
    · simp
  · simp

/-! ## Patterns -/

theorem ofPattern_eq_error_iff {pattern : String} {options : List RegexOption}
    {refusal : Pattern.Refusal} :
    Expression.ofPattern pattern options = .error refusal ↔
      Pattern.compile pattern (RegexOption.patternOptions options) = .error refusal := by
  unfold Expression.ofPattern
  split
  · rename_i hcompile
    simp [hcompile]
  · rename_i hcompile
    simp [hcompile]

/-- The overflow of parameters that are read as a pattern with its options: a repeat count is too
large. -/
def IsRepeatOverflow (ps : List String) (fault : Fault) : Prop :=
  ∃ pattern raw options, ps = pattern :: raw ∧ isAllBlank pattern = false ∧
    OptionNames raw options ∧
    Pattern.compile pattern (RegexOption.patternOptions (RegexOption.normalized options)) =
      .error .tooManyRepeats ∧
    fault = .plain .repeatRange

theorem failsWith_readExpression :
    FailsWith (fun fault => fault.IsRefusal ∨ IsRepeatOverflow ps fault)
      (readExpression name ps) := by
  cases ps with
  | nil => simp [readExpression]
  | cons pattern raw =>
      rw [readExpression]
      by_cases hblank : isAllBlank pattern = true
      · rw [if_pos hblank]
        exact FailsWith.bind (by simp) fun _ h => by cases h
      · rw [if_neg hblank]
        refine FailsWith.bind (.mapM fun r _ => ?_) fun options hraw => ?_
        · split <;> simp
        · split
          · simp
          · rename_i refusal hrefusal
            refine failsWith_error.mpr ?_
            cases refusal with
            | tooManyRepeats =>
                exact .inr ⟨pattern, raw, options, rfl, by simpa using hblank,
                  mapM_ofName?_eq_ok_iff.mp hraw, ofPattern_eq_error_iff.mp hrefusal, rfl⟩
            | malformed | conflictingClasses | tooManyDigits digits => exact .inl rfl

/-- The overflows of the parameters of a constraint, by its name. -/
inductive Overflows : DataType → String → List String → Fault → Prop where
  /-- A bound is a duration out of range. -/
  | duration {t : DataType} {name text : String} {fault : Fault}
      (hname : name = "MinValue" ∨ name = "MaxValue") (h : IsDurationOverflow t text fault) :
      Overflows t name [text] fault
  /-- A repeat count of a pattern is too large. -/
  | repeats {ps : List String} {fault : Fault} (h : IsRepeatOverflow ps fault) :
      Overflows .string "Regex" ps fault

theorem failsWith_configure (hc : c.isCustom = false) :
    FailsWith (fun fault => fault.IsRefusal ∨ Overflows t c.name ps fault) (c.configure t ps) := by
  unfold configure
  split_ifs with hnone hfor
  · exact failsWith_error.mpr (.inl rfl)
  · exact failsWith_error.mpr (.inl rfl)
  · have hfor : c.isConfiguredFor t = true := by simpa using hfor
    cases c with
    | null | encrypted | readOnly | lowercase | uppercase | password | host | endpoint | fileName
    | path => exact failsWith_ok _
    | displayHint hints => exact failsWith_readHints.map.or_left
    | database e k d =>
        simp only
        split <;> simp
    | length n | minLength n | maxLength n => exact failsWith_readLength.map.or_left
    | minValue bound | maxValue bound =>
        refine ((failsWith_readBound hfor).mono fun fault hfault => ?_).map
        refine hfault.imp_right ?_
        rintro ⟨text, rfl, hover⟩
        exact .duration (by simp [Constraint.name]) hover
    | step size => exact (failsWith_readAmount hfor).map.or_left
    | decimalPlaces n => exact failsWith_readPlaces.map.or_left
    | charSet set =>
        refine failsWith_single.or_left.bind fun p _ => ?_
        split <;> simp
    | regex expression =>
        -- Only texts have patterns, so the overflow is one of texts.
        obtain rfl : t = .string := by simpa [isConfiguredFor] using hfor
        exact (failsWith_readExpression.mono fun fault hfault => hfault.imp_right .repeats).map
    | allowedScheme schemes => exact failsWith_readSchemes.map.or_left
    | typeName typeName | enumType typeName => exact failsWith_readTypeName.map.or_left
    | values list => exact failsWith_readValues.map.or_left
    | custom rule kept => cases hc

end Constraint

end ParamRules
