import ParamRules.Conversion
import ParamRules.Proofs.Number.Decimal
import ParamRules.Proofs.Time.Moment
import ParamRules.Proofs.Version

/-!
# Bounds read back from their texts

A bound that was read can be written and read again.  `Bound.IsReadable` says of each ordered type
what a value needs for that: an integer lies in the range of its type, a decimal has no positive
exponent, a moment is one of the calendar with a known distance from universal time, a duration is
in range, and the parts of a version are.  Reading gives bounds of this form only
(`isReadable_of_read`), and all of them are read back (`read_text_of_isReadable`).
-/

namespace ParamRules

open Text Conversion

/-- Whether a bound is one that a text of its data type can give. -/
def Bound.IsReadable : Bound → Prop
  | .amount (.integer t n) => t.holds n = true
  | .amount (.decimal d) => d.IsPlain
  | .moment m => m.isValid = true ∧ m.offset.isSome = true
  | .duration d => Duration.ofMicros? d.micros = some d
  | .version v => v.IsValid

namespace Conversion

variable {hint : Hint} {t : DataType} {s : String} {v : Value} {b : Bound} {a : Amount}

/-! ## Readers of one type -/

theorem readInteger_eq_ok {type : IntegerType} (h : readInteger type s = .ok v) :
    ∃ n, v = .int n ∧ type.holds n = true := by
  simp only [readInteger] at h
  split at h
  · simp at h
  · split at h
    · cases h
    · rename_i n _
      split_ifs at h with hholds
      · cases h
        exact ⟨n, rfl, hholds⟩

/-- The text of a number is read as that number, or refused as one outside the type. -/
theorem readInteger_text_of_short {n : Int} (type : IntegerType)
    (hlong : Integer.isTooLong n = false) :
    readInteger type (Integer.text n) =
      if type.holds n then .ok (.int n)
      else .error (.conversion (.integer type) (.text (Integer.text n))
        (.outside (Integer.text n)) none) := by
  rw [readInteger, trimChars_eq_self (Integer.isTrimmed_text n), Integer.plainDigits?_text]
  simp only [Integer.ofPlainDigits_toDigits hlong]

theorem readInteger_text {type : IntegerType} {n : Int} (h : type.holds n = true) :
    readInteger type (Integer.text n) = .ok (.int n) := by
  rw [readInteger_text_of_short type (Integer.isTooLong_of_holds h), if_pos h]

theorem readMoment_eq_ok {s : List Char} {m : Moment} (h : readMoment s = .ok m) :
    m.isValid = true ∧ m.offset.isSome = true := by
  unfold readMoment at h
  split at h
  · cases h
  · rename_i hread
    split_ifs at h with hnone
    cases h
    exact ⟨Moment.isValid_of_read? hread, by simpa [Option.isSome_iff_ne_none] using hnone⟩

theorem readMoment_text {m : Moment} (h : m.isValid = true) (hoffset : m.offset.isSome = true) :
    readMoment m.text.toList = .ok m := by
  have hnone : ¬ m.offset.isNone = true := by simpa [Option.isSome_iff_ne_none] using hoffset
  simp only [readMoment, Moment.read?_text h, if_neg hnone]

/-! ## Reading by data type -/

theorem read_integer (type : IntegerType) : read hint (.integer type) s = readInteger type s := rfl

theorem read_decimal_map :
    read hint .decimal s =
      match (Decimal.readPlain? (trimChars s.toList)).map Value.decimal with
      | some v => .ok v
      | none => .error (.conversion .decimal (.text s) .impossible none) := rfl

theorem read_decimal :
    read hint .decimal s =
      match Decimal.readPlain? (trimChars s.toList) with
      | some d => .ok (.decimal d)
      | none => .error (.conversion .decimal (.text s) .impossible none) := by
  rw [read_decimal_map]
  cases Decimal.readPlain? (trimChars s.toList) <;> rfl

theorem read_dateTimeOffset :
    read hint .dateTimeOffset s =
      match readMoment (trimChars s.toList) with
      | .ok m => .ok (.moment m)
      | .error problem => .error (.conversion .dateTimeOffset (.text s) problem none) := rfl

theorem read_timeSpan :
    read hint .timeSpan s =
      match Duration.read (trimChars s.toList) with
      | .ok d => .ok (.duration d)
      | .error .malformed => .error (.conversion .timeSpan (.text s) .impossible none)
      | .error .outOfRange => .error (.plain .durationRange) := rfl

theorem read_version :
    read hint .version s =
      match Version.read s.toList with
      | .ok v => .ok (.version v)
      | .error _ => .error (.conversion .version (.text s) .impossible none) := rfl

/-! ## Values as amounts and bounds -/

theorem amountOf?_eq_some_iff : amountOf? t v = some a ↔ a.dataType = t ∧ a.value = v := by
  constructor
  · intro h
    unfold amountOf? at h
    split at h <;> cases h <;> exact ⟨rfl, rfl⟩
  · rintro ⟨rfl, rfl⟩
    cases a <;> rfl

theorem boundOf?_eq_some_iff : boundOf? t v = some b ↔ b.dataType = t ∧ b.value = v := by
  constructor
  · intro h
    unfold boundOf? at h
    split at h
    · cases h
      exact ⟨rfl, rfl⟩
    · cases h
      exact ⟨rfl, rfl⟩
    · cases h
      exact ⟨rfl, rfl⟩
    · obtain ⟨a, ha, rfl⟩ := Option.map_eq_some_iff.mp h
      exact amountOf?_eq_some_iff.mp ha
  · rintro ⟨rfl, rfl⟩
    cases b with
    | amount a => cases a <;> rfl
    | moment m => rfl
    | duration d => rfl
    | version v => rfl

/-! ## Bounds -/

theorem isReadable_of_read (h : read hint b.dataType s = .ok b.value) : b.IsReadable := by
  cases b with
  | amount a =>
      cases a with
      | integer t n =>
          rw [Bound.dataType, Amount.dataType, read_integer] at h
          obtain ⟨m, hm, hholds⟩ := readInteger_eq_ok h
          cases hm
          exact hholds
      | decimal d =>
          rw [Bound.dataType, Amount.dataType, read_decimal] at h
          split at h
          · rename_i hd
            cases h
            exact Decimal.isPlain_of_readPlain? hd
          · simp at h
  | moment m =>
      rw [Bound.dataType, read_dateTimeOffset] at h
      split at h
      · rename_i hm
        cases h
        exact readMoment_eq_ok hm
      · simp at h
  | duration d =>
      rw [Bound.dataType, read_timeSpan] at h
      split at h
      · rename_i hd
        cases h
        exact Duration.ofMicros?_of_read hd
      · simp at h
      · simp at h
  | version v =>
      rw [Bound.dataType, read_version] at h
      split at h
      · rename_i hv
        cases h
        exact Version.isValid_of_read hv
      · simp at h

/-- A bound is read back from its text. -/
theorem read_text_of_isReadable (h : b.IsReadable) :
    read hint b.dataType b.text = .ok b.value := by
  cases b with
  | amount a =>
      cases a with
      | integer t n => exact (read_integer t).trans (readInteger_text h)
      | decimal d =>
          have htrimmed := isTrimmed_of_forall (Decimal.isBlank_of_mem_plainText h)
          rw [Bound.dataType, Amount.dataType, read_decimal, Bound.text, Amount.text,
            trimChars_eq_self htrimmed, Decimal.readPlain?_plainText h]
          rfl
  | moment m =>
      have htrimmed := isTrimmed_of_forall (Moment.isBlank_of_mem_text m)
      rw [Bound.dataType, read_dateTimeOffset, Bound.text, trimChars_eq_self htrimmed,
        readMoment_text h.1 h.2]
      rfl
  | duration d =>
      have htrimmed := isTrimmed_of_forall (Duration.isBlank_of_mem_text d)
      rw [Bound.dataType, read_timeSpan, Bound.text, trimChars_eq_self htrimmed,
        Duration.read_text h]
      rfl
  | version v =>
      rw [Bound.dataType, read_version, Bound.text, Version.read_text h]
      rfl

end Conversion

end ParamRules
