import ParamRules.Proofs.Base64
import ParamRules.Proofs.Conversion.Bounds
import ParamRules.Proofs.Conversion.Coerced
import ParamRules.Proofs.Guid

/-!
# Written values are read back

A value that a data type takes has a written form, and the reader of the type gives back from it
the form that `coerce` gives the value.  This holds of every type but the enumerations, whose
members are written by names that may be shared, and the two kinds of texts that are checked only
when they are read.  Of a decimal the number is given back, as a positive exponent is written out.
-/

namespace ParamRules

open Text

/-- Whether a value is one that can be built: the fields of a moment are those of a day and a time
of day, and durations and versions are in range. -/
def Value.IsProper : Value → Prop
  | .moment m => m.isValid = true
  | .duration d => Duration.ofMicros? d.micros = some d
  | .version v => v.IsValid
  | _ => True

/-- Values that are equal to their users: decimals that stand for the same number, texts with the
same characters though one may be a member of an enumeration, and whatever is the same. -/
inductive Value.Same : Value → Value → Prop where
  | number {d e : Decimal} {q : ℚ} :
      d.number? = some q → e.number? = some q → Same (.decimal d) (.decimal e)
  | text {v w : Value} {s : String} : v.text? = some s → w.text? = some s → Same v w
  | refl (v : Value) : Same v v

namespace Conversion

variable {hint : Hint} {t : DataType} {s : String} {v w : Value}

/-! ## Readers of one type -/

theorem read_guid_map {g? : Option Guid}
    (h : Guid.read? (String.ofList (trimChars s.toList)) = g?) :
    read hint .guid s =
      match g?.map Value.guid with
      | some v => .ok v
      | none => .error (.conversion .guid (.text s) .impossible none) := by
  unfold read
  extract_lets refuse body given
  have hbody : Guid.read? (String.ofList body) = g? := h
  calc given ((Guid.read? (String.ofList body)).map .guid)
      = given (g?.map .guid) := by rw [hbody]
    _ = _ := rfl

/-- The written form of a value that has the form of its type and is no member of an enumeration:
texts are written as they are. -/
def lexicalText (w : Value) : String :=
  w.text?.getD (nativeText w)

theorem isUnwritable_of_coerced (h : Coerced t v w) (htext : w.text? = none) :
    isUnwritable w = false := by
  cases h with
  | text _ hs => cases htext.symm.trans hs
  | _ => rfl

theorem write_eq_ok (hnone : t ≠ .none) (henum : t ≠ .enumeration) (h : coerce hint t v = .ok w) :
    write hint t v = .ok (lexicalText w) := by
  have hcoerced := coerced_of_coerce henum h
  simp only [write, if_neg hnone, h, lexicalText, bind, Except.bind, pure, Except.pure]
  split
  · exact absurd rfl henum
  · rename_i htext
    rw [isUnwritable_of_coerced hcoerced htext, htext, Option.getD_none]
    rfl
  · rename_i htext
    rw [htext, Option.getD_some]

theorem lexicalText_value (b : Bound) : lexicalText b.value = b.text := by
  cases b with
  | amount a => cases a <;> rfl
  | moment m => rfl
  | duration d => rfl
  | version a => rfl

end Conversion

end ParamRules
