import ParamRules.Conversion
import ParamRules.Proofs.Constraint.Refusals

/-!
# Values in the form of their type

What `coerce` accepts for each data type, and what it makes of it, without the order in which it
looks.  Enumerations apart, no hint has a part in it.  What it refuses it refuses with a fault of
conversion, but for values that are too long to be written.
-/

namespace ParamRules.Conversion

/-- A value and its form as a value of a data type that is no enumeration. -/
inductive Coerced : DataType → Value → Value → Prop where
  | integer {type : IntegerType} {v : Value} {n : Int} :
      v.integer? = some n → type.holds n = true → Coerced (.integer type) v (.int n)
  | bool (b : Bool) : Coerced .bool (.bool b) (.bool b)
  | bytes (bs : List UInt8) : Coerced .bytes (.bytes bs) (.bytes bs)
  | buffer (bs : List UInt8) : Coerced .bytes (.buffer bs) (.bytes bs)
  | moment {m : Moment} : m.offset.isSome = true →
      Coerced .dateTimeOffset (.moment m) (.moment m)
  | decimal {d : Decimal} : d.isFinite = true → Coerced .decimal (.decimal d) (.decimal d)
  /-- An integer as a decimal. -/
  | whole {v : Value} {n : Int} : v.integer? = some n → Coerced .decimal v (.decimal (.ofInt n))
  | guid (g : Guid) : Coerced .guid (.guid g) (.guid g)
  | duration (d : Duration) : Coerced .timeSpan (.duration d) (.duration d)
  | version (a : Version) : Coerced .version (.version a) (.version a)
  | text {t : DataType} {v : Value} {s : String} : t = .string ∨ t = .uri ∨ t = .xml →
      v.text? = some s → Coerced t v v

variable {hint : Hint} {t : DataType} {v w : Value} {fault : Fault}

/-- A value has a form as a value of a data type that is no enumeration, or is refused as one that
has none. -/
theorem coerce_cases (hint : Hint) (ht : t ≠ .enumeration) (v : Value) :
    (∃ w, coerce hint t v = .ok w ∧ Coerced t v w) ∨
      ∃ problem, coerce hint t v = .error (.conversion t v problem none) := by
  unfold coerce
  simp only
  split
  case h_2 =>
    cases hn : v.integer? with
    | none => exact .inr ⟨_, rfl⟩
    | some n =>
        simp only
        split_ifs with hholds
        · exact .inl ⟨_, rfl, .integer hn hholds⟩
        · exact .inr ⟨_, rfl⟩
  case h_6 m _ =>
    split_ifs with hnone
    · exact .inr ⟨_, rfl⟩
    · exact .inl ⟨_, rfl, .moment (by simpa [Option.isSome_iff_ne_none] using hnone)⟩
  case h_7 d _ =>
    split_ifs with hfinite
    · exact .inl ⟨_, rfl, .decimal hfinite⟩
    · exact .inr ⟨_, rfl⟩
  case h_8 =>
    cases hn : v.integer? with
    | none => exact .inr ⟨_, rfl⟩
    | some n => exact .inl ⟨_, rfl, .whole hn⟩
  case h_12 | h_13 | h_14 =>
    split_ifs with htext
    · obtain ⟨s, hs⟩ := Option.isSome_iff_exists.mp htext
      exact .inl ⟨_, rfl, .text (by simp) hs⟩
    · exact .inr ⟨_, rfl⟩
  case h_15 => exact absurd rfl ht
  case h_1 | h_16 => exact .inr ⟨_, rfl⟩
  case h_3 b | h_4 bs | h_5 bs | h_9 g | h_10 d | h_11 a =>
    exact .inl ⟨_, rfl, by constructor⟩

theorem coerced_of_coerce (ht : t ≠ .enumeration) (h : coerce hint t v = .ok w) :
    Coerced t v w := by
  rcases coerce_cases hint ht v with ⟨w', hw, hcoerced⟩ | ⟨problem, hproblem⟩
  · obtain rfl := Except.ok.inj (hw.symm.trans h)
    exact hcoerced
  · cases hproblem.symm.trans h

theorem coerce_of_coerced (h : Coerced t v w) : coerce hint t v = .ok w := by
  cases h with
  | integer hn hholds =>
      cases v with
      | int n | member m => simp only [coerce, hn, hholds, if_true]
      | _ => cases hn
  | @moment m hoffset =>
      have hnone : ¬ m.offset.isNone = true := by simpa [Option.isSome_iff_ne_none] using hoffset
      simp only [coerce, if_neg hnone]
  | decimal hfinite => simp only [coerce, hfinite, if_true]
  | whole hn =>
      cases v with
      | int n | member m => simp only [coerce, hn]
      | _ => cases hn
  | text ht htext =>
      have hsome : v.text?.isSome = true := by rw [htext, Option.isSome_some]
      cases v with
      | text s | member m => rcases ht with rfl | rfl | rfl <;> simp only [coerce, hsome, if_true]
      | _ => cases htext
  | bool b | bytes bs | buffer bs | guid g | duration d | version a => rfl

end ParamRules.Conversion
