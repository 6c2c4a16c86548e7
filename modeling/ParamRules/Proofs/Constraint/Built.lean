import ParamRules.Proofs.Constraint.Readers
import ParamRules.Proofs.Constraint.Reachable

/-!
# Constraints that are built

The builders check their arguments by rules of their own, which are not those of the readers of
parameters.  Put down here is what the builders see to: hints are not blank, a pattern has its
options in order, schemes are trimmed, and the values of an enumeration are in the range of their
type (`Built.isAccepted`).  That a number of decimal places is in range or a name trimmed is not
among it.
-/

namespace ParamRules

open Text Result

namespace Constraint

variable {c : Constraint} {a : Arguments} {v : Value}

/-- Whether a constraint holds what the arguments of its builder are checked for. -/
def IsAccepted : Constraint → Prop
  | .displayHint hints => ∀ hint ∈ hints, isAllBlank hint = false
  | .regex e => isAllBlank e.pattern = false ∧ RegexOption.normalized e.options = e.options
  | .allowedScheme schemes => ∀ scheme ∈ schemes, isAllBlank scheme = false ∧ trim scheme = scheme
  | .typeName name | .enumType name => name = "" ∨ isAllBlank name = false
  | .values (some l) => l.pairs ≠ [] ∧ ∀ p ∈ l.pairs, l.type.holds p.2 = true
  | _ => True

/-! ## Arguments -/

end Constraint

end ParamRules
