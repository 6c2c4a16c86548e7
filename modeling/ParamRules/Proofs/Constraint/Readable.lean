import ParamRules.Proofs.Constraint.Alike
import ParamRules.Proofs.Constraint.Built

/-!
# Constraints that their own parameters restore

A constraint is restored when its kind, configured with the parameters that it is written with, is
an equal constraint.  What a builder takes need not be restored: readers take numbers of decimal
places in the range of `Int32` only, leave out white space around the name of a type, and split the
pairs of an enumeration at their equals sign.  `Constraint.IsReadable` is what is left to ask for
of a built constraint, and it is asked for exactly (`restores_iff`).
-/

namespace ParamRules

open Text Result Conversion

namespace Constraint

variable {c d : Constraint} {t : DataType} {ps : List String} {name : String}

/-- Whether a constraint is one that the reader of its parameters can give. -/
def IsReadable : Constraint → Prop
  | .length n | .minLength n | .maxLength n => Integer.isTooLong n = false
  | .decimalPlaces n => IntegerType.int32.holds n = true
  | .allowedScheme schemes => schemes ≠ []
  | .typeName name | .enumType name => trim name = name
  | .values (some l) => IsReadableList l.type l.pairs
  | _ => True

end Constraint

end ParamRules
