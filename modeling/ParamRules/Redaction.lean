import ParamRules.Fault
import ParamRules.Mapping
import ParamRules.Pattern.Letter
import ParamRules.Text.Blank
import ParamRules.Text.WordCharacter

/-!
Redaction: what is secret in a value is replaced by a mask. All that stands under a key with a
sensitive term in it is secret, and so is what a text assigns to a sensitive name. A name is
followed by a colon or an equals sign, and the assigned text goes up to white space, a comma or a
semicolon.
-/

namespace ParamRules.Redaction

open Text

def mask : String := "***REDACTED***"

/-! ## Keys -/

/-- The terms that make a key sensitive. -/
def sensitiveTerms : List String :=
  ["secret", "token", "password", "passphrase", "api_key", "apikey", "authorization", "credential",
    "private_key"]

def isSensitiveKey (key : String) : Bool :=
  sensitiveTerms.any fun term => occursIn term.toList (lower key).toList

/-! ## Assignments -/

/-- The names whose assigned texts are secret. No name begins another one. -/
def sensitiveNames : List String :=
  ["api_key", "api-key", "apikey", "token", "password", "secret", "authorization"]

/-- Whether a text starts with a name, in any case of letters. -/
def startsWithName : List Char → List Char → Bool
  | [], _ => true
  | _ :: _, [] => false
  | p :: ps, c :: r => Pattern.Folding.full.isSame c.toNat p.toNat && startsWithName ps r

def isAssigned (c : Char) : Bool :=
  !isBlank c && c ≠ ',' && c ≠ ';'

/-- The sign after a name, and what follows the text that is assigned. -/
def afterName? (s : List Char) : Option (Char × List Char) :=
  match s.dropWhile isBlank with
  | sign :: r =>
    let r := r.dropWhile isBlank
    if (sign = ':' || sign = '=') && r.head?.any isAssigned then
      some (sign, r.dropWhile isAssigned)
    else none
  | [] => none

/-- The name and the sign of the assignment that a text starts with, and what follows it. The name
has to end where a word ends. -/
def assignment? (s : List Char) : Option (List Char × List Char) := do
  -- No name begins another, so that the first one found is the only one.
  let name ← sensitiveNames.find? fun name => startsWithName name.toList s
  let r := s.drop name.toList.length
  if r.head?.any isWordCharacter then none
  let (sign, rest) ← afterName? r
  return (s.take name.toList.length ++ [sign], rest)

/-- The text with a mask for all that is assigned to a sensitive name. A name has to start where a
word starts, and `inWord` tells whether a word goes on here. -/
def maskChars (inWord : Bool) : Nat → List Char → List Char
  | 0, s => s
  | _, [] => []
  | fuel + 1, c :: r =>
    match if inWord then none else assignment? (c :: r) with
    | some (kept, rest) => kept ++ mask.toList ++ maskChars false fuel rest
    | none => c :: maskChars (isWordCharacter c) fuel r

def maskAssignments (s : String) : String :=
  let cs := s.toList
  String.ofList (maskChars false cs.length cs)

/-! ## Values -/

/-- The text of a key, unless it has too many digits to be written. -/
def keyText (key : Value) : Except Fault String :=
  if key.isTooLong then .error (.plain .longToWrite) else .ok key.display

mutual

/-- The value without what is secret in it. Lists stay in order, and keys become texts. -/
def redact : Value → Except Fault Value
  | .list vs | .tuple vs => .list <$> redactAll vs
  | .map entries => (fun redacted => .map (Mapping.ofEntries redacted)) <$> redactEntries entries
  | v =>
    match v.text? with
    | some s => .ok (.text (maskAssignments s))
    | none => .ok v

def redactAll : List Value → Except Fault (List Value)
  | [] => .ok []
  | v :: r => do
    let redacted ← redact v
    return redacted :: (← redactAll r)

def redactEntries : List (Value × Value) → Except Fault (List (Value × Value))
  | [] => .ok []
  | (k, v) :: r => do
    let name ← keyText k
    let redacted ← if isSensitiveKey name then .ok (.text mask) else redact v
    return (.text name, redacted) :: (← redactEntries r)

end

def redactField (name : String) (v : Value) : Except Fault Value :=
  if isSensitiveKey name then .ok (.text mask) else redact v

example : maskAssignments "mytoken=1 Token : x,y" = "mytoken=1 Token:***REDACTED***,y" := by
  decide +kernel

end ParamRules.Redaction
