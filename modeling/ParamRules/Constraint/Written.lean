import ParamRules.Constraint.Basic
import ParamRules.Base64

/-!
The written form of constraints: a name in brackets, with parameters in parentheses after it. A
parameter is quoted when it is empty or holds a space or a delimiter, and a quote inside quotes is
written twice. `mask_eq_self` says when a parameter is written as it is.
-/

namespace ParamRules

open Text

def Amount.text : Amount → String
  | .integer _ n => Integer.text n
  | .decimal d => d.plainText

def Bound.text : Bound → String
  | .amount a => a.text
  | .moment m => m.text
  | .duration d => d.text
  | .version v => v.text

def ValueList.parameters (l : ValueList) : List String :=
  l.type.name :: (if l.flags then ["Flags"] else []) ++
    l.pairs.map fun (name, n) => name ++ "=" ++ Integer.text n

namespace Constraint

/-- The parameters of a link: those at the end that are empty are left out, but for the first. -/
def databaseParameters (entity keyProperty displayProperty : String) : List String :=
  if !displayProperty.isEmpty then [entity, keyProperty, displayProperty]
  else if !keyProperty.isEmpty then [entity, keyProperty]
  else [entity]

def parameters : Constraint → List String
  | .null | .encrypted | .readOnly | .lowercase | .uppercase | .password | .host | .endpoint
  | .fileName | .path => []
  | .displayHint hints => hints
  | .database e k d => databaseParameters e k d
  | .length n | .minLength n | .maxLength n | .decimalPlaces n => [Integer.natText n]
  | .minValue b | .maxValue b => [b.text]
  | .step a => [a.text]
  | .charSet s => [s.name]
  | .regex e => e.pattern :: e.options.map RegexOption.name
  | .allowedScheme schemes => schemes
  | .typeName name | .enumType name => [name]
  | .values none => []
  | .values (some l) => l.parameters
  | .custom _ parameters => parameters

/-! ## Quoting -/

/-- Whether a character makes a parameter that holds it need quotes. -/
def isMasked (c : Char) : Bool :=
  c = ' ' || c = '[' || c = ']' || c = '(' || c = ')' || c = ',' || c = '\''

def doubleQuotes (s : List Char) : List Char :=
  s.flatMap fun c => if c = '\'' then ['\'', '\''] else [c]

/-- A parameter as it is written. -/
def maskChars (s : List Char) : List Char :=
  if s.isEmpty || s.any isMasked then '\'' :: doubleQuotes s ++ ['\''] else s

def writtenParameters : List (List Char) → List Char
  | [] => []
  | [p] => maskChars p
  | p :: r => maskChars p ++ ',' :: writtenParameters r

def writtenChars (name : List Char) (parameters : List (List Char)) : List Char :=
  match parameters with
  | [] => '[' :: name ++ [']']
  | ps => '[' :: name ++ '(' :: writtenParameters ps ++ [')', ']']

def text (c : Constraint) : String :=
  String.ofList (writtenChars c.name.toList (c.parameters.map String.toList))

/-- The constraint as it is quoted in messages: its kind with its written form. -/
def literal (c : Constraint) : String :=
  c.kind ++ "(" ++ Text.literal c.text ++ ")"

/-- Whether two constraints are equal: of one kind, with one name and the same parameters. -/
def same (c d : Constraint) : Bool :=
  c.kind = d.kind && c.name = d.name && c.parameters = d.parameters

def sameAll : List Constraint → List Constraint → Bool
  | [], [] => true
  | c :: cs, d :: ds => c.same d && sameAll cs ds
  | _, _ => false

/-! ## Order in a text -/

/-- Constraints in the order in which they are stored: `Null` first, then `Encrypted`, then all
others as they came. -/
def stored (cs : List Constraint) : List Constraint :=
  cs.filter (·.name = "Null") ++ cs.filter (·.name = "Encrypted") ++
    cs.filter fun c => c.name ≠ "Null" && c.name ≠ "Encrypted"

def concat (cs : List Constraint) : String :=
  String.join ((stored cs).map text)

theorem mask_eq_self {s : List Char} (hne : s ≠ []) (hs : ∀ c ∈ s, isMasked c = false) :
    maskChars s = s := by
  have : s.any isMasked = false := by simpa [List.any_eq_false] using hs
  cases s with
  | nil => exact absurd rfl hne
  | cons => simp [maskChars, this]

end Constraint

end ParamRules
