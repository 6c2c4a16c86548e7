import ParamRules.Value
import ParamRules.Pattern.Matcher

/-!
Constraints: named rules with parameters. A constraint holds its parameters in the form in which it
needs them, and `parameters` and `text` in `ParamRules.Constraint.Written` give them back as texts.

Rules of other kinds come in through `CustomRule`.
-/

namespace ParamRules

/-! ## What constraints hold -/

/-- A number of a type that can be stepped through. -/
inductive Amount where
  | integer (type : IntegerType) (n : Int)
  | decimal (d : Decimal)
deriving Repr, DecidableEq

/-- A value of an ordered type. -/
inductive Bound where
  | amount (a : Amount)
  | moment (m : Moment)
  | duration (d : Duration)
  | version (v : Version)
deriving Repr, DecidableEq

namespace Amount

def dataType : Amount → DataType
  | .integer t _ => .integer t
  | .decimal _ => .decimal

def value : Amount → Value
  | .integer _ n => .int n
  | .decimal d => .decimal d

end Amount

namespace Bound

def dataType : Bound → DataType
  | .amount a => a.dataType
  | .moment _ => .dateTimeOffset
  | .duration _ => .timeSpan
  | .version _ => .version

def value : Bound → Value
  | .amount a => a.value
  | .moment m => .moment m
  | .duration d => .duration d
  | .version v => .version v

end Bound

/-- Sets of characters that texts can be confined to. -/
inductive CharacterSet where
  | ascii | iso8859 | windows1252 | iso646Odette
deriving Repr, DecidableEq

namespace CharacterSet

def name : CharacterSet → String
  | .ascii => "Ascii"
  | .iso8859 => "Iso8859"
  | .windows1252 => "Windows1252"
  | .iso646Odette => "Iso646Odette"

def ofName? (name : String) : Option CharacterSet :=
  [ascii, iso8859, windows1252, iso646Odette].find? (·.name = name)

/-- Code points of the Windows set that are not in the ISO set. -/
def windowsExtras : List Nat := [
  0x20AC, 0x201A, 0x0192, 0x201E, 0x2026, 0x2020, 0x2021, 0x02C6, 0x2030, 0x0160, 0x2039, 0x0152,
  0x017D, 0x2018, 0x2019, 0x201C, 0x201D, 0x2022, 0x2013, 0x2014, 0x02DC, 0x2122, 0x0161, 0x203A,
  0x0153, 0x017E, 0x0178]

def isLineControl (n : Nat) : Bool :=
  n = 0x09 || n = 0x0A || n = 0x0D

/-- Whether a code point is a printable one of the first 128, or a line control. -/
def isPlain (n : Nat) : Bool :=
  (0x1F < n && n < 0x7F) || isLineControl n

def holds (s : CharacterSet) (c : Char) : Bool :=
  let n := c.toNat
  match s with
  | .ascii => isPlain n
  | .iso8859 => isPlain n || (0x9F < n && n < 0x100)
  | .windows1252 => isPlain n || (0x9F < n && n < 0x100) || windowsExtras.contains n
  | .iso646Odette =>
    (0x40 < n && n < 0x5B) || (0x2C < n && n < 0x3A) ||
      [0x20, 0x26, 0x28, 0x29, 0x5F].contains n

end CharacterSet

inductive RegexOption where
  | ignoreCase | multiline | singleline | ignorePatternWhitespace | ascii
deriving Repr, DecidableEq

namespace RegexOption

def all : List RegexOption :=
  [.ignoreCase, .multiline, .singleline, .ignorePatternWhitespace, .ascii]

def name : RegexOption → String
  | .ignoreCase => "IgnoreCase"
  | .multiline => "Multiline"
  | .singleline => "Singleline"
  | .ignorePatternWhitespace => "IgnorePatternWhitespace"
  | .ascii => "Ascii"

def ofName? (name : String) : Option RegexOption :=
  all.find? (·.name = name)

/-- The options without repetitions, in their order. -/
def normalized (options : List RegexOption) : List RegexOption :=
  all.filter options.contains

def patternOptions (options : List RegexOption) : Pattern.Options :=
  { Pattern.Options.none with
    ignoreCase := options.contains .ignoreCase
    multiline := options.contains .multiline
    dotAll := options.contains .singleline
    spaced := options.contains .ignorePatternWhitespace
    short := options.contains .ascii }

end RegexOption

/-- A pattern with its options, and the program that it compiles to. -/
structure Expression where
  pattern : String
  options : List RegexOption
  program : Pattern.Program
  compiles : Pattern.compile pattern (RegexOption.patternOptions options) = .ok program

def Expression.ofPattern (pattern : String) (options : List RegexOption) :
    Except Pattern.Refusal Expression :=
  match h : Pattern.compile pattern (RegexOption.patternOptions options) with
  | .ok program => .ok ⟨pattern, options, program, h⟩
  | .error e => .error e

/-- Names with values of an integer type, in order. With flags, values can be joined. -/
structure ValueList where
  type : IntegerType
  flags : Bool
  pairs : List (String × Int)
deriving Repr, DecidableEq

inductive RefusalKind where
  | value
  | type
  | key
deriving Repr, DecidableEq

/-- The refusal of a custom rule: its sort and its own words. -/
structure CustomRefusal where
  kind : RefusalKind
  text : String
deriving Repr, DecidableEq

/-- A rule of a kind of its own. `accept` is what it makes of parameters: the parameters that it
keeps, or a refusal. -/
structure CustomRule where
  kind : String
  name : String
  accept : List String → Except CustomRefusal (List String)

/-! ## Constraints -/

inductive Constraint where
  /-- Nothing is an allowed value. -/
  | null
  /-- The value is stored encrypted. -/
  | encrypted
  /-- The value is not changed by editors. -/
  | readOnly
  /-- Hints for editors. -/
  | displayHint (hints : List String)
  /-- A link to an entity with its key and display properties. -/
  | database (entity keyProperty displayProperty : String)
  /-- The exact number of characters or bytes. -/
  | length (n : Nat)
  | minLength (n : Nat)
  | maxLength (n : Nat)
  | minValue (bound : Bound)
  | maxValue (bound : Bound)
  /-- The distance between values, for editors. -/
  | step (size : Amount)
  /-- The number of decimal places, for display. -/
  | decimalPlaces (n : Nat)
  /-- The set that every character is in. -/
  | charSet (set : CharacterSet)
  /-- No upper-case character. -/
  | lowercase
  /-- No lower-case character. -/
  | uppercase
  /-- The text is a secret. -/
  | password
  /-- A pattern that matches somewhere. -/
  | regex (expression : Expression)
  | host
  /-- A host with or without a port. -/
  | endpoint
  | fileName
  | path
  | allowedScheme (schemes : List String)
  /-- The type that a document is read into, by name. -/
  | typeName (name : String)
  /-- The enumeration that a value belongs to, by name. -/
  | enumType (name : String)
  /-- The values of an enumeration, none before they are set. -/
  | values (list : Option ValueList)
  /-- A rule of another kind with the parameters it kept. -/
  | custom (rule : CustomRule) (parameters : List String)

namespace Constraint

def name : Constraint → String
  | .null => "Null"
  | .encrypted => "Encrypted"
  | .readOnly => "ReadOnly"
  | .displayHint _ => "DisplayHint"
  | .database .. => "Database"
  | .length _ => "Length"
  | .minLength _ => "MinLength"
  | .maxLength _ => "MaxLength"
  | .minValue _ => "MinValue"
  | .maxValue _ => "MaxValue"
  | .step _ => "Step"
  | .decimalPlaces _ => "DecimalPlaces"
  | .charSet _ => "CharSet"
  | .lowercase => "Lowercase"
  | .uppercase => "Uppercase"
  | .password => "Password"
  | .regex _ => "Regex"
  | .host => "Host"
  | .endpoint => "Endpoint"
  | .fileName => "FileName"
  | .path => "Path"
  | .allowedScheme _ => "AllowedScheme"
  | .typeName _ | .enumType _ => "Type"
  | .values _ => "Values"
  | .custom rule _ => rule.name

def kind : Constraint → String
  | .null => "NullConstraint"
  | .encrypted => "EncryptedConstraint"
  | .readOnly => "ReadOnlyConstraint"
  | .displayHint _ => "DisplayHintConstraint"
  | .database .. => "DatabaseConstraint"
  | .length _ => "LengthConstraint"
  | .minLength _ => "MinimumLengthConstraint"
  | .maxLength _ => "MaximumLengthConstraint"
  | .minValue _ => "MinimumValueConstraint"
  | .maxValue _ => "MaximumValueConstraint"
  | .step _ => "StepConstraint"
  | .decimalPlaces _ => "DecimalPlacesConstraint"
  | .charSet _ => "CharacterSetConstraint"
  | .lowercase => "LowercaseConstraint"
  | .uppercase => "UppercaseConstraint"
  | .password => "PasswordConstraint"
  | .regex _ => "RegexConstraint"
  | .host => "HostNameConstraint"
  | .endpoint => "EndpointConstraint"
  | .fileName => "FileNameConstraint"
  | .path => "PathConstraint"
  | .allowedScheme _ => "AllowedSchemeConstraint"
  | .typeName _ => "TypeConstraint"
  | .enumType _ => "EnumTypeConstraint"
  | .values _ => "EnumValuesConstraint"
  | .custom rule _ => rule.kind

def typeName? : Constraint → Option String
  | .typeName name | .enumType name => some name
  | _ => none

def valueList? : Constraint → Option (Option ValueList)
  | .values list => some list
  | _ => none

end Constraint

end ParamRules
