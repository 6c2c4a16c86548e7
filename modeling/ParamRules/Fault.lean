import ParamRules.Constraint.Written
import ParamRules.Config.Issue
import ParamRules.ErrorCode
import ParamRules.Json
import ParamRules.Yaml.Problem

/-!
Faults: why an operation has no result. A fault has a reason and, where another fault led to it,
that one as its cause. The wording stands in `Reason.message` alone.

The library's own kinds of fault have a code. Faults of syntax have a position as well: the offset
of the character at which they were found, or a negative number where there is none.
-/

namespace ParamRules

/-- What is wrong with an argument or a field. -/
inductive ArgumentProblem where
  | absent
  | empty
  | negative
  /-- The argument is of another type: what is expected, and the type of what was given. -/
  | wrongType (expected : String) (got : Option String)
  | wrongShape (expected : String) (got : Option String)
  /-- A hint or scheme that is no text or is blank. -/
  | blankText
  | unknownDataType (text : String)
  | isNot (what : String)
  | noStepSize (what : String)
  | noNativeForm (t : DataType)
  | outside (n : Int) (t : DataType)
  | noValues
  | noSchemes
  | notSupported (what : String)
  | noIntegerValues (what : String)
  | tooWide (what : String)
  | noImportPath (text : String)
  | unknownModule (name : String)
  | missingAttribute (path name : String)
  | notCallable (path : String)
  | missingFields (names : List String)
  | unknownFields (names allowed : List String)
  | keyType (got : String)
  | notYamlSequence (got : String)
  | notYaml
  | other (text : String)

/-- What is wrong with the text of constraints. -/
inductive SyntaxProblem where
  | dataOutside (c : Char)
  | characterInName (c : Char)
  | emptyName
  | characterInParameters (c : Char)
  | unmaskedDelimiter (c : Char)
  | characterAfterParameter (c : Char)
  | characterAfterParameters (c : Char)
  | incomplete
  | unknownName (name : String) (t : DataType)
  | notDefinedForType (name : String) (t : DataType)
  | parametersInvalid (name : String)
  | statedUnknown (name : String) (t : DataType) (message : String)
  | stated (message : String)
deriving Repr, DecidableEq

/-- What is wrong with the parameters of a constraint. -/
inductive ParameterProblem where
  | count (expected got : Nat)
  | countBetween (least most got : Nat)
  | countAtLeast (least got : Nat)
  | invalid (parameter : String)
  | negativeLength (n : Int)
  | negativePlaces
  | blankHint (index : Nat) (hint : String)
  | unknownCharacterSet (text : String)
  | unknownOption (text : String)
  | notPattern (text : String)
  | noSchemes
  | notDataType (text : String)
  | notIntegerType (t : DataType)
  | noPairs
  | outside (n : Int) (name : String) (t : IntegerType)
  | notPair (text : String)
  | notNumber (text name : String)
  | unset
  | stated (message : String)
deriving Repr, DecidableEq

/-- Why a constraint does not go with a data type or a value. -/
inductive TypeProblem where
  | unsupported
  /-- The value, of the named class, is none of the data type. -/
  | value (className : String)
  | bound (configured : DataType)
  | stated (message : String)
deriving Repr, DecidableEq

/-- Why a value is not converted. -/
inductive ConversionProblem where
  | impossible
  | notText
  | null
  | outside (text : String)
  | noOffset
  | noOffsetInText
  | malformedXml
  | noEnumeration
  | notMember (name enumeration : String)
  | notFlags (enumeration : String)
  | notValue (text enumeration : String)
  | neitherNameNorInteger (text : String)
  | stated (message : String)
deriving Repr, DecidableEq

inductive LoadProblem where
  | notFound (path : String)
  | notToml (path : String)
  | isDirectory (path : String)
  | overrideKey (key : String)
  | notInteger (source text : String)
  | notFlag (source text : String)
deriving Repr, DecidableEq

/-- The outcome of a check: one failure, or success. -/
structure Outcome where
  code : ErrorCode
  message : String
  memberNames : List String
  constraint : Option Constraint

/-- Why an operation has no result. -/
inductive Reason where
  | argument (path : String) (problem : ArgumentProblem)
  /-- A number is too long to be read; the digits are those it has. -/
  | longToRead (digits : Nat)
  | longToWrite
  | notNumber (base : Nat) (text : String)
  | notMember (value enumeration : String)
  | durationRange
  | repeatRange
  | missingAttribute
  | notIterable (className : String)
  | notHashable (className : String)
  | relativeImport (module : String)
  | conflictingClasses
  | versionText (text : String)
  | versionType (part className : String)
  | version (fault : Version.Fault)
  /-- A setting is not there; its name is quoted. -/
  | unknownSetting (quoted : String)
  | duplicateSetting (name : String)
  | noHome
  | fileNotFound
  | isDirectory
  | notUtf8
  | pathType (className : String)
  | loggerNameType (className : String)
  | emptyLoggerName
  | levelType (className : String)
  | unknownLevel (text : String)
  | emptyCorrelation (name : String)
  | takenField (name : String)
  | missingSection (name : String)
  | yaml (problem : Yaml.Problem)
  | json (problem : Json.Problem)
  | custom (refusal : CustomRefusal)
  | general (message : String) (code : ErrorCode)
  | syntaxFault (problem : SyntaxProblem) (position : Int) (code : ErrorCode)
  | parameters (constraint : Option String) (problem : ParameterProblem) (code : ErrorCode)
  | dataType (constraint : String) (t : DataType) (problem : TypeProblem) (code : ErrorCode)
  | conversion (t : DataType) (value : Value) (problem : ConversionProblem)
  | validation (outcomes : List Outcome)
  | config (issues : List Config.Issue)
  | load (problem : LoadProblem)

/-- A reason, with the fault that led to it. -/
inductive Fault where
  | mk (reason : Reason) (cause : Option Fault)

/-- The kinds of fault that callers tell apart. -/
inductive FaultKind where
  | value | type | key | index | overflow | attribute | runtime | fileNotFound | isDirectory
  | unicode | general | syntaxFault | unknownConstraint | unknownName | notDefinedForType
  | parameters | dataType | conversion | validation | config | load
deriving Repr, DecidableEq

/-! ## Wording -/

open Text

def quotedList (texts : List String) : String :=
  "[" ++ join ", " (texts.map Text.literal) ++ "]"

def expectedText (expected : String) (got : Option String) : String :=
  "expected " ++ expected ++ (got.map (", got " ++ ·)).getD ""

/-- The wording of an argument problem, after the path of the argument. -/
def ArgumentProblem.message : ArgumentProblem → String
  | .absent => "must not be None"
  | .empty => "must not be empty"
  | .negative => "must be >= 0"
  | .wrongType expected got | .wrongShape expected got => expectedText expected got
  | .blankText => "must be a non-empty string"
  | .unknownDataType text =>
    "unknown data type " ++ Text.literal text ++ "; expected one of " ++
      join ", " (DataType.all.map DataType.name)
  | .isNot what => what
  | .noStepSize what => what ++ " does not support a step size"
  | .noNativeForm t => t.name ++ " has no native representation"
  | .outside n t => Integer.text n ++ " is outside " ++ t.name
  | .noValues => "at least one enumeration value is required"
  | .noSchemes => "at least one scheme is required"
  | .notSupported what => what ++ " is not supported"
  | .noIntegerValues what => what ++ " must have integer values"
  | .tooWide what => what ++ " values exceed 64 bits"
  | .noImportPath text => "expected 'package.module:attribute', got " ++ Text.literal text
  | .unknownModule name => "cannot import module " ++ Text.literal name
  | .missingAttribute path name =>
    Text.literal path ++ " has no attribute " ++ Text.literal name
  | .notCallable path => Text.literal path ++ " is not callable"
  | .missingFields names => "missing required fields " ++ quotedList names
  | .unknownFields names allowed =>
    "unexpected fields " ++ quotedList names ++ "; allowed fields: " ++ quotedList allowed
  | .keyType got => "object keys must be strings, got " ++ got
  | .notYamlSequence got => "expected top-level YAML sequence, got " ++ got
  | .notYaml => "invalid YAML"
  | .other text => text

/-- The wording of a syntax problem, without its position. -/
def SyntaxProblem.message : SyntaxProblem → String
  | .dataOutside c => "invalid data " ++ quoted c ++ " outside of a constraint"
  | .characterInName c => "invalid character " ++ quoted c ++ " in constraint name"
  | .emptyName => "constraint name is empty"
  | .characterInParameters c => "invalid character " ++ quoted c ++ " in parameters"
  | .unmaskedDelimiter c => "unmasked delimiter " ++ quoted c ++ " in parameter"
  | .characterAfterParameter c => "invalid character " ++ quoted c ++ " after parameter"
  | .characterAfterParameters c => "invalid character " ++ quoted c ++ " after parameters"
  | .incomplete => "constraint incomplete"
  | .unknownName name _ => "unknown constraint name " ++ Text.literal name
  | .notDefinedForType name t =>
    "constraint " ++ Text.literal name ++ " is not defined for data type " ++ t.name
  | .parametersInvalid name => "parameters invalid for constraint " ++ Text.literal name
  | .statedUnknown _ _ message | .stated message => message
where
  quoted (c : Char) : String :=
    Text.literal c.toString

/-- The code of a syntax problem, where the caller states none. -/
def SyntaxProblem.code : SyntaxProblem → ErrorCode
  | .dataOutside _ => .dataOutsideConstraint
  | .characterInName _ => .invalidCharacterInName
  | .emptyName => .emptyConstraint
  | .characterInParameters _ => .invalidCharacterInParameters
  | .unmaskedDelimiter _ => .unmaskedDelimiter
  | .characterAfterParameter _ => .invalidCharacterAfterParameter
  | .characterAfterParameters _ => .invalidCharacterAfterParameters
  | .incomplete => .constraintIncomplete
  | .unknownName .. => .unknownConstraintName
  | .notDefinedForType .. => .constraintNotDefinedForType
  | .parametersInvalid _ => .parametersInvalid
  | .statedUnknown .. | .stated _ => .syntaxError

def ParameterProblem.message (name : String) : ParameterProblem → String
  | .count expected got =>
    subject ++ " requires exactly " ++ toString expected ++ " parameter(s), got " ++ toString got
  | .countBetween least most got =>
    subject ++ " requires " ++ toString least ++ " to " ++ toString most ++
      " parameter(s), got " ++ toString got
  | .countAtLeast least got =>
    subject ++ " requires at least " ++ toString least ++ " parameter(s), got " ++ toString got
  | .invalid parameter => "parameter " ++ Text.literal parameter ++ " is invalid for " ++ subject
  | .negativeLength n => subject ++ " requires a non-negative length, got " ++ Integer.text n
  | .negativePlaces => subject ++ " requires a non-negative number of places"
  | .blankHint index hint =>
    "invalid parameter for " ++ subject ++ ": hints[" ++ toString index ++ "] " ++
      Text.literal hint ++ ": must be a non-empty string"
  | .unknownCharacterSet text => Text.literal text ++ " is not a supported character set"
  | .unknownOption text => Text.literal text ++ " is not a supported regular expression option"
  | .notPattern text => Text.literal text ++ " is not a valid regular expression"
  | .noSchemes => subject ++ " requires one or more non-empty schemes"
  | .notDataType text => Text.literal text ++ " is not a parameter data type"
  | .notIntegerType t => t.name ++ " is not an integer data type"
  | .noPairs => subject ++ " requires at least one name=value pair"
  | .outside n pairName t =>
    "value " ++ Integer.text n ++ " of " ++ Text.literal pairName ++ " is outside the " ++ t.name ++
      " range"
  | .notPair text => Text.literal text ++ " is not a name=value pair"
  | .notNumber text pairName =>
    Text.literal text ++ " is not a valid value for " ++ Text.literal pairName
  | .unset => subject ++ " has no enumeration values configured"
  | .stated message => message
where
  subject : String := "constraint " ++ Text.literal name

def TypeProblem.message (name : String) (t : DataType) : TypeProblem → String
  | .unsupported => "constraint " ++ Text.literal name ++ " does not support data type " ++ t.name
  | .value className =>
    "constraint " ++ Text.literal name ++ " cannot validate " ++ className ++ " values as " ++
      t.name
  | .bound configured =>
    "constraint " ++ Text.literal name ++ " configured for " ++ configured.name ++
      " cannot compare " ++ t.name ++ " values"
  | .stated message => message

def ConversionProblem.message (t : DataType) (v : Value) : ConversionProblem → String
  | .impossible => "cannot convert " ++ v.literal ++ " to " ++ t.name
  | .notText => "value to convert must be a string"
  | .null => "value must not be None"
  | .outside text => text ++ " is outside the " ++ t.name ++ " range"
  | .noOffset => "datetime must be timezone-aware"
  | .noOffsetInText => "timestamp must include a UTC offset"
  | .malformedXml => "malformed XML"
  | .noEnumeration => "enum conversion requires a Type constraint that resolves to an Enum"
  | .notMember name enumeration => Text.literal name ++ " is not a member of " ++ enumeration
  | .notFlags enumeration => enumeration ++ " does not combine flags"
  | .notValue text enumeration => text ++ " is not a value of " ++ enumeration
  | .neitherNameNorInteger text => Text.literal text ++ " is neither a value name nor an integer"
  | .stated message => message

def LoadProblem.message : LoadProblem → String
  | .notFound path => "config file not found: " ++ path
  | .notToml path => "invalid TOML in " ++ path
  | .isDirectory path =>
    "unable to read config file " ++ path ++ ": [Errno 21] Is a directory: " ++ Text.literal path
  | .overrideKey key => "invalid CLI override key " ++ Text.literal key
  | .notInteger source text =>
    source ++ ": must be an integer, got " ++ Text.literal text
  | .notFlag source text =>
    source ++ ": must be a boolean (true/false/1/0/yes/no/on/off), got " ++ Text.literal text

def versionMessage : Version.Fault → String
  | .outOfRange part n => "Version." ++ part.name ++ ": " ++ Integer.text n ++ " is out of range"
  | .revisionWithoutBuild => "Version.revision: requires build to be set"

/-- The wording of a title and a list of items below it, or of there being none. -/
def listedMessage (title : String) (items : List String) : String :=
  title ++ ":\n" ++
    if items.isEmpty then "unknown validation failure" else join "\n" (items.map ("- " ++ ·))

def integerMessage : Integer.ReadFault → String
  | .tooLong digits =>
    "Exceeds the limit (4300 digits) for integer string conversion: value has " ++
      toString digits ++ " digits; use sys.set_int_max_str_digits() to increase the limit"
  | .malformed base text =>
    "invalid literal for int() with base " ++ toString base ++ ": " ++
      String.ofList ((literalChars text.toList).take 200)

def yamlMessage : Yaml.Problem → String
  | .malformed => "invalid YAML"
  | .codePoint _ => "chr() arg not in range(0x110000)"
  | .notTruthValue text => Text.literal text
  | .emptyNumber => "string index out of range"
  | .integer fault => integerMessage fault
  | .notReal text => "could not convert string to float: " ++ Text.literal text
  | .notTimestamp => "no timestamp"
  | .date part => part.message
  | .offset distance =>
    "offset must be a timedelta strictly between -timedelta(hours=24) and timedelta(hours=24), " ++
      "not " ++ distance.literal ++ "."

def Reason.message : Reason → String
  | .argument path problem => path ++ ": " ++ problem.message
  | .longToRead digits => integerMessage (.tooLong digits)
  | .longToWrite =>
    "Exceeds the limit (4300 digits) for integer string conversion; " ++
      "use sys.set_int_max_str_digits() to increase the limit"
  | .notNumber base text => integerMessage (.malformed base text)
  | .notMember value enumeration => value ++ " is not a valid " ++ enumeration
  | .durationRange => "duration out of range"
  | .repeatRange => "the repetition number is too large"
  | .missingAttribute => "missing attribute"
  | .notIterable className => "'" ++ className ++ "' object is not iterable"
  | .notHashable className => "unhashable type: '" ++ className ++ "'"
  | .relativeImport module =>
    "the 'package' argument is required to perform a relative import for " ++ Text.literal module
  | .conflictingClasses => "ASCII and UNICODE flags are incompatible"
  | .versionText text => "Version: " ++ Text.literal text ++ " is not a dotted numeric version"
  | .versionType part className => "Version." ++ part ++ ": expected int, got " ++ className
  | .version fault => versionMessage fault
  | .unknownSetting quoted => Text.literal ("unknown setting: " ++ quoted)
  | .duplicateSetting name => "duplicate setting name: " ++ Text.literal name
  | .noHome => "Could not determine home directory."
  | .fileNotFound => "file not found"
  | .isDirectory => "is a directory"
  | .notUtf8 => "not UTF-8"
  | .pathType className => "expected str, bytes or os.PathLike object, not " ++ className
  | .loggerNameType className => "logger_name must be a string, got " ++ className
  | .emptyLoggerName => "logger_name must not be empty"
  | .levelType className => "level must be int or str, got " ++ className
  | .unknownLevel text => "unsupported logging level " ++ text
  | .emptyCorrelation name =>
    "correlation field " ++ Text.literal name ++ " must be a non-empty string"
  | .takenField name =>
    Text.literal ("Attempt to overwrite " ++ Text.literal name ++ " in LogRecord")
  | .missingSection name => Text.literal name
  | .yaml problem => yamlMessage problem
  | .json .longNumber => Reason.longToWrite.message
  | .json problem => problem.message
  | .custom refusal =>
    match refusal.kind with
    | .key => Text.literal refusal.text
    | _ => refusal.text
  | .general message _ => message
  | .syntaxFault problem position _ =>
    problem.message ++
      if position < 0 then "" else " (position " ++ Integer.text position ++ ")"
  | .parameters name problem _ => problem.message (name.getD "")
  | .dataType name t problem _ => problem.message name t
  | .conversion t v problem => problem.message t v
  | .validation outcomes =>
    listedMessage "parameter validation failed" (outcomes.map (·.message))
  | .config issues =>
    listedMessage "invalid config" (issues.map fun i => i.path ++ ": " ++ i.problem.message)
  | .load problem => problem.message

/-! ## Kinds -/

def Reason.kind : Reason → FaultKind
  | .argument _ (.wrongType ..) | .notIterable _ | .notHashable _ | .relativeImport _
  | .versionType .. | .pathType _ => .type
  | .durationRange | .repeatRange => .overflow
  | .missingAttribute => .attribute
  | .unknownSetting _ | .takenField _ | .missingSection _ | .yaml (.notTruthValue _) => .key
  | .json .longNumber => .value
  | .json _ => .type
  | .yaml .emptyNumber => .index
  | .yaml .notTimestamp => .attribute
  | .yaml (.codePoint n) => if n < Nat.pow 2 31 then .value else .overflow
  | .noHome => .runtime
  | .fileNotFound => .fileNotFound
  | .isDirectory => .isDirectory
  | .notUtf8 => .unicode
  | .custom refusal =>
    match refusal.kind with
    | .value => .value
    | .type => .type
    | .key => .key
  | .general .. => .general
  | .syntaxFault (.unknownName ..) .. => .unknownName
  | .syntaxFault (.notDefinedForType ..) .. => .notDefinedForType
  | .syntaxFault (.statedUnknown ..) .. => .unknownConstraint
  | .syntaxFault .. => .syntaxFault
  | .parameters .. => .parameters
  | .dataType .. => .dataType
  | .conversion .. => .conversion
  | .validation _ => .validation
  | .config _ => .config
  | .load _ => .load
  | _ => .value

/-- A kind with the wider kinds that it is a case of, from the narrowest on. -/
def FaultKind.lineage (k : FaultKind) : List FaultKind :=
  match k with
  | .unknownName | .notDefinedForType => [k, .unknownConstraint, .syntaxFault, .general, .value]
  | .unknownConstraint => [k, .syntaxFault, .general, .value]
  | .syntaxFault | .parameters | .dataType | .conversion | .validation => [k, .general, .value]
  | .general | .config | .load | .unicode => [k, .value]
  | _ => [k]

def FaultKind.isValueOrType (k : FaultKind) : Bool :=
  k.lineage.any fun w => w = .value || w = .type

/-- The code of a reason, for the library's own kinds of fault. -/
def Reason.code? : Reason → Option ErrorCode
  | .general _ code | .syntaxFault _ _ code | .parameters _ _ code | .dataType _ _ _ code =>
    some code
  | .conversion .. => some .conversionFailed
  | .validation _ => some .validationFailed
  | _ => none

namespace Fault

def reason : Fault → Reason
  | .mk r _ => r

def cause : Fault → Option Fault
  | .mk _ c => c

def message (f : Fault) : String :=
  f.reason.message

def kind (f : Fault) : FaultKind :=
  f.reason.kind

def plain (r : Reason) : Fault := .mk r none

def argument (path : String) (problem : ArgumentProblem) : Fault :=
  plain (.argument path problem)

/-- A fault in a data type: there is none. -/
def noDataType : Fault :=
  argument "data_type" .absent

/-- A fault of syntax at a position, with the code of its problem. -/
def atPosition (problem : SyntaxProblem) (position : Int) (cause : Option Fault) : Fault :=
  .mk (.syntaxFault problem position problem.code) cause

def inParameters (name : String) (problem : ParameterProblem) : Fault :=
  plain (.parameters (some name) problem .constraintConfigurationInvalid)

def ofNumber : Integer.ReadFault → Fault
  | .tooLong digits => plain (.longToRead digits)
  | .malformed base text => plain (.notNumber base text)

/-- A fault in converting a value. Where the value cannot be written, that is the fault. -/
def conversion (t : DataType) (v : Value) (problem : ConversionProblem) (cause : Option Fault) :
    Fault :=
  match problem with
  | .impossible | .outside _ | .notValue .. =>
    if v.isTooLong then plain .longToWrite else .mk (.conversion t v problem) cause
  | problem => .mk (.conversion t v problem) cause

/-- A fault of syntax moved to a position, unless it has one. -/
def locate (f : Fault) (position : Int) : Fault :=
  match f with
  | .mk (.syntaxFault problem p code) cause =>
    .mk (.syntaxFault problem (if p < 0 then position else p) code) cause
  | f => f

end Fault

end ParamRules
