import ParamRules.Config.Issue
import ParamRules.Mapping

/-!
Configurations: a version, the handlers of constraint names that are not known, the file of the
catalog, and what is logged. Each field stands in a section of the mapping that a configuration is
written as.
-/

namespace ParamRules

inductive Config.Section where
  | schema | parser | catalog | observability
deriving Repr, DecidableEq

inductive Config.Field where
  | schemaVersion | handlers | catalogPath | logLevel | logFile | logToStdout | redactSecrets
deriving Repr, DecidableEq

/-- How much has to be the matter for an event to be logged. -/
inductive Config.Level where
  | debug | info | warning | error
deriving Repr, DecidableEq

/-- What is logged, and where. -/
structure Config.Observability where
  level : Config.Level
  toStdout : Bool
  redactSecrets : Bool
  file : Option String

/-- A configuration. A section that is left out holds nothing; the version is the value that was
given for it. -/
structure Config where
  version : Option Value
  handlers : Option (List String)
  catalog : Option String
  observability : Option Config.Observability

namespace Config

/-! ## Names -/

def Section.name : Section → String
  | .schema => "meta"
  | .parser => "parser"
  | .catalog => "catalog"
  | .observability => "observability"

def Section.all : List Section := [.schema, .parser, .catalog, .observability]

def Section.isRequired : Section → Bool
  | .catalog => false
  | _ => true

def Field.all : List Field :=
  [.schemaVersion, .handlers, .catalogPath, .logLevel, .logFile, .logToStdout, .redactSecrets]

def Field.place : Field → Section
  | .schemaVersion => .schema
  | .handlers => .parser
  | .catalogPath => .catalog
  | .logLevel | .logFile | .logToStdout | .redactSecrets => .observability

def Field.name : Field → String
  | .schemaVersion => "schema_version"
  | .handlers => "unknown_constraint_handlers"
  | .catalogPath => "path"
  | .logLevel => "log_level"
  | .logFile => "log_file"
  | .logToStdout => "log_to_stdout"
  | .redactSecrets => "redact_secrets"

/-- Whether a field has to be there when its section is. -/
def Field.isRequired : Field → Bool
  | .catalogPath | .logFile => false
  | _ => true

/-- The name of a field with that of its section before it. -/
def Field.path (f : Field) : String :=
  f.place.name ++ "." ++ f.name

def Section.fields (s : Section) : List Field :=
  Field.all.filter (·.place = s)

def Level.name : Level → String
  | .debug => "DEBUG"
  | .info => "INFO"
  | .warning => "WARNING"
  | .error => "ERROR"

/-- All levels, in the order of their names. -/
def Level.all : List Level := [.debug, .error, .info, .warning]

def Level.ofName? (name : String) : Option Level :=
  Level.all.find? (·.name = name)

/-! ## The written form -/

def entry (f : Field) (v : Value) : Value × Value :=
  (.text f.name, v)

def textEntry (f : Field) (s : Option String) : List (Value × Value) :=
  (s.map fun s => entry f (.text s)).toList

def Observability.toMapping (o : Observability) : Mapping :=
  [entry .logLevel (.text o.level.name), entry .logToStdout (.bool o.toStdout),
    entry .redactSecrets (.bool o.redactSecrets)] ++ textEntry .logFile o.file

def sectionEntry (s : Section) (m : Option Mapping) : List (Value × Value) :=
  (m.map fun m => (.text s.name, .map m)).toList

def toMapping (c : Config) : Mapping :=
  sectionEntry .schema (c.version.map fun v => [entry .schemaVersion v]) ++
    sectionEntry .parser
      (c.handlers.map fun paths => [entry .handlers (.list (paths.map .text))]) ++
    sectionEntry .catalog (some (textEntry .catalogPath c.catalog)) ++
    sectionEntry .observability (c.observability.map Observability.toMapping)

/-- The configuration that is used where nothing else is given. -/
def standard : Config :=
  ⟨some (.int schemaVersion), some [], none, some ⟨.info, false, true, none⟩⟩

end Config

end ParamRules
