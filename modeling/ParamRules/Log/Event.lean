import ParamRules.Json
import ParamRules.Log.Correlation
import ParamRules.Redaction

/-!
Events: what is logged, and the line that is written for it. A line is a JSON object of the fields
of the event and of the correlation fields around it. Fields of the event hide correlation fields of
the same name, and the name of the logger, the level and the time stamp hide both.
-/

namespace ParamRules

inductive EventLevel where
  | debug | info | warning | error | critical
deriving Repr, DecidableEq

namespace EventLevel

def all : List EventLevel := [.debug, .info, .warning, .error, .critical]

def name : EventLevel → String
  | .debug => "debug"
  | .info => "info"
  | .warning => "warning"
  | .error => "error"
  | .critical => "critical"

def number : EventLevel → Int
  | .debug => 10
  | .info => 20
  | .warning => 30
  | .error => 40
  | .critical => 50

def ofName? (name : String) : Option EventLevel :=
  all.find? (·.name = name)

end EventLevel

/-- An event that is logged: who logs it, its name, its fields, and the correlation fields around
it. -/
structure Event where
  logger : String
  level : EventLevel
  name : String
  fields : List (String × Value)
  context : Correlation

namespace Event

def within (context : Correlation) (e : Event) : Event :=
  { e with context := context.bind e.context }

/-- The entries of what is written for an event. In a plain record the name is a field like the
others, in any other event it hides them. -/
def entries (isPlain : Bool) (timestamp : String) (e : Event) : Mapping :=
  let name := [("event", Value.text e.name)]
  let stamp : List (String × Value) :=
    [("logger", .text e.logger), ("level", .text e.level.name), ("timestamp", .text timestamp)]
  Mapping.ofEntries ((e.context ++ (if isPlain then name ++ e.fields else e.fields ++ name) ++
    stamp).map fun (name, v) => (.text name, v))

/-- How the values of an event are written: with secrets or without, after a pass of the caller. -/
structure Cleaning where
  redacts : Bool
  before : Value → Value

/-- The entries of an event as they are written, unless a key in them is too long for that. -/
def Cleaning.clean (c : Cleaning) (entries : Mapping) : Except Fault Mapping :=
  if c.redacts then
    Mapping.ofEntries <$> entries.mapM fun (k, v) =>
      (k, ·) <$> Redaction.redactField k.display (c.before v)
  else .ok entries

/-- The line that is written for an event. An event with keys that have no order or no text has
none. -/
def line? (c : Cleaning) (isPlain : Bool) (timestamp : String) (e : Event) : Option String :=
  match c.clean (e.entries isPlain timestamp) with
  | .ok entries => (Json.writeAny (.map entries)).toOption
  | .error _ => none

end Event

end ParamRules
