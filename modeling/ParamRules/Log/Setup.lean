import ParamRules.File
import ParamRules.Log.Event

/-!
Logs: where events are written to. Names of loggers have parts between dots, and a logger passes its
events on to the one whose name is without the last part, up to the first that has been set up. One
logger at a time has sinks; setting up another one, or the same again, closes them, also where
the new setup fails.
-/

namespace ParamRules

open Text

inductive Sink where
  | stream
  | file (p : Path)
deriving Repr, DecidableEq

/-- The logger whose sinks are open: its name, its level, its file, whether it writes to the stream
as well, and how values are written. -/
structure Log.Active where
  logger : String
  level : Int
  file : Option Path
  toStream : Bool
  cleaning : Event.Cleaning

/-- The loggers that have been set up, with their levels, and the one whose sinks are open. -/
structure Log where
  levels : List (String × Int)
  active : Option Log.Active

namespace Log

def empty : Log := ⟨[], none⟩

/-! ## Levels -/

def levelNames : List (String × Int) :=
  [("CRITICAL", 50), ("FATAL", 50), ("ERROR", 40), ("WARN", 30), ("WARNING", 30), ("INFO", 20),
    ("DEBUG", 10), ("NOTSET", 0)]

/-- The level that a value stands for: a number, or a name in any case of letters. -/
def level (v : Value) : Except Fault Int :=
  match v.number?, v.text? with
  | some n, _ => .ok n
  | none, some s =>
    match levelNames.lookup (upper (trim s)) with
    | some n => .ok n
    | none => .error (.plain (.unknownLevel v.literal))
  | none, none => .error (.plain (.levelType v.typeName))

/-! ## Loggers -/

/-- The name of the logger that all others come from. -/
def rootName : String := "root"

/-- The level of the root where it is not set up. -/
def rootLevel : Int := 30

/-- The beginnings of a path of names, the longest first. -/
def beginnings (parts : List String) : List (List String) :=
  ((List.range parts.length).map fun n => parts.take (n + 1)).reverse

/-- The names of a logger and of those that it comes from. -/
def ancestors (name : String) : List String :=
  if name = rootName then [rootName]
  else (beginnings (split '.' name)).map (join ".") ++ [rootName]

/-- The level of a logger itself, zero where it has none. -/
def ownLevel (l : Log) (name : String) : Int :=
  (l.levels.lookup name).getD (if name = rootName then rootLevel else 0)

/-- The least level at which a logger takes events: that of the first ancestor that has one. -/
def leastLevel (l : Log) (name : String) : Int :=
  (((ancestors name).map l.ownLevel).find? (· ≠ 0)).getD 0

def Active.sinks (a : Active) : List Sink :=
  (a.file.map fun p => .file p.normal).toList ++ if a.toStream then [.stream] else []

/-- The logger with open sinks that a logger's events come to. -/
def receiver? (l : Log) (name : String) : Option Active :=
  match (ancestors name).find? fun n => l.levels.any (·.1 = n) with
  | some n => l.active.filter (·.logger = n)
  | none => none

/-! ## Writing -/

/-- Where a line is written that no sink takes, for a level that matters enough. -/
def lastResort (level : EventLevel) (text : String) : List (Sink × String) :=
  if level.number ≥ rootLevel then [(.stream, text)] else []

/-- What is written for an event or a plain record. Events are dropped while no sinks are set up,
plain records are not. -/
def write (l : Log) (isPlain : Bool) (timestamp : String) (e : Event) : List (Sink × String) :=
  if (l.active.isNone && !isPlain) || e.level.number < l.leastLevel e.logger then []
  else
    match l.receiver? e.logger with
    | some a =>
      -- Without a sink the line is not laid out, and the event is written as it stands.
      if a.sinks.isEmpty then lastResort e.level bareText
      else
        match e.line? a.cleaning isPlain timestamp with
        | some line => a.sinks.map fun sink => (sink, line)
        | none => []
    | none => lastResort e.level bareText
where
  bareText : String :=
    if isPlain then e.name else (Value.map (e.entries isPlain timestamp)).literal

def takenNames : List String :=
  ["name", "msg", "args", "levelname", "levelno", "pathname", "filename", "module", "exc_info",
    "exc_text", "stack_info", "lineno", "funcName", "created", "msecs", "relativeCreated", "thread",
    "threadName", "processName", "process", "message", "asctime"]

/-- What is written for a plain record. Its fields may not have the names that all records have,
which is found only where the record is taken. -/
def writePlain (l : Log) (timestamp : String) (e : Event) : Except Fault (List (Sink × String)) :=
  match e.fields.find? fun f => takenNames.contains f.1 with
  | some (name, _) =>
    if e.level.number < l.leastLevel e.logger then .ok []
    else .error (.plain (.takenField name))
  | none => .ok (l.write true timestamp e)

/-! ## Setting up -/

structure Request where
  logger : Value
  level : Value
  file : Value
  toStream : Value
  cleaning : Event.Cleaning

def ownLogger : String := "parameter_validation"

def Request.standard : Request :=
  ⟨.text ownLogger, .text "INFO", .null, .bool true, ⟨true, id⟩⟩

/-- The request that a mapping makes. Levels and files of other kinds than are taken count as not
given. -/
def Request.ofMapping (v : Value) : Except Fault Request :=
  if v.isEmpty then .ok .standard
  else
    match v.entries? with
    | none => .error (.plain (.notIterable v.typeName))
    | some m =>
      let field := fun (name : String) => Mapping.get? m (.text name)
      let isSet := fun (name : String) => (field name).all (!·.isEmpty)
      let isLevel := fun (v : Value) => v.number?.isSome || v.text?.isSome
      .ok { Request.standard with
        level := ((field "log_level").filter isLevel).getD (.text "INFO")
        file := ((field "log_file").filter fun v => v.text?.isSome).getD .null
        toStream := .bool (isSet "log_to_stdout")
        cleaning := ⟨isSet "redact_secrets", id⟩ }

def loggerName (v : Value) : Except Fault String :=
  match v.text? with
  | none => .error (.plain (.loggerNameType v.typeName))
  | some s => if isAllBlank s then .error (.plain .emptyLoggerName) else .ok (trim s)

def target (files : Files) (v : Value) : Except Fault (Option Path) :=
  match v, v.text? with
  | .null, _ => .ok none
  | _, some s => some <$> files.target (Path.ofText s)
  | v, none => .error (.plain (.pathType v.typeName))

def shutdown (l : Log) : Log :=
  { l with active := none }

def Request.active (files : Files) (r : Request) : Except Fault Active := do
  let logger ← loggerName r.logger
  let level ← Log.level r.level
  let file ← target files r.file
  return ⟨logger, level, file, !r.toStream.isEmpty, r.cleaning⟩

def setup (l : Log) (files : Files) (r : Request) : Log × Except Fault Active :=
  match r.active files with
  | .ok a => (⟨(a.logger, a.level) :: l.levels.filter (·.1 ≠ a.logger), some a⟩, .ok a)
  | .error f => (l.shutdown, .error f)

end Log

end ParamRules
