import ParamRules.Config.Basic
import ParamRules.Fault
import ParamRules.Path

/-!
Layers: mappings that are merged over the standard configuration, one after the other. A layer comes
from the variables of an environment, one for each field, or from overrides, whose keys give the way
to a field in names between dots.
-/

namespace ParamRules.Config

open Text

/-! ## Variables -/

/-- What the names of all variables start with. -/
def variableMark : String := "PARAMVAL_"

def Field.variableName (f : Field) : String :=
  variableMark ++ upper f.place.name ++ "_" ++ upper f.name

def trueWords : List String := ["1", "true", "t", "yes", "y", "on"]

def falseWords : List String := ["0", "false", "f", "no", "n", "off"]

/-- The truth value that a word stands for in the variable of a field. -/
def readFlag (f : Field) (s : String) : Except LoadProblem Value :=
  if trueWords.contains (lower s) then .ok (.bool true)
  else if falseWords.contains (lower s) then .ok (.bool false)
  else .error (.notFlag f.variableName s)

def Field.readText (f : Field) (s : String) : Except LoadProblem Value :=
  match f with
  | .schemaVersion =>
    match Integer.read 10 s with
    | .ok n => .ok (.int n)
    | .error _ => .error (.notInteger f.variableName s)
  | .handlers =>
    .ok (.list (((split ',' s).filter fun piece => !isAllBlank piece).map fun piece =>
      .text (trim piece)))
  | .catalogPath | .logFile => .ok (.text s)
  | .logLevel => .ok (.text (upper s))
  | .logToStdout | .redactSecrets => readFlag f s

/-! ## Layers -/

/-- A mapping with a value at the end of a path of names. What stands in the way is replaced. -/
def setAt (v : Value) : List String → Mapping → Mapping
  | [], m => m
  | [name], m => Mapping.put (.text name) v m
  | name :: path, m =>
    let inner := ((Mapping.get? m (.text name)).bind Value.entries?).getD []
    Mapping.put (.text name) (.map (setAt v path inner)) m

def variableLayer (e : Environment) : List Field → Mapping → Except LoadProblem Mapping
  | [], m => .ok m
  | f :: r, m =>
    match e.get? f.variableName with
    | none => variableLayer e r m
    | some s => do variableLayer e r (setAt (← f.readText (trim s)) [f.place.name, f.name] m)

def ofEnvironment (e : Environment) : Except LoadProblem Mapping :=
  variableLayer e Field.all []

/-- The names between the dots of a key, without the empty ones. -/
def pathOfKey (key : String) : List String :=
  (split '.' key).filter (!·.isEmpty)

def overrideLayer : List (String × Value) → Mapping → Except LoadProblem Mapping
  | [], m => .ok m
  | (key, v) :: r, m =>
    if (pathOfKey key).isEmpty then .error (.overrideKey key)
    else overrideLayer r (setAt v (pathOfKey key) m)

/-- The layer of overrides, in the order of their keys. -/
def ofOverrides (overrides : List (String × Value)) : Except LoadProblem Mapping :=
  overrideLayer (overrides.mergeSort fun a b => a.1 ≤ b.1) []

end ParamRules.Config
