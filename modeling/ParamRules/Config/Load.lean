import ParamRules.Config.Check
import ParamRules.Config.Layer
import ParamRules.File
import ParamRules.Toml.Document

/-!
Loading configurations. The file, the environment and the overrides are merged in this order over
the standard configuration, so that what comes later wins. Relative paths start at the directory of
the file, also those that come from the environment and the overrides.
-/

namespace ParamRules.Config

open Text

/-! ## Paths -/

/-- The path that a text stands for, with variables and the home directory in it, as an absolute one
if the base is absolute. -/
def anchorText (e : Environment) (base : Path) (s : String) : Except Fault String :=
  match (Path.ofText (Path.expandVariables e s)).expandHome e with
  | some p => .ok (base.within p).normal.text
  | none => .error (.plain .noHome)

/-- The mapping with the path in a field anchored, where it holds a text. -/
def anchorField (e : Environment) (base : Path) (f : Field) (m : Mapping) :
    Except Fault Mapping := do
  let sectionKey := Value.text f.place.name
  let key := Value.text f.name
  match (Mapping.get? m sectionKey).bind Value.entries? with
  | none => return m
  | some inner =>
    match (Mapping.get? inner key).bind Value.text? with
    | none => return m
    | some s =>
      let anchored ← anchorText e base s
      return Mapping.put sectionKey (.map (Mapping.put key (.text anchored) inner)) m

def anchor (e : Environment) (base : Path) (m : Mapping) : Except Fault Mapping := do
  anchorField e base .logFile (← anchorField e base .catalogPath m)

/-! ## Files -/

/-- The name of the file that is looked for where none is given. -/
def fileName : String := "paramval.toml"

def source (files : Files) (path : Option String) : Except Fault Path := do
  match path with
  | none => return files.resolve (Path.ofText fileName)
  | some s => return files.resolve (← files.locate s)

/-- The layer of a file. A file that is asked for has to be there. -/
def ofFile (files : Files) (isRequired : Bool) (p : Path) : Except Fault Mapping := do
  match files.entry p with
  | .absent => if isRequired then .error (.plain (.load (.notFound p.text))) else return []
  | .directory => .error (.plain (.load (.isDirectory p.text)))
  | .file bytes =>
    match Toml.read (← Files.decode bytes) with
    | .ok m => return m
    | .error .malformed => .error (.plain (.load (.notToml p.text)))
    | .error (.longNumber digits) => .error (.plain (.longToRead digits))

def layered (layer : Except LoadProblem Mapping) : Except Fault Mapping :=
  layer.mapError fun problem => .plain (.load problem)

def mergeLayers (layers : List Mapping) : Mapping :=
  layers.foldl Mapping.merge standard.toMapping

/-- The configuration of a file, an environment and overrides. -/
def load (files : Files) (path : Option String) (e : Environment)
    (overrides : List (String × Value)) : Except Fault Config := do
  let p ← source files path
  let file ← ofFile files path.isSome p
  let environment ← layered (ofEnvironment e)
  let given ← layered (ofOverrides overrides)
  -- Anchored after merging, so that the paths of all layers start at the directory of the file.
  require (.map (← anchor files.environment p.parent (mergeLayers [file, environment, given])))

end ParamRules.Config
