import ParamRules.Catalog
import ParamRules.Config.Check

/-!
Runtime settings: what a configuration says about the parser, the catalog and what is logged. They
need these sections to be there, and build the parser and the catalog that a program runs with.
-/

namespace ParamRules

def Parser.ofConfig (r : Registry) (config : Value) : Except Fault Parser := do
  let field := Config.Field.handlers
  let parts ← Argument.entries config
  match ((Mapping.get? parts (.text field.place.name)).getD (.map [])).entries? with
  | none => .error (.argument field.place.name (.wrongShape "object" none))
  | some inner =>
    let paths ←
      match (Mapping.get? inner (.text field.name)).getD (.list []) with
      | .list items | .tuple items => .ok items
      | .bytes bytes | .buffer bytes => .ok (bytes.map fun b => .int b.toNat)
      | _ => .error (.argument field.path (.wrongShape "array of strings" none))
    return .ofHandlers (← paths.zipIdx.mapM fun (path, i) =>
      r.handler (field.path ++ "[" ++ toString i ++ "]") path)

/-- What a program runs with: the paths of handlers, the file of the catalog, and what is logged. -/
structure RuntimeSettings where
  handlers : List String
  catalog : Option Path
  observability : Config.Observability

namespace RuntimeSettings

def ofConfig (c : Config) : Except Fault RuntimeSettings :=
  match c.observability, c.handlers with
  | none, _ => .error (.plain (.missingSection Config.Section.observability.name))
  | some _, none => .error (.plain (.missingSection Config.Section.parser.name))
  | some o, some handlers => .ok ⟨handlers, c.catalog.map Path.ofText, o⟩

def ofValue (v : Value) : Except Fault RuntimeSettings := do
  ofConfig (← Config.require v)

def parser (r : Registry) (s : RuntimeSettings) : Except Fault Parser :=
  Parser.ofConfig r (.map [(.text Config.Section.parser.name,
    .map [Config.entry .handlers (.list (s.handlers.map .text))])])

/-- The catalog of the settings, which is empty where they name no file. -/
def loadCatalog (r : Registry) (files : Files) (s : RuntimeSettings) : Except Fault Catalog := do
  match s.catalog with
  | none => return .empty
  | some p => Catalog.load files (← s.parser r) p.text

end RuntimeSettings

end ParamRules
