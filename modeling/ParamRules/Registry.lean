import ParamRules.Fault

/-!
The registry of names that can be looked up: modules, with what they hold. A type name or the path
of a handler gives the name of a module and a path of names inside it. Type names that lead to no
class stand for nothing; paths that lead to no handler are refused.
-/

namespace ParamRules

/-- A handler of constraint names that are not known. Its answer may be a constraint, nothing, or a
refusal. -/
structure Handler where
  name : String
  answer : String → DataType → Except CustomRefusal (Option Constraint)

/-- What a name stands for: a class where it is one, a handler where it can be called, and the
names inside it. -/
inductive Entity where
  | mk (cls : Option Class) (handler : Option Handler) (names : List (String × Entity))

/-- The modules that can be found, each with what it holds. -/
structure Registry where
  modules : List (String × Entity)

namespace Entity

def cls : Entity → Option Class
  | .mk c _ _ => c

def handler : Entity → Option Handler
  | .mk _ h _ => h

def names : Entity → List (String × Entity)
  | .mk _ _ ns => ns

/-- The entity at a path of names inside another one, or the first name that is not there. -/
def follow : Entity → List String → Except String Entity
  | e, [] => .ok e
  | e, name :: rest =>
    match e.names.lookup name with
    | some inner => inner.follow rest
    | none => .error name

/-- An enumeration as an entity. Its members are neither classes nor handlers. -/
def ofEnumeration (e : Enumeration) : Entity :=
  .mk (some (.enumeration e)) (some ⟨e.name, fun _ _ => .ok none⟩)
    (e.entries.map fun entry => (entry.1, .mk none none []))

end Entity

namespace Registry

def empty : Registry := ⟨[]⟩

/-- The module with the given name, if there is one. Names that start with a dot are relative to
another module, and there is none. -/
def module? (r : Registry) (name : String) : Except Fault (Option Entity) :=
  if name.toList.head? = some '.' then .error (.plain (.relativeImport name))
  else .ok (r.modules.lookup name)

/-- The module and the path of names that a type name gives: before and after the first colon, or
the last dot where there is no colon. -/
def typePath? (name : String) : Option (String × String) :=
  ((Text.cut? ':' name).or (Text.cutLast? '.' name)).filter fun p =>
    !p.1.isEmpty && !p.2.isEmpty

def class? (r : Registry) (name : String) : Except Fault (Option Class) :=
  match typePath? name with
  | none => .ok none
  | some (module, path) => do
    match ← r.module? module with
    | none => return none
    | some e =>
      match e.follow (Text.split '.' path) with
      | .ok found => return found.cls
      -- A name that is missing inside a module is no fault.
      | .error _ => return none

/-- The handler that a path leads to. `field` names the place of the path in messages. -/
def handler (r : Registry) (field : String) (path : Value) : Except Fault Handler :=
  let refuse := fun problem => Except.error (Fault.argument field problem)
  match path.text? with
  | none => refuse (.wrongShape "non-empty string" none)
  | some text =>
    if Text.isAllBlank text then refuse (.wrongShape "non-empty string" none)
    else
      match (Text.cut? ':' (Text.trim text)).filter fun p => !p.1.isEmpty && !p.2.isEmpty with
      | none => refuse (.noImportPath text)
      | some (module, names) => do
        match ← r.module? module with
        | none => refuse (.unknownModule module)
        | some e =>
          match e.follow (Text.split '.' names) with
          | .error name => refuse (.missingAttribute text name)
          | .ok found =>
            match found.handler with
            | some h => return h
            | none => refuse (.notCallable text)

end Registry

end ParamRules
