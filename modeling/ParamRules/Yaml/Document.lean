import ParamRules.Mapping
import ParamRules.Yaml.Node

/-!
Documents: the nodes of a text, the first thing that is wrong with them, and the value that they
stand for. What is wrong is looked for level by level from the outermost node on. A value is built
from the values of the nodes with an anchor, and those in as many rounds as there are such nodes;
only a collection that holds itself needs more, and it is unfolded no further.
-/

namespace ParamRules.Yaml

/-! ## From tokens -/

namespace Build

/-- The directives before a document. The version is given once, and so is each handle. -/
def directives (version : Bool) : List Token → Build Unit
  | .directive d :: r => do
    match d with
    | .version major =>
      if version || major ≠ 1 then throw .malformed
      drop
      directives true r
    | .handle name text =>
      if (← get).handles.any (·.1 = name) then throw .malformed
      modify fun b => { b with handles := (name, text) :: b.handles }
      drop
      directives version r
    | .other =>
      drop
      directives version r
  | _ => return ()

def usualHandles : List (String × String) :=
  [("!", "!"), ("!!", Kind.tagStart)]

/-- The outermost node of a text, which may hold one document or none. -/
def root (fuel : Nat) : Build (Option Node) := do
  let usual := modify fun b => { b with handles := b.handles ++ usualHandles }
  let found : Option Node ←
    match (← get).tokens with
    | [] => pure none
    | ts@(.directive _ :: _) | ts@(.documentStart :: _) => do
      directives false ts
      usual
      match ← next? with
      | some .documentStart =>
        drop
        match ← next? with
        | none | some .documentEnd | some .documentStart | some (.directive _) => pure (some .empty)
        | _ => some <$> node true false fuel
      | _ => refuse
    | _ => do
      usual
      some <$> node true false fuel
  modify fun b => { b with tokens := b.tokens.dropWhile fun t => t matches .documentEnd }
  if (← next?).isSome then refuse
  return found

end Build

def Document.ofText? (s : List Char) : Except Problem (Option Document) := do
  let tokens := Token.ofText s
  let (root, built) ← (Build.root (3 * tokens.length + 3)).run ⟨tokens, [], [], #[]⟩
  return root.map fun n => ⟨n, built.table⟩

/-! ## What is wrong with the nodes -/

namespace Node

mutual

/-- The number of nodes in a node, itself among them. -/
def size : Node → Nat
  | .scalar .. | .shared _ => 1
  | .list _ items => 1 + sizes items
  | .map _ entries => 1 + entrySizes entries

def sizes : List Node → Nat
  | [] => 0
  | n :: r => size n + sizes r

def entrySizes : List (Node × Node) → Nat
  | [] => 0
  | (k, v) :: r => size k + size v + entrySizes r

end

def kind : Node → Kind
  | .scalar k _ | .list k _ | .map k _ => k
  | .shared _ => .unknown

end Node

def Kind.isCollection : Kind → Bool
  | .list | .map | .set | .orderedMap | .pairs => true
  | _ => false

namespace Document

def size (d : Document) : Nat :=
  d.root.size + Node.sizes d.table.toList

/-- A node of the table for its number, and any other node itself. -/
def resolve (d : Document) : Node → Node
  | .shared i => d.table[i]?.getD .empty
  | n => n

/-- The text of a node that is read as a scalar. Of a mapping it is the value of the key `=`. -/
def scalarText (d : Document) (n : Node) : Nat → Except Problem String
  | 0 => .error .malformed
  | fuel + 1 =>
    match d.resolve n with
    | .scalar _ text => .ok text
    | .map _ entries =>
      match entries.find? fun e => (d.resolve e.1).kind = .default with
      | some e => d.scalarText e.2 fuel
      | none => .error .malformed
    | _ => .error .malformed

def scalar (d : Document) (n : Node) : Except Problem Value := do
  scalarValue (d.resolve n).kind (← d.scalarText n (d.size + 1))

/-- A node that is looked at: one that may be a key, any other, or a place where something is
wrong. -/
inductive Visit where
  | key (n : Node)
  | node (n : Node)
  | fault (problem : Problem)

/-- Entries in which those of merged mappings stand first. The numbers are those of the mappings in
the table that are being merged. -/
def mergedEntries (d : Document) (within : List Nat) (entries : List (Node × Node)) :
    Nat → Except Problem (List (Node × Node))
  | 0 => .ok []
  | fuel + 1 => do
    let isMerge := fun (e : Node × Node) => (d.resolve e.1).kind = .merge
    let ofNode := fun (n : Node) => do
      let number :=
        match n with
        | .shared i => some i
        | _ => none
      match d.resolve n with
      | .map _ inner =>
        if number.any within.contains then .ok []
        else d.mergedEntries (number.toList ++ within) inner fuel
      | _ => .error Problem.malformed
    let merged ← (entries.filter isMerge).mapM fun e =>
      match d.resolve e.2 with
      | .list _ items => do
        let parts ← items.mapM ofNode
        return parts.reverse.flatten
      | _ => ofNode e.2
    return merged.flatten ++ entries.filter fun e => !isMerge e

/-- The visits that an entry of a mapping asks for. The key `=` is a text like any other. -/
def entryVisits (d : Document) (e : Node × Node) : List Visit :=
  if (d.resolve e.1).kind = .default then [.node e.2] else [.key e.1, .node e.2]

def visits (d : Document) (n : Node) : List Visit :=
  match n with
  | .list .list items => items.map .node
  | .map .map entries | .map .set entries =>
    match d.mergedEntries [] entries (d.size + 1) with
    | .error problem => [.fault problem]
    | .ok all => all.flatMap d.entryVisits
  | .list .orderedMap items | .list .pairs items =>
    items.flatMap fun item =>
      match d.resolve item with
      | .map _ [(k, v)] => [.node k, .node v]
      | _ => [.fault .malformed]
  | _ => [.fault .malformed]

/-- Looks at a node, unless it was looked at before. Collections wait for the next level. -/
def look (d : Document) (n : Node) (seen : List Nat) (waiting : List Node) :
    Except Problem (List Nat × List Node) := do
  let isNew :=
    match n with
    | .shared i => !seen.contains i
    | _ => true
  let seen :=
    match n with
    | .shared i => i :: seen
    | _ => seen
  if !isNew then return (seen, waiting)
  else if (d.resolve n).kind.isCollection then return (seen, d.resolve n :: waiting)
  else do
    let _ ← d.scalar n
    return (seen, waiting)

/-- Makes the visits of one level. The result is what has been seen and the collections that wait,
last first. No collection may be a key. -/
def visitAll (d : Document) (seen : List Nat) (waiting : List Node) :
    List Visit → Except Problem (List Nat × List Node)
  | [] => .ok (seen, waiting)
  | .fault problem :: _ => .error problem
  | .key n :: r => do
    let (seen, waiting) ← d.look n seen waiting
    if (d.resolve n).kind.isCollection then .error .malformed
    d.visitAll seen waiting r
  | .node n :: r => do
    let (seen, waiting) ← d.look n seen waiting
    d.visitAll seen waiting r

def checkLevels (d : Document) (seen : List Nat) (level : List Node) : Nat → Except Problem Unit
  | 0 => .ok ()
  | fuel + 1 => do
    if level.isEmpty then return ()
    let (seen, waiting) ← d.visitAll seen [] (level.flatMap d.visits)
    d.checkLevels seen waiting.reverse fuel

def check (d : Document) : Except Problem Unit := do
  let (seen, waiting) ← d.look d.root [] []
  d.checkLevels seen waiting (d.size + 1)

/-! ## The value -/

def entriesToMerge : Value → List (Value × Value)
  | .map entries => entries
  | .list items => (items.reverse.map fun item => (item.entries?).getD []).flatten
  | _ => []

def collection (kind : Kind) (v : Value) : Value :=
  match kind, v with
  | .set, _ => .other "set"
  | .orderedMap, .list items | .pairs, .list items =>
    .list (items.filterMap fun item =>
      match item with
      | .map ((k, v) :: _) => some (.tuple [k, v])
      | _ => none)
  | _, v => v

mutual

def valueOf (d : Document) (table : Array Value) (n : Node) : Value :=
  match n with
  | .scalar kind text =>
    (scalarValue (if kind = .default then .text else kind) text).toOption.getD .null
  | .shared i => table[i]?.getD .null
  | .list kind items => collection kind (.list (valuesOf d table items))
  | .map kind entries =>
    if kind = .map || kind = .set then
      let read := entryValues d table entries
      let merged := (read.filter (·.1)).flatMap fun e => entriesToMerge e.2.2
      collection kind (.map (Mapping.ofEntries (merged ++ (read.filter (!·.1)).map (·.2))))
    else (d.scalar (.map kind entries)).toOption.getD .null

def valuesOf (d : Document) (table : Array Value) : List Node → List Value
  | [] => []
  | n :: r => valueOf d table n :: valuesOf d table r

/-- The values of keys and values, and of each whether it is merged. -/
def entryValues (d : Document) (table : Array Value) :
    List (Node × Node) → List (Bool × Value × Value)
  | [] => []
  | (k, v) :: r =>
    ((d.resolve k).kind = .merge, valueOf d table k, valueOf d table v) :: entryValues d table r

end

/-- The values of the table after so many rounds. -/
def tableValues (d : Document) : Nat → Array Value
  | 0 => d.table.map fun n =>
    match n with
    | .list .. => .list []
    | .map .. => .map []
    | n => d.valueOf #[] n
  | rounds + 1 =>
    let before := d.tableValues rounds
    d.table.map (d.valueOf before)

def value (d : Document) : Except Problem Value := do
  d.check
  return d.valueOf (d.tableValues d.table.size) d.root

end Document

def unifyLineEnds : List Char → List Char
  | '\r' :: '\n' :: r => '\n' :: unifyLineEnds r
  | '\r' :: r => '\n' :: unifyLineEnds r
  | c :: r => c :: unifyLineEnds r
  | [] => []

/-- The value that a text stands for. A text without a document has no value. -/
def read (s : List Char) : Except Problem Value := do
  match ← Document.ofText? (unifyLineEnds s) with
  | some d => d.value
  | none => return .null

end ParamRules.Yaml
