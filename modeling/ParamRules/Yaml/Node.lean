import ParamRules.Yaml.Scalar
import ParamRules.Yaml.Token

/-!
The nodes of a YAML document. A node with an anchor stands in a table, and all its uses, the place
of its definition among them, refer to its number there. So a collection can hold itself.
-/

namespace ParamRules.Yaml

/-- A node: a scalar, a list, a mapping, or a node of the table. -/
inductive Node where
  | scalar (kind : Kind) (text : String)
  | list (kind : Kind) (items : List Node)
  | map (kind : Kind) (entries : List (Node × Node))
  | shared (number : Nat)
deriving Inhabited

/-- The nodes of a document: the outermost one, and the table of those with an anchor. -/
structure Document where
  root : Node
  table : Array Node

def Node.empty : Node := .scalar .null ""

/-- The state of building nodes: the tokens that are left, what the handles of tags stand for, the
numbers of the anchors, and the table. -/
structure Building where
  tokens : List Token
  handles : List (String × String)
  anchors : List (String × Nat)
  table : Array Node

abbrev Build (α : Type) := StateT Building (Except Problem) α

namespace Build

def next? : Build (Option Token) := do
  return (← get).tokens.head?

def drop : Build Unit :=
  modify fun b => { b with tokens := b.tokens.drop 1 }

def refuse {α : Type} : Build α := do
  match ← next? with
  | some (.broken problem) => throw problem
  | _ => throw .malformed

/-- The tag and the name before a content, in either order. -/
def properties : Build (Option Tag × Option String) := do
  match (← get).tokens with
  | .anchor name :: .tag t :: _ | .tag t :: .anchor name :: _ => do
    drop
    drop
    return (some t, some name)
  | .anchor name :: _ => do
    drop
    return (none, some name)
  | .tag t :: _ => do
    drop
    return (some t, none)
  | _ => return (none, none)

def tagText (t : Tag) : Build String := do
  match t.handle with
  | none => return t.suffix
  | some handle =>
    match (← get).handles.lookup handle with
    | some start => return start ++ t.suffix
    | none => throw .malformed

/-- A number in the table for a name, if there is a name. A name is given once. -/
def reserve (name : Option String) : Build (Option Nat) := do
  match name with
  | none => return none
  | some name =>
    let b ← get
    if b.anchors.any (·.1 = name) then throw .malformed
    let number := b.table.size
    set { b with anchors := (name, number) :: b.anchors, table := b.table.push .empty }
    return some number

/-- The node itself, or its place in the table if it has a number. -/
def enter (number : Option Nat) (n : Node) : Build Node := do
  match number with
  | none => return n
  | some i =>
    modify fun b => { b with table := b.table.setIfInBounds i n }
    return .shared i

/-- The kind of a scalar with a tag: of an open tag and of plain text without a tag it is the kind
that the text shows. -/
def scalarKind (tag : Option String) (text : String) (plain : Bool) : Kind :=
  match tag with
  | none => if plain then Kind.ofPlain text else .text
  | some "!" => Kind.ofPlain text
  | some t => Kind.ofTag t

def collectionKind (tag : Option String) (usual : Kind) : Kind :=
  match tag with
  | none | some "!" => usual
  | some t => Kind.ofTag t

/-- Whether a token ends a key or a value of a block before it has begun. -/
def endsInBlock : Option Token → Bool
  | some .key | some .value | some .blockEnd => true
  | _ => false

def endsInFlow : Option Token → Bool
  | some .value | some .comma | some .closeList | some .closeMap => true
  | _ => false

/-- A node without content, which has to have a tag or a name. -/
def bare (tag name : Option String) : Build Node := do
  if tag.isNone && name.isNone then refuse
  let number ← reserve name
  enter number (.scalar (scalarKind tag "" true) "")

def closes (t : Token) : Build Bool := do
  match t, ← next? with
  | .closeList, some .closeList | .closeMap, some .closeMap => do
    drop
    return true
  | _, _ => return false

def comma : Build Unit := do
  match ← next? with
  | some .comma => drop
  | _ => refuse

mutual

/-- A node. Blocks may be `block`s, and lists without indentation may be `indentless`. -/
def node (block indentless : Bool) : Nat → Build Node
  | 0 => throw .malformed
  | fuel + 1 => do
    match ← next? with
    | some (.alias name) =>
      drop
      match (← get).anchors.lookup name with
      | some i => return .shared i
      | none => throw .malformed
    | _ =>
      let (tag, name) ← properties
      let tag ← tag.mapM tagText
      let content ← next?
      match content with
      | some (.scalar text plain) =>
        let number ← reserve name
        drop
        enter number (.scalar (scalarKind tag text plain) text)
      | some .entry =>
        if indentless then
          let number ← reserve name
          enter number (.list (collectionKind tag .list) (← entries true fuel))
        else bare tag name
      | some .openList =>
        let number ← reserve name
        drop
        enter number (.list (collectionKind tag .list) (← flowItems true fuel))
      | some .openMap =>
        let number ← reserve name
        drop
        enter number (.map (collectionKind tag .map) (← flowPairs true fuel))
      | some .blockSequence =>
        if block then
          let number ← reserve name
          drop
          enter number (.list (collectionKind tag .list) (← entries false fuel))
        else bare tag name
      | some .blockMapping =>
        if block then
          let number ← reserve name
          drop
          enter number (.map (collectionKind tag .map) (← pairs fuel))
        else bare tag name
      | _ => bare tag name

/-- The entries of a list after dashes. The list ends where its block ends, or, without indentation,
where no dash follows. -/
def entries (indentless : Bool) : Nat → Build (List Node)
  | 0 => throw .malformed
  | fuel + 1 => do
    match ← next? with
    | some .entry =>
      drop
      let isEmpty :=
        match ← next? with
        | some .entry | some .blockEnd => true
        | some .key | some .value => indentless
        | _ => false
      let item ← if isEmpty then pure Node.empty else node true false fuel
      return item :: (← entries indentless fuel)
    | some .blockEnd =>
      if !indentless then drop
      return []
    | _ => if indentless then return [] else refuse

def pairs : Nat → Build (List (Node × Node))
  | 0 => throw .malformed
  | fuel + 1 => do
    match ← next? with
    | some .key =>
      drop
      let key ← blockNode fuel
      let value ←
        match ← next? with
        | some .value => do
          drop
          blockNode fuel
        | _ => pure Node.empty
      return (key, value) :: (← pairs fuel)
    | some .blockEnd =>
      drop
      return []
    | _ => refuse

def blockNode : Nat → Build Node
  | 0 => throw .malformed
  | fuel + 1 => do
    if endsInBlock (← next?) then return .empty else node true true fuel

/-- The items of a list in brackets. A key with a value is a mapping of its own. -/
def flowItems (first : Bool) : Nat → Build (List Node)
  | 0 => throw .malformed
  | fuel + 1 => do
    if ← closes .closeList then return []
    if !first then comma
    match ← next? with
    | some .closeList =>
      drop
      return []
    | some .key =>
      drop
      let key ← flowNode fuel
      let value ← flowValue fuel
      return .map .map [(key, value)] :: (← flowItems false fuel)
    | _ =>
      let item ← node false false fuel
      return item :: (← flowItems false fuel)

def flowPairs (first : Bool) : Nat → Build (List (Node × Node))
  | 0 => throw .malformed
  | fuel + 1 => do
    if ← closes .closeMap then return []
    if !first then comma
    match ← next? with
    | some .closeMap =>
      drop
      return []
    | some .key =>
      drop
      let key ← flowNode fuel
      let value ← flowValue fuel
      return (key, value) :: (← flowPairs false fuel)
    | _ =>
      let key ← node false false fuel
      return (key, .empty) :: (← flowPairs false fuel)

def flowNode : Nat → Build Node
  | 0 => throw .malformed
  | fuel + 1 => do
    if endsInFlow (← next?) then return .empty else node false false fuel

def flowValue : Nat → Build Node
  | 0 => throw .malformed
  | fuel + 1 => do
    match ← next? with
    | some .value =>
      drop
      flowNode fuel
    | _ => return .empty

end

end Build

end ParamRules.Yaml
