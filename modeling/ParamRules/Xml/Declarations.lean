import ParamRules.Text.Hex
import ParamRules.Xml.Name

/-!
The declarations of a document type: entities, elements, attributes and notations. Entities are
kept, since references to them are checked, and so are the values that attributes have where an
element does not write them; of all else only the form counts.
-/

namespace ParamRules.Xml

inductive Entity where
  | text (content : List Char)
  | outside
deriving Repr, DecidableEq

/-- An attribute: its name and its written value. -/
structure Attribute where
  name : QualifiedName
  value : List Char
deriving Repr, DecidableEq

structure Declarations where
  entities : List (List Char × Entity)
  /-- Declared attributes by element and name, with their value where one is declared. -/
  attributes : List ((QualifiedName × QualifiedName) × Option (List Char))
  /-- Declarations outside the document may have been missed. -/
  mayMiss : Bool
  /-- The document says that it needs no declarations outside. -/
  standalone : Bool
  /-- Declarations are still heeded. -/
  heeded : Bool
deriving Repr

def Declarations.empty : Declarations := ⟨[], [], false, false, true⟩

/-- Whether a name without declaration may be declared outside the document. -/
def Declarations.allowsUnknown (d : Declarations) : Bool :=
  d.mayMiss && !d.standalone

/-- Adds an entity, unless its name is taken or declarations are no longer heeded. -/
def Declarations.add (d : Declarations) (name : List Char) (e : Entity) : Declarations :=
  if !d.heeded || (d.entities.lookup name).isSome then d
  else { d with entities := d.entities ++ [(name, e)] }

def Declarations.addAttribute (d : Declarations) (element name : QualifiedName)
    (value : Option (List Char)) : Declarations :=
  if !d.heeded || (d.attributes.lookup (element, name)).isSome then d
  else { d with attributes := d.attributes ++ [((element, name), value)] }

def Declarations.unwritten (d : Declarations) (element : QualifiedName)
    (written : List Attribute) : List Attribute :=
  d.attributes.filterMap fun entry =>
    if entry.1.1 = element && !written.any (·.name = entry.1.2) then
      entry.2.map fun value => ⟨entry.1.2, value⟩
    else none

/-! ## References -/

def digitValue? (base : Nat) (c : Char) : Option Nat :=
  (Text.hexValue? c).filter (· < base)

def characterOf? (n : Nat) : Option Char :=
  let c := Char.ofNat n
  if n.isValidChar && isCharacter c then some c else none

/-- The number of a character reference after its ampersand and hash, and what follows its
semicolon. -/
def takeCharacter? (s : List Char) : Option (Char × List Char) := do
  let (base, r) :=
    match s with
    | 'x' :: r => (16, r)
    | r => (10, r)
  let digits := r.takeWhile fun c => (digitValue? base c).isSome
  if digits.isEmpty then none
  match r.dropWhile fun c => (digitValue? base c).isSome with
  | ';' :: rest =>
    let n := digits.foldl (fun n c => Nat.min (n * base + (digitValue? base c).getD 0) 0x110000) 0
    let c ← characterOf? n
    some (c, rest)
  | _ => none

inductive Reference where
  | character (c : Char)
  | name (name : List Char)
deriving Repr, DecidableEq

def takeReference? : List Char → Option (Reference × List Char)
  | '#' :: r => (takeCharacter? r).map fun p => (.character p.1, p.2)
  | s =>
    match takeName? s with
    | some (name, ';' :: r) => some (.name name, r)
    | _ => none

def isPredefined (name : List Char) : Bool :=
  ["amp".toList, "lt".toList, "gt".toList, "quot".toList, "apos".toList].contains name

/-- A piece of the value of an attribute: a character, or a reference to an entity. -/
inductive Piece where
  | character (c : Char)
  | entity (name : List Char)
deriving Repr, DecidableEq

/-- The pieces of a value of at most so many characters. An opening bracket is refused. -/
def pieces? : Nat → List Char → Option (List Piece)
  | _, [] => some []
  | 0, _ => none
  | fuel + 1, c :: r =>
    if c = '<' then none
    else if c = '&' then
      match takeReference? r with
      | none => none
      | some (.character c, r) => (pieces? fuel r).map (.character c :: ·)
      | some (.name name, r) => (pieces? fuel r).map (.entity name :: ·)
    else (pieces? fuel r).map (.character (if isSpace c then ' ' else c) :: ·)

/-- Whether the references in the value of an attribute can be resolved. `depth` bounds the nesting
of entities, and `within` are those that the text is a part of. -/
def areResolved (d : Declarations) : Nat → List (List Char) → List Char → Bool
  | 0, _, _ => false
  | depth + 1, within, s =>
    (pieces? s.length s).any fun pieces =>
      pieces.all fun piece =>
        match piece with
        | .character _ => true
        | .entity name =>
          isPredefined name ||
            match d.entities.lookup name with
            | none => d.allowsUnknown
            | some (.text content) =>
              !within.contains name && areResolved d depth (name :: within) content
            | some .outside => false

/-- The text of an entity from its written value: references to characters are resolved, other
references stay. Percent signs are refused. -/
def entityText? : Nat → List Char → Option (List Char)
  | _, [] => some []
  | 0, _ => none
  | fuel + 1, c :: r =>
    if c = '%' then none
    else if c = '&' then
      match takeReference? r with
      | none => none
      | some (.character d, rest) => (entityText? fuel rest).map (d :: ·)
      | some (.name name, rest) =>
        (entityText? fuel rest).map fun t => '&' :: name ++ ';' :: t
    else (entityText? fuel r).map (c :: ·)

/-! ## Declarations -/

def isPublicCharacter (c : Char) : Bool :=
  c = ' ' || c = '\r' || c = '\n' || c.isAlpha || c.isDigit ||
    "-'()+,./:=?;!*#@$_%".toList.contains c

def takePublic? (s : List Char) : Option (List Char) := do
  let (name, r) ← takeQuoted? s
  if name.all isPublicCharacter then some r else none

def endsToken (s : List Char) : Bool :=
  s.head?.all fun c => isSpace c || c = '>' || c = '[' || c = '%'

/-- An identifier of something outside the document, and what follows it. A notation needs no system
identifier. -/
def takeOutside? (needsSystem : Bool) (s : List Char) : Option (List Char) :=
  match dropMark? "SYSTEM".toList s, dropMark? "PUBLIC".toList s with
  | some r, _ => do
    let (_, r) ← takeQuoted? (← needSpace? r)
    if endsToken r then some r else none
  | none, some r => do
    let r ← takePublic? (← needSpace? r)
    if !endsToken r then none
    match needSpace? r with
    | some after =>
      match takeQuoted? after with
      | some (_, r) => if endsToken r then some r else none
      | none => if needsSystem then none else some r
    | none => if needsSystem then none else some r
  | none, none => none

def takeClose? (s : List Char) : Option (List Char) :=
  match skipSpace s with
  | '>' :: r => some r
  | _ => none

def takeEntity? (d : Declarations) (s : List Char) : Option (Declarations × List Char) := do
  let s ← needSpace? s
  let (isParameter, s) ←
    match s with
    | '%' :: r => (needSpace? r).map (true, ·)
    | r => some (false, r)
  let (name, s) ← takeName? s
  let s ← needSpace? s
  match takeQuoted? s with
  | some (value, r) =>
    if !endsToken r then none
    let r ← takeClose? r
    if !d.heeded then some (d, r)
    else
      let text ← entityText? value.length value
      some (if isParameter then d else d.add name (.text text), r)
  | none =>
    let r ← takeOutside? true s
    let r ←
      match (needSpace? r).bind (dropMark? "NDATA".toList) with
      | some after =>
        if isParameter then none
        else do
          let (_, r) ← takeName? (← needSpace? after)
          some r
      | none => some r
    let r ← takeClose? r
    some (if isParameter then d else d.add name .outside, r)

def skipRepeat : List Char → List Char
  | '?' :: r => r
  | '*' :: r => r
  | '+' :: r => r
  | r => r

/-- The rest of a mixed content model, after its first part. With names it has to be repeated. -/
def takeMixed? : Nat → Bool → List Char → Option (List Char)
  | 0, _, _ => none
  | fuel + 1, hasNames, s =>
    match skipSpace s with
    | ')' :: '*' :: r => some r
    | ')' :: r => if hasNames then none else some r
    | '|' :: r =>
      match takeQualified? (skipSpace r) with
      | some (_, r) => takeMixed? fuel true r
      | none => none
    | _ => none

/-- The rest of a content model: the open groups by the separator that they use, and whether a part
is due. -/
def takeModel? : Nat → List (Option Char) → Bool → List Char → Option (List Char)
  | 0, _, _, _ => none
  | fuel + 1, open', due, s =>
    let s := skipSpace s
    if due then
      match s with
      | '(' :: r => takeModel? fuel (none :: open') true r
      | s =>
        match takeQualified? s with
        | some (_, r) => takeModel? fuel open' false (skipRepeat r)
        | none => none
    else
      match s, open' with
      | ')' :: r, [_] => some (skipRepeat r)
      | ')' :: r, _ :: outer => takeModel? fuel outer false (skipRepeat r)
      | c :: r, used :: outer =>
        if (c = '|' || c = ',') && used.all (· = c) then takeModel? fuel (some c :: outer) true r
        else none
      | _, _ => none

def takeElement? (s : List Char) : Option (List Char) := do
  let (_, s) ← takeQualified? (← needSpace? s)
  let s ← needSpace? s
  let r ←
    match s with
    | '(' :: r =>
      match dropMark? "#PCDATA".toList (skipSpace r) with
      | some r => takeMixed? (r.length + 1) false r
      | none => takeModel? (r.length + 1) [none] true r
    | s => (dropMark? "EMPTY".toList s).or (dropMark? "ANY".toList s)
  takeClose? r

def takeAlternatives? (take : List Char → Option Taken) : Nat → List Char → Option (List Char)
  | 0, _ => none
  | fuel + 1, s =>
    match take (skipSpace s) with
    | none => none
    | some (_, r) =>
      match skipSpace r with
      | ')' :: r => some r
      | '|' :: r => takeAlternatives? take fuel r
      | _ => none

def takeAttributeType? (s : List Char) : Option (List Char) :=
  match s with
  | '(' :: r => takeAlternatives? takeToken? (r.length + 1) r
  | s => do
    let (word, r) ← takeName? s
    if word = "NOTATION".toList then
      match ← needSpace? r with
      | '(' :: r => takeAlternatives? takeName? (r.length + 1) r
      | _ => none
    else if ["CDATA", "ID", "IDREF", "IDREFS", "ENTITY", "ENTITIES", "NMTOKEN", "NMTOKENS"].any
        (·.toList = word) then some r
    else none

def takeDefault? (d : Declarations) (s : List Char) : Option (Option (List Char) × List Char) :=
  match dropMark? "#REQUIRED".toList s, dropMark? "#IMPLIED".toList s,
      dropMark? "#FIXED".toList s with
  | some r, _, _ => some (none, r)
  | _, some r, _ => some (none, r)
  | _, _, some r => (needSpace? r).bind value?
  | none, none, none => value? s
where
  /-- A value in quotes, whose references have to be resolved. -/
  value? (s : List Char) : Option (Option (List Char) × List Char) := do
    let (value, r) ← takeQuoted? s
    if (d.heeded && !areResolved d (d.entities.length + 1) [] value) || !endsToken r then none
    else some (some value, r)

def takeAttributes? (element : QualifiedName) :
    Nat → Declarations → List Char → Option (Declarations × List Char)
  | 0, _, _ => none
  | fuel + 1, d, s =>
    match takeClose? s with
    | some r => some (d, r)
    | none => do
      let (name, s) ← takeQualified? (← needSpace? s)
      let s ← takeAttributeType? (← needSpace? s)
      let (value, s) ← takeDefault? d (← needSpace? s)
      takeAttributes? element fuel (d.addAttribute element name value) s

def takeAttributeList? (d : Declarations) (s : List Char) : Option (Declarations × List Char) := do
  let (element, s) ← takeQualified? (← needSpace? s)
  takeAttributes? element (s.length + 1) d s

def takeNotation? (s : List Char) : Option (List Char) := do
  let (_, s) ← takeName? (← needSpace? s)
  takeClose? (← takeOutside? false (← needSpace? s))

def takeComment? (s : List Char) : Option (List Char) := do
  let (_, r) ← takeUntil? ['-', '-'] s
  match r with
  | '>' :: r => some r
  | _ => none

/-- An instruction to a program after its opening, and what follows it. Its target is not `xml` in
any case. -/
def takeInstruction? (s : List Char) : Option (List Char) := do
  let (target, r) ← takeName? s
  if target.map Char.toLower = "xml".toList then none
  match dropMark? ['?', '>'] r with
  | some r => some r
  | none => (takeUntil? ['?', '>'] (← needSpace? r)).map (·.2)

def takeSubset? : Nat → Declarations → List Char → Option (Declarations × List Char)
  | 0, _, _ => none
  | fuel + 1, d, s =>
    let s := skipSpace s
    match s with
    | ']' :: r => some (d, r)
    | '%' :: r =>
      match takeName? r with
      | some (_, ';' :: r) =>
        takeSubset? fuel { d with mayMiss := true, heeded := d.heeded && d.standalone } r
      | _ => none
    | '<' :: '?' :: r => (takeInstruction? r).bind (takeSubset? fuel d)
    | '<' :: '!' :: '-' :: '-' :: r => (takeComment? r).bind (takeSubset? fuel d)
    | '<' :: '!' :: r =>
      match takeName? r with
      | none => none
      | some (word, r) =>
        if word = "ENTITY".toList then
          (takeEntity? d r).bind fun p => takeSubset? fuel p.1 p.2
        else if word = "ELEMENT".toList then (takeElement? r).bind (takeSubset? fuel d)
        else if word = "ATTLIST".toList then
          (takeAttributeList? d r).bind fun p => takeSubset? fuel p.1 p.2
        else if word = "NOTATION".toList then (takeNotation? r).bind (takeSubset? fuel d)
        else none
    | _ => none

def takeDoctype? (d : Declarations) (s : List Char) : Option (Declarations × List Char) := do
  let (_, r) ← takeQualified? (← needSpace? s)
  let (d, r) :=
    match (needSpace? r).bind (takeOutside? true) with
    | some after => ({ d with mayMiss := true }, after)
    | none => (d, r)
  match skipSpace r with
  | '[' :: r =>
    let (d, r) ← takeSubset? (r.length + 1) d r
    let r ← takeClose? r
    some (d, r)
  | '>' :: r => some (d, r)
  | _ => none

end ParamRules.Xml
