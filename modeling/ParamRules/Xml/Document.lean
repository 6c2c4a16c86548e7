import ParamRules.Xml.Declarations

/-!
Well-formed documents: one element with properly nested elements in it, with comments, instructions
and a document type around it. Names before a colon have to be bound to a namespace by an attribute
of an element around them, and no element has two attributes of one name.
-/

namespace ParamRules.Xml

def xmlNamespace : List Char := "http://www.w3.org/XML/1998/namespace".toList

def bindingNamespace : List Char := "http://www.w3.org/2000/xmlns/".toList

/-- Namespaces by the names that are bound to them, the innermost binding first. -/
abbrev Bindings := List (List Char × List Char)

def predefined? (name : List Char) : Option Char :=
  [("amp", '&'), ("lt", '<'), ("gt", '>'), ("quot", '"'), ("apos", '\'')].lookup
    (String.ofList name)

/-- The value of an attribute with its references resolved. White space counts as a space. -/
def plainValue (d : Declarations) : Nat → List Char → List Char
  | 0, _ => []
  | depth + 1, s =>
    ((pieces? s.length s).getD []).flatMap fun piece =>
      match piece with
      | .character c => [c]
      | .entity name =>
        match predefined? name, d.entities.lookup name with
        | some c, _ => [c]
        | none, some (.text content) => plainValue d depth content
        | none, _ => []

def Attribute.binds? (a : Attribute) : Option (List Char) :=
  if a.name.scope = "xmlns".toList then some a.name.part
  else if a.name.scope.isEmpty && a.name.part = "xmlns".toList then some []
  else none

def mayBind (name uri : List Char) : Bool :=
  if name = "xmlns".toList then false
  else if name = "xml".toList then uri = xmlNamespace
  else uri ≠ xmlNamespace && uri ≠ bindingNamespace && (name.isEmpty || !uri.isEmpty) &&
    !uri.contains '\x7d'

def bindingsWith? (d : Declarations) (bindings : Bindings) (attributes : List Attribute) :
    Option Bindings :=
  attributes.foldlM (fun bs a =>
    match a.binds? with
    | none => some bs
    | some name =>
      let uri := plainValue d (d.entities.length + 1) a.value
      if mayBind name uri then some ((name, uri) :: bs) else none) bindings

/-- The namespace and the part of a name. Names without a colon have none. -/
def resolve? (bindings : Bindings) (name : QualifiedName) : Option (List Char × List Char) :=
  if name.scope.isEmpty then some ([], name.part)
  else if name.scope = "xml".toList then some (xmlNamespace, name.part)
  else (bindings.lookup name.scope).map (·, name.part)

def allDiffer {α : Type} [BEq α] : List α → Bool
  | [] => true
  | x :: r => !r.contains x && allDiffer r

/-- The bindings inside an element with a name and attributes, when all names are bound and no two
attributes have one name. -/
def enter? (d : Declarations) (bindings : Bindings) (name : QualifiedName)
    (attributes : List Attribute) : Option Bindings := do
  if !allDiffer (attributes.map (·.name)) then none
  let attributes := attributes ++ d.unwritten name attributes
  let inner ← bindingsWith? d bindings attributes
  let _ ← resolve? inner name
  let others := attributes.filter (·.binds?.isNone)
  let names ← others.mapM fun a => resolve? inner a.name
  if allDiffer (names.filter (!·.1.isEmpty)) then some inner else none

/-- Attributes up to the end of a tag; the flag says whether the element is empty. -/
def takeTagEnd? (d : Declarations) : Nat → List Attribute → List Char →
    Option (List Attribute × Bool × List Char)
  | 0, _, _ => none
  | fuel + 1, read, s =>
    match skipSpace s with
    | '>' :: r => some (read.reverse, false, r)
    | '/' :: '>' :: r => some (read.reverse, true, r)
    | _ => do
      let (name, r) ← takeQualified? (← needSpace? s)
      match skipSpace r with
      | '=' :: r =>
        let (value, r) ← takeQuoted? (skipSpace r)
        if !areResolved d (d.entities.length + 1) [] value then none
        takeTagEnd? d fuel (⟨name, value⟩ :: read) r
      | _ => none

structure Open where
  name : QualifiedName
  outer : Bindings

/-- What follows the element that is open first, or nothing at the end of a balanced text. With
`closes` the text ends with the element that is open last. `isFine` says which entities may stand
where certain names are bound. -/
def contentFrom (d : Declarations) (isFine : List Char → Bindings → Bool) :
    Nat → List Open → Bool → Bindings → List Char → Option (List Char)
  | 0, _, _, _, _ => none
  | fuel + 1, stack, closes, bindings, s =>
    match s with
    | [] => if stack.isEmpty && !closes then some [] else none
    | '<' :: '/' :: r =>
      match stack, takeQualified? r with
      | top :: below, some (name, r) =>
        if name ≠ top.name then none
        else
          match takeClose? r with
          | none => none
          | some r =>
            if below.isEmpty && closes then some r
            else contentFrom d isFine fuel below closes top.outer r
      | _, _ => none
    | '<' :: '?' :: r =>
      (takeInstruction? r).bind (contentFrom d isFine fuel stack closes bindings)
    | '<' :: '!' :: '-' :: '-' :: r =>
      (takeComment? r).bind (contentFrom d isFine fuel stack closes bindings)
    | '<' :: '!' :: r =>
      match dropMark? "[CDATA[".toList r with
      | none => none
      | some r =>
        match takeUntil? [']', ']', '>'] r with
        | none => none
        | some (_, r) => contentFrom d isFine fuel stack closes bindings r
    | '<' :: r =>
      match takeQualified? r with
      | none => none
      | some (name, r) =>
        match takeTagEnd? d (r.length + 1) [] r with
        | none => none
        | some (attributes, isEmpty, r) =>
          match enter? d bindings name attributes with
          | none => none
          | some inner =>
            if isEmpty then
              if stack.isEmpty && closes then some r
              else contentFrom d isFine fuel stack closes bindings r
            else contentFrom d isFine fuel (⟨name, bindings⟩ :: stack) closes inner r
    | '&' :: r =>
      match takeReference? r with
      | none => none
      | some (.character _, r) => contentFrom d isFine fuel stack closes bindings r
      | some (.name name, r) =>
        if isPredefined name || isFine name bindings then
          contentFrom d isFine fuel stack closes bindings r
        else none
    | ']' :: ']' :: '>' :: _ => none
    | c :: r =>
      if isCharacter c then contentFrom d isFine fuel stack closes bindings r else none

/-- Whether an entity stands for content of an element: a balanced text, with all references
resolved. `depth` bounds the nesting of entities, and `within` are those around it. -/
def isContentEntity (d : Declarations) : Nat → List (List Char) → List Char → Bindings → Bool
  | 0, _, _, _ => false
  | depth + 1, within, name, bindings =>
    match d.entities.lookup name with
    | some (.text content) =>
      !within.contains name &&
        contentFrom d (isContentEntity d depth (name :: within)) (content.length + 1) [] false
          bindings content = some []
    | _ => false

/-! ## Around the element -/

def takeSetting? (s : List Char) : Option (List Char × List Char × List Char) := do
  let (name, r) := ((← needSpace? s).span fun c => c ≠ '=' && !isSpace c)
  match skipSpace r with
  | '=' :: r =>
    let (value, r) ← takeQuoted? (skipSpace r)
    if name.all (·.val < 0x80) && value.all fun c =>
        c.isAlpha || c.isDigit || c = '.' || c = '-' || c = '_' then
      some (name, value, r)
    else none
  | _ => none

/-- The settings in the first line of a document: version, encoding and whether it stands alone. The
result is the last one. -/
def isStandalone? (s : List Char) : Option Bool := do
  let (name, _, r) ← takeSetting? s
  if name ≠ "version".toList then none
  if (skipSpace r).isEmpty then some false
  else
    let (name, value, r) ← takeSetting? r
    if name = "encoding".toList then
      if !value.head?.any Char.isAlpha then none
      if (skipSpace r).isEmpty then some false
      else
        let (name, value, r) ← takeSetting? r
        standalone? name value r
    else standalone? name value r
where
  standalone? (name value rest : List Char) : Option Bool :=
    if name ≠ "standalone".toList || !(skipSpace rest).isEmpty then none
    else if value = "yes".toList then some true
    else if value = "no".toList then some false
    else none

def takeFirstLine? (s : List Char) : Option (Declarations × List Char) :=
  match dropMark? "<?xml".toList s with
  | some r =>
    if r.head?.all isNameCharacter then some (.empty, s)
    else do
      let (line, r) ← takeUntil? ['?', '>'] r
      let alone ← isStandalone? line
      some ({ Declarations.empty with standalone := alone }, r)
  | none => some (.empty, s)

def takeProlog? : Nat → Bool → Declarations → List Char → Option (Declarations × List Char)
  | 0, _, _, _ => none
  | fuel + 1, hasType, d, s =>
    match skipSpace s with
    | '<' :: '?' :: r => (takeInstruction? r).bind (takeProlog? fuel hasType d)
    | '<' :: '!' :: '-' :: '-' :: r => (takeComment? r).bind (takeProlog? fuel hasType d)
    | '<' :: '!' :: r =>
      match dropMark? "DOCTYPE".toList r with
      | none => none
      | some r =>
        if hasType then none
        else (takeDoctype? d r).bind fun p => takeProlog? fuel true p.1 p.2
    | s => some (d, s)

def isEpilog : Nat → List Char → Bool
  | 0, _ => false
  | fuel + 1, s =>
    match skipSpace s with
    | [] => true
    | '<' :: '?' :: r => (takeInstruction? r).any (isEpilog fuel)
    | '<' :: '!' :: '-' :: '-' :: r => (takeComment? r).any (isEpilog fuel)
    | _ => false

def isWellFormed (text : String) : Bool :=
  let s :=
    match text.toList with
    | c :: r => if c.toNat = 0xFEFF then r else c :: r
    | [] => []
  match takeFirstLine? s with
  | none => false
  | some (d, s) =>
    match takeProlog? (s.length + 1) false d s with
    | none => false
    | some (d, s) =>
      match s with
      | '<' :: c :: _ =>
        isNameStart c &&
          match contentFrom d (isContentEntity d (d.entities.length + 1) []) (s.length + 1) []
              true [] s with
          | some rest => isEpilog (rest.length + 1) rest
          | none => false
      | _ => false

end ParamRules.Xml
