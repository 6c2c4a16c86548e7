import ParamRules.Yaml.Cursor
import ParamRules.Number.Integer

/-!
Names of nodes, tags and directives: what follows an ampersand, a star, an exclamation mark, or a
percent sign at the start of a line. Bytes in a tag can be written by their hexadecimal digits after
a percent sign.
-/

namespace ParamRules.Yaml

/-- The name after an ampersand or a star, and what follows it. -/
def readName (s : List Char) : Option (String × List Char) :=
  let name := s.takeWhile isNameCharacter
  let rest := s.drop name.length
  let ends := atGap rest || rest.head?.any "?:,]\x7d%@\x60".toList.contains
  if name.isEmpty || !ends then none else some (String.ofList name, rest)

/-! ## Tags -/

/-- A tag as it is written: the handle, where it has one, and the rest. -/
structure Tag where
  handle : Option String
  suffix : String
deriving Repr, DecidableEq

/-- The tag of one exclamation mark, which asks for the kind that the content has. -/
def Tag.open : Tag := ⟨none, "!"⟩

def isTagCharacter (c : Char) : Bool :=
  c.isAlphanum || "-;/?:@&=+$,_.!~*'()[]".toList.contains c

def takeBytes? : List Char → Option (List UInt8 × List Char)
  | '%' :: a :: b :: r => do
    let byte ← Text.byteOf? a b
    let (bytes, rest) ← takeBytes? r
    return (byte :: bytes, rest)
  | '%' :: _ => none
  | s => some ([], s)

def tagCharacters (s : List Char) : Nat → Option (List Char × List Char)
  | 0 => none
  | fuel + 1 =>
    match s with
    | '%' :: _ => do
      let (bytes, r) ← takeBytes? s
      let decoded ← String.fromUTF8? ⟨bytes.toArray⟩
      let (cs, rest) ← tagCharacters r fuel
      return (decoded.toList ++ cs, rest)
    | c :: r =>
      if isTagCharacter c then do
        let (cs, rest) ← tagCharacters r fuel
        return (c :: cs, rest)
      else some ([], s)
    | [] => some ([], [])

def readTagText (s : List Char) : Option (String × List Char) := do
  let (cs, rest) ← tagCharacters s (s.length + 1)
  if rest.length = s.length then none else some (String.ofList cs, rest)

/-- A handle: one exclamation mark, or two with a name between them that may be empty. -/
def readHandle (s : List Char) : Option (String × List Char) :=
  match s with
  | '!' :: ' ' :: r => some ("!", ' ' :: r)
  | '!' :: r =>
    let name := r.takeWhile isNameCharacter
    match r.drop name.length with
    | '!' :: rest => some (String.ofList ('!' :: name ++ ['!']), rest)
    | _ => none
  | _ => none

def hasHandle (s : List Char) : Bool :=
  (s.takeWhile fun c => !(c = ' ' || isBreak c)).contains '!'

def readTag (s : List Char) : Option (Tag × List Char) := do
  let (tag, rest) ←
    match s with
    | '!' :: '<' :: r => do
      match ← readTagText r with
      | (text, '>' :: rest) => some (Tag.mk none text, rest)
      | _ => none
    | '!' :: r =>
      if atGap r then some (Tag.open, r)
      else if hasHandle r then do
        let (handle, r) ← readHandle s
        let (text, rest) ← readTagText r
        some (Tag.mk (some handle) text, rest)
      else do
        let (text, rest) ← readTagText r
        some (Tag.mk (some "!") text, rest)
    | _ => none
  if atSpace rest then some (tag, rest) else none

/-! ## Directives -/

/-- A directive: the version of the language, a handle with what it stands for, or another one. -/
inductive Directive where
  | version (major : Nat)
  | handle (name text : String)
  | other
deriving Repr, DecidableEq

def readDigits (s : List Char) : Option (Nat × List Char) :=
  let digits := s.takeWhile Char.isDigit
  if digits.isEmpty then none
  else some (Integer.ofDigits 10 (digits.map fun c => c.toNat - 0x30), s.drop digits.length)

/-- The directive after a percent sign, and the text from the end of its line on. -/
def readDirective (s : List Char) : Option (Directive × List Char) := do
  let name := s.takeWhile isNameCharacter
  let r := s.drop name.length
  if name.isEmpty || !atSpace r then none
  let (directive, r) ←
    if name = "YAML".toList then do
      let (major, r) ← readDigits (skipSpaces r)
      match r with
      | '.' :: r => do
        let (_, r) ← readDigits r
        if atSpace r then some (Directive.version major, r) else none
      | _ => none
    else if name = "TAG".toList then do
      let (handle, r) ← readHandle (skipSpaces r)
      if r.head? ≠ some ' ' then none
      let (text, r) ← readTagText (skipSpaces r)
      if atSpace r then some (Directive.handle handle text, r) else none
    else some (Directive.other, r.dropWhile (!isBreak ·))
  return (directive, ← skipComment? r)

end ParamRules.Yaml
