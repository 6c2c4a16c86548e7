import ParamRules.Yaml.BlockText
import ParamRules.Yaml.PlainText
import ParamRules.Yaml.Quoted
import ParamRules.Yaml.Tag

/-!
Tokens of YAML texts. Indentation shows in them: where a block of entries or of keys opens and
closes there is a token of its own. A key without a mark of its own is known only by the colon after
it, so the tokens that open a mapping are put before a key when its colon is met. Such a key has to
stand on one line, at most 1024 characters before its colon.
-/

namespace ParamRules.Yaml

inductive Token where
  | directive (d : Directive)
  | documentStart
  | documentEnd
  | blockSequence
  | blockMapping
  | blockEnd
  | openList
  | openMap
  | closeList
  | closeMap
  | entry
  | comma
  | key
  | value
  | alias (name : String)
  | anchor (name : String)
  | tag (t : Tag)
  /-- A text, and whether it stands without quotes in its line. -/
  | scalar (text : String) (plain : Bool)
  | broken (problem : Problem)
deriving Repr

/-- A place where a key may have started: the number of tokens before it, whether there has to be a
key, and where it is. -/
structure KeyMark where
  position : Nat
  required : Bool
  index : Nat
  line : Nat
  column : Nat

/-- Reading in progress: the place, the depth of brackets, the columns of the open blocks, whether a
key may start here, where keys may have started by depth of brackets, and the tokens so far. -/
structure Reading where
  place : Cursor
  depth : Nat
  indent : Int
  outer : List Int
  keyAllowed : Bool
  keys : List (Nat × KeyMark)
  tokens : Array Token

namespace Reading

def start (s : List Char) : Reading :=
  ⟨.start s, 0, -1, [], true, [], #[]⟩

def push (r : Reading) (t : Token) : Reading :=
  { r with tokens := r.tokens.push t }

def moveTo (r : Reading) (rest : List Char) : Reading :=
  { r with place := r.place.moveTo rest }

def skip (r : Reading) (count : Nat) : Reading :=
  { r with place := r.place.advance count }

def inFlow (r : Reading) : Bool :=
  r.depth > 0

def atLineStart (r : Reading) : Bool :=
  r.place.column = 0

/-! ## Blocks and keys -/

/-- Closes the blocks that are indented more than the given column. Inside brackets indentation does
not count. -/
def closeBlocks (r : Reading) (column : Int) : Reading :=
  if r.inFlow then r else go r r.outer
where
  go (r : Reading) : List Int → Reading
    | [] => r
    | i :: rest =>
      if r.indent > column then
        go { r with indent := i, outer := rest, tokens := r.tokens.push .blockEnd } rest
      else r

/-- A block at a column, if that is indented more than the open ones. The token that opens it is put
before the token of the given number. -/
def openBlock (r : Reading) (column position : Nat) (t : Token) : Reading :=
  if r.indent < column then
    { r with
      indent := column
      outer := r.indent :: r.outer
      tokens := r.tokens.insertIdxIfInBounds position t }
  else r

def keyMark? (r : Reading) : Option KeyMark :=
  r.keys.lookup r.depth

/-- The reading without a key at the present depth, unless there has to be one. -/
def dropKey? (r : Reading) : Option Reading :=
  if (r.keyMark?).any (·.required) then none
  else some { r with keys := r.keys.filter (·.1 ≠ r.depth) }

def markKey? (r : Reading) : Option Reading :=
  if r.keyAllowed then do
    let required := !r.inFlow && r.indent = r.place.column
    let r ← r.dropKey?
    let mark : KeyMark :=
      ⟨r.tokens.size, required, r.place.index, r.place.line, r.place.column⟩
    return { r with keys := (r.depth, mark) :: r.keys }
  else some r

/-- Whether the colon of a key can no longer follow. -/
def isStale (r : Reading) (m : KeyMark) : Bool :=
  m.line ≠ r.place.line || r.place.index - m.index > 1024

/-- The reading without the keys whose colon can no longer follow, unless one of them has to be a
key. -/
def dropStaleKeys? (r : Reading) : Option Reading :=
  if r.keys.any fun k => r.isStale k.2 && k.2.required then none
  else some { r with keys := r.keys.filter fun k => !r.isStale k.2 }

/-! ## Between tokens -/

/-- The text after spaces, comments and line breaks, and whether a line break was among them. -/
def skipFiller (s : List Char) : Nat → Bool × List Char
  | 0 => (false, s)
  | fuel + 1 =>
    match skipComment? s with
    | some (_ :: r) => (true, (skipFiller r fuel).2)
    | some [] => (false, [])
    | none => (false, skipSpaces s)

def skipToToken (r : Reading) : Reading :=
  let r :=
    if r.place.index = 0 ∧ r.place.rest.head? = some byteOrderMark then r.skip 1 else r
  let (broken, rest) := skipFiller r.place.rest (r.place.rest.length + 1)
  { r.moveTo rest with keyAllowed := r.keyAllowed || (broken && !r.inFlow) }

/-! ## One token -/

/-- A token of so many characters that closes all blocks. -/
def closing? (r : Reading) (count : Nat) (t : Token) : Option Reading := do
  let r ← (r.closeBlocks (-1)).dropKey?
  return { (r.push t).skip count with keyAllowed := false }

def opening? (r : Reading) (t : Token) : Option Reading := do
  let r ← r.markKey?
  return { (r.push t).skip 1 with depth := r.depth + 1, keyAllowed := true }

def closeBracket? (r : Reading) (t : Token) : Option Reading := do
  if r.depth = 0 then none
  let r ← r.dropKey?
  return { (r.push t).skip 1 with depth := r.depth - 1, keyAllowed := false }

def comma? (r : Reading) : Option Reading := do
  let r ← r.dropKey?
  return { (r.push .comma).skip 1 with keyAllowed := true }

/-- Opens a block at the present column, where one is allowed to start. -/
def blockHere? (r : Reading) (t : Token) : Option Reading :=
  if r.inFlow then some r
  else if !r.keyAllowed then none
  else some (r.openBlock r.place.column r.tokens.size t)

def entry? (r : Reading) : Option Reading := do
  let r ← (← r.blockHere? .blockSequence).dropKey?
  return { (r.push .entry).skip 1 with keyAllowed := true }

def key? (r : Reading) : Option Reading := do
  let r ← (← r.blockHere? .blockMapping).dropKey?
  return { (r.push .key).skip 1 with keyAllowed := !r.inFlow }

def value? (r : Reading) : Option Reading :=
  match r.keyMark? with
  | some mark =>
    let r :=
      { r with
        keys := r.keys.filter (·.1 ≠ r.depth)
        tokens := r.tokens.insertIdxIfInBounds mark.position .key
        keyAllowed := false }
    let r := if r.inFlow then r else r.openBlock mark.column mark.position .blockMapping
    some ((r.push .value).skip 1)
  | none => do
    let r ← (← r.blockHere? .blockMapping).dropKey?
    return { (r.push .value).skip 1 with keyAllowed := !r.inFlow }

def keyToken? (r : Reading) (t : Token) (rest : List Char) : Option Reading := do
  let r ← r.markKey?
  return { (r.push t).moveTo rest with keyAllowed := false }

def blockText? (r : Reading) (folded : Bool) (s : List Char) : Option Reading := do
  let r ← r.dropKey?
  let (text, rest) ← readBlock folded r.indent s
  return { (r.push (.scalar text false)).moveTo rest with keyAllowed := true }

def orMalformed {α : Type} : Option α → Except Problem α
  | some a => .ok a
  | none => .error .malformed

def quoted (r : Reading) (double : Bool) (s : List Char) : Except Problem Reading := do
  let r ← orMalformed r.markKey?
  let (text, rest) ← readQuoted double s
  return { (r.push (.scalar text false)).moveTo rest with keyAllowed := false }

def plain? (r : Reading) (s : List Char) : Option Reading := do
  let r ← r.markKey?
  let (text, broken, rest) := readPlain r.inFlow r.indent s
  return { (r.push (.scalar text true)).moveTo rest with keyAllowed := broken }

def token (r : Reading) (c : Char) (s : List Char) : Except Problem Reading :=
  let whole := c :: s
  let marked := r.inFlow || atGap s
  if c = '%' && r.atLineStart then orMalformed do
    let (d, rest) ← readDirective s
    let r ← (r.closeBlocks (-1)).dropKey?
    return { (r.push (.directive d)).moveTo rest with keyAllowed := false }
  else if r.atLineStart && atTriple '-' whole then orMalformed (r.closing? 3 .documentStart)
  else if r.atLineStart && atTriple '.' whole then orMalformed (r.closing? 3 .documentEnd)
  else if c = '[' then orMalformed (r.opening? .openList)
  else if c = '\x7b' then orMalformed (r.opening? .openMap)
  else if c = ']' then orMalformed (r.closeBracket? .closeList)
  else if c = '\x7d' then orMalformed (r.closeBracket? .closeMap)
  else if c = ',' then orMalformed r.comma?
  else if c = '-' && atGap s then orMalformed r.entry?
  else if c = '?' && marked then orMalformed r.key?
  else if c = ':' && marked then orMalformed r.value?
  else if c = '*' then orMalformed do
    let (name, rest) ← readName s
    r.keyToken? (.alias name) rest
  else if c = '&' then orMalformed do
    let (name, rest) ← readName s
    r.keyToken? (.anchor name) rest
  else if c = '!' then orMalformed do
    let (tag, rest) ← readTag whole
    r.keyToken? (.tag tag) rest
  else if c = '|' && !r.inFlow then orMalformed (r.blockText? false s)
  else if c = '>' && !r.inFlow then orMalformed (r.blockText? true s)
  else if c = '\'' then r.quoted false s
  else if c = '"' then r.quoted true s
  else if startsPlain r.inFlow c s then orMalformed (r.plain? whole)
  else .error .malformed

/-- The tokens up to the end of the text. What cannot be read ends them. -/
def run (r : Reading) : Nat → Array Token
  | 0 => r.tokens.push (.broken .malformed)
  | fuel + 1 =>
    match r.skipToToken.dropStaleKeys? with
    | none => r.tokens.push (.broken .malformed)
    | some r =>
      let r := r.closeBlocks r.place.column
      match r.place.rest with
      | [] =>
        match (r.closeBlocks (-1)).dropKey? with
        | some r => r.tokens
        | none => r.tokens.push (.broken .malformed)
      | c :: s =>
        match r.token c s with
        | .ok next => next.run fuel
        | .error problem => r.tokens.push (.broken problem)

end Reading

def Token.ofText (s : List Char) : List Token :=
  if s.all isReadable then (Reading.start s).run (s.length + 1) |>.toList
  else [.broken .malformed]

end ParamRules.Yaml
