import ParamRules.Pattern.Node
import ParamRules.Number.Integer

/-!
Reading patterns. A written pattern is a row of marks: characters, and pairs of a backslash and a
character. Alternatives are read with `choiceOf`, the items of one alternative with `itemsOf`.

Options can be given with a pattern, at its start for all of it, and in a group for that group. All
of them are known before the first node is read, so nodes are made with their options worked in.
-/

namespace ParamRules.Pattern

open Text

inductive Refusal where
  | malformed
  | conflictingClasses
  | tooManyRepeats
  | tooManyDigits (digits : Nat)
deriving Repr, DecidableEq

structure Options where
  ignoreCase : Bool
  multiline : Bool
  dotAll : Bool
  /-- White space and comments between items are passed over. -/
  spaced : Bool
  /-- Character classes have characters among the first 128 only. -/
  short : Bool
  /-- Full character classes are asked for. -/
  full : Bool
  /-- Nothing may be repeated. -/
  fixed : Bool
deriving Repr, DecidableEq

def Options.none : Options := ⟨false, false, false, false, false, false, false⟩

def Options.union (a b : Options) : Options :=
  ⟨a.ignoreCase || b.ignoreCase, a.multiline || b.multiline, a.dotAll || b.dotAll,
    a.spaced || b.spaced, a.short || b.short, a.full || b.full, a.fixed || b.fixed⟩

def Options.without (a b : Options) : Options :=
  ⟨a.ignoreCase && !b.ignoreCase, a.multiline && !b.multiline, a.dotAll && !b.dotAll,
    a.spaced && !b.spaced, a.short && !b.short, a.full && !b.full, a.fixed && !b.fixed⟩

/-- Options within a group that adds some and takes away others. A choice of classes replaces the
one outside. -/
def Options.within (o added removed : Options) : Options :=
  let o := if added.short || added.full then { o with short := false, full := false } else o
  (o.union added).without removed

def Options.folding (o : Options) : Folding :=
  if !o.ignoreCase then .none else if o.short then .ascii else .full

def optionOf? : Char → Option Options
  | 'i' => some { Options.none with ignoreCase := true }
  | 'm' => some { Options.none with multiline := true }
  | 's' => some { Options.none with dotAll := true }
  | 'x' => some { Options.none with spaced := true }
  | 'a' => some { Options.none with short := true }
  | 'u' => some { Options.none with full := true }
  | 't' => some { Options.none with fixed := true }
  | _ => none

/-- A mark of a written pattern. -/
inductive Mark where
  | plain (c : Char)
  | escaped (c : Char)
deriving Repr, DecidableEq

/-- The marks of a text. A backslash at its end belongs to no mark. -/
def marks? : List Char → Option (List Mark)
  | [] => some []
  | ['\\'] => none
  | '\\' :: c :: r => (marks? r).map (.escaped c :: ·)
  | c :: r => (marks? r).map (.plain c :: ·)

/-- A group that was opened: its name, and its lengths once it is closed. -/
structure GroupNote where
  name : Option String
  lengths : Option (Nat × Nat)
deriving Repr

/-- What the reader knows: the marks ahead, the options of the whole pattern, the groups opened so
far, the group count at the start of the enclosing look behind, and the group numbers that
conditions name. -/
structure Reading where
  ahead : List Mark
  options : Options
  groups : List GroupNote
  behind : Option Nat
  conditions : List Nat
deriving Repr

abbrev Reader := StateT Reading (Except Refusal)

def malformed {α : Type} : Reader α :=
  throw .malformed

def peek : Reader (Option Mark) := do
  return (← get).ahead.head?

def skip : Reader Unit :=
  modify fun s => { s with ahead := s.ahead.tail }

def take : Reader (Option Mark) := do
  let m ← peek
  skip
  return m

def takeIf (c : Char) : Reader Bool := do
  if (← peek) = some (.plain c) then
    skip
    return true
  else
    return false

def takeAny (cs : List Char) : Reader (Option Char) := do
  match ← peek with
  | some (.plain c) =>
    if cs.contains c then
      skip
      return some c
    else
      return none
  | _ => return none

def expect (c : Char) : Reader Unit := do
  if !(← takeIf c) then malformed

def takeWhile (kind : Char → Bool) : Nat → Reader (List Char)
  | 0 => return []
  | count + 1 => do
    match ← peek with
    | some (.plain c) =>
      if kind c then
        skip
        return c :: (← takeWhile kind count)
      else
        return []
    | _ => return []

/-- Takes marks up to a character, which is passed over. There have to be some. -/
def takeUntil (stop : Char) : Reader (List Char) := do
  let rec split : List Mark → Option (List Char × List Mark)
    | [] => none
    | .plain c :: r =>
      if c = stop then some ([], r) else (split r).map fun p => (c :: p.1, p.2)
    | .escaped c :: r => (split r).map fun p => ('\\' :: c :: p.1, p.2)
  match split (← get).ahead with
  | none | some ([], _) => malformed
  | some (name, rest) =>
    modify fun s => { s with ahead := rest }
    return name

/-- Passes over marks up to a character, and over the character. -/
def skipPast (stop : Char) : Reader Bool := do
  let rest := (← get).ahead.dropWhile (· ≠ .plain stop)
  modify fun s => { s with ahead := rest.tail }
  return !rest.isEmpty

/-! ## Groups -/

def isGroupName : List Char → Bool
  | [] => false
  | c :: r =>
    isWordCharacter c && !isAnyDigit c && r.all isWordCharacter

/-- The number of the group with a name. Groups are counted from one. -/
def groupNamed? (name : String) : Reader (Option Nat) := do
  return ((← get).groups.findIdx? (·.name = some name)).map (· + 1)

def closedGroup? (index : Nat) : Reader (Option (Nat × Nat)) := do
  if index = 0 then return none
  return ((← get).groups[index - 1]?).bind (·.lengths)

/-- Checks that a group may be named inside the enclosing look behind, if there is one. -/
def checkBehind (index : Nat) : Reader Unit := do
  match (← get).behind with
  | none => return
  | some count =>
    if (← closedGroup? index).isNone || index > count then malformed

def againNode (o : Options) (index : Nat) : Reader Node := do
  match ← closedGroup? index with
  | none => malformed
  | some (least, most) =>
    checkBehind index
    return .again index least most o.folding

def openGroup (name : Option String) : Reader Nat := do
  let s ← get
  if name.isSome && s.groups.any (·.name = name) then malformed
  set { s with groups := s.groups ++ [GroupNote.mk name none] }
  return s.groups.length + 1

def closeGroup (index : Nat) (body : Node) : Reader Unit :=
  modify fun s =>
    { s with groups := s.groups.modify (index - 1) fun g =>
      { g with lengths := some body.lengths } }

/-! ## Escapes -/

def isOctal (c : Char) : Bool :=
  '0' ≤ c && c ≤ '7'

def isAsciiLetter (c : Char) : Bool :=
  c.isAlpha

def numberOf (base : Nat) (digits : List Char) : Nat :=
  Integer.ofDigits base (digits.filterMap (Integer.digitIn? base))

def isHex (c : Char) : Bool :=
  c.isDigit || ('a' ≤ c && c ≤ 'f') || ('A' ≤ c && c ≤ 'F')

def hexCode (count : Nat) : Reader Nat := do
  let digits ← takeWhile isHex count
  if digits.length ≠ count then malformed
  let n := numberOf 16 digits
  if n > 0x10FFFF then malformed
  return n

def controlCode? : Char → Option Nat
  | 'a' => some 7
  | 'f' => some 12
  | 'n' => some 10
  | 'r' => some 13
  | 't' => some 9
  | 'v' => some 11
  | '\\' => some 92
  | _ => none

/-- The class of characters of a letter; a capital stands for all others. -/
def classOf? (o : Options) : Char → Option SetItem
  | 'd' => some (.named .digit false o.short)
  | 'D' => some (.named .digit true o.short)
  | 's' => some (.named .blank false o.short)
  | 'S' => some (.named .blank true o.short)
  | 'w' => some (.named .word false o.short)
  | 'W' => some (.named .word true o.short)
  | _ => none

/-- The code that an escape of digits, or of a letter and hexadecimal digits, stands for in and
outside of sets. Other letters stand for nothing, and other characters for themselves. -/
def commonEscape (c : Char) : Reader Nat := do
  match c with
  | 'x' => hexCode 2
  | 'u' => hexCode 4
  | 'U' => hexCode 8
  | c => if isAsciiLetter c || c.isDigit then malformed else return c.toNat

def setEscape (o : Options) (c : Char) : Reader SetItem := do
  match controlCode? c, classOf? o c with
  | some n, _ => return .one n
  | none, some item => return item
  | none, none =>
    if c = 'b' then return .one 8
    else if isOctal c then
      let digits := c :: (← takeWhile isOctal 2)
      let n := numberOf 8 digits
      if n > 0xFF then malformed
      return .one n
    else return .one (← commonEscape c)

def single (o : Options) (n : Nat) : Node :=
  .set (.ofItems false [.one n] o.folding)

def anchorOf? (o : Options) : Char → Option Anchor
  | 'A' => some .textStart
  | 'Z' => some .textEnd
  | 'b' => some (.wordEdge o.short)
  | 'B' => some (.noWordEdge o.short)
  | _ => none

/-- A group number, or a character by its octal code, whose first digit is given. -/
def numberedEscape (o : Options) (c : Char) : Reader Node := do
  match ← peek with
  | some (.plain d) =>
    if d.isDigit then
      skip
      match ← peek with
      | some (.plain e) =>
        if isOctal c && isOctal d && isOctal e then
          skip
          let n := numberOf 8 [c, d, e]
          if n > 0xFF then malformed
          return single o n
        else againNode o (numberOf 10 [c, d])
      | _ => againNode o (numberOf 10 [c, d])
    else againNode o (numberOf 10 [c])
  | _ => againNode o (numberOf 10 [c])

def escape (o : Options) (c : Char) : Reader Node := do
  match anchorOf? o c, classOf? o c, controlCode? c with
  | some a, _, _ => return .anchor a
  | _, some item, _ => return .set (.ofItems false [item] o.folding)
  | _, _, some n => return single o n
  | none, none, none =>
    if c = '0' then
      return single o (numberOf 8 (← takeWhile isOctal 2))
    else if c.isDigit then numberedEscape o c
    else return single o (← commonEscape c)

/-! ## Sets -/

def setItem (o : Options) : Mark → Reader SetItem
  | .plain c => return .one c.toNat
  | .escaped c => setEscape o c

/-- The items of a set, after the opening bracket. A closing bracket in the first place is an
item. -/
def setItems (o : Options) : Nat → List SetItem → Reader (List SetItem)
  | 0, _ => malformed
  | fuel + 1, read => do
    match ← take with
    | none => malformed
    | some m =>
      if m = .plain ']' ∧ !read.isEmpty then return read.reverse
      else
        let first ← setItem o m
        if ← takeIf '-' then
          match ← take with
          | none => malformed
          | some n =>
            if n = .plain ']' then return (.one 0x2D :: first :: read).reverse
            else
              match first, ← setItem o n with
              | .one low, .one high =>
                if high < low then malformed
                setItems o fuel (.range low high :: read)
              | _, _ => malformed
        else setItems o fuel (first :: read)

def setNode (o : Options) : Reader Node := do
  let negated ← takeIf '^'
  let items ← setItems o ((← get).ahead.length + 1) []
  return .set (.ofItems negated items o.folding)

/-! ## Repeats -/

/-- The least number of repeats that is out of range. -/
def repeatLimit : Nat := 4294967295

def repeatCount (digits : List Char) : Reader Nat := do
  if digits.length > Integer.digitLimit then throw (.tooManyDigits digits.length)
  let n := numberOf 10 digits
  if n ≥ repeatLimit then throw .tooManyRepeats
  return n

/-- The bounds of a repeat in braces, after the opening brace. Where the braces hold no bounds the
brace is a character, and nothing is taken. -/
def braces : Reader (Option (Nat × Option Nat)) := do
  let before ← get
  let count := before.ahead.length
  if (← peek) = some (.plain '\x7d') then return none
  let low ← takeWhile Char.isDigit count
  let high ← if ← takeIf ',' then takeWhile Char.isDigit count else pure low
  if !(← takeIf '\x7d') then
    set before
    return none
  let least ← if low.isEmpty then pure 0 else repeatCount low
  if high.isEmpty then return some (least, none)
  let most ← repeatCount high
  if most < least then malformed
  return some (least, some most)

/-- An item of an alternative, and whether a repeat may follow it. -/
structure Item where
  node : Node
  repeatable : Bool

def Item.free (node : Node) : Item := ⟨node, true⟩

/-- An item from an escape. Marks of a place are not repeated. -/
def Item.ofEscape (node : Node) : Item :=
  match node with
  | .anchor _ => ⟨node, false⟩
  | _ => ⟨node, true⟩

def repeated (bounds : Nat × Option Nat) (items : List Item) : Reader (List Item) := do
  match items with
  | [] => malformed
  | ⟨_, false⟩ :: _ => malformed
  | ⟨node, true⟩ :: r =>
    let greed : Greed :=
      match ← takeAny ['?', '+'] with
      | some '?' => .lazy
      | some _ => .possessive
      | none => .greedy
    return ⟨.repeat bounds.1 bounds.2 greed node, false⟩ :: r

/-! ## Options in a pattern -/

def optionLetters (stops : List Char) (taken : Options) : Nat → Char → Reader (Options × Char)
  | 0, _ => malformed
  | fuel + 1, c => do
    match optionOf? c with
    | none => malformed
    | some o =>
      let taken := taken.union o
      if taken.short && taken.full then malformed
      match ← take with
      | some (.plain d) =>
        if stops.contains d then return (taken, d) else optionLetters stops taken fuel d
      | _ => malformed

/-- Options that start with a letter or a minus sign: those that are added, and those that are
taken away. Options for the whole pattern add some and end the group. -/
def optionGroup (c : Char) : Reader (Options × Option Options) := do
  let fuel := (← get).ahead.length + 1
  let (added, stop) ←
    if c = '-' then pure (Options.none, '-') else optionLetters [')', '-', ':'] .none fuel c
  if stop = ')' then return (added, none)
  if added.fixed then malformed
  let removed ←
    if stop = ':' then pure Options.none
    else
      match ← take with
      | some (.plain d) => pure (← optionLetters [':'] .none fuel d).1
      | _ => malformed
  if removed.fixed || removed.short || removed.full then malformed
  if (added.without removed) ≠ added then malformed
  return (added, some removed)

/-! ## Items -/

def addOptions (added : Options) : Reader Options := do
  modify fun s => { s with options := s.options.union added }
  return (← get).options

def isSpacing (c : Char) : Bool :=
  c = ' ' || ('\t' ≤ c && c ≤ '\r')

def conditionGroup : Reader Nat := do
  let name ← takeUntil ')'
  let index ←
    if isGroupName name then
      match ← groupNamed? (String.ofList name) with
      | some index => pure index
      | none => malformed
    else
      match Integer.read 10 (String.ofList name) with
      | .ok n =>
        if n ≤ 0 ∨ n ≥ 1073741823 then malformed
        modify fun s => { s with conditions := n.toNat :: s.conditions }
        pure n.toNat
      | .error _ => malformed
  checkBehind index
  return index

mutual

/-- Alternatives, at the outermost level or in a group. -/
def choiceOf : Nat → Options → Bool → Reader Node
  | 0, _, _ => malformed
  | fuel + 1, o, outermost => do
    let first ← itemsOf fuel o outermost outermost []
    return Node.choice (first :: (← furtherChoices fuel o outermost))

def furtherChoices : Nat → Options → Bool → Reader (List Node)
  | 0, _, _ => malformed
  | fuel + 1, o, outermost => do
    if ← takeIf '|' then
      let whole := (← get).options
      let o := if outermost then whole else o
      let next ← itemsOf fuel o outermost false []
      return next :: (← furtherChoices fuel o outermost)
    else return []

/-- The items of one alternative; those read so far are given in reverse. Options for the whole
pattern may stand only at its start. -/
def itemsOf : Nat → Options → Bool → Bool → List Item → Reader Node
  | 0, _, _, _, _ => malformed
  | fuel + 1, o, outermost, atStart, items => do
    match ← peek with
    | none | some (.plain '|') | some (.plain ')') =>
      return Node.sequence (items.reverse.map (·.node))
    | some (.escaped c) =>
      skip
      itemsOf fuel o outermost atStart (.ofEscape (← escape o c) :: items)
    | some (.plain c) =>
      skip
      if o.spaced && isSpacing c then itemsOf fuel o outermost atStart items
      else if o.spaced && c = '#' then
        discard <| skipPast '\n'
        itemsOf fuel o outermost atStart items
      else
        match c with
        | '[' => itemsOf fuel o outermost atStart (.free (← setNode o) :: items)
        | '.' =>
          itemsOf fuel o outermost atStart (.free (if o.dotAll then .every else .any) :: items)
        | '^' =>
          let a := if o.multiline then Anchor.lineStart else Anchor.textStart
          itemsOf fuel o outermost atStart (⟨.anchor a, false⟩ :: items)
        | '$' =>
          let a := if o.multiline then Anchor.lineEnd else Anchor.finalEnd
          itemsOf fuel o outermost atStart (⟨.anchor a, false⟩ :: items)
        | '?' => itemsOf fuel o outermost atStart (← repeated (0, some 1) items)
        | '*' => itemsOf fuel o outermost atStart (← repeated (0, none) items)
        | '+' => itemsOf fuel o outermost atStart (← repeated (1, none) items)
        | '\x7b' =>
          match ← braces with
          | none => itemsOf fuel o outermost atStart (.free (single o c.toNat) :: items)
          | some bounds => itemsOf fuel o outermost atStart (← repeated bounds items)
        | '(' =>
          if ← takeIf '?' then
            match ← take with
            | some (.plain 'P') => namedItem fuel o outermost atStart items
            | some (.plain ':') =>
              itemsOf fuel o outermost atStart (.free (← groupBody fuel o) :: items)
            | some (.plain '>') =>
              itemsOf fuel o outermost atStart (.free (.atomic (← groupBody fuel o)) :: items)
            | some (.plain '#') =>
              if !(← skipPast ')') then malformed
              itemsOf fuel o outermost atStart items
            | some (.plain '=') =>
              itemsOf fuel o outermost atStart (.free (.ahead false (← groupBody fuel o)) :: items)
            | some (.plain '!') =>
              itemsOf fuel o outermost atStart (.free (.ahead true (← groupBody fuel o)) :: items)
            | some (.plain '<') =>
              itemsOf fuel o outermost atStart (.free (← behindItem fuel o) :: items)
            | some (.plain '(') =>
              itemsOf fuel o outermost atStart (.free (← conditionItem fuel o) :: items)
            | some (.plain d) =>
              let (added, removed?) ← optionGroup d
              match removed? with
              | none =>
                if !atStart || !items.isEmpty then malformed
                itemsOf fuel (← addOptions added) outermost atStart items
              | some removed =>
                let body ← groupBody fuel (o.within added removed)
                itemsOf fuel o outermost atStart (.free body :: items)
            | _ => malformed
          else itemsOf fuel o outermost atStart (.free (← captureItem fuel o none) :: items)
        | c => itemsOf fuel o outermost atStart (.free (single o c.toNat) :: items)

def namedItem : Nat → Options → Bool → Bool → List Item → Reader Node
  | 0, _, _, _, _ => malformed
  | fuel + 1, o, outermost, atStart, items => do
    match ← takeAny ['<', '='] with
    | some '<' =>
      let name ← takeUntil '>'
      if !isGroupName name then malformed
      itemsOf fuel o outermost atStart (.free (← captureItem fuel o (String.ofList name)) :: items)
    | some _ =>
      let name ← takeUntil ')'
      if !isGroupName name then malformed
      match ← groupNamed? (String.ofList name) with
      | none => malformed
      | some index => itemsOf fuel o outermost atStart (.free (← againNode o index) :: items)
    | none => malformed

def groupBody : Nat → Options → Reader Node
  | 0, _ => malformed
  | fuel + 1, o => do
    let body ← choiceOf fuel o false
    expect ')'
    return body

def captureItem : Nat → Options → Option String → Reader Node
  | 0, _, _ => malformed
  | fuel + 1, o, name => do
    let index ← openGroup name
    let body ← groupBody fuel o
    closeGroup index body
    return .capture index body

def behindItem : Nat → Options → Reader Node
  | 0, _ => malformed
  | fuel + 1, o => do
    let negated ←
      match ← takeAny ['=', '!'] with
      | some c => pure (decide (c = '!'))
      | none => malformed
    let outer := (← get).behind
    if outer.isNone then modify fun s => { s with behind := some s.groups.length }
    let body ← choiceOf fuel o false
    if outer.isNone then modify fun s => { s with behind := none }
    expect ')'
    return .behind negated body.lengths.1 body

def conditionItem : Nat → Options → Reader Node
  | 0, _ => malformed
  | fuel + 1, o => do
    let index ← conditionGroup
    let yes ← itemsOf fuel o false false []
    if ← takeIf '|' then
      let no ← itemsOf fuel o false false []
      expect ')'
      return .ifGroup index yes no
    else
      expect ')'
      return .ifGroup index yes .empty

end

/-! ## The whole pattern -/

/-- Whether every look behind has one length. -/
def hasFixedBehinds : Node → Bool
  | .seq a b | .either a b | .ifGroup _ a b => hasFixedBehinds a && hasFixedBehinds b
  | .capture _ b | .atomic b | .ahead _ b | .repeat _ _ _ b => hasFixedBehinds b
  | .behind _ _ b =>
    b.lengths.1 = b.lengths.2 && b.lengths.1 < Nat.pow 2 32 && hasFixedBehinds b
  | _ => true

/-- Reads a pattern with the given options. The result is the pattern and the options of all of
it. -/
def read (text : String) (o : Options) : Except Refusal (Node × Options) := do
  match marks? text.toList with
  | none => throw .malformed
  | some marks =>
    let fuel := 4 * marks.length + 8
    let (node, s) ← (choiceOf fuel o true).run ⟨marks, o, [], none, []⟩
    if s.options.short && s.options.full then throw .conflictingClasses
    if !s.ahead.isEmpty then throw .malformed
    if s.conditions.any (· > s.groups.length) then throw .malformed
    if s.options.fixed && node.hasRepeat then throw .malformed
    if !hasFixedBehinds node then throw .malformed
    return (node, s.options)

end ParamRules.Pattern
