import ParamRules.Pattern.Reader

/-!
Matching patterns. Alternatives are tried in order and repeats from their greed, and the first way
that lets all that follows match is taken. A repeat of something other than one character stops
where a round took no text.
-/

namespace ParamRules.Pattern

open Text

/-- A place in a text, and the texts of the groups so far by their ends. -/
structure Place where
  position : Nat
  groups : List (Nat × Nat × Nat)
deriving Repr

def Place.group? (p : Place) (index : Nat) : Option (Nat × Nat) :=
  p.groups.lookup index

/-- What is left to match after a node. -/
abbrev Rest := Place → Option Place

def isWordAt (text : Array Char) (short : Bool) (i : Nat) : Bool :=
  (text[i]?).any (CharacterClass.word.holds short)

def isWordEdge (text : Array Char) (short : Bool) (i : Nat) : Bool :=
  (i > 0 && isWordAt text short (i - 1)) != isWordAt text short i

/-- Whether a mark of a place holds at a position. A text without characters has no word edge, and
no place between them either. -/
def Anchor.holds (text : Array Char) (i : Nat) : Anchor → Bool
  | .textStart => i = 0
  | .lineStart => i = 0 || text[i - 1]? = some '\n'
  | .textEnd => i = text.size
  | .lineEnd => i = text.size || text[i]? = some '\n'
  | .finalEnd => i = text.size || (i + 1 = text.size && text[i]? = some '\n')
  | .wordEdge short => !text.isEmpty && isWordEdge text short i
  | .noWordEdge short => !text.isEmpty && !isWordEdge text short i

/-- Whether a node of one character matches it. -/
def Node.holds (c : Char) : Node → Bool
  | .any => c ≠ '\n'
  | .every => true
  | .set s => s.holds c
  | _ => false

/-- How many characters from a position on a node of one character matches, at most `most`. -/
def countUnits (text : Array Char) (node : Node) (most : Option Nat) (start : Nat) : Nat :=
  let limit := match most with
    | some m => min m (text.size - start)
    | none => text.size - start
  go limit 0
where
  go : Nat → Nat → Nat
    | 0, n => n
    | left + 1, n =>
      if (text[start + n]?).any (Node.holds · node) then go left (n + 1) else n

/-- Whether the stretch of a text from one position on equals another stretch. -/
def sameStretch (text : Array Char) (f : Folding) (from₁ from₂ : Nat) : Nat → Bool
  | 0 => true
  | n + 1 =>
    match text[from₁]?, text[from₂]? with
    | some c, some d =>
      f.code c.toNat = f.code d.toNat && sameStretch text f (from₁ + 1) (from₂ + 1) n
    | _, _ => false

/-- The first success when a count goes down from `n` by so many steps. -/
def firstDown (try' : Nat → Option Place) (n : Nat) : Nat → Option Place
  | 0 => try' n
  | steps + 1 => try' n <|> firstDown try' (n - 1) steps

def firstUp (try' : Nat → Option Place) (n : Nat) : Nat → Option Place
  | 0 => try' n
  | steps + 1 => try' n <|> firstUp try' (n + 1) steps

def runUnits (text : Array Char) (node : Node) (least : Nat) (most : Option Nat) (greed : Greed)
    (p : Place) (rest : Rest) : Option Place :=
  let count := countUnits text node most p.position
  let at' := fun n => rest { p with position := p.position + n }
  if count < least then none
  else
    match greed with
    | .possessive => at' count
    | .greedy => firstDown at' count (count - least)
    | .lazy => firstUp at' least (count - least)

def roundAllowed (most : Option Nat) (count : Nat) : Bool :=
  match most with
  | some m => count < m
  | none => true

/-- A repeat that can give back rounds. `lastStart` is where the last round that was not needed
began. -/
def runRounds (body : Place → Rest → Option Place) (least : Nat) (most : Option Nat)
    (isLazy : Bool) : Nat → Nat → Option Nat → Place → Rest → Option Place
  | 0, _, _, _, _ => none
  | fuel + 1, count, lastStart, p, rest =>
    if count < least then
      body p fun q => runRounds body least most isLazy fuel (count + 1) lastStart q rest
    else
      let more := fun (_ : Unit) =>
        if roundAllowed most count && lastStart ≠ some p.position then
          body p fun q =>
            runRounds body least most isLazy fuel (count + 1) (some p.position) q rest
        else none
      if isLazy then rest p <|> more () else more () <|> rest p

/-- The place after as many rounds as possible, each taken by its first match. -/
def runGreedily (body : Place → Rest → Option Place) (least : Nat) (most : Option Nat) :
    Nat → Nat → Place → Option Place
  | 0, _, p => some p
  | fuel + 1, count, p =>
    if count < least then
      (body p some).bind fun q => runGreedily body least most fuel (count + 1) q
    else if roundAllowed most count then
      match body p some with
      | none => some p
      | some q =>
        -- A round that takes no text would be repeated without end.
        if q.position = p.position then some q
        else runGreedily body least most fuel (count + 1) q
    else some p

/-- Matches a node from a place on, so that the rest matches too. -/
def Node.run (text : Array Char) : Node → Place → Rest → Option Place
  | .empty, p, rest => rest p
  | .any, p, rest =>
    if (text[p.position]?).any (· ≠ '\n') then rest { p with position := p.position + 1 } else none
  | .every, p, rest =>
    if p.position < text.size then rest { p with position := p.position + 1 } else none
  | .set s, p, rest =>
    if (text[p.position]?).any s.holds then rest { p with position := p.position + 1 } else none
  | .anchor a, p, rest => if a.holds text p.position then rest p else none
  | .seq a b, p, rest => a.run text p fun q => b.run text q rest
  | .either a b, p, rest => a.run text p rest <|> b.run text p rest
  | .capture index body, p, rest =>
    body.run text p fun q =>
      rest { q with groups := (index, p.position, q.position) :: q.groups.filter (·.1 ≠ index) }
  | .again index _ _ f, p, rest =>
    match p.group? index with
    | none => none
    | some (start, stop) =>
      if sameStretch text f start p.position (stop - start) then
        rest { p with position := p.position + (stop - start) }
      else none
  | .ifGroup index yes no, p, rest =>
    if (p.group? index).isSome then yes.run text p rest else no.run text p rest
  | .ahead negated body, p, rest =>
    match body.run text p some, negated with
    | some q, false => rest { q with position := p.position }
    | none, true => rest p
    | _, _ => none
  | .behind negated length body, p, rest =>
    let found :=
      if length ≤ p.position then
        body.run text { p with position := p.position - length } fun q =>
          if q.position = p.position then some q else none
      else none
    match found, negated with
    | some q, false => rest { q with position := p.position }
    | none, true => rest p
    | _, _ => none
  | .atomic body, p, rest => (body.run text p some).bind rest
  | .repeat least most greed body, p, rest =>
    if body.isUnit then runUnits text body least most greed p rest
    else
      -- Beyond the least number, every round but the last takes some text.
      let fuel := least + (text.size - p.position) + 2
      match greed with
      | .possessive => (runGreedily (body.run text) least most fuel 0 p).bind rest
      | .greedy => runRounds (body.run text) least most false fuel 0 none p rest
      | .lazy => runRounds (body.run text) least most true fuel 0 none p rest

def SetItem.widened (short : Bool) : SetItem → SetItem
  | .named k negated _ => .named k negated short
  | item => item

/-- The set that the first character of every match is in, when the pattern begins with a set that
does not ignore case. Its classes are those of the whole pattern, whatever options the groups around
the set have. -/
def Node.firstSet? (short : Bool) : Node → Option CharacterSetTest
  | .set s =>
    if s.folding = .none then some { s with items := s.items.map (·.widened short) } else none
  | .seq a _ => a.firstSet? short
  | .capture _ b => b.firstSet? short
  | _ => none

/-- A pattern that was read, and the set that a match has to begin with. -/
structure Program where
  node : Node
  first : Option CharacterSetTest
deriving Repr, DecidableEq

def compile (text : String) (o : Options) : Except Refusal Program := do
  let (node, whole) ← read text o
  return ⟨node, node.firstSet? whole.short⟩

def Program.mayStart (program : Program) (text : Array Char) (i : Nat) : Bool :=
  match program.first with
  | none => true
  | some s => (text[i]?).any s.holds

def Program.matchesAt (program : Program) (text : Array Char) (i : Nat) : Bool :=
  program.mayStart text i && (program.node.run text ⟨i, []⟩ some).isSome

def Program.isFoundFrom (program : Program) (text : Array Char) (start : Nat) : Nat → Bool
  | 0 => program.matchesAt text start
  | steps + 1 =>
    program.matchesAt text start || program.isFoundFrom text (start + 1) steps

def Program.isFound (program : Program) (text : String) : Bool :=
  let chars := text.toList.toArray
  program.isFoundFrom chars 0 chars.size

end ParamRules.Pattern
