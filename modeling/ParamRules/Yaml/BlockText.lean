import ParamRules.Yaml.Cursor

/-!
Texts in lines of their own, after a bar or an angle. Every line has to be indented as the first one
is, or as the header says. After a bar the line breaks are kept. After an angle a single break
between two lines that start with other characters than blanks is read as a space. The header also
says what becomes of the breaks at the end: one is kept by default, `-` drops it and `+` keeps all.
-/

namespace ParamRules.Yaml

/-- What becomes of the line breaks at the end. -/
inductive Chomping where
  | strip | clip | keep
deriving Repr, DecidableEq

structure BlockHeader where
  chomping : Chomping
  indent : Option Nat

def Chomping.ofChar? : Char → Option Chomping
  | '+' => some .keep
  | '-' => some .strip
  | _ => none

/-- A digit that says how far lines are indented, zero not among them. -/
def indentDigit? (c : Char) : Option Nat :=
  if '1' ≤ c ∧ c ≤ '9' then some (c.toNat - 0x30) else none

/-- The indicators of a header in either order, each at most once. -/
def readHeader (s : List Char) : BlockHeader × List Char :=
  match s with
  | c :: r =>
    match Chomping.ofChar? c, indentDigit? c with
    | some chomping, _ =>
      match r with
      | d :: after =>
        match indentDigit? d with
        | some n => (⟨chomping, some n⟩, after)
        | none => (⟨chomping, none⟩, r)
      | [] => (⟨chomping, none⟩, r)
    | none, some n =>
      match r with
      | d :: after =>
        match Chomping.ofChar? d with
        | some chomping => (⟨chomping, some n⟩, after)
        | none => (⟨.clip, some n⟩, r)
      | [] => (⟨.clip, some n⟩, r)
    | none, none => (⟨.clip, none⟩, s)
  | [] => (⟨.clip, none⟩, [])

/-- Empty lines: their breaks, the column after them, and what follows. Spaces count as indentation
up to the given column. -/
def emptyLines (indent : Nat) : Nat → List Char → List Char × Nat × List Char
  | column, [] => ([], column, [])
  | column, c :: r =>
    if c = ' ' ∧ column < indent then emptyLines indent (column + 1) r
    else if isBreak c then
      let (breaks, last, rest) := emptyLines indent 0 r
      (breakCharacter c :: breaks, last, rest)
    else ([], column, c :: r)

/-- Empty lines where the indentation is not yet known: their breaks, the column after them, the
greatest column of any of them, and what follows. -/
def openingLines : Nat → Nat → List Char → List Char × Nat × Nat × List Char
  | column, most, [] => ([], column, most, [])
  | column, most, c :: r =>
    if c = ' ' then openingLines (column + 1) (max most (column + 1)) r
    else if isBreak c then
      let (breaks, last, greatest, rest) := openingLines 0 most r
      (breakCharacter c :: breaks, last, greatest, rest)
    else ([], column, most, c :: r)

def startsBlank (s : List Char) : Bool :=
  s.head?.any fun c => c = ' ' || c = '\t'

/-- The text of indented lines with the breaks between them, the break after the last line, the
breaks of the empty lines that follow, and what is left. -/
def blockLines (folded : Bool) (indent : Nat) (breaks : List Char) (column : Nat) (s : List Char) :
    Nat → List Char × List Char × List Char × List Char
  | 0 => ([], [], breaks, s)
  | fuel + 1 =>
    if column ≠ indent || s.isEmpty then ([], [], breaks, s)
    else
      let line := s.takeWhile (!isBreak ·)
      let after := s.drop line.length
      let lineBreak := (after.head?.map breakCharacter).toList
      let (more, next, rest) := emptyLines indent 0 (skipBreak after)
      if after.isEmpty || next ≠ indent || rest.isEmpty then
        (breaks ++ line, lineBreak, more, rest)
      else
        let joint :=
          if folded && lineBreak == ['\n'] && !startsBlank s && !startsBlank rest then
            if more.isEmpty then [' '] else []
          else lineBreak
        let (text, last, final, rest) := blockLines folded indent more next rest fuel
        (breaks ++ line ++ joint ++ text, last, final, rest)

/-- The text after a bar or an angle, inside a collection whose lines start at the given column, and
what follows it. -/
def readBlock (folded : Bool) (outer : Int) (s : List Char) : Option (String × List Char) := do
  let (header, r) := readHeader s
  if !atSpace r then none
  let body ← skipComment? r
  let body := skipBreak body
  let least := (max (outer + 1) 1).toNat
  let (indent, breaks, column, rest) :=
    match header.indent with
    | some n =>
      let indent := least + n - 1
      let (breaks, column, rest) := emptyLines indent 0 body
      (indent, breaks, column, rest)
    | none =>
      let (breaks, column, greatest, rest) := openingLines 0 0 body
      (max least greatest, breaks, column, rest)
  let (text, last, final, rest) := blockLines folded indent breaks column rest (s.length + 1)
  let tail :=
    match header.chomping with
    | .strip => []
    | .clip => last
    | .keep => last ++ final
  return (String.ofList (text ++ tail), rest)

end ParamRules.Yaml
