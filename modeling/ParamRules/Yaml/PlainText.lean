import ParamRules.Yaml.Cursor

/-!
Texts without quotes. They end at a colon before a gap, at a comment after a space, and inside
brackets also at the characters that structure these. A text may go on in the next line if that is
indented enough; a single line break is then read as a space, and of more than one the first is left
out.
-/

namespace ParamRules.Yaml

/-- Whether a text ends before a character with the given ones after it. -/
def endsPlain (flow : Bool) (c : Char) (after : List Char) : Bool :=
  isGap c ||
    (c = ':' && (atGap after || (flow && after.head?.any ",[]\x7b\x7d".toList.contains))) ||
    (flow && ",?[]\x7b\x7d".toList.contains c)

def startsPlain (flow : Bool) (c : Char) (after : List Char) : Bool :=
  !(isGap c || "-?:,[]\x7b\x7d#&*!|>'\"%@\x60".toList.contains c) ||
    (!atGap after && (c = '-' || (!flow && (c = '?' || c = ':'))))

/-- The characters up to where a text or its line ends, and what follows them. -/
def plainRun (flow : Bool) : List Char → List Char × List Char
  | [] => ([], [])
  | c :: r =>
    if endsPlain flow c r then ([], c :: r)
    else
      let (run, rest) := plainRun flow r
      (c :: run, rest)

/-- What stands between two runs of a text: what it is read as, whether a line ends in it, the
column after it, and what follows. What it is read as is empty where the text ends. -/
structure PlainGap where
  joint : List Char
  broken : Bool
  column : Nat
  rest : List Char

/-- Spaces and line breaks: the breaks, the column after them, and what follows. Before the mark of
a document there are none to be read, and the last component is false. -/
def gapLines : Nat → List Char → List Char × Nat × List Char × Bool
  | column, [] => ([], column, [], true)
  | column, c :: r =>
    if c = ' ' then gapLines (column + 1) r
    else if isBreak c then
      if atDocumentMark r then ([], 0, r, false)
      else
        let (breaks, last, rest, goesOn) := gapLines 0 r
        (breakCharacter c :: breaks, last, rest, goesOn)
    else ([], column, c :: r, true)

def plainGap (s : List Char) : PlainGap :=
  let spaces := s.takeWhile (· = ' ')
  match s.drop spaces.length with
  | [] => ⟨spaces, false, 0, []⟩
  | c :: r =>
    if !isBreak c then ⟨spaces, false, 0, c :: r⟩
    else if atDocumentMark r then ⟨[], true, 0, r⟩
    else
      let (breaks, column, rest, goesOn) := gapLines 0 r
      let first := breakCharacter c
      let joint :=
        if first ≠ '\n' then first :: breaks else if breaks.isEmpty then [' '] else breaks
      ⟨if goesOn then joint else [], true, column, rest⟩

/-- The runs of a text with their joints, whether a line ended after them, and what is left. -/
def plainRuns (flow : Bool) (indent : Int) (s : List Char) :
    Nat → List Char × Bool × List Char
  | 0 => ([], false, s)
  | fuel + 1 =>
    let (run, r) := plainRun flow s
    if run.isEmpty then ([], false, s)
    else
      let gap := plainGap r
      let ends := gap.joint.isEmpty || gap.rest.head? = some '#' ||
        (!flow && gap.broken && gap.column < indent)
      if ends then (run, gap.broken, gap.rest)
      else
        let (text, broken, rest) := plainRuns flow indent gap.rest fuel
        if text.isEmpty then (run, gap.broken, gap.rest)
        else (run ++ gap.joint ++ text, broken, rest)

/-- The text without quotes at the start, inside a collection whose lines start at the given column:
the text, whether a line ended after it, and what is left. -/
def readPlain (flow : Bool) (outer : Int) (s : List Char) : String × Bool × List Char :=
  let (text, broken, rest) := plainRuns flow (outer + 1) s (s.length + 1)
  (String.ofList text, broken, rest)

end ParamRules.Yaml
