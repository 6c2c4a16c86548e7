import ParamRules.Yaml.Cursor
import ParamRules.Yaml.Scalar

/-!
Writing YAML: a list of mappings from keys to texts or nothing, in blocks. Lines are folded at
spaces once they are longer than `lineWidth`. A text is written without quotes where it reads back
as a text, in single quotes where all its characters can stand there, and in double quotes with
escapes otherwise. Only characters of the first 128 are written.
-/

namespace ParamRules.Yaml

def lineWidth : Nat := 120

/-- The column at which a folded text goes on. -/
def foldIndent : Nat := 4

/-! ## Styles -/

inductive Style where
  | plain | single | double
deriving Repr, DecidableEq

/-- Whether a character stands at the start of a text that is something else than plain text. -/
def isLeadingMark (c : Char) (after : List Char) : Bool :=
  "#,[]\x7b\x7d&*!|>'\"%@\x60".toList.contains c || ((c = '?' || c = ':' || c = '-') && atGap after)

/-- Whether something in a text ends plain text: a colon before a gap, or a sharp after one. The
flag says whether a gap goes before the text. -/
def endsEarly : Bool → List Char → Bool
  | _, [] => false
  | afterGap, c :: r => (c = ':' && atGap r) || (c = '#' && afterGap) || endsEarly (isGap c) r

/-- Whether a character can be written as it is: those of the first 128 that print. -/
def isWritable (c : Char) : Bool :=
  0x20 ≤ c.toNat && c.toNat ≤ 0x7E

/-- Whether two neighbouring characters are a space and a line break, in either order. -/
def hasBreakBesideSpace : List Char → Bool
  | ' ' :: '\n' :: _ | '\n' :: ' ' :: _ => true
  | _ :: r => hasBreakBesideSpace r
  | [] => false

def hasOuterSpace (s : List Char) : Bool :=
  s.head? = some ' ' || s.getLast? = some ' '

/-- Whether plain text can hold a text, whatever it is read as. -/
def fitsPlain (s : List Char) : Bool :=
  match s with
  | [] => true
  | c :: r =>
    s.all isWritable && !hasOuterSpace s && !isLeadingMark c r && !endsEarly false (c :: r) &&
      !(s.take 3 = "---".toList) && !(s.take 3 = "...".toList)

def styleOf (s : List Char) : Style :=
  if fitsPlain s && Kind.ofPlain (String.ofList s) = .text then .plain
  else if (s.all fun c => isWritable c || c = '\n') && !hasBreakBesideSpace s then .single
  else .double

/-! ## Folding -/

/-- A text being written: the column, and the characters so far, last first. -/
structure Pen where
  column : Nat
  written : List Char

namespace Pen

def put (p : Pen) (s : List Char) : Pen :=
  ⟨p.column + s.length, s.reverse ++ p.written⟩

/-- Starts so many new lines, the last of them indented. -/
def newLines (p : Pen) (count : Nat) : Pen :=
  ⟨foldIndent, List.replicate foldIndent ' ' ++ List.replicate count '\n' ++ p.written⟩

/-- Writes a run of spaces. A single one becomes a line break where the line is too long and it may
be folded. -/
def putSpaces (p : Pen) (count : Nat) (mayFold : Bool) : Pen :=
  if count = 1 && p.column > lineWidth && mayFold then p.newLines 1
  else p.put (List.replicate count ' ')

end Pen

/-- Characters in runs of spaces, of line breaks and of others. -/
def runs (s : List Char) : List (List Char) :=
  s.splitBy fun a b => (a = ' ') = (b = ' ') && (a = '\n') = (b = '\n')

/-- Writes a run. Line breaks get one more, as the first of them is left out in reading. Spaces may
be folded where `inner` says so. -/
def putRun (quoteTwice inner : Bool) (p : Pen) (run : List Char) : Pen :=
  match run with
  | ' ' :: _ => p.putSpaces run.length inner
  | '\n' :: _ => p.newLines (run.length + 1)
  | _ =>
    p.put (if quoteTwice then run.flatMap fun c => if c = '\'' then ['\'', '\''] else [c]
      else run)

def putPlain (p : Pen) (s : List Char) : Pen :=
  (runs s).foldl (putRun false true) p

/-- Writes a text in single quotes. Spaces at its ends are not folded. -/
def putSingle (p : Pen) (s : List Char) : Pen :=
  let all := runs s
  let write := fun (p : Pen) (run : List Char × Nat) =>
    putRun true (run.2 ≠ 0 && run.2 + 1 ≠ all.length) p run.1
  (all.zipIdx.foldl write (p.put ['\''])).put ['\'']

def escapeLetters : List (Char × Char) := [
  ('\x00', '0'), ('\x07', 'a'), ('\x08', 'b'), ('\t', 't'), ('\n', 'n'), ('\x0b', 'v'),
  ('\x0c', 'f'), ('\r', 'r'), ('\x1b', 'e'), ('"', '"'), ('\\', '\\'), ('\u0085', 'N'),
  ('\u00a0', '_'), ('\u2028', 'L'), ('\u2029', 'P')]

def upperHex (width n : Nat) : List Char :=
  (Text.hexDigits width n).map Char.toUpper

def escape? (c : Char) : Option (List Char) :=
  match escapeLetters.lookup c with
  | some letter => some ['\\', letter]
  | none =>
    if isWritable c then none
    else if c.toNat ≤ 0xFF then some ('\\' :: 'x' :: upperHex 2 c.toNat)
    else if c.toNat ≤ 0xFFFF then some ('\\' :: 'u' :: upperHex 4 c.toNat)
    else some ('\\' :: 'U' :: upperHex 8 c.toNat)

/-- A line break between double quotes: a backslash ends the line, and another one stands before a
space at the start of the next. -/
def foldDouble (p : Pen) (next : Option Char) : Pen :=
  let p := (p.put ['\\']).newLines 1
  if next = some ' ' then p.put ['\\'] else p

/-- Writes the characters of a text between double quotes. Lines are folded before a space and on
either side of an escape, but not before the second character or the last. -/
def putDouble (afterEscape : Bool) (index : Nat) (p : Pen) : List Char → Pen
  | [] => p
  | c :: r =>
    let mayFold := index > 0 && !r.isEmpty
    match escape? c with
    | some e =>
      let p := p.put e
      let p := if mayFold && p.column > lineWidth + 1 then foldDouble p r.head? else p
      putDouble true (index + 1) p r
    | none =>
      let p :=
        if mayFold && (c = ' ' || afterEscape) && p.column > lineWidth then
          foldDouble p (some c)
        else p
      putDouble false (index + 1) (p.put [c]) r

def putText (p : Pen) (s : List Char) : Pen :=
  match styleOf s with
  | .plain => putPlain p s
  | .single => putSingle p s
  | .double => (putDouble false 0 (p.put ['"']) s).put ['"']

def entryText (start : String) (key : String) (v : Option String) : String :=
  let before := (start ++ key ++ ": ").toList
  let p := (Pen.mk 0 []).put before
  let p :=
    match v with
    | some s => putText p s.toList
    | none => p.put "null".toList
  String.ofList (p.put ['\n']).written.reverse

/-- A mapping as an entry of a list: a dash before the first key, and the others below it. -/
def recordText : List (String × Option String) → String
  | [] => "- \x7b\x7d\n"
  | (k, v) :: r => entryText "- " k v ++ String.join (r.map fun e => entryText "  " e.1 e.2)

/-- A list of mappings. The keys are plain texts. -/
def write (records : List (List (String × Option String))) : String :=
  if records.isEmpty then "[]\n" else String.join (records.map recordText)

end ParamRules.Yaml
