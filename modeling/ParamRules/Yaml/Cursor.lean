import ParamRules.Text.Split

/-!
Characters of YAML texts, and the place of a reader in a text. Readers of single items work on the
characters that are left; the cursor is then moved to where they stopped.
-/

namespace ParamRules.Yaml

/-! ## Characters -/

def isReadable (c : Char) : Bool :=
  let n := c.toNat
  n = 0x9 || n = 0xA || (0x20 ≤ n && n ≤ 0x7E) || n = 0x85 ||
    (0xA0 ≤ n && n ≤ 0xFFFD) || 0x10000 ≤ n

/-- The mark of the byte order, which may open a text. -/
def byteOrderMark : Char := Char.ofNat 0xFEFF

/-- Whether a character ends a line. Carriage returns are gone when a text is read. -/
def isBreak (c : Char) : Bool :=
  c = '\n' || c = '\u0085' || c = '\u2028' || c = '\u2029'

/-- The character that a line break stands for. Only the separators of lines and paragraphs stand
for themselves. -/
def breakCharacter (c : Char) : Char :=
  if c = '\u2028' || c = '\u2029' then c else '\n'

def isGap (c : Char) : Bool :=
  c = ' ' || c = '\t' || isBreak c

/-- Whether a text ends, or goes on with a space, a tab or a line break. -/
def atGap (s : List Char) : Bool :=
  s.head?.all isGap

def atSpace (s : List Char) : Bool :=
  s.head?.all fun c => c = ' ' || isBreak c

def atLineEnd (s : List Char) : Bool :=
  s.head?.all isBreak

def atTriple (c : Char) (s : List Char) : Bool :=
  match s with
  | x :: y :: z :: r => x = c && y = c && z = c && atGap r
  | _ => false

def atDocumentMark (s : List Char) : Bool :=
  atTriple '-' s || atTriple '.' s

/-- Letters and digits of the first 128 characters, dash and underscore. -/
def isNameCharacter (c : Char) : Bool :=
  c.isAlphanum || c = '-' || c = '_'

def skipSpaces (s : List Char) : List Char :=
  s.dropWhile (· = ' ')

/-- The text from the end of the line on, if the line holds only spaces and a comment. -/
def skipComment? (s : List Char) : Option (List Char) :=
  match skipSpaces s with
  | '#' :: r => some (r.dropWhile (!isBreak ·))
  | r => if atLineEnd r then some r else none

def skipBreak : List Char → List Char
  | c :: r => if isBreak c then r else c :: r
  | [] => []

/-! ## Places -/

/-- A place in a text: what is left, how many characters went before, and line and column. -/
structure Cursor where
  rest : List Char
  index : Nat
  line : Nat
  column : Nat

namespace Cursor

def start (s : List Char) : Cursor := ⟨s, 0, 0, 0⟩

/-- The place after one character. The mark of the byte order takes no column. -/
def step (k : Cursor) : Cursor :=
  match k.rest with
  | [] => k
  | c :: r =>
    if isBreak c then ⟨r, k.index + 1, k.line + 1, 0⟩
    else ⟨r, k.index + 1, k.line, if c = byteOrderMark then k.column else k.column + 1⟩

def advance (k : Cursor) : Nat → Cursor
  | 0 => k
  | n + 1 => k.step.advance n

/-- The place at which the given text is left. -/
def moveTo (k : Cursor) (rest : List Char) : Cursor :=
  k.advance (k.rest.length - rest.length)

end Cursor

end ParamRules.Yaml
