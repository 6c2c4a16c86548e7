import ParamRules.Number.Integer

/-!
Texts and keys of TOML. A text is in double quotes with escapes, or in single quotes as it is, and
in three quotes it may have several lines. A key has parts between dots, and each part is a bare
word or a text on one line. Every reader takes the characters that are left and gives back those
after it.
-/

namespace ParamRules.Toml

inductive Problem where
  | malformed
  | longNumber (digits : Nat)
deriving Repr, DecidableEq

abbrev Key := List String

/-! ## Characters -/

def isBlank (c : Char) : Bool :=
  c = ' ' || c = '\t'

def isBlankOrBreak (c : Char) : Bool :=
  isBlank c || c = '\n'

/-- Whether a character is a control character other than a tab. -/
def isControl (c : Char) : Bool :=
  (c.toNat < 0x20 && c ≠ '\t') || c.toNat = 0x7f

/-- Whether a character cannot stand in a text. A text of several lines may have line ends. -/
def isIllegal (multiline : Bool) (c : Char) : Bool :=
  isControl c && !(multiline && c = '\n')

def isBare (c : Char) : Bool :=
  c.isAlphanum || c = '-' || c = '_'

def skipBlank (s : List Char) : List Char :=
  s.dropWhile isBlank

/-! ## Escapes -/

def codePoint? (width : Nat) (s : List Char) : Option (List Char × List Char) := do
  let digits ← (s.take width).mapM Text.hexValue?
  let code := Integer.ofDigits 16 digits
  if digits.length = width ∧ code.isValidChar then some ([Char.ofNat code], s.drop width)
  else none

/-- The characters that an escape stands for, and what follows it. In a text of several lines a
backslash at the end of a line stands for nothing, and neither does the white space after it. -/
def readEscape (multiline : Bool) : List Char → Option (List Char × List Char)
  | 'b' :: r => some (['\x08'], r)
  | 't' :: r => some (['\t'], r)
  | 'n' :: r => some (['\n'], r)
  | 'f' :: r => some (['\x0c'], r)
  | 'r' :: r => some (['\r'], r)
  | '"' :: r => some (['"'], r)
  | '\\' :: r => some (['\\'], r)
  | 'u' :: r => codePoint? 4 r
  | 'U' :: r => codePoint? 8 r
  | '\n' :: r => if multiline then some ([], r.dropWhile isBlankOrBreak) else none
  | c :: r =>
    if multiline && isBlank c then
      match skipBlank r with
      | [] => some ([], [])
      | '\n' :: r => some ([], r.dropWhile isBlankOrBreak)
      | _ => none
    else none
  | [] => none

/-! ## Quotes -/

/-- The text up to the closing double quotes: one, or three where it has several lines. -/
def escapedText (multiline : Bool) : Nat → List Char → Option (List Char × List Char)
  | 0, _ | _, [] => none
  | fuel + 1, '\\' :: r => do
    let (cs, r) ← readEscape multiline r
    let (text, r) ← escapedText multiline fuel r
    return (cs ++ text, r)
  | fuel + 1, '"' :: r =>
    match multiline, r with
    | false, r => some ([], r)
    | true, '"' :: '"' :: r => some ([], r)
    | true, r => (escapedText multiline fuel r).map fun p => ('"' :: p.1, p.2)
  | fuel + 1, c :: r =>
    if isIllegal multiline c then none
    else (escapedText multiline fuel r).map fun p => (c :: p.1, p.2)

def plainText (multiline : Bool) : List Char → Option (List Char × List Char)
  | [] => none
  | c :: r =>
    match c, multiline, r with
    | '\'', false, r => some ([], r)
    | '\'', true, '\'' :: '\'' :: r => some ([], r)
    | c, _, r =>
      if isIllegal multiline c then none
      else (plainText multiline r).map fun p => (c :: p.1, p.2)

def textAfter (quote : Char) (multiline : Bool) (s : List Char) : Option (List Char × List Char) :=
  if quote = '"' then escapedText multiline (s.length + 1) s else plainText multiline s

/-- Adds the one or two quotes that stand right before the three closing ones. -/
def withQuotes (quote : Char) (p : List Char × List Char) : List Char × List Char :=
  let extra := (p.2.take 2).takeWhile (· = quote)
  (p.1 ++ extra, p.2.drop extra.length)

def lineText? (quote : Char) (s : List Char) : Option (String × List Char) :=
  (textAfter quote false s).map fun p => (String.ofList p.1, p.2)

/-- A text in one quote or in three, after the first quote. A line end right after three quotes is
no part of the text. -/
def anyText? (quote : Char) (s : List Char) : Option (String × List Char) :=
  if s.take 2 = [quote, quote] then
    let body :=
      match s.drop 2 with
      | '\n' :: r => r
      | r => r
    (textAfter quote true body).map fun p =>
      let p := withQuotes quote p
      (String.ofList p.1, p.2)
  else lineText? quote s

/-! ## Keys -/

def keyPart? (s : List Char) : Option (String × List Char) :=
  match s with
  | '"' :: r => lineText? '"' r
  | '\'' :: r => lineText? '\'' r
  | s =>
    let word := s.takeWhile isBare
    if word.isEmpty then none else some (String.ofList word, s.drop word.length)

def keyParts? : Nat → List Char → Option (Key × List Char)
  | 0, _ => none
  | fuel + 1, s => do
    let (part, r) ← keyPart? s
    match skipBlank r with
    | '.' :: r =>
      let (parts, r) ← keyParts? fuel (skipBlank r)
      return (part :: parts, r)
    | r => return ([part], r)

def key? (s : List Char) : Option (Key × List Char) :=
  keyParts? (s.length + 1) s

end ParamRules.Toml
