import ParamRules.Yaml.Cursor
import ParamRules.Yaml.Problem

/-!
Texts in quotes. Between single quotes, a quote is written twice and nothing else is special.
Between double quotes, a backslash starts an escape. In both, a single line break is read as a
space, and of more than one the first is left out.
-/

namespace ParamRules.Yaml

def shortEscapes : List (Char × Char) := [
  ('0', '\x00'), ('a', '\x07'), ('b', '\x08'), ('t', '\t'), ('\t', '\t'), ('n', '\n'),
  ('v', '\x0b'), ('f', '\x0c'), ('r', '\r'), ('e', '\x1b'), (' ', ' '), ('"', '"'), ('\\', '\\'),
  ('/', '/'), ('N', '\u0085'), ('_', '\u00a0'), ('L', '\u2028'), ('P', '\u2029')]

/-- Escapes by a code point, with the number of their digits. -/
def codeEscapes : List (Char × Nat) := [('x', 2), ('u', 4), ('U', 8)]

def codePoint (count : Nat) (s : List Char) : Except Problem (Char × List Char) :=
  match (s.take count).mapM Text.hexValue? with
  | some digits =>
    let n := Integer.ofDigits 16 digits
    if digits.length < count then .error .malformed
    else if n ≥ 0x110000 then .error (.codePoint n)
    else .ok (Char.ofNat n, s.drop count)
  | none => .error .malformed

/-- Line breaks, with the blanks before and after them, and what follows. No line may open with the
mark of a document. -/
def foldedBreaks (s : List Char) : Nat → Except Problem (List Char × List Char)
  | 0 => .error .malformed
  | fuel + 1 =>
    if atDocumentMark s then .error .malformed
    else
      match s.dropWhile fun c => c = ' ' || c = '\t' with
      | c :: r =>
        if isBreak c then do
          let (breaks, rest) ← foldedBreaks r fuel
          return (breakCharacter c :: breaks, rest)
        else return ([], c :: r)
      | [] => return ([], [])

/-- The text that a line break with further ones after it stands for. -/
def joinedBreaks (first : Char) (more : List Char) : List Char :=
  if first ≠ '\n' then first :: more else if more.isEmpty then [' '] else more

def quotedText (double : Bool) (s : List Char) : Nat → Except Problem (List Char × List Char)
  | 0 => .error .malformed
  | fuel + 1 =>
    let go := fun (before rest : List Char) => do
      let (text, rest) ← quotedText double rest fuel
      return (before ++ text, rest)
    match double, s with
    | _, [] => .error .malformed
    | true, '"' :: r => .ok ([], r)
    | false, '\'' :: '\'' :: r => go ['\''] r
    | false, '\'' :: r => .ok ([], r)
    | true, '\\' :: c :: r =>
      match shortEscapes.lookup c, codeEscapes.lookup c with
      | some d, _ => go [d] r
      | none, some count => do
        let (d, rest) ← codePoint count r
        go [d] rest
      | none, none =>
        if isBreak c then do
          let (breaks, rest) ← foldedBreaks r (r.length + 1)
          go breaks rest
        else .error .malformed
    | _, c :: r =>
      if isGap c then
        let blanks := s.takeWhile fun c => c = ' ' || c = '\t'
        match s.drop blanks.length with
        | [] => .error .malformed
        | d :: after =>
          if isBreak d then do
            let (more, rest) ← foldedBreaks after (after.length + 1)
            go (joinedBreaks (breakCharacter d) more) rest
          else go blanks (d :: after)
      else go [c] r

def readQuoted (double : Bool) (s : List Char) : Except Problem (String × List Char) := do
  let (text, rest) ← quotedText double s (s.length + 1)
  return (String.ofList text, rest)

end ParamRules.Yaml
