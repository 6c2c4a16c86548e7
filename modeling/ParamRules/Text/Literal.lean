import ParamRules.Text.Hex
import ParamRules.Text.Printable

/-!
Texts and byte strings as they are quoted in messages: in single quotes, or in double quotes when
the text holds a single quote and no double one, with a backslash before the quote and the
backslash, short escapes for tab, newline and return, and hexadecimal escapes for all other
characters that are not printable.
-/

namespace ParamRules.Text

def quoteFor (s : List Char) : Char :=
  if s.contains '\'' && !s.contains '"' then '"' else '\''

def escapeChar (quote c : Char) : List Char :=
  if c = quote ∨ c = '\\' then ['\\', c]
  else if c = '\n' then ['\\', 'n']
  else if c = '\r' then ['\\', 'r']
  else if c = '\t' then ['\\', 't']
  else if isPrintable c then [c]
  else if c.toNat < 0x100 then '\\' :: 'x' :: hexDigits 2 c.toNat
  else if c.toNat < 0x10000 then '\\' :: 'u' :: hexDigits 4 c.toNat
  else '\\' :: 'U' :: hexDigits 8 c.toNat

def literalChars (s : List Char) : List Char :=
  let quote := quoteFor s
  quote :: s.flatMap (escapeChar quote) ++ [quote]

def literal (s : String) : String :=
  String.ofList (literalChars s.toList)

def escapeByte (quote : Char) (b : UInt8) : List Char :=
  let c := Char.ofNat b.toNat
  if b < 0x80 then escapeChar quote c else '\\' :: 'x' :: hexDigits 2 b.toNat

/-- The quoted form of a byte string: a `b` before the quotes. -/
def bytesLiteral (bytes : List UInt8) : String :=
  let quote := quoteFor (bytes.map fun b => Char.ofNat b.toNat)
  String.ofList ('b' :: quote :: bytes.flatMap (escapeByte quote) ++ [quote])

example : literal "it's" = "\"it's\"" := by decide +kernel
example : literal "a\x00é\n" = "'a\\x00é\\n'" := by decide +kernel

end ParamRules.Text
