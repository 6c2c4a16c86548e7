import ParamRules.Number.Integer
import ParamRules.Text.Split

/-!
Globally unique identifiers: numbers of 128 bits, written as 32 hexadecimal digits in groups of
eight, four, four, four and twelve. The reader passes over dashes, enclosing braces and the marks
`urn:` and `uuid:`.
-/

namespace ParamRules

/-- An identifier of 128 bits. -/
structure Guid where
  bits : BitVec 128
deriving Repr, DecidableEq

namespace Guid

open Text

/-- The written form, in lower case. -/
def text (g : Guid) : String :=
  let d := hexDigits 32 g.bits.toNat
  join "-" ([d.take 8, (d.drop 8).take 4, (d.drop 12).take 4, (d.drop 16).take 4, d.drop 20].map
    String.ofList)

def literal (g : Guid) : String :=
  "UUID('" ++ g.text ++ "')"

def isBrace (c : Char) : Bool :=
  c = '\x7b' || c = '\x7d'

def digitsOf (s : String) : List Char :=
  let marksRemoved := (remove "uuid:" (remove "urn:" s)).toList
  let opened := marksRemoved.dropWhile isBrace
  let bare := (opened.reverse.dropWhile isBrace).reverse
  bare.filter (· ≠ '-')

/-- Reads an identifier. The 32 characters that remain are read as an integer in base sixteen. -/
def read? (s : String) : Option Guid :=
  let digits := digitsOf s
  if digits.length ≠ 32 then none
  else
    match Integer.read 16 (String.ofList digits) with
    | .ok n => if n < 0 then none else some ⟨.ofInt 128 n⟩
    | .error _ => none

end Guid

end ParamRules
