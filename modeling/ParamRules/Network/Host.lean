import ParamRules.Network.Address
import ParamRules.Number.Integer

/-!
Host names, and hosts with a port. A host is an address or a dotted name; an endpoint is a host,
a host with a port after a colon, or an address in brackets with or without a port.
-/

namespace ParamRules.Network

open Text

def maxNameLength : Nat := 255

def maxPort : Nat := 65535

def isLabelCharacter (c : Char) : Bool :=
  isAsciiLetterOrDigit c || c = '_' || c = '-'
where
  isAsciiLetterOrDigit (c : Char) : Bool :=
    c.isAlpha || c.isDigit

/-- Whether a text is one part of a dotted name: at most 63 characters, no dash at either end. -/
def isLabel (s : List Char) : Bool :=
  1 ≤ s.length && s.length ≤ 63 && s.all isLabelCharacter && s.head? ≠ some '-' &&
    s.getLast? ≠ some '-'

/-- Whether a text is a dotted name. One dot may follow it. -/
def isDottedName (s : List Char) : Bool :=
  let bare := if s.getLast? = some '.' then s.dropLast else s
  -- The dot at the end counts towards the length.
  s.length ≤ maxNameLength && (splitChars '.' bare).all isLabel

def isHost (s : List Char) : Bool :=
  !s.isEmpty && trimChars s = s && (isAddress s || isDottedName s)

structure Endpoint where
  host : List Char
  port : Option (List Char)
deriving Repr

/-- Splits a text into host and port. Brackets enclose an address whose colons do not count, and a
text with several colons and no brackets is a host without a port. -/
def Endpoint.split (s : List Char) : Endpoint :=
  let bracketed :=
    match s with
    | '[' :: r => cutChars? ']' r
    | _ => none
  match bracketed with
  | some (inner, []) => ⟨inner, none⟩
  | some (inner, ':' :: port) => ⟨inner, some port⟩
  -- Something other than a port follows the bracket.
  | some _ => ⟨s, none⟩
  | none =>
    match cutChars? ':' s with
    | none => ⟨s, none⟩
    | some (host, port) => if port.contains ':' then ⟨s, none⟩ else ⟨host, some port⟩

/-- Whether a text is a port. Digits that stand for no number are a fault of reading. -/
def isPort (s : List Char) : Except Integer.ReadFault Bool :=
  if !isDigitText s then .ok false
  else (Integer.read 10 (String.ofList s)).map fun (n : Int) => 0 ≤ n && n ≤ (maxPort : Int)

end ParamRules.Network
