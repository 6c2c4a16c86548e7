import ParamRules.Network.Address

/-!
The scheme of a resource identifier, and which identifiers are refused: those whose authority has
a bracket without its partner, brackets around something other than an address of eight groups or
a versioned address, or a character that stands for a delimiter.
-/

namespace ParamRules.Network

open Text

/-- Characters beyond the first 128 whose compatibility form holds one of the delimiters of an
identifier. -/
def hiddenDelimiters : List Nat := [
  0x2047, 0x2048, 0x2049, 0x2100, 0x2101, 0x2105, 0x2106, 0x2A74, 0xFE13, 0xFE16, 0xFE55, 0xFE56,
  0xFE5F, 0xFE6B, 0xFF03, 0xFF0F, 0xFF1A, 0xFF1F, 0xFF20]

def isSchemeCharacter (c : Char) : Bool :=
  c.isAlpha || c.isDigit || c = '+' || c = '-' || c = '.'

/-- The scheme in lower case, empty where there is none, and what follows its colon. -/
def splitScheme (s : List Char) : List Char × List Char :=
  match cutChars? ':' s with
  | none => ([], s)
  | some (scheme, rest) =>
    if scheme.head?.any Char.isAlpha && scheme.all isSchemeCharacter then
      (scheme.map Char.toLower, rest)
    else ([], s)

/-- The authority: what stands between two slashes and the next slash, question mark or hash. -/
def authority (s : List Char) : List Char :=
  match s with
  | '/' :: '/' :: r => r.takeWhile fun c => c ≠ '/' && c ≠ '?' && c ≠ '#'
  | _ => []

/-- Whether a text is an address with a version: the letter `v`, hexadecimal digits, a dot and
something on the same line after it. -/
def isVersionedAddress (s : List Char) : Bool :=
  match s with
  | 'v' :: r =>
    match r.dropWhile isHexDigit with
    | '.' :: tail => !(r.takeWhile isHexDigit).isEmpty && !tail.isEmpty && !tail.contains '\n'
    | _ => false
  | _ => false

def isBracketedHost (s : List Char) : Bool :=
  if s.head? = some 'v' then isVersionedAddress s else !isOctetAddress s && isGroupAddress s

/-- The text between the first opening bracket and the first closing one after it. -/
def bracketed (s : List Char) : List Char :=
  match cutChars? '[' s with
  | none => []
  | some (_, r) => r.takeWhile (· ≠ ']')

def isAuthority (s : List Char) : Bool :=
  (match s.contains '[', s.contains ']' with
    | true, true => isBracketedHost (bracketed s)
    | false, false => true
    | _, _ => false) &&
    !s.any fun c => hiddenDelimiters.contains c.toNat

/-- The scheme of an identifier, unless the identifier is refused. Controls and spaces before it
are passed over, and so are tabs and line ends within it. -/
def scheme? (s : List Char) : Option (List Char) :=
  let body := (s.dropWhile fun c => c.toNat ≤ 0x20).filter fun c =>
    c ≠ '\t' && c ≠ '\r' && c ≠ '\n'
  let (scheme, rest) := splitScheme body
  if isAuthority (authority rest) then some scheme else none

end ParamRules.Network
