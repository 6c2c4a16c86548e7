/-!
Byte strings written in base 64: four characters for three bytes, with one or two equals signs in
place of the characters that a shorter last group lacks.
-/

namespace ParamRules.Base64

/-- The character of a value below 64. -/
def digit (n : Nat) : Char :=
  if n < 26 then Char.ofNat (0x41 + n)
  else if n < 52 then Char.ofNat (0x61 + (n - 26))
  else if n < 62 then Char.ofNat (0x30 + (n - 52))
  else if n = 62 then '+'
  else '/'

def value? (c : Char) : Option Nat :=
  if 'A' ≤ c ∧ c ≤ 'Z' then some (c.toNat - 0x41)
  else if 'a' ≤ c ∧ c ≤ 'z' then some (c.toNat - 0x61 + 26)
  else if '0' ≤ c ∧ c ≤ '9' then some (c.toNat - 0x30 + 52)
  else if c = '+' then some 62
  else if c = '/' then some 63
  else none

def encode : List UInt8 → List Char
  | [] => []
  | [a] => [digit (a.toNat / 4), digit (a.toNat % 4 * 16), '=', '=']
  | [a, b] =>
    [digit (a.toNat / 4), digit (a.toNat % 4 * 16 + b.toNat / 16), digit (b.toNat % 16 * 4), '=']
  | a :: b :: c :: r =>
    digit (a.toNat / 4) :: digit (a.toNat % 4 * 16 + b.toNat / 16) ::
      digit (b.toNat % 16 * 4 + c.toNat / 64) :: digit (c.toNat % 64) :: encode r

/-- The bytes of the groups of a text. In a short last group the bits that belong to no byte are
passed over, and so are equals signs after a full group. -/
def groups? : List Char → Option (List UInt8)
  | [] => some []
  | '=' :: r => if r.all (· = '=') then some [] else none
  | [a, b, '=', '='] => do
    let x ← value? a
    let y ← value? b
    return [UInt8.ofNat (x * 4 + y / 16)]
  | [a, b, c, '='] => do
    let x ← value? a
    let y ← value? b
    let z ← value? c
    return [UInt8.ofNat (x * 4 + y / 16), UInt8.ofNat (y % 16 * 16 + z / 4)]
  | a :: b :: c :: d :: r => do
    let x ← value? a
    let y ← value? b
    let z ← value? c
    let w ← value? d
    let rest ← groups? r
    return UInt8.ofNat (x * 4 + y / 16) :: UInt8.ofNat (y % 16 * 16 + z / 4) ::
      UInt8.ofNat (z % 4 * 64 + w) :: rest
  | _ => none

/-- The byte string that a text stands for. A text may not begin with an equals sign. -/
def decode? (s : List Char) : Option (List UInt8) :=
  if s.head? = some '=' then none else groups? s

/-- The values of the digits of a text in which other characters are passed over, given the place in
the current group. Equals signs close a group that has at least two digits, and what follows them is
not read. No group may be left open. -/
def sextets? (place pads : Nat) : List Char → Option (List Nat)
  | [] => if place = 0 then some [] else none
  | c :: r =>
    if c = '=' then
      if place < 2 then sextets? place pads r
      else if place + pads + 1 ≥ 4 then some []
      else sextets? place (pads + 1) r
    else
      match value? c with
      | some n => (sextets? ((place + 1) % 4) 0 r).map (n :: ·)
      | none => sextets? place pads r

/-- The bytes of sextets in groups of four, with what a short last group holds. -/
def ofSextets : List Nat → List UInt8
  | x :: y :: z :: w :: r =>
    UInt8.ofNat (x * 4 + y / 16) :: UInt8.ofNat (y % 16 * 16 + z / 4) ::
      UInt8.ofNat (z % 4 * 64 + w) :: ofSextets r
  | [x, y, z] => [UInt8.ofNat (x * 4 + y / 16), UInt8.ofNat (y % 16 * 16 + z / 4)]
  | [x, y] => [UInt8.ofNat (x * 4 + y / 16)]
  | _ => []

/-- The byte string of a text in which characters that are no digits are passed over. -/
def decodeLoose? (s : List Char) : Option (List UInt8) :=
  (sextets? 0 0 s).map ofSextets

end ParamRules.Base64
