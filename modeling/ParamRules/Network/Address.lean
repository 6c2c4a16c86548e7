import ParamRules.Text.Split
import ParamRules.Text.Digit

/-!
Addresses of network hosts as texts: four decimal octets, or up to eight groups of hexadecimal
digits with at most one run of zeros left out.
-/

namespace ParamRules.Network

open Text

/-- Whether a text is an octet: up to three digits without a leading zero, at most 255. -/
def isOctet (s : List Char) : Bool :=
  !s.isEmpty && s.all Char.isDigit && s.length ≤ 3 && (s = ['0'] || s.head? ≠ some '0') &&
    s.foldl (fun n c => n * 10 + (c.toNat - 0x30)) 0 ≤ 255

def isOctetAddress (s : List Char) : Bool :=
  let octets := splitChars '.' s
  octets.length = 4 && octets.all isOctet

def isHexDigit (c : Char) : Bool :=
  c.isDigit || ('a' ≤ c && c ≤ 'f') || ('A' ≤ c && c ≤ 'F')

def isGroup (s : List Char) : Bool :=
  !s.isEmpty && s.length ≤ 4 && s.all isHexDigit

/-- The groups of an address. Four octets at the end stand for two groups. -/
def groups? (s : List Char) : Option (List (List Char)) :=
  let parts := splitChars ':' s
  if parts.length < 3 then none
  else
    match parts.getLast? with
    | none => none
    | some last =>
      if last.contains '.' then
        if isOctetAddress last then some (parts.dropLast ++ [['0'], ['0']]) else none
      else some parts

/-- Whether eight groups are written, or fewer with one run of zeros left out. An empty group at
an end is allowed only as a part of that run. -/
def areGroups (parts : List (List Char)) : Bool :=
  let inner := (parts.drop 1).dropLast
  let headEmpty := (parts.head?.getD []).isEmpty
  let lastEmpty := (parts.getLast?.getD []).isEmpty
  match (inner.filter List.isEmpty).length with
  -- No run is left out, so that all eight groups are written.
  | 0 => parts.length = 8 && parts.all isGroup
  | 1 =>
    -- The empty group between others is the run. One more at an end belongs to it, where the run
    -- starts or ends the address.
    let before := inner.findIdx List.isEmpty + 1
    let after := parts.length - before - 1
    let before' := if headEmpty then before - 1 else before
    let after' := if lastEmpty then after - 1 else after
    !(headEmpty && before' ≠ 0) && !(lastEmpty && after' ≠ 0) && before' + after' < 8 &&
      (parts.take before').all isGroup && (parts.drop (parts.length - after')).all isGroup
  | _ => false

/-- The address before a percent sign, and the scope after it, which must not be empty. -/
def withoutScope? (s : List Char) : Option (List Char) :=
  match cutChars? '%' s with
  | none => some s
  | some (address, scope) =>
    if scope.isEmpty || scope.contains '%' then none else some address

def isGroupAddress (s : List Char) : Bool :=
  !s.contains '/' &&
    match withoutScope? s with
    | none => false
    | some address =>
      match groups? address with
      | none => false
      | some parts => parts.length ≤ 9 && areGroups parts

def isAddress (s : List Char) : Bool :=
  isOctetAddress s || isGroupAddress s

end ParamRules.Network
