import ParamRules.Text.Split
import ParamRules.Text.WordCharacter

/-!
Paths of files: names between slashes, after one slash or two where the path is absolute. Empty
names and single dots are left out when a path is read, and a name of two dots is kept until the
path is brought into its normal form. `parts_normal` says that a normal absolute path has no such
name.
-/

namespace ParamRules

open Text

/-- The variables of an environment, and the home directories of users. -/
structure Environment where
  entries : List (String × String)
  homes : List (String × String)

def Environment.empty : Environment := ⟨[], []⟩

def Environment.get? (e : Environment) (name : String) : Option String :=
  e.entries.lookup name

/-- A path: how many slashes stand before it, and its names. -/
structure Path where
  slashes : Nat
  parts : List String
deriving Repr, DecidableEq

namespace Path

/-- The number of slashes that counts: two are kept, and three or more are one. -/
def slashesOf (s : List Char) : Nat :=
  match (s.takeWhile (· = '/')).length with
  | 0 => 0
  | 2 => 2
  | _ => 1

def isPart (name : String) : Bool :=
  !name.isEmpty && name != "."

def ofText (s : String) : Path :=
  ⟨slashesOf s.toList, (split '/' s).filter isPart⟩

/-- The written form. A path without anything is a dot. -/
def text (p : Path) : String :=
  let body := String.ofList (List.replicate p.slashes '/') ++ join "/" p.parts
  if body.isEmpty then "." else body

def isAbsolute (p : Path) : Bool :=
  p.slashes > 0

def name (p : Path) : String :=
  p.parts.getLast?.getD ""

def parent (p : Path) : Path :=
  { p with parts := p.parts.dropLast }

/-- A path inside a directory. An absolute one is in no other directory. -/
def within (directory p : Path) : Path :=
  if p.isAbsolute then p else ⟨directory.slashes, directory.parts ++ p.parts⟩

/-- The parts of a normal path, given those before in reverse. Two dots take away the part before
them. At the start of a relative path they stay, and at that of an absolute one they are
dropped. -/
def normalParts (isAbsolute : Bool) : List String → List String → List String
  | before, [] => before.reverse
  | before, part :: r =>
    if part ≠ ".." then normalParts isAbsolute (part :: before) r
    else
      match before with
      | [] => if isAbsolute then normalParts isAbsolute [] r else normalParts isAbsolute [part] r
      | last :: others =>
        if last = ".." then normalParts isAbsolute (part :: before) r
        else normalParts isAbsolute others r

def normal (p : Path) : Path :=
  { p with parts := normalParts p.isAbsolute [] p.parts }

/-! ## Home directories and variables -/

/-- A path with the home directory in place of a first part that starts with a tilde: the user's
own, or that of the named one. None where the directory is not known. -/
def expandHome (e : Environment) (p : Path) : Option Path :=
  match p.isAbsolute, p.parts with
  | false, first :: rest =>
    match first.toList with
    | '~' :: user => do
      let home ← if user.isEmpty then e.get? "HOME" else e.homes.lookup (String.ofList user)
      let home := (home.toList.reverse.dropWhile (· = '/')).reverse
      let home := ofText (if home.isEmpty then "/" else String.ofList home)
      -- A home that starts with a tilde itself has not been found.
      if (home.parts.head?.any fun part => part.toList.head? = some '~') && !home.isAbsolute then
        none
      else some { home with parts := home.parts ++ rest }
    | _ => some p
  | _, _ => some p

def isVariableCharacter (c : Char) : Bool :=
  c.isAlphanum || c = '_'

/-- The name of a variable after a dollar sign, in braces or not, and what follows it. -/
def takeVariable? (s : List Char) : Option (String × List Char) :=
  match s with
  | '\x7b' :: r =>
    match cutChars? '\x7d' r with
    | some (name, rest) => some (String.ofList name, rest)
    | none => none
  | s =>
    let name := s.takeWhile isVariableCharacter
    if name.isEmpty then none else some (String.ofList name, s.drop name.length)

/-- The text with the values of the variables in place of their names after dollar signs. Names that
are not known stay. -/
def expandChars (e : Environment) (s : List Char) : Nat → List Char
  | 0 => s
  | fuel + 1 =>
    match s with
    | [] => []
    | '$' :: r =>
      match takeVariable? r with
      | none => '$' :: expandChars e r fuel
      | some (name, rest) =>
        match e.get? name with
        | some v => v.toList ++ expandChars e rest fuel
        | none => '$' :: r.take (r.length - rest.length) ++ expandChars e rest fuel
    | c :: r => c :: expandChars e r fuel

def expandVariables (e : Environment) (s : String) : String :=
  let cs := s.toList
  String.ofList (expandChars e cs (cs.length + 1))

/-! ## Normal paths -/

theorem normalParts_absolute {before parts : List String} (hb : ".." ∉ before) :
    ".." ∉ normalParts true before parts := by
  induction parts generalizing before with
  | nil => simpa [normalParts] using hb
  | cons part r ih =>
    unfold normalParts
    split
    · rename_i h
      exact ih (by simp [hb, Ne.symm h])
    · cases before with
      | nil => exact ih (by simp)
      | cons last others =>
        have hl : last ≠ ".." := fun h => hb (by simp [h])
        simp only [hl, if_false]
        exact ih fun h => hb (by simp [h])

/-- A normal absolute path has no part of two dots. -/
theorem parts_normal {p : Path} (h : p.isAbsolute = true) : ".." ∉ p.normal.parts := by
  simp only [normal, h]
  exact normalParts_absolute (by simp)

example : (ofText "a//./b/../c").normal.text = "a/c" := by decide +kernel
example : (ofText "///x").text = "/x" := by decide +kernel

end Path

end ParamRules
