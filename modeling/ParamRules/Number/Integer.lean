import ParamRules.Text.Blank
import ParamRules.Text.Digit
import ParamRules.Text.Literal

/-!
Reading and writing integers.

Two readers stand side by side. `plainDigits?` knows an optional sign and decimal digits and nothing
else. `read` is the liberal one: white space at the ends, single underscores between digits, and
bases two, eight and sixteen with an optional mark. Both take the decimal digits of any script.
Decimal texts with more than `digitLimit` digits are neither read nor written.
-/

namespace ParamRules.Integer

open Text

/-- The most decimal digits that an integer may have when it is read or written. -/
def digitLimit : Nat := 4300

inductive ReadFault where
  | tooLong (digits : Nat)
  | malformed (base : Nat) (text : String)
deriving Repr, DecidableEq

/-- The value of digits in place notation, most significant first. -/
def ofDigits (base : Nat) (digits : List Nat) : Nat :=
  digits.foldl (fun n d => n * base + d) 0

/-- A sign and what follows it. Without a sign the number is not negative. -/
def splitSign : List Char → Bool × List Char
  | '-' :: r => (true, r)
  | '+' :: r => (false, r)
  | s => (false, s)

def signed (negative : Bool) (n : Nat) : Int :=
  if negative then -(n : Int) else n

/-- The digits of a text that holds decimal digits only and at least one of them. -/
def allDigits? (s : List Char) : Option (List Nat) :=
  if s.isEmpty then none else s.mapM decimalDigit?

/-- Reads an optional sign followed by decimal digits, and nothing else. The result is the sign
and the digits. -/
def plainDigits? (s : List Char) : Option (Bool × List Nat) :=
  (allDigits? (splitSign s).2).map fun ds => ((splitSign s).1, ds)

/-- The integer that a sign and decimal digits denote, unless they are too many to be read. -/
def ofPlainDigits (p : Bool × List Nat) : Except ReadFault Int :=
  if p.2.length > digitLimit then .error (.tooLong p.2.length)
  else .ok (signed p.1 (ofDigits 10 p.2))

def digitIn? (base : Nat) (c : Char) : Option Nat :=
  let value? :=
    match decimalDigit? c with
    | some d => some d
    | none =>
      -- The codes of `a` and `A` are 0x61 and 0x41, and both stand for ten.
      if 'a' ≤ c ∧ c ≤ 'f' then some (c.toNat - 0x57)
      else if 'A' ≤ c ∧ c ≤ 'F' then some (c.toNat - 0x37)
      else none
  value?.filter (· < base)

/-- Digits with single underscores between them, and what follows them. The flag says whether a
digit has to come next. -/
def digitRun? (base : Nat) : Bool → List Char → Option (List Nat × List Char)
  | needed, [] => if needed then none else some ([], [])
  | needed, c :: r =>
    match digitIn? base c with
    | some d => (digitRun? base false r).map fun p => (d :: p.1, p.2)
    | none =>
      if needed then none
      else if c = '_' then digitRun? base true r
      else some ([], c :: r)

/-- White space that may stand around a number: all but the information separators. -/
def isNumberBlank (c : Char) : Bool :=
  isBlank c && !(28 ≤ c.toNat && c.toNat ≤ 31)

def baseMark? : Nat → Option Char
  | 2 => some 'b'
  | 8 => some 'o'
  | 16 => some 'x'
  | _ => none

/-- What follows the mark of the base, where there is one, and one underscore after it. -/
def afterBaseMark (base : Nat) (s : List Char) : List Char :=
  match s with
  | '0' :: mark :: r =>
    if baseMark? base = some mark.toLower then
      match r with
      | '_' :: r => r
      | r => r
    else s
  | s => s

/-- Reads an integer in base two, eight, ten or sixteen. -/
def read (base : Nat) (text : String) : Except ReadFault Int :=
  let cs := text.toList
  let (negative, body) := splitSign (cs.dropWhile isNumberBlank)
  match digitRun? base true (afterBaseMark base body) with
  | none => .error (.malformed base text)
  | some (digits, rest) =>
    -- The digits are counted before what follows them is looked at.
    if base = 10 ∧ digits.length > digitLimit then .error (.tooLong digits.length)
    else if rest.all isNumberBlank then .ok (signed negative (ofDigits base digits))
    else .error (.malformed base text)

/-- Whether an integer has too many digits to be written in decimal. -/
def isTooLong (n : Int) : Bool :=
  n.natAbs ≥ Nat.pow 10 digitLimit

def natText (n : Nat) : String :=
  String.ofList (Nat.toDigits 10 n)

def text (n : Int) : String :=
  if n < 0 then "-" ++ natText n.natAbs else natText n.natAbs

theorem ofDigits_append (base : Nat) (ds : List Nat) (d : Nat) :
    ofDigits base (ds ++ [d]) = ofDigits base ds * base + d := by
  simp [ofDigits]

theorem signed_natAbs (n : Int) : signed (decide (n < 0)) n.natAbs = n := by
  unfold signed
  by_cases h : n < 0
  · rw [if_pos (by simpa using h)]
    omega
  · rw [if_neg (by simpa using h)]
    omega

end ParamRules.Integer
