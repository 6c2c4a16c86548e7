import ParamRules.Pattern.Letter
import ParamRules.Text.Blank
import ParamRules.Text.Digit
import ParamRules.Text.WordCharacter

/-!
Patterns as trees. A node matches a stretch of a text that starts where the node before it ended.
The options of a pattern are worked into the nodes: a set of characters knows whether it ignores
case, and a mark of the end of a line knows whether lines count.
-/

namespace ParamRules.Pattern

open Text

inductive CharacterClass where
  | digit | blank | word
deriving Repr, DecidableEq

/-- Whether a character is in a class. The short form of a class has characters among the first 128
only. -/
def CharacterClass.holds (k : CharacterClass) (short : Bool) (c : Char) : Bool :=
  (!short || c.val < 0x80) &&
    match k with
    | .digit => isDecimalDigit c
    | .blank => isBlank c && !(short && 28 ≤ c.toNat && c.toNat ≤ 31)
    | .word => isWordCharacter c

/-- What a set of characters is made of. Code points may be those of no character. -/
inductive SetItem where
  | one (code : Nat)
  | range (low high : Nat)
  | named (k : CharacterClass) (negated : Bool) (short : Bool)
deriving Repr, DecidableEq

structure CharacterSetTest where
  negated : Bool
  items : List SetItem
  folding : Folding
deriving Repr, DecidableEq

def SetItem.isCased (f : Folding) : SetItem → Bool
  | .one n => f.distinguishes n n
  | .range low high => f.distinguishes low high
  | .named .. => false

/-- Whether an item holds a character. Where case is ignored the character is given in its
lower-case form. -/
def SetItem.holds (f : Folding) (n : Nat) : SetItem → Bool
  | .one m => f.isSame m n
  | .range low high => f.inRange low high n
  | .named k negated short => k.holds short (Char.ofNat n) != negated

/-- The set of the given items. Case is ignored only where it matters for some item. -/
def CharacterSetTest.ofItems (negated : Bool) (items : List SetItem) (f : Folding) :
    CharacterSetTest :=
  ⟨negated, items, if items.any (·.isCased f) then f else .none⟩

def CharacterSetTest.holds (s : CharacterSetTest) (c : Char) : Bool :=
  let n := s.folding.code c.toNat
  s.items.any (·.holds s.folding n) != s.negated

inductive Anchor where
  | textStart | lineStart
  | textEnd | lineEnd
  /-- The end of the text, or before a line end that ends the text. -/
  | finalEnd
  | wordEdge (short : Bool)
  | noWordEdge (short : Bool)
deriving Repr, DecidableEq

/-- Which number of repeats is tried first, and whether others are tried. -/
inductive Greed where
  | greedy
  | lazy
  | possessive
deriving Repr, DecidableEq

inductive Node where
  | empty
  /-- Any character but a line end. -/
  | any
  /-- Any character. -/
  | every
  | set (s : CharacterSetTest)
  | anchor (a : Anchor)
  | seq (first second : Node)
  | either (first second : Node)
  | capture (index : Nat) (body : Node)
  /-- The text of a group again. `least` and `most` bound its length. -/
  | again (index : Nat) (least most : Nat) (folding : Folding)
  /-- One of two patterns, by whether a group has a text. -/
  | ifGroup (index : Nat) (yes no : Node)
  /-- A pattern that has to match here, or must not, without taking any text. -/
  | ahead (negated : Bool) (body : Node)
  /-- A pattern of the given length that has to end here, or must not. -/
  | behind (negated : Bool) (length : Nat) (body : Node)
  /-- A pattern whose first match alone counts. -/
  | atomic (body : Node)
  | repeat (least : Nat) (most : Option Nat) (greed : Greed) (body : Node)
deriving Repr, DecidableEq

namespace Node

def unbounded : Nat := Nat.pow 2 64

/-- The least and the greatest length of the text that a pattern matches. -/
def lengths : Node → Nat × Nat
  | .empty | .anchor _ | .ahead .. | .behind .. => (0, 0)
  | .any | .every | .set _ => (1, 1)
  | .seq a b => cap (a.lengths.1 + b.lengths.1, a.lengths.2 + b.lengths.2)
  | .either a b => (min a.lengths.1 b.lengths.1, max a.lengths.2 b.lengths.2)
  | .capture _ b | .atomic b => b.lengths
  | .again _ least most _ => (least, most)
  | .ifGroup _ yes no => (min yes.lengths.1 no.lengths.1, max yes.lengths.2 no.lengths.2)
  | .repeat least most _ b =>
    let high :=
      match most with
      | none => if b.lengths.2 = 0 then 0 else unbounded
      | some m => b.lengths.2 * m
    cap (b.lengths.1 * least, high)
where
  cap (p : Nat × Nat) : Nat × Nat :=
    (min p.1 unbounded, min p.2 unbounded)

def hasRepeat : Node → Bool
  | .seq a b | .either a b | .ifGroup _ a b => a.hasRepeat || b.hasRepeat
  | .capture _ b | .atomic b | .ahead _ b | .behind _ _ b => b.hasRepeat
  | .repeat .. => true
  | _ => false

def sequence : List Node → Node
  | [] => .empty
  | [a] => a
  | a :: r => .seq a (sequence r)

def choice : List Node → Node
  | [] => .empty
  | [a] => a
  | a :: r => .either a (choice r)

/-- Whether a pattern matches exactly one character, by its form. -/
def isUnit : Node → Bool
  | .any | .every | .set _ => true
  | _ => false

end Node

end ParamRules.Pattern
