import ParamRules.DataType
import ParamRules.Number.Integer
import ParamRules.Text.Split

/-!
Enumerations: named members with values. Some enumerations are flags: their values are sets of
bits in two's complement, members can be joined, and a value need not be declared. Others have
members that are integers or texts themselves.

A name that is declared with the value of an earlier one is an alias of it. The members of an
enumeration are the names that are no aliases.
-/

namespace ParamRules

/-- The value of a member. -/
inductive Literal where
  | int (n : Int)
  | bool (b : Bool)
  | text (s : String)
deriving Repr, DecidableEq

namespace Literal

/-- The number that a value is, truth values counted as one and zero. -/
def number? : Literal → Option Int
  | .int n => some n
  | .bool b => some (if b then 1 else 0)
  | .text _ => none

/-- Whether two values are the same, truth values counted as one and zero. -/
def same (v w : Literal) : Bool :=
  match v.number?, w.number? with
  | some m, some n => m == n
  | _, _ => v == w

/-- Whether a value has too many digits to be written. -/
def isTooLong (v : Literal) : Bool :=
  v.number?.any Integer.isTooLong

def literal : Literal → String
  | .int n => Integer.text n
  | .bool b => if b then "True" else "False"
  | .text s => Text.literal s

def display : Literal → String
  | .text s => s
  | v => v.literal

end Literal

/-- How the members of an enumeration behave. -/
inductive Enumeration.Kind where
  | plain
  | integer
  | text
  /-- Members can be joined. Bits that no member has are dropped. -/
  | flags
  /-- Members can be joined. Numbers with bits that no member has are refused. -/
  | strictFlags
  /-- Members can be joined and are integers. Bits that no member has are kept. -/
  | integerFlags
deriving Repr, DecidableEq

/-- An enumeration: its name, with the names of the types around it, and its declared names with
their values. With a `scope`, members are quoted by scope and name. -/
structure Enumeration where
  name : String
  kind : Enumeration.Kind
  entries : List (String × Literal)
  scope : Option String
deriving Repr, DecidableEq

/-- A value of an enumeration, with its name where it has one. -/
structure Member where
  enumeration : Enumeration
  name : Option String
  value : Literal
deriving Repr, DecidableEq

namespace Enumeration

/-- The name without the names of the types around it. -/
def shortName (e : Enumeration) : String :=
  match Text.cutLast? '.' e.name with
  | some (_, last) => last
  | none => e.name

def isFlags (e : Enumeration) : Bool :=
  e.kind = .flags || e.kind = .strictFlags || e.kind = .integerFlags

def isInteger (e : Enumeration) : Bool :=
  e.kind = .integer || e.kind = .integerFlags

/-- The enumeration that has every enumeration below it. -/
def root : Enumeration := ⟨"Enum", .plain, [], none⟩

/-- The enumeration that has every enumeration of integers below it. -/
def integerRoot : Enumeration := ⟨"IntEnum", .integer, [], none⟩

/-- Whether the members of the second enumeration are members of the first. -/
def includes (e f : Enumeration) : Bool :=
  e == f || e == root || (e == integerRoot && f.kind = .integer)

def dataTypes : Enumeration :=
  ⟨"ParameterDataType", .text, DataType.all.map fun t => (t.constantName, .text t.name), none⟩

/-- The entries that are no aliases. -/
def declared (e : Enumeration) : List (String × Literal) :=
  go [] e.entries
where
  /-- The entries whose value is neither among the given ones nor among earlier entries. -/
  go (seen : List Literal) : List (String × Literal) → List (String × Literal)
    | [] => []
    | (name, v) :: r =>
      if seen.any (·.same v) then go seen r else (name, v) :: go (v :: seen) r

def entryOf? (e : Enumeration) (v : Literal) : Option (String × Literal) :=
  e.entries.find? fun entry => entry.2.same v

/-- The value of the member that an entry with a value names: that of the first entry with it. -/
def memberValue (e : Enumeration) (v : Literal) : Literal :=
  ((e.entryOf? v).map (·.2)).getD v

/-! ## Bits -/

def numbers (e : Enumeration) : List Int :=
  e.entries.filterMap (·.2.number?)

/-- The union of two sets of bits. -/
def union (m n : Int) : Int :=
  -- ¬(¬m ∧ ¬n), with `not n` for the complement of `n`
  Int.not (inter (Int.not m) (Int.not n))
where
  /-- The intersection of two sets of bits. -/
  inter : Int → Int → Int
    | .ofNat m, .ofNat n => .ofNat (m &&& n)
    | .ofNat m, .negSucc n => .ofNat (m - (m &&& n))
    | .negSucc m, .ofNat n => .ofNat (n - (n &&& m))
    | .negSucc m, .negSucc n => .negSucc (m ||| n)

abbrev inter := union.inter

/-- The bits that only one of two sets has. -/
def difference (m n : Int) : Int :=
  union (inter m (Int.not n)) (inter n (Int.not m))

/-- All bits that some entry has. -/
def mask (e : Enumeration) : Int :=
  e.numbers.foldl union 0

def isSingleBit (n : Int) : Bool :=
  -- Taking one from a power of two clears its bit and sets all below it.
  0 < n && inter n (n - 1) = 0

def bits (e : Enumeration) : List (String × Int) :=
  e.declared.filterMap fun (name, v) =>
    match v.number? with
    | some n => if isSingleBit n then some (name, n) else none
    | none => none

def bitLength (n : Nat) : Nat :=
  if n = 0 then 0 else n.log2 + 1

/-- All bits in the places that the members have. -/
def allBits (e : Enumeration) : Int :=
  (Nat.pow 2 (bitLength e.mask.natAbs) : Nat) - 1

/-- Whether a number fits into the places that the members have, without a bit there that no member
has. -/
def isCovered (e : Enumeration) (n : Int) : Bool :=
  -(e.allBits + 1) ≤ n && n ≤ e.allBits && inter n (difference e.allBits e.mask) = 0

/-- The number that a value of flags stands for, where a negative one stands for its bits: those
within the places that the members have, or within its own places where these are more. -/
def wrapped (e : Enumeration) (n : Int) : Int :=
  if n ≥ 0 then n
  else if e.isCovered n then e.allBits + 1 + n
  else max (e.allBits + 1) (Nat.pow 2 (bitLength n.natAbs) : Nat) + n

/-- The number that a value of flags stands for without the bits that no member has. -/
def conformed (e : Enumeration) (n : Int) : Int :=
  let known := inter n e.mask
  if known ≥ 0 then known else e.allBits + 1 + known

/-- The number of bits that no member has, in base sixteen where members are quoted by scope. -/
def restText (e : Enumeration) (n : Int) : String :=
  if e.scope.isSome then "0x" ++ String.ofList (Nat.toDigits 16 n.toNat) else Integer.text n

/-- The name of joined flags: the members whose bits they have, in declared order, with a number
for the bits that no member has. -/
def joinedName? (e : Enumeration) (n : Int) : Option String :=
  let known := e.bits.filter fun (_, bit) => inter n bit ≠ 0
  let rest := inter n (Int.not (known.foldl (fun m b => union m b.2) 0))
  if known.isEmpty then none
  else
    some (Text.join "|" (known.map (·.1) ++ if rest = 0 then [] else [e.restText rest]))

/-! ## Look-up -/

/-- The member with a declared name or alias. -/
def byName? (e : Enumeration) (name : String) : Option Member :=
  (e.entries.lookup name).map fun v =>
    match e.entryOf? v with
    | some (first, w) => ⟨e, some first, w⟩
    | none => ⟨e, some name, v⟩

/-- The member with a value. Flags have one for every integer, or for those alone that have the bits
of members only. -/
def byValue? (e : Enumeration) (v : Literal) : Option Member :=
  match e.entryOf? v with
  | some (name, w) => some ⟨e, some name, w⟩
  | none =>
    match v.number?, e.kind with
    | some n, .flags => some (ofBits (e.conformed n))
    | some n, .strictFlags => if e.isCovered n then some (ofBits (e.wrapped n)) else none
    | some n, .integerFlags => some (ofBits (e.wrapped n))
    | _, _ => none
where
  ofBits (n : Int) : Member :=
    match e.entryOf? (.int n) with
    | some (name, w) => ⟨e, some name, w⟩
    | none => ⟨e, e.joinedName? n, .int n⟩

end Enumeration

namespace Member

def join (m n : Member) : Member :=
  match m.value.number?, n.value.number? with
  | some a, some b =>
    (m.enumeration.byValue? (.int (Enumeration.union a b))).getD m
  | _, _ => m

def bitNames (m : Member) : List String :=
  match m.value.number? with
  | some n =>
    (m.enumeration.bits.filter fun (_, bit) => Enumeration.inter n bit ≠ 0).map (·.1)
  | none => []

def literal (m : Member) : String :=
  match m.enumeration.scope with
  | some scope =>
    match m.name with
    | some names =>
      Text.join "|" ((Text.split '|' names).map fun n =>
        if n.startsWith "0x" then n else scope ++ "." ++ n)
    | none => scope ++ "." ++ m.enumeration.shortName ++ "(" ++ m.value.literal ++ ")"
  | none =>
    "<" ++ m.enumeration.shortName ++ (m.name.map ("." ++ ·)).getD "" ++ ": " ++
      m.value.literal ++ ">"

/-- The member as a text: its value where members are integers or texts, and its qualified name
otherwise. With a scope, it is the quoted form. -/
def display (m : Member) : String :=
  if m.enumeration.scope.isSome then m.literal
  else match m.enumeration.kind with
  | .integer | .integerFlags | .text => m.value.display
  | .plain | .flags | .strictFlags =>
    m.enumeration.shortName ++
      match m.name with
      | some name => "." ++ name
      | none => "(" ++ m.value.literal ++ ")"

end Member

def DataType.member (t : DataType) : Member :=
  ⟨Enumeration.dataTypes, some t.constantName, .text t.name⟩

end ParamRules
