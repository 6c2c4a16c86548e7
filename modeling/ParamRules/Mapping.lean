import ParamRules.Value

/-!
Mappings: keys with values, in order. Equal keys are one key, which stands where it first stood and
has the value that was put last. `get?_put` says that putting a value changes the answer for its key
and for no other.

A mapping is merged over another one key by key. Mappings that both hold under one key are merged in
turn; anything else takes the place of what was there.
-/

namespace ParamRules

abbrev Mapping := List (Value × Value)

namespace Mapping

/-- What keys are compared by. -/
inductive Key where
  | text (s : String)
  | number (n : Int)
  /-- Any other key, as it is quoted. -/
  | other (literal : String)
deriving Repr, DecidableEq

/-- What a value is compared by as a key. Truth values are one and zero. -/
def keyOf (v : Value) : Key :=
  match v.text?, v.number? with
  | some s, _ => .text s
  | none, some n => .number n
  | none, none => .other v.literal

def get? (m : Mapping) (key : Value) : Option Value :=
  (m.find? fun e => keyOf e.1 = keyOf key).map (·.2)

def put (key v : Value) : Mapping → Mapping
  | [] => [(key, v)]
  | (k, w) :: r => if keyOf k = keyOf key then (k, v) :: r else (k, w) :: put key v r

/-- The mapping that entries make when they are put one after the other. -/
def ofEntries (entries : List (Value × Value)) : Mapping :=
  entries.foldl (fun m e => put e.1 e.2 m) []

theorem get?_put (m : Mapping) (key v other : Value) :
    (put key v m).get? other = if keyOf other = keyOf key then some v else m.get? other := by
  induction m with
  | nil => grind [get?, put]
  | cons e r ih => grind [get?, put]

/-! ## Merging -/

mutual

/-- A value over what a key has had: a mapping is merged over a mapping, or over none. -/
def overlaid (before : Option Value) : Value → Value
  | .map entries => .map (merge ((before.bind Value.entries?).getD []) entries)
  | v => v

/-- Entries over those of a mapping. -/
def merge (base : Mapping) : List (Value × Value) → Mapping
  | [] => base
  | (key, v) :: r => merge (put key (overlaid (get? base key) v) base) r

end

example : merge [(.text "a", .map [(.text "b", .int 1)])]
    [(.text "a", .map [(.text "c", .int 2)]), (.text "d", .null)] =
    [(.text "a", .map [(.text "b", .int 1), (.text "c", .int 2)]), (.text "d", .null)] := by
  simp [merge, overlaid, put, get?, keyOf, Value.text?, Value.entries?]

end Mapping

end ParamRules
