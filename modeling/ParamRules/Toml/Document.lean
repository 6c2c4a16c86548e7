import ParamRules.Mapping
import ParamRules.Toml.Scalar

/-!
Documents of TOML: lines that set keys, and headers that open tables. Each table is opened once, by
its header or by the keys that lead through it, and a value that is written in brackets or braces
is closed to all later lines. A key that leads through a list of tables leads through its last one.
-/

namespace ParamRules.Toml

/-! ## Tables -/

/-- The entries of a table after a change at the end of a path of names. Tables that are missing on
the way are made, and lists of tables are followed where that is allowed. -/
def changeAt (throughLists : Bool) (change : Mapping → Option Mapping) :
    Key → Mapping → Option Mapping
  | [], m => change m
  | name :: path, m =>
    let key := Value.text name
    match Mapping.get? m key with
    | none => do return Mapping.put key (.map (← changeAt throughLists change path [])) m
    | some (.map inner) => do
      return Mapping.put key (.map (← changeAt throughLists change path inner)) m
    | some (.list items) =>
      match throughLists, items.getLast? with
      | true, some (.map inner) => do
        let last ← changeAt throughLists change path inner
        return Mapping.put key (.list (items.dropLast ++ [.map last])) m
      | _, _ => none
    | some _ => none

def addNew (name : String) (v : Value) (m : Mapping) : Option Mapping :=
  match Mapping.get? m (.text name) with
  | some _ => none
  | none => some (m ++ [(.text name, v)])

/-- The entries with one more empty table in the list under a name. -/
def addTable (name : String) (m : Mapping) : Option Mapping :=
  match Mapping.get? m (.text name) with
  | none => some (m ++ [(.text name, .list [.map []])])
  | some (.list items) => some (Mapping.put (.text name) (.list (items ++ [.map []])) m)
  | some _ => none

def isCollection : Value → Bool
  | .list _ | .map _ => true
  | _ => false

def isUnder (paths : List Key) (path : Key) : Bool :=
  paths.any (·.isPrefixOf path)

/-- The beginnings of a path that are shorter than it and not empty, after another path. -/
def leadingPaths (start path : Key) : List Key :=
  (List.range path.length).tail.map fun n => start ++ path.take n

/-! ## Values -/

def orMalformed {α : Type} (a : Option α) : Except Problem α :=
  match a with
  | some a => .ok a
  | none => .error .malformed

def skipComment (s : List Char) : Except Problem (List Char) :=
  match s with
  | '#' :: r =>
    if (r.takeWhile (· ≠ '\n')).any isControl then .error .malformed
    else .ok (r.dropWhile (· ≠ '\n'))
  | s => .ok s

def skipLines : Nat → List Char → Except Problem (List Char)
  | 0, s => .ok s
  | fuel + 1, s => do
    let r ← skipComment (s.dropWhile isBlankOrBreak)
    if r.length = s.length then return r else skipLines fuel r

def skipInList (s : List Char) : Except Problem (List Char) :=
  skipLines (s.length + 1) s

def afterEquals (s : List Char) : Except Problem (List Char) := do
  return skipBlank (← orMalformed (after? '=' s))

mutual

def readValue : Nat → List Char → Except Problem (Value × List Char)
  | 0, _ => .error .malformed
  | fuel + 1, s =>
    match s with
    | '"' :: r => do
      let (text, r) ← orMalformed (anyText? '"' r)
      return (.text text, r)
    | '\'' :: r => do
      let (text, r) ← orMalformed (anyText? '\'' r)
      return (.text text, r)
    | '[' :: r => do readItems fuel [] (← skipInList r)
    | '\x7b' :: r =>
      match skipBlank r with
      | '\x7d' :: r => .ok (.map [], r)
      | r => readPairs fuel [] [] r
    | s => scalar s

def readItems : Nat → List Value → List Char → Except Problem (Value × List Char)
  | 0, _, _ => .error .malformed
  | fuel + 1, done, s =>
    match s with
    | ']' :: r => .ok (.list done, r)
    | s => do
      let (v, r) ← readValue fuel s
      match ← skipInList r with
      | ']' :: r => return (.list (done ++ [v]), r)
      | ',' :: r => readItems fuel (done ++ [v]) (← skipInList r)
      | _ => .error .malformed

/-- The pairs of a table in braces from one on, after the entries that have been read. The paths are
those of the values in brackets and braces among them, which are closed. -/
def readPairs : Nat → Mapping → List Key → List Char → Except Problem (Value × List Char)
  | 0, _, _, _ => .error .malformed
  | fuel + 1, done, closed, s => do
    let (key, r) ← orMalformed (key? s)
    let (v, r) ← readValue fuel (← afterEquals r)
    if isUnder closed key then .error .malformed
    let done ← orMalformed (changeAt false (addNew (key.getLast?.getD "") v) key.dropLast done)
    match skipBlank r with
    | '\x7d' :: r => return (.map done, r)
    | ',' :: r =>
      readPairs fuel done (if isCollection v then key :: closed else closed) (skipBlank r)
    | _ => .error .malformed

end

/-! ## Lines -/

/-- What the lines so far have set: the outermost table, the path of the table that is open, the
paths of values that are closed, those of tables that may not be opened again, and those that may
not be from the next header on. -/
structure Draft where
  table : Mapping
  header : Key
  closed : List Key
  opened : List Key
  pending : List Key

def Draft.empty : Draft := ⟨[], [], [], [], []⟩

namespace Draft

def set (d : Draft) (key : Key) (v : Value) : Option Draft := do
  let onTheWay := leadingPaths d.header key
  -- A dotted key may not reach into a table that has a header of its own.
  if onTheWay.any d.opened.contains then none
  if isUnder d.closed (d.header ++ key.dropLast) then none
  let name := key.getLast?.getD ""
  let table ← changeAt true (addNew name v) (d.header ++ key.dropLast) d.table
  return { d with
    table
    pending := d.pending ++ onTheWay
    closed := if isCollection v then (d.header ++ key) :: d.closed else d.closed }

def openTable (d : Draft) (key : Key) : Option Draft := do
  let opened := d.opened ++ d.pending
  if opened.contains key || isUnder d.closed key then none
  let table ← changeAt true some key d.table
  return { d with table, header := key, opened := key :: opened, pending := [] }

/-- Opens one more table of a list. What was said about the tables in the one before is forgotten.
-/
def openItem (d : Draft) (key : Key) : Option Draft := do
  if isUnder d.closed key then none
  let isOutside := fun path => !key.isPrefixOf path
  let table ← changeAt true (addTable (key.getLast?.getD "")) key.dropLast d.table
  return {
    table
    header := key
    closed := d.closed.filter isOutside
    opened := key :: (d.opened ++ d.pending).filter isOutside
    pending := [] }

end Draft

/-- What the line that starts here sets or opens, and what follows that. -/
def readLine (d : Draft) (s : List Char) : Except Problem (Draft × List Char) :=
  match s with
  | '#' :: _ => .ok (d, s)
  | '[' :: '[' :: r => do
    let (key, r) ← orMalformed (key? (skipBlank r))
    let d ← orMalformed (d.openItem key)
    match r with
    | ']' :: ']' :: r => return (d, r)
    | _ => .error .malformed
  | '[' :: r => do
    let (key, r) ← orMalformed (key? (skipBlank r))
    let d ← orMalformed (d.openTable key)
    match r with
    | ']' :: r => return (d, r)
    | _ => .error .malformed
  | s => do
    let (key, r) ← orMalformed (key? s)
    let (v, r) ← readValue (2 * r.length + 2) (← afterEquals r)
    return (← orMalformed (d.set key v), r)

def readLines (d : Draft) : Nat → List Char → Except Problem Mapping
  | 0, _ => .error .malformed
  | fuel + 1, s =>
    match skipBlank s with
    | [] => .ok d.table
    | '\n' :: r => readLines d fuel r
    | s => do
      let (d, r) ← readLine d s
      match ← skipComment (skipBlank r) with
      | [] => return d.table
      | '\n' :: r => readLines d fuel r
      | _ => .error .malformed

/-- The text with every return before a newline dropped. -/
def unifyLineEnds : List Char → List Char
  | '\r' :: '\n' :: r => '\n' :: unifyLineEnds r
  | c :: r => c :: unifyLineEnds r
  | [] => []

def read (text : String) : Except Problem Mapping :=
  let s := unifyLineEnds text.toList
  readLines .empty (s.length + 1) s

end ParamRules.Toml
