import ParamRules.Mapping

/-!
JSON texts of values: compact, with the entries of mappings in the order of their keys and all
characters as they are but quotes, backslashes and control characters. What to write for a value
that JSON has no form for is up to the caller.
-/

namespace ParamRules.Json

open Text

/-- Why a value has no JSON text. -/
inductive Problem where
  | noForm (className : String)
  | keyType (className : String)
  /-- Keys of two classes have no order. -/
  | noOrder (left right : String)
  | longNumber
deriving Repr, DecidableEq

def Problem.message : Problem → String
  | .noForm className => "Object of type " ++ className ++ " is not JSON serializable"
  | .keyType className => "keys must be str, int, float, bool or None, not " ++ className
  | .noOrder left right =>
    "'<' not supported between instances of '" ++ left ++ "' and '" ++ right ++ "'"
  | .longNumber => "number too long"

/-! ## Scalars -/

def escapeChar (c : Char) : List Char :=
  if c = '"' ∨ c = '\\' then ['\\', c]
  else if c = '\n' then ['\\', 'n']
  else if c = '\r' then ['\\', 'r']
  else if c = '\t' then ['\\', 't']
  else if c = '\x08' then ['\\', 'b']
  else if c = '\x0c' then ['\\', 'f']
  else if c.toNat < 0x20 then '\\' :: 'u' :: hexDigits 4 c.toNat
  else [c]

def quoted (s : String) : String :=
  String.ofList ('"' :: s.toList.flatMap escapeChar ++ ['"'])

def doubleText (x : Double) : String :=
  if x.isFinite then x.text
  else if x.fractionBits ≠ 0 then "NaN"
  else if x.isNegative then "-Infinity"
  else "Infinity"

def integerText (n : Int) : Except Problem String :=
  if Integer.isTooLong n then .error .longNumber else .ok (Integer.text n)

def flagText (b : Bool) : String :=
  if b then "true" else "false"

/-- The text of a key, without quotes. -/
def keyText (key : Value) : Except Problem String :=
  match key, key.text?, key.integer? with
  | .null, _, _ => .ok "null"
  | .bool b, _, _ => .ok (flagText b)
  | .double x, _, _ => .ok (doubleText x)
  | _, some s, _ => .ok s
  | _, _, some n => integerText n
  | v, none, none => .error (.keyType v.typeName)

/-! ## The order of keys -/

def areOrdered (k l : Value) : Bool :=
  (k.text?.isSome && l.text?.isSome) || (k.number?.isSome && l.number?.isSome) ||
    (k.text?.isNone && k.number?.isNone && k.typeName = l.typeName)

/-- Whether a key stands before another one or is the same. -/
def isBefore (k l : Value) : Bool :=
  match k.text?, l.text?, k.number?, l.number? with
  | some s, some t, _, _ => s ≤ t
  | _, _, some m, some n => m ≤ n
  | _, _, _, _ => true

def sorted {α : Type} (entries : List (Value × α)) : Except Problem (List (Value × α)) :=
  match (entries.zip (entries.drop 1)).find? fun p => !areOrdered p.1.1 p.2.1 with
  | some (first, second) => .error (.noOrder second.1.typeName first.1.typeName)
  | none => .ok (entries.mergeSort fun a b => isBefore a.1 b.1)

def entryText (key : Value) (v : Except Problem String) : Except Problem String := do
  let name ← keyText key
  return quoted name ++ ":" ++ (← v)

/-! ## Values -/

mutual

def text (otherwise : Value → Except Problem String) : Value → Except Problem String
  | .null => .ok "null"
  | .bool b => .ok (flagText b)
  | .double x => .ok (doubleText x)
  | .list vs | .tuple vs => do return "[" ++ join "," (← texts otherwise vs) ++ "]"
  | .map entries => do
    let fields ← (← sorted (entryTexts otherwise entries)).mapM fun e => entryText e.1 e.2
    return "\x7b" ++ join "," fields ++ "\x7d"
  | v =>
    match v.text?, v.integer? with
    | some s, _ => .ok (quoted s)
    | none, some n => integerText n
    | none, none => otherwise v

def texts (otherwise : Value → Except Problem String) : List Value → Except Problem (List String)
  | [] => .ok []
  | v :: r => do
    let first ← text otherwise v
    return first :: (← texts otherwise r)

def entryTexts (otherwise : Value → Except Problem String) :
    List (Value × Value) → List (Value × Except Problem String)
  | [] => []
  | (k, v) :: r => (k, text otherwise v) :: entryTexts otherwise r

end

/-- The text of a value that JSON has a form for. -/
def write (v : Value) : Except Problem String :=
  text (fun v => .error (.noForm v.typeName)) v

/-- The text of a value, in which what JSON has no form for is quoted as in messages. -/
def writeAny (v : Value) : Except Problem String :=
  text (fun v => .ok (quoted v.literal)) v

end ParamRules.Json
