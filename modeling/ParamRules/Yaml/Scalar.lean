import ParamRules.Base64
import ParamRules.Text.Case
import ParamRules.Value
import ParamRules.Yaml.Problem

/-!
Scalars: the kind that a text without quotes is of, and the value of a text as one of a kind.
-/

namespace ParamRules.Yaml

open Text

inductive Kind where
  | null
  | bool
  | int
  | float
  | binary
  | timestamp
  | text
  /-- The key `<<`, which takes over the entries of other mappings. -/
  | merge
  | default
  | list
  | map
  | set
  | orderedMap
  | pairs
  | unknown
deriving Repr, DecidableEq

namespace Kind

def names : List (String × Kind) := [
  ("null", .null), ("bool", .bool), ("int", .int), ("float", .float), ("binary", .binary),
  ("timestamp", .timestamp), ("str", .text), ("merge", .merge), ("value", .default),
  ("seq", .list), ("map", .map), ("set", .set), ("omap", .orderedMap), ("pairs", .pairs)]

def tagStart : String := "tag:yaml.org,2002:"

def ofTag (tag : String) : Kind :=
  match afterChars? tagStart.toList tag.toList with
  | some name => (names.lookup (String.ofList name)).getD .unknown
  | none => .unknown

end Kind

/-! ## Numbers -/

def isDigitOrLine (c : Char) : Bool :=
  c.isDigit || c = '_'

/-- What follows a digit that satisfies a test, and further digits and underscores. -/
def afterRun? (first : Char → Bool) : List Char → Option (List Char)
  | c :: r => if first c then some (r.dropWhile isDigitOrLine) else none
  | [] => none

def afterSixties? : List Char → Option (List Char)
  | ':' :: a :: b :: r =>
    if a.isDigit && a.toNat < 0x36 && b.isDigit then (afterSixties? r).orElse fun _ => some r
    else if a.isDigit then (afterSixties? (b :: r)).orElse fun _ => some (b :: r)
    else none
  | [':', a] => if a.isDigit then some [] else none
  | _ => none

def isSignedExponent : List Char → Bool
  | [] => true
  | e :: sign :: r =>
    (e = 'e' || e = 'E') && (sign = '-' || sign = '+') && !r.isEmpty && r.all Char.isDigit
  | _ => false

def isFloat (s : List Char) : Bool :=
  let body := (Integer.splitSign s).2
  let signed := body.length < s.length
  let words := fun (ws : List String) => ws.any (·.toList = body)
  words [".inf", ".Inf", ".INF"] || (!signed && words [".nan", ".NaN", ".NAN"]) ||
    (match afterRun? Char.isDigit body with
      | some ('.' :: r) => isSignedExponent (r.dropWhile isDigitOrLine)
      | some r =>
        match afterSixties? r with
        | some ('.' :: r) => r.all isDigitOrLine
        | _ => false
      | none =>
        match body with
        | '.' :: r => !signed && (afterRun? Char.isDigit r).any isSignedExponent
        | _ => false)

def isRunOf (holds : Char → Bool) (s : List Char) : Bool :=
  !s.isEmpty && s.all fun c => holds c || c = '_'

def isInteger (s : List Char) : Bool :=
  match (Integer.splitSign s).2 with
  | ['0'] => true
  | '0' :: 'b' :: r => isRunOf (fun c => c = '0' || c = '1') r
  | '0' :: 'x' :: r =>
    isRunOf (fun c => c.isDigit || ('a' ≤ c && c ≤ 'f') || ('A' ≤ c && c ≤ 'F')) r
  | '0' :: r => isRunOf (fun c => c.isDigit && c.toNat < 0x38) r
  | body =>
    match afterRun? Char.isDigit body with
    | some [] => true
    | some r => afterSixties? r = some []
    | none => false

/-- Parts of base sixty, most significant first, as one number. -/
def ofSixties (parts : List Int) : Int :=
  parts.foldl (fun n d => n * 60 + d) 0

/-- The integer that a text without underscores and sign stands for. -/
def readUnsigned (s : List Char) : Except Problem Int :=
  let read := fun (base : Nat) (digits : List Char) =>
    (Integer.read base (String.ofList digits)).mapError Problem.integer
  match s with
  | [] => .error .emptyNumber
  | ['0'] => .ok 0
  | '0' :: 'b' :: r => read 2 r
  | '0' :: 'x' :: r => read 16 r
  | '0' :: _ => read 8 s
  | _ =>
    if s.contains ':' then ofSixties <$> (splitChars ':' s).mapM (read 10) else read 10 s

def readInteger (text : String) : Except Problem Int := do
  let s := text.toList.filter (· ≠ '_')
  let (negative, body) := Integer.splitSign s
  let n ← readUnsigned body
  return if negative then -n else n

def readFloat (text : String) : Except Problem Double := do
  let s := (lower (String.ofList (text.toList.filter (· ≠ '_')))).toList
  let (negative, body) := Integer.splitSign s
  let read := fun (part : List Char) =>
    match Double.read? (String.ofList part) with
    | some x => Except.ok x
    | none => .error (Problem.notReal (String.ofList part))
  let magnitude ←
    if s.isEmpty then .error .emptyNumber
    else if body = ".inf".toList then .ok Double.infinity
    else if body = ".nan".toList then .ok Double.undefined
    else if body.contains ':' then Double.ofSexagesimal <$> (splitChars ':' body).mapM read
    else read body
  return if negative then magnitude.negate else magnitude

/-! ## Dates -/

/-- The numbers of a date and of a time of day after it. The distance from universal time is in
minutes. -/
structure Timestamp where
  year : Nat
  month : Nat
  day : Nat
  /-- Whether month and day have two digits each. -/
  full : Bool
  /-- Hour, minute, second and the digits of a fraction. -/
  time : Option (Nat × Nat × Nat × List Char)
  offset : Option Int

def oneOrTwoDigits (s : List Char) : Option (Nat × List Char) :=
  (Moment.takeNumber? 2 s).orElse fun _ => Moment.takeNumber? 1 s

def expect (c : Char) (s : List Char) : Option (List Char) :=
  match s with
  | d :: r => if d = c then some r else none
  | [] => none

/-- The distance from universal time at the end of a text, if there is one. -/
def readOffset? (s : List Char) : Option (Option Int) :=
  if s.isEmpty then some none
  else
    match s.dropWhile fun c => c = ' ' || c = '\t' with
    | ['Z'] => some (some 0)
    | sign :: r => do
      if sign ≠ '+' ∧ sign ≠ '-' then none
      let (hours, r) ← oneOrTwoDigits r
      let minutes ←
        match r with
        | [] => some 0
        | ':' :: r => do
          let (minutes, r) ← Moment.takeNumber? 2 r
          if r.isEmpty then some minutes else none
        | _ => none
      return some (Integer.signed (sign = '-') (hours * 60 + minutes))
    | [] => none

/-- The numbers of a text that has the form of a date, or of a date and a time of day. -/
def readTimestamp? (s : List Char) : Option Timestamp := do
  let (year, r) ← Moment.takeNumber? 4 s
  let r ← expect '-' r
  let (month, afterMonth) ← oneOrTwoDigits r
  let r' ← expect '-' afterMonth
  let (day, afterDay) ← oneOrTwoDigits r'
  let full := r.length - afterMonth.length = 2 && r'.length - afterDay.length = 2
  match afterDay with
  | [] => return ⟨year, month, day, full, none, none⟩
  | c :: rest => do
    let r ←
      if c = 'T' ∨ c = 't' then some rest
      else if c = ' ' ∨ c = '\t' then some (rest.dropWhile fun c => c = ' ' || c = '\t')
      else none
    let (hour, r) ← oneOrTwoDigits r
    let (minute, r) ← Moment.takeNumber? 2 (← expect ':' r)
    let (second, r) ← Moment.takeNumber? 2 (← expect ':' r)
    let (fraction, r) :=
      match r with
      | '.' :: r => (r.takeWhile Char.isDigit, r.dropWhile Char.isDigit)
      | r => ([], r)
    let offset ← readOffset? r
    return ⟨year, month, day, full, some (hour, minute, second, fraction), offset⟩

def Timestamp.wrongDate? (t : Timestamp) : Option DatePart :=
  if t.year < 1 ∨ t.year > 9999 then some (.year t.year)
  else if t.month < 1 ∨ t.month > 12 then some .month
  else if t.day < 1 ∨ t.day > Calendar.daysInMonth t.year t.month then some .day
  else none

/-- A fraction of a second in microseconds: six digits count. -/
def fractionMicros (digits : List Char) : Nat :=
  let six := (digits ++ List.replicate 6 '0').take 6
  Integer.ofDigits 10 (six.map fun c => c.toNat - 0x30)

def Timestamp.value (t : Timestamp) : Except Problem Value :=
  match t.time with
  | none =>
    match t.wrongDate? with
    | some part => .error (.date part)
    | none => .ok (.date t.year t.month t.day)
  | some (hour, minute, second, fraction) =>
    let offset := t.offset.map (· * (Duration.perMinute : Int))
    if offset.any (·.natAbs ≥ Duration.perDay) then .error (.offset ⟨offset.getD 0⟩)
    else
      match t.wrongDate? with
      | some part => .error (.date part)
      | none =>
        if hour > 23 then .error (.date .hour)
        else if minute > 59 then .error (.date .minute)
        else if second > 59 then .error (.date .second)
        else
          .ok (.moment ⟨t.year, t.month, t.day, hour, minute, second, fractionMicros fraction,
            offset⟩)

/-! ## Kinds and values -/

def truthWords : List (String × Bool) := [
  ("yes", true), ("no", false), ("true", true), ("false", false), ("on", true), ("off", false)]

/-- The ways in which a word for a truth value may be written: in lower case, with a capital, or in
upper case. -/
def wordForms (w : String) : List String :=
  [w, w.capitalize, w.toUpper]

def withoutLastBreak (s : List Char) : List Char :=
  if s.getLast? = some '\n' then s.dropLast else s

/-- The kind that a text without quotes is of. -/
def Kind.ofPlain (text : String) : Kind :=
  let s := withoutLastBreak text.toList
  let t := String.ofList s
  if text.startsWith "\n" then .text
  else if truthWords.any fun w => (wordForms w.1).contains t then .bool
  else if isFloat s then .float
  else if isInteger s then .int
  else if t = "<<" then .merge
  else if ["", "~", "null", "Null", "NULL"].contains t then .null
  else if (readTimestamp? s).any fun d => d.full || d.time.isSome then .timestamp
  else if t = "=" then .default
  else if ["!", "&", "*"].contains t then .unknown
  else .text

def scalarValue (kind : Kind) (text : String) : Except Problem Value :=
  match kind with
  | .null => .ok .null
  | .bool =>
    match truthWords.lookup (lower text) with
    | some b => .ok (.bool b)
    | none => .error (.notTruthValue (lower text))
  | .int => .int <$> readInteger text
  | .float => .double <$> readFloat text
  | .binary =>
    if text.toList.any fun c => c.toNat ≥ 0x80 then .error .malformed
    else
      match Base64.decodeLoose? text.toList with
      | some bytes => .ok (.bytes bytes)
      | none => .error .malformed
  | .timestamp =>
    match readTimestamp? (withoutLastBreak text.toList) with
    | some t => t.value
    | none => .error .notTimestamp
  | .text => .ok (.text text)
  | _ => .error .malformed

end ParamRules.Yaml
