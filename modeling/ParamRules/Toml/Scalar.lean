import ParamRules.Toml.Text
import ParamRules.Value

/-!
Scalars of TOML that are not in quotes: dates, times of day, numbers and truth values. A date that
has the form of one and is none is malformed; all other forms are tried one after the other.
-/

namespace ParamRules.Toml

/-! ## Dates and times -/

def twoDigits? (least greatest : Nat) (s : List Char) : Option (Nat × List Char) :=
  match s with
  | a :: b :: r =>
    let n := (a.toNat - 0x30) * 10 + (b.toNat - 0x30)
    if a.isDigit && b.isDigit && least ≤ n && n ≤ greatest then some (n, r) else none
  | _ => none

def after? (mark : Char) : List Char → Option (List Char)
  | c :: r => if c = mark then some r else none
  | [] => none

/-- The microseconds after a point, of which the first six digits count. -/
def fraction (s : List Char) : Nat × List Char :=
  match s with
  | '.' :: r =>
    let digits := r.takeWhile Char.isDigit
    if digits.isEmpty then (0, s)
    else
      let counted := (digits ++ List.replicate 6 '0').take 6
      (Integer.ofDigits 10 (counted.map fun c => c.toNat - 0x30), r.drop digits.length)
  | s => (0, s)

def clock? (s : List Char) : Option ((Nat × Nat × Nat × Nat) × List Char) := do
  let (hour, s) ← twoDigits? 0 23 s
  let (minute, s) ← twoDigits? 0 59 (← after? ':' s)
  let (second, s) ← twoDigits? 0 59 (← after? ':' s)
  let (micro, s) := fraction s
  return ((hour, minute, second, micro), s)

def distance? (s : List Char) : Option (Int × List Char) := do
  let (hour, s) ← twoDigits? 0 23 s
  let (minute, s) ← twoDigits? 0 59 (← after? ':' s)
  return (((hour * 60 + minute) * 60 : Nat) * Duration.perSecond, s)

def offset (s : List Char) : Option Int × List Char :=
  match s with
  | 'Z' :: r | 'z' :: r => (some 0, r)
  | '+' :: r => ((distance? r).map fun p => (some p.1, p.2)).getD (none, s)
  | '-' :: r => ((distance? r).map fun p => (some (-p.1), p.2)).getD (none, s)
  | s => (none, s)

def date? (s : List Char) : Option ((Nat × Nat × Nat) × List Char) := do
  let (century, s) ← twoDigits? 0 99 s
  let (year, s) ← twoDigits? 0 99 s
  let (month, s) ← twoDigits? 1 12 (← after? '-' s)
  let (day, s) ← twoDigits? 1 31 (← after? '-' s)
  return ((century * 100 + year, month, day), s)

def clockAfterDate? (s : List Char) : Option ((Nat × Nat × Nat × Nat) × List Char) :=
  match s with
  | 'T' :: r | 't' :: r | ' ' :: r => clock? r
  | _ => none

/-- A date, alone or with a time of day, that has the form of one. -/
def dated? (s : List Char) : Option (Except Problem (Value × List Char)) := do
  let ((year, month, day), r) ← date? s
  if year = 0 || !Calendar.isDate year month day then return .error .malformed
  match clockAfterDate? r with
  | some ((hour, minute, second, micro), r) =>
    let (zone, r) := offset r
    return .ok (.moment ⟨year, month, day, hour, minute, second, micro, zone⟩, r)
  | none => return .ok (.date year month day, r)

/-! ## Numbers -/

/-- A run of digits, with single underscores between them that are dropped. -/
def digitRun? (isDigit : Char → Bool) : List Char → Option (List Char × List Char)
  | [] => none
  | c :: r =>
    if isDigit c then
      match r with
      | '_' :: d :: more =>
        if isDigit d then (digitRun? isDigit (d :: more)).map fun p => (c :: p.1, p.2)
        else some ([c], r)
      | r =>
        match digitRun? isDigit r with
        | some p => some (c :: p.1, p.2)
        | none => some ([c], r)
    else none

def based? (base : Nat) (s : List Char) : Option (Value × List Char) := do
  let isDigit := fun c => (Text.hexValue? c).any (· < base)
  let (digits, r) ← digitRun? isDigit s
  return (.int (Integer.ofDigits base (digits.filterMap Text.hexValue?)), r)

/-- The whole part of a decimal number: zero alone, or digits that do not start with it. -/
def wholePart? (s : List Char) : Option (List Char × List Char) :=
  match s with
  | '0' :: r => some (['0'], r)
  | s => digitRun? Char.isDigit s

def pointPart (s : List Char) : List Char × List Char :=
  match s with
  | '.' :: r =>
    match digitRun? Char.isDigit r with
    | some (digits, r) => ('.' :: digits, r)
    | none => ([], s)
  | s => ([], s)

def exponentPart (s : List Char) : List Char × List Char :=
  match s with
  | [] => ([], s)
  | e :: r =>
    if e = 'e' || e = 'E' then
      let sign := (r.take 1).filter fun c => c = '+' || c = '-'
      match digitRun? Char.isDigit (r.drop sign.length) with
      | some (digits, r) => (e :: sign ++ digits, r)
      | none => ([], s)
    else ([], s)

def decimal? (s : List Char) : Option (Except Problem (Value × List Char)) := do
  let sign := (s.take 1).filter fun c => c = '+' || c = '-'
  let (whole, r) ← wholePart? (s.drop sign.length)
  let (point, r) := pointPart r
  let (exponent, r) := exponentPart r
  if point.isEmpty && exponent.isEmpty then
    match Integer.read 10 (String.ofList (sign ++ whole)) with
    | .ok n => return .ok (.int n, r)
    | .error (.tooLong digits) => return .error (.longNumber digits)
    | .error _ => return .error .malformed
  else
    let x ← Double.read? (String.ofList (sign ++ whole ++ point ++ exponent))
    return .ok (.double x, r)

/-- A number without digits: infinite, or undefined. -/
def special? (s : List Char) : Option (Value × List Char) := do
  let sign := (s.take 1).filter fun c => c = '+' || c = '-'
  match s.drop sign.length with
  | 'i' :: 'n' :: 'f' :: r =>
    return (.double (if sign = ['-'] then .negInfinity else .infinity), r)
  | 'n' :: 'a' :: 'n' :: r => return (.double .undefined, r)
  | _ => none

/-! ## Any scalar -/

/-- A scalar that is not in quotes. -/
def scalar (s : List Char) : Except Problem (Value × List Char) :=
  match s with
  | 't' :: 'r' :: 'u' :: 'e' :: r => .ok (.bool true, r)
  | 'f' :: 'a' :: 'l' :: 's' :: 'e' :: r => .ok (.bool false, r)
  | s =>
    let clock := (clock? s).map fun ((hour, minute, second, micro), r) =>
      Except.ok (Value.clock hour minute second micro, r)
    let based : Option (Value × List Char) :=
      match s with
      | '0' :: 'x' :: r => based? 16 r
      | '0' :: 'o' :: r => based? 8 r
      | '0' :: 'b' :: r => based? 2 r
      | _ => none
    (dated? s <|> clock <|> based.map Except.ok <|> decimal? s <|> (special? s).map Except.ok).getD
      (.error .malformed)

end ParamRules.Toml
