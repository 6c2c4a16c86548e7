import ParamRules.Number.Decimal
import ParamRules.Text.Split

/-!
Durations: whole microseconds, positive or negative, up to a little under a thousand million days.
They are written as `P1DT2H3M4.5S`, with the parts that are zero left out.
-/

namespace ParamRules

structure Duration where
  micros : Int
deriving Repr, DecidableEq

namespace Duration

open Text

def perSecond : Nat := 1000000

def perMinute : Nat := 60 * perSecond

def perHour : Nat := 60 * perMinute

def perDay : Nat := 24 * perHour

def min : Duration := ⟨-(999999999 * perDay : Nat)⟩

def max : Duration := ⟨(1000000000 * perDay : Nat) - 1⟩

def ofMicros? (n : Int) : Option Duration :=
  if min.micros ≤ n ∧ n ≤ max.micros then some ⟨n⟩ else none

/-! ## Written form -/

/-- A part with its letter, and nothing where the part is zero. -/
def part (n : Nat) (letter : Char) : List Char :=
  if n = 0 then [] else Nat.toDigits 10 n ++ [letter]

/-- A fraction of a second in six places, without the zeros at its end. -/
def fraction (micros : Nat) : List Char :=
  ((padded 6 micros).toList.reverse.dropWhile (· = '0')).reverse

def secondsPart (seconds micros : Nat) : List Char :=
  if seconds = 0 ∧ micros = 0 then []
  else if micros = 0 then Nat.toDigits 10 seconds ++ ['S']
  else Nat.toDigits 10 seconds ++ '.' :: fraction micros ++ ['S']

def magnitudeText (n : Nat) : List Char :=
  let days := part (n / perDay) 'D'
  let time :=
    part (n % perDay / perHour) 'H' ++ part (n % perHour / perMinute) 'M' ++
      secondsPart (n % perMinute / perSecond) (n % perSecond)
  if days.isEmpty && time.isEmpty then "PT0S".toList
  else 'P' :: days ++ (if time.isEmpty then [] else 'T' :: time)

def text (d : Duration) : String :=
  String.ofList ((if d.micros < 0 then ['-'] else []) ++ magnitudeText d.micros.natAbs)

/-! ## Reading -/

structure Parts where
  negative : Bool
  days : Option (List Nat)
  hours : Option (List Nat)
  minutes : Option (List Nat)
  /-- The digits of the seconds before and after the point. -/
  seconds : Option (List Nat × List Nat)
deriving Repr

inductive ReadFault where
  /-- The text has not the form of a duration, or a number in it is too long. -/
  | malformed
  | outOfRange
deriving Repr, DecidableEq

def takePart? (letter : Char) (s : List Char) : Option (List Nat × List Char) :=
  let digits := s.takeWhile isDecimalDigit
  match s.dropWhile isDecimalDigit with
  | c :: r =>
    if c = letter ∧ !digits.isEmpty then some (digits.filterMap decimalDigit?, r) else none
  | [] => none

def optionalPart (letter : Char) (s : List Char) : Option (List Nat) × List Char :=
  match takePart? letter s with
  | some (ds, r) => (some ds, r)
  | none => (none, s)

def optionalSeconds (s : List Char) : Option (List Nat × List Nat) × List Char :=
  match takePart? 'S' s with
  | some (ds, r) => (some (ds, []), r)
  | none =>
    -- The letter stands after the fraction, where there is one.
    match takePart? '.' s with
    | none => (none, s)
    | some (whole, r) =>
      match takePart? 'S' r with
      | some (places, r) => (some (whole, places), r)
      | none => (none, s)

/-- Reads the parts of a duration. A text that ends in `P` or `T` is none. -/
def parts? (s : List Char) : Option Parts :=
  let (negative, body) :=
    match s with
    | '-' :: r => (true, r)
    | r => (false, r)
  match body with
  | 'P' :: r =>
    let (days, r) := optionalPart 'D' r
    match r with
    | [] => if days.isNone then none else some ⟨negative, days, none, none, none⟩
    | 'T' :: r =>
      let (hours, r) := optionalPart 'H' r
      let (minutes, r) := optionalPart 'M' r
      let (seconds, r) := optionalSeconds r
      if !r.isEmpty || (hours.isNone && minutes.isNone && seconds.isNone) then none
      else some ⟨negative, days, hours, minutes, seconds⟩
    | _ => none
  | _ => none

/-- The microseconds of a number of seconds. The product with a million keeps the significant
digits of a decimal product, and the result is rounded to a whole number. -/
def microsOfSeconds (whole places : List Nat) : Nat :=
  let coefficient := Integer.ofDigits 10 (whole ++ places) * perSecond
  let scaled := Decimal.roundToPrecision coefficient (-(places.length : Int))
  Decimal.toWhole scaled.1 scaled.2

/-- The microseconds that the parts add up to, unless a whole part has too many digits. -/
def Parts.total? (p : Parts) : Option Int :=
  let tooLong := fun (ds : Option (List Nat)) => (ds.getD []).length > Integer.digitLimit
  if tooLong p.days || tooLong p.hours || tooLong p.minutes then none
  else
    let whole := fun (ds : Option (List Nat)) => Integer.ofDigits 10 (ds.getD [])
    let seconds :=
      match p.seconds with
      | some (w, f) => microsOfSeconds w f
      | none => 0
    some (Integer.signed p.negative
      (whole p.days * perDay + whole p.hours * perHour + whole p.minutes * perMinute + seconds))

def read (s : List Char) : Except ReadFault Duration :=
  match (parts? s).bind Parts.total? with
  | none => .error .malformed
  | some n =>
    match ofMicros? n with
    | some d => .ok d
    | none => .error .outOfRange

/-! ## In messages -/

/-- Whole days, seconds of the day and microseconds of the second; only the days may be
negative. -/
def split (d : Duration) : Int × Nat × Nat :=
  let day : Int := perDay
  let rest := (Int.fmod d.micros day).toNat
  (Int.fdiv d.micros day, rest / perSecond, rest % perSecond)

/-- The duration as it is quoted in messages: its parts by name, those that are zero left out. -/
def literal (d : Duration) : String :=
  let (days, seconds, micros) := d.split
  let parts :=
    (if days ≠ 0 then ["days=" ++ Integer.text days] else []) ++
      (if seconds ≠ 0 then ["seconds=" ++ Integer.natText seconds] else []) ++
      (if micros ≠ 0 then ["microseconds=" ++ Integer.natText micros] else [])
  "datetime.timedelta(" ++ (if parts.isEmpty then "0" else join ", " parts) ++ ")"

/-- The duration as it is shown to users: days, where there are any, and a time of day. -/
def display (d : Duration) : String :=
  let (days, seconds, micros) := d.split
  (if days = 0 then ""
    else Integer.text days ++ (if days.natAbs = 1 then " day, " else " days, ")) ++
    Integer.natText (seconds / 3600) ++ ":" ++ padded 2 (seconds / 60 % 60) ++ ":" ++
    padded 2 (seconds % 60) ++ (if micros = 0 then "" else "." ++ padded 6 micros)

example : (Duration.mk (-1)).text = "-PT0.000001S" := by decide +kernel
example : (Duration.mk 93784500000).text = "P1DT2H3M4.5S" := by decide +kernel
example : (Duration.mk (-1)).display = "-1 day, 23:59:59.999999" := by decide +kernel

end Duration

end ParamRules
