import ParamRules.Time.Calendar
import ParamRules.Time.Duration

/-!
Moments: a date and a time of day, with the distance from universal time where it is known. Two
moments with a known distance are ordered by the instant that they denote.

The reader takes the extended and the basic form of dates (`2024-05-01`, `20240501`,
`2024-W18-3`, `2024W183`), any one character between date and time, times down to a fraction of a
second after a point or a comma, and `Z` or a signed time as the distance.
-/

namespace ParamRules

/-- A date and a time of day. The offset is the distance east of universal time in
microseconds. -/
structure Moment where
  year : Nat
  month : Nat
  day : Nat
  hour : Nat
  minute : Nat
  second : Nat
  micro : Nat
  offset : Option Int
deriving Repr, DecidableEq

namespace Moment

open Text

def min : Moment := ⟨1, 1, 1, 0, 0, 0, 0, some 0⟩

def max : Moment := ⟨9999, 12, 31, 23, 59, 59, 999999, some 0⟩

/-- Microseconds from the start of the year one to the time on the clock. -/
def clock (m : Moment) : Int :=
  let days : Int := Calendar.dayNumber m.year m.month m.day
  let seconds : Int := m.hour * 3600 + m.minute * 60 + m.second
  days * Duration.perDay + seconds * Duration.perSecond + m.micro

/-- Microseconds from the start of the year one to the instant, in universal time. -/
def instant? (m : Moment) : Option Int :=
  m.offset.map fun o => m.clock - o

/-! ## Written forms -/

/-- A distance from universal time: sign, hours and minutes, and seconds where it has any. -/
def offsetText (offset : Int) : String :=
  let n := offset.natAbs
  let seconds := n / Duration.perSecond
  let micros := n % Duration.perSecond
  (if offset < 0 then "-" else "+") ++ padded 2 (seconds / 3600) ++ ":" ++
    padded 2 (seconds / 60 % 60) ++
    (if seconds % 60 ≠ 0 ∨ micros ≠ 0 then ":" ++ padded 2 (seconds % 60) else "") ++
    (if micros ≠ 0 then "." ++ padded 6 micros else "")

def text (m : Moment) : String :=
  padded 4 m.year ++ "-" ++ padded 2 m.month ++ "-" ++ padded 2 m.day ++ "T" ++
    padded 2 m.hour ++ ":" ++ padded 2 m.minute ++ ":" ++ padded 2 m.second ++
    (if m.micro ≠ 0 then "." ++ padded 6 m.micro else "") ++
    (match m.offset with
      | some o => offsetText o
      | none => "")

/-- The moment as it is quoted in messages: its numbers, with seconds and microseconds left out
where they are zero, and its distance from universal time. -/
def literal (m : Moment) : String :=
  let numbers :=
    [m.year, m.month, m.day, m.hour, m.minute] ++
      (if m.micro ≠ 0 then [m.second, m.micro]
       else if m.second ≠ 0 then [m.second] else [])
  let zone :=
    match m.offset with
    | none => ""
    | some 0 => ", tzinfo=datetime.timezone.utc"
    | some o => ", tzinfo=datetime.timezone(" ++ (Duration.mk o).literal ++ ")"
  "datetime.datetime(" ++ join ", " (numbers.map Integer.natText) ++ zone ++ ")"

/-! ## Reading -/

def isAsciiDigit (c : Char) : Bool :=
  c.isDigit

/-- A number of exactly `count` digits at the start, and what follows it. -/
def takeNumber? (count : Nat) (s : List Char) : Option (Nat × List Char) :=
  let digits := s.take count
  if digits.length = count ∧ digits.all isAsciiDigit then
    some (Integer.ofDigits 10 (digits.map fun c => c.toNat - 0x30), s.drop count)
  else none

def dateLength? (s : List Char) : Option Nat :=
  let n := s.length
  let at? := fun i => s[i]?
  if n = 7 then some 7
  else if at? 4 = some '-' then
    if at? 5 = some 'W' then
      if n < 8 then none
      else if n > 8 ∧ at? 8 = some '-' then
        if n = 9 then none
        else if n > 10 ∧ (at? 10).any isAsciiDigit then some 8
        else some 10
      else some 8
    else some 10
  else if at? 4 = some 'W' then
    -- A week without dashes may have a weekday or not, which shows in the number of digits that
    -- follow.
    let stop := 7 + ((s.drop 7).takeWhile isAsciiDigit).length
    if stop < 9 then some stop
    else if stop % 2 = 0 then some 7
    else some 8
  else some 8

def takeDash? (dashes : Bool) (s : List Char) : Option (List Char) :=
  if dashes then
    match s with
    | '-' :: r => some r
    | _ => none
  else some s

/-- Reads a date: year, month and day, or year, week and weekday. -/
def readDate? (s : List Char) : Option (Nat × Nat × Nat) := do
  let (year, r) ← takeNumber? 4 s
  let (dashes, r) :=
    match r with
    | '-' :: r => (true, r)
    | r => (false, r)
  match r with
  | 'W' :: r =>
    let (week, r) ← takeNumber? 2 r
    if r.isEmpty then
      Calendar.ofWeek? year week 1
    else
      let r ← takeDash? dashes r
      let (day, r) ← takeNumber? 1 r
      if r.isEmpty then Calendar.ofWeek? year week day else none
  | r =>
    let (month, r) ← takeNumber? 2 r
    let r ← takeDash? dashes r
    let (day, r) ← takeNumber? 2 r
    if r.isEmpty then some (year, month, day) else none

/-- What ends the two-digit numbers of a time of day: the end of its text, and whether something
follows that does not belong to it, or a fraction of a second. -/
inductive ClockEnd where
  | stop (hasRest : Bool)
  | fraction (digits : List Char)
deriving Repr

/-- Up to `count` two-digit numbers, with colons between all of them or between none. Whether
there are colons is known from the second number on. `next` is the character after the text. -/
def clockNumbers? (next : Option Char) :
    Nat → Option Bool → List Char → Option (List Nat × ClockEnd)
  | 0, _, s => some ([], .fraction s)
  | count + 1, colons, s => do
    let (n, r) ← takeNumber? 2 s
    match r with
    | [] => return ([n], .stop next.isSome)
    | c :: after =>
      let colons := colons.getD (c = ':')
      if after.isEmpty then return ([n], .stop true)
      else if colons && c = ':' then
        let (ns, stop) ← clockNumbers? next count (some colons) after
        return (n :: ns, stop)
      else if c = '.' ∨ c = ',' then return ([n], .fraction after)
      else if colons then none
      else
        let (ns, stop) ← clockNumbers? next count (some colons) r
        return (n :: ns, stop)

/-- A fraction of a second in microseconds: up to six digits count, further digits are passed
over. The flag says whether anything else follows. -/
def readFraction? (s : List Char) (next : Option Char) : Option (Nat × Bool) :=
  let count := Nat.min s.length 6
  match takeNumber? count s with
  | none => none
  | some (n, r) =>
    if count = 0 then none
    else some (n * Nat.pow 10 (6 - count), !(r.dropWhile isAsciiDigit ++ next.toList).isEmpty)

/-- A time of day. The flag says whether anything follows that does not belong to it. -/
structure ClockTime where
  hour : Nat
  minute : Nat
  second : Nat
  micro : Nat
  hasRest : Bool
deriving Repr

/-- Reads hours, minutes and seconds and a fraction. The text ends before `next`. -/
def readClock? (s : List Char) (next : Option Char) : Option ClockTime := do
  let (numbers, stop) ← clockNumbers? next 3 none s
  let nth := fun i => numbers[i]?.getD 0
  match stop with
  | .stop hasRest => return ⟨nth 0, nth 1, nth 2, 0, hasRest⟩
  | .fraction digits =>
    let (micro, hasRest) ← readFraction? digits next
    return ⟨nth 0, nth 1, nth 2, micro, hasRest⟩

def startsOffset (c : Char) : Bool :=
  c = '+' || c = '-' || c = 'Z'

def readTime? (s : List Char) : Option (ClockTime × Option Int) := do
  let body := s.takeWhile fun c => !startsOffset c
  let zone := s.dropWhile fun c => !startsOffset c
  let time ← readClock? body zone.head?
  match zone with
  | [] => if time.hasRest then none else return (time, none)
  | 'Z' :: r => if r.isEmpty then return (time, some 0) else none
  | sign :: r =>
    let o ← readClock? r none
    if o.hasRest then none
    else
      let micros := (o.hour * 3600 + o.minute * 60 + o.second) * Duration.perSecond + o.micro
      return (time, some (Integer.signed (sign = '-') micros))

/-- Whether the numbers are in range: a day of the calendar, a time of the day, and a distance of
less than a day. -/
def isValid (m : Moment) : Bool :=
  Calendar.isDate m.year m.month m.day && m.hour < 24 && m.minute < 60 && m.second < 60 &&
    m.micro < 1000000 && m.offset.all (·.natAbs < Duration.perDay)

/-- Reads a moment. A date alone is the start of the day. -/
def read? (s : List Char) : Option Moment := do
  if s.length < 7 then none
  let stop ← dateLength? s
  let (year, month, day) ← readDate? (s.take stop)
  let m : Moment ←
    if s.length ≤ stop then some ⟨year, month, day, 0, 0, 0, 0, none⟩
    else do
      let (t, offset) ← readTime? (s.drop (stop + 1))
      some ⟨year, month, day, t.hour, t.minute, t.second, t.micro, offset⟩
  if m.isValid then some m else none

end Moment

end ParamRules
