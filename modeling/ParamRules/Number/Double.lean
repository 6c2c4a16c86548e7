import ParamRules.Number.Integer

/-!
Binary floating-point numbers by their bits, and the shortest decimal text that reads back as the
same number. Among the texts with the fewest digits the nearest to the number is taken, and of two
equally near ones that with the even last digit.
-/

namespace ParamRules

/-- A double-precision number, given by its 64 bits. -/
structure Double where
  bits : UInt64
deriving Repr, DecidableEq

namespace Double

/-- The number nearest to a coefficient times a power of ten. -/
def ofScientific (negative : Bool) (coefficient : Nat) (exponent : Int) : Double :=
  let magnitude := Float.ofScientific coefficient (exponent < 0) exponent.natAbs
  ⟨(if negative then -magnitude else magnitude).toBits⟩

def infinity : Double := ⟨0x7FF0000000000000⟩

def negInfinity : Double := ⟨0xFFF0000000000000⟩

def undefined : Double := ⟨0x7FF8000000000000⟩

def isNegative (x : Double) : Bool :=
  x.bits.toNat ≥ Nat.pow 2 63

def exponentBits (x : Double) : Nat :=
  x.bits.toNat / Nat.pow 2 52 % Nat.pow 2 11

def fractionBits (x : Double) : Nat :=
  x.bits.toNat % Nat.pow 2 52

def isFinite (x : Double) : Bool :=
  x.exponentBits ≠ 2047

/-- The magnitude as a whole number times a power of two. -/
def significand (x : Double) : Nat × Int :=
  if x.exponentBits = 0 then (x.fractionBits, -1074)
  else (Nat.pow 2 52 + x.fractionBits, (x.exponentBits : Int) - 1075)

/-- A fraction of two natural numbers for `m · 2 ^ q`. -/
def ratio (m : Nat) (q : Int) : Nat × Nat :=
  if q < 0 then (m, Nat.pow 2 (-q).toNat) else (m * Nat.pow 2 q.toNat, 1)

/-- The numbers that round to the given one: the ends of the interval as fractions over one
denominator, with the number itself between them, and whether the ends belong to it. -/
structure Interval where
  low : Nat
  value : Nat
  high : Nat
  denominator : Nat
  closed : Bool

/-- The interval of a positive finite number. Below a power of two the gap is half as wide. -/
def interval (x : Double) : Interval :=
  let (m, q) := x.significand
  let (v, d) := ratio (4 * m) (q - 2)
  let (unit, _) := ratio 1 (q - 2)
  -- Counted in quarters of the gap, one of which is half of the gap below a power of two.
  let below := if x.fractionBits = 0 ∧ x.exponentBits > 1 then unit else 2 * unit
  ⟨v - below, v, v + 2 * unit, d, m % 2 = 0⟩

def Interval.holds (i : Interval) (n : Nat) (e : Int) : Bool :=
  let (p, d) := if e < 0 then (n, Nat.pow 10 (-e).toNat) else (n * Nat.pow 10 e.toNat, 1)
  let here := p * i.denominator
  if i.closed then i.low * d ≤ here && here ≤ i.high * d
  else i.low * d < here && here < i.high * d

/-- The exponent of the leading digit's place: the least `k` with the number below `10 ^ k`. -/
def leadingPlace (i : Interval) : Int :=
  if i.value ≥ i.denominator then ((Nat.toDigits 10 (i.value / i.denominator)).length : Int)
  else
    let places := (Nat.toDigits 10 (i.denominator / i.value)).length
    1 - (places : Int) + if i.value * Nat.pow 10 (places - 1) ≥ i.denominator then 1 else 0

/-- The nearer of the number's two neighbours on the grid of multiples of `10 ^ e` that lies in
the interval, when one does. -/
def Interval.onGrid? (i : Interval) (e : Int) : Option Nat :=
  let (num, den) :=
    if e < 0 then (i.value * Nat.pow 10 (-e).toNat, i.denominator)
    else (i.value, i.denominator * Nat.pow 10 e.toNat)
  let floor := num / den
  let rest := num % den
  let lower := i.holds floor e && floor != 0
  let upper := i.holds (floor + 1) e
  match lower, upper with
  | false, false => none
  | true, false => some floor
  | false, true => some (floor + 1)
  | true, true =>
    if 2 * rest < den then some floor
    else if 2 * rest > den then some (floor + 1)
    else some (if floor % 2 = 0 then floor else floor + 1)

/-- The digits of the shortest text, and the place of the point among them. -/
def shortest (i : Interval) : Nat → Nat → List Char × Int
  | 0, _ => (Nat.toDigits 10 (i.value / i.denominator), leadingPlace i)
  | fuel + 1, count =>
    let e := leadingPlace i - (count : Int)
    match i.onGrid? e with
    | some n => (Nat.toDigits 10 n, ((Nat.toDigits 10 n).length : Int) + e)
    | none => shortest i fuel (count + 1)

def dropEndZeros (digits : List Char) : List Char :=
  let kept := (digits.reverse.dropWhile (· = '0')).reverse
  if kept.isEmpty then ['0'] else kept

/-- Digits with the point at the given place: plain from `1e-4` up to below `1e16`, and with an
exponent of at least two digits outside that range. -/
def layOut (digits : List Char) (point : Int) : List Char :=
  let count : Int := digits.length
  if -4 < point ∧ point ≤ 16 then
    if point ≤ 0 then '0' :: '.' :: List.replicate (-point).toNat '0' ++ digits
    else if point < count then digits.take point.toNat ++ '.' :: digits.drop point.toNat
    else digits ++ List.replicate (point - count).toNat '0' ++ ['.', '0']
  else
    let exponent := point - 1
    let places := Nat.toDigits 10 exponent.natAbs
    let mantissa :=
      match digits with
      | d :: e :: r => d :: '.' :: e :: r
      | ds => ds
    mantissa ++ 'e' :: (if exponent < 0 then '-' else '+') ::
      (if places.length < 2 then '0' :: places else places)

/-- The shortest text that reads back as the number. -/
def text (x : Double) : String :=
  if !x.isFinite then
    if x.fractionBits ≠ 0 then "nan" else if x.isNegative then "-inf" else "inf"
  else
    let body :=
      if x.significand.1 = 0 then "0.0".toList
      else
        let (digits, point) := shortest x.interval 17 1
        layOut (dropEndZeros digits) point
    String.ofList ((if x.isNegative then ['-'] else []) ++ body)

/-! ## Reading -/

def takeDigits (s : List Char) : List Nat × List Char :=
  ((s.takeWhile Text.isDecimalDigit).filterMap Text.decimalDigit?,
    s.dropWhile Text.isDecimalDigit)

/-- The value of an exponent: nothing, or the letter, an optional sign and digits. -/
def exponent? (s : List Char) : Option Int :=
  match s with
  | [] => some 0
  | c :: r =>
    if c = 'e' ∨ c = 'E' then
      let (negative, r) := Integer.splitSign r
      match takeDigits r with
      | ([], _) => none
      | (digits, []) => some (Integer.signed negative (Integer.ofDigits 10 digits))
      | _ => none
    else none

/-- The number of digits with an optional point and exponent. There has to be a digit before the
exponent. -/
def readUnsigned? (negative : Bool) (s : List Char) : Option Double := do
  let (whole, r) := takeDigits s
  let (places, r) :=
    match r with
    | '.' :: r => takeDigits r
    | r => ([], r)
  if whole.isEmpty && places.isEmpty then none
  else
    let e ← exponent? r
    return ofScientific negative (Integer.ofDigits 10 (whole ++ places)) (e - places.length)

/-- The number that a text stands for: decimal digits, or the words for infinity and for what is no
number, in any case of letters. White space may stand around them. -/
def read? (text : String) : Option Double :=
  let blank := Integer.isNumberBlank
  let body := ((text.toList.dropWhile blank).reverse.dropWhile blank).reverse
  let (negative, r) := Integer.splitSign body
  let word := String.ofList (r.map Char.toLower)
  if word = "inf" ∨ word = "infinity" then some (if negative then negInfinity else infinity)
  else if word = "nan" then some undefined
  else readUnsigned? negative r

def negate (x : Double) : Double :=
  ⟨(-(Float.ofBits x.bits)).toBits⟩

/-- Numbers of a place notation with base sixty, most significant first, as one number. -/
def ofSexagesimal (parts : List Double) : Double :=
  let add := fun (acc : Float × Float) (x : Double) =>
    (acc.1 + Float.ofBits x.bits * acc.2, acc.2 * 60)
  ⟨(parts.reverse.foldl add (0, 1)).1.toBits⟩

end Double

end ParamRules
