import ParamRules.Number.Integer

/-!
Exact decimal numbers: a coefficient times a power of ten, with the exponent kept as it was
written, so that `1.50` and `1.5` are equal in value and different in text. The not-finite forms
exist because callers can hand them in. Arithmetic is needed only to scale the seconds of a
duration, where products keep `precision` digits and halves go to the even neighbour.
-/

namespace ParamRules

inductive Decimal where
  /-- The coefficient times ten to the exponent, negative when the flag is set. Zero has a sign. -/
  | finite (negative : Bool) (coefficient : Nat) (exponent : Int)
  | infinite (negative : Bool)
  /-- Not a number: a sign, whether it signals, and the digits that go with it. -/
  | undefined (negative : Bool) (signals : Bool) (payload : Nat)
deriving Repr, DecidableEq

namespace Decimal

open Text

/-- Significant digits that a product keeps. -/
def precision : Nat := 28

def ofInt (n : Int) : Decimal :=
  .finite (n < 0) n.natAbs 0

def isFinite : Decimal → Bool
  | .finite .. => true
  | _ => false

/-- The number of decimal digits of a natural number, one for zero. -/
def digitCount (n : Nat) : Nat :=
  (Nat.toDigits 10 n).length

/-- The quotient rounded to the nearest whole number, a half to the even neighbour. -/
def roundDiv (n d : Nat) : Nat :=
  let q := n / d
  let r := n % d
  if 2 * r < d then q
  else if 2 * r > d then q + 1
  else if q % 2 = 0 then q else q + 1

/-- A coefficient and exponent with at most `precision` digits, rounded half to even. -/
def roundToPrecision (coefficient : Nat) (exponent : Int) : Nat × Int :=
  let excess := digitCount coefficient - precision
  if excess = 0 then (coefficient, exponent)
  else
    let rounded := roundDiv coefficient (Nat.pow 10 excess)
    -- Rounding up can lead to the next power of ten, which has one digit more.
    if digitCount rounded > precision then (rounded / 10, exponent + excess + 1)
    else (rounded, exponent + excess)

/-- The whole number nearest to a coefficient at an exponent, a half to the even neighbour. -/
def toWhole (coefficient : Nat) (exponent : Int) : Nat :=
  if exponent < 0 then roundDiv coefficient (Nat.pow 10 (-exponent).toNat)
  else coefficient * Nat.pow 10 exponent.toNat

/-! ## Written forms -/

/-- The coefficient's digits with the point before the last `places` of them. -/
def withPoint (digits : List Char) (places : Nat) : List Char :=
  if places = 0 then digits
  else
    let padded := List.replicate (places + 1 - digits.length) '0' ++ digits
    padded.take (padded.length - places) ++ '.' :: padded.drop (padded.length - places)

def signText (negative : Bool) : List Char :=
  if negative then ['-'] else []

def specialText : Decimal → List Char
  | .infinite negative => signText negative ++ "Infinity".toList
  | .undefined negative signals payload =>
    signText negative ++ (if signals then "sNaN" else "NaN").toList ++
      (if payload = 0 then [] else Nat.toDigits 10 payload)
  | .finite .. => []

/-- The number in plain notation, without an exponent. -/
def plainText : Decimal → String
  | .finite negative coefficient exponent =>
    let digits := Nat.toDigits 10 coefficient
    let body :=
      if exponent ≤ 0 then withPoint digits (-exponent).toNat
      else if coefficient = 0 then ['0']
      else digits ++ List.replicate exponent.toNat '0'
    String.ofList (signText negative ++ body)
  | d => String.ofList d.specialText

/-- The number with an exponent where plain notation would add zeros: plain only for exponents up
to zero whose leading digit stands at most six places after the point. -/
def scientificText : Decimal → String
  | .finite negative coefficient exponent =>
    let digits := Nat.toDigits 10 coefficient
    let leading := exponent + (digits.length : Int) - 1
    let body :=
      if exponent ≤ 0 ∧ leading ≥ -6 then withPoint digits (-exponent).toNat
      else
        withPoint digits (digits.length - 1) ++ 'E' :: (if leading < 0 then '-' else '+') ::
          Nat.toDigits 10 leading.natAbs
    String.ofList (signText negative ++ body)
  | d => String.ofList d.specialText

/-! ## Reading -/

/-- The digits before and after an optional point, at least one in all. -/
def readDigits? (s : List Char) : Option (List Nat × List Nat × List Char) :=
  let isDigit := isDecimalDigit
  let whole := s.takeWhile isDigit
  let rest := s.dropWhile isDigit
  let (fraction, rest) :=
    match rest with
    | '.' :: r => (r.takeWhile isDigit, r.dropWhile isDigit)
    | r => ([], r)
  if whole.isEmpty && fraction.isEmpty then none
  else some (whole.filterMap decimalDigit?, fraction.filterMap decimalDigit?, rest)

/-- Reads a sign, digits and an optional point. Neither an exponent nor a lone point is read. -/
def readPlain? (s : List Char) : Option Decimal :=
  let (negative, body) := Integer.splitSign s
  match readDigits? body with
  | some (whole, fraction, []) =>
    some (.finite negative (Integer.ofDigits 10 (whole ++ fraction)) (-(fraction.length : Int)))
  | _ => none

def readPayload? (negative signals : Bool) (s : List Char) : Option Decimal :=
  if s.isEmpty then some (.undefined negative signals 0)
  else (s.mapM decimalDigit?).map fun ds => .undefined negative signals (Integer.ofDigits 10 ds)

/-- Reads any written form of a decimal, white space at the ends and underscores left out. -/
def read? (text : String) : Option Decimal :=
  let cs := (trimChars text.toList).filter (· ≠ '_')
  let (negative, body) := Integer.splitSign cs
  let word := (body.map Char.toLower)
  if word = "inf".toList ∨ word = "infinity".toList then some (.infinite negative)
  else if word.take 3 = "nan".toList then readPayload? negative false (body.drop 3)
  else if word.take 4 = "snan".toList then readPayload? negative true (body.drop 4)
  else
    match readDigits? body with
    | none => none
    | some (whole, fraction, rest) =>
      let coefficient := Integer.ofDigits 10 (whole ++ fraction)
      let places : Int := fraction.length
      match rest with
      | [] => some (.finite negative coefficient (-places))
      | e :: r =>
        if e = 'e' ∨ e = 'E' then
          (Integer.plainDigits? r).map fun p =>
            .finite negative coefficient (Integer.signed p.1 (Integer.ofDigits 10 p.2) - places)
        else none

/-! ## Order -/

/-- The order of two magnitudes, decided by the places of their leading digits where these
differ. -/
def compareMagnitude (c₁ : Nat) (e₁ : Int) (c₂ : Nat) (e₂ : Int) : Ordering :=
  if c₁ = 0 ∨ c₂ = 0 then compare c₁ c₂
  else
    let top₁ := e₁ + (digitCount c₁ : Int)
    let top₂ := e₂ + (digitCount c₂ : Int)
    if top₁ < top₂ then .lt
    else if top₂ < top₁ then .gt
    else
      let e := min e₁ e₂
      compare (c₁ * Nat.pow 10 (e₁ - e).toNat) (c₂ * Nat.pow 10 (e₂ - e).toNat)

/-- The order of two finite decimals by value; zeros of either sign are equal. Numbers that are
not finite have no place in it. -/
def compare? : Decimal → Decimal → Option Ordering
  | .finite n₁ c₁ e₁, .finite n₂ c₂ e₂ =>
    if c₁ = 0 ∧ c₂ = 0 then some .eq
    else
      let negative₁ := n₁ && c₁ ≠ 0
      let negative₂ := n₂ && c₂ ≠ 0
      match negative₁, negative₂ with
      | false, true => some .gt
      | true, false => some .lt
      | false, false => some (compareMagnitude c₁ e₁ c₂ e₂)
      | true, true => some (compareMagnitude c₂ e₂ c₁ e₁)
  | _, _ => none

example : (Decimal.finite true 0 (-2)).plainText = "-0.00" := by decide +kernel
example : (Decimal.finite false 1 3).plainText = "1000" := by decide +kernel
example : (Decimal.finite false 1 3).scientificText = "1E+3" := by decide +kernel

end Decimal

end ParamRules
