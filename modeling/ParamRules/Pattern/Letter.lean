import ParamRules.Text.Case

/-!
Letters that count as the same when a pattern ignores case. Two characters are the same when their
lower-case forms are equal or stand in one of the groups of `sameLetters`, whose members have a
common upper-case form.
-/

namespace ParamRules.Pattern

open Text

/-- Groups of lower-case forms that are one letter. -/
def sameLetters : List (List Nat) := [
  [0x69, 0x131], [0x73, 0x17F], [0xB5, 0x3BC], [0x345, 0x3B9, 0x1FBE], [0x390, 0x1FD3],
  [0x3B0, 0x1FE3], [0x3B2, 0x3D0], [0x3B5, 0x3F5], [0x3B8, 0x3D1], [0x3BA, 0x3F0],
  [0x3C0, 0x3D6], [0x3C1, 0x3F1], [0x3C2, 0x3C3], [0x3C6, 0x3D5], [0x432, 0x1C80],
  [0x434, 0x1C81], [0x43E, 0x1C82], [0x441, 0x1C83], [0x442, 0x1C84, 0x1C85], [0x44A, 0x1C86],
  [0x463, 0x1C87], [0x1E61, 0x1E9B], [0xA64B, 0x1C88], [0xFB05, 0xFB06]]

/-- Which letters a pattern takes for the same. -/
inductive Folding where
  | none
  /-- Upper-case and lower-case letters of the first 128 characters. -/
  | ascii
  /-- Upper-case and lower-case letters of every script. -/
  | full
deriving Repr, DecidableEq

def lowerCode (n : Nat) : Nat :=
  match lowerRuns.findSome? (·.form? n) with
  | some m => m
  | none =>
    match lowerSequences.lookup n with
    | some (m :: _) => m
    | _ => n

/-- The code point of a character in the form in which letters are compared. -/
def Folding.code (f : Folding) (n : Nat) : Nat :=
  match f with
  | .none => n
  | .ascii => if 0x41 ≤ n ∧ n ≤ 0x5A then n + 0x20 else n
  | .full => if n < 0x80 then (if 0x41 ≤ n ∧ n ≤ 0x5A then n + 0x20 else n) else lowerCode n

/-- The lower-case forms of the letters that are the same as a given lower-case form. -/
def sameAs (n : Nat) : List Nat :=
  (sameLetters.find? (·.contains n)).getD [n]

def meets (r : CaseRun) (low high : Nat) : Bool :=
  let first := Nat.max low r.1
  let steps := (first - r.1 + r.2.2.1 - 1) / r.2.2.1
  let n := r.1 + steps * r.2.2.1
  n ≤ high && n ≤ r.2.1

/-- Whether letter case matters for some character between two code points. -/
def Folding.distinguishes (f : Folding) (low high : Nat) : Bool :=
  match f with
  | .none => false
  | .ascii => (low ≤ 0x5A && 0x41 ≤ high) || (low ≤ 0x7A && 0x61 ≤ high)
  | .full =>
    lowerRuns.any (meets · low high) || upperRuns.any (meets · low high) ||
      (lowerSequences ++ upperSequences).any fun p => low ≤ p.1 && p.1 ≤ high

def formsOf (n : Nat) : List Nat :=
  let upper := lowerRuns.filterMap fun r =>
    let m := Int.toNat (Int.ofNat n - r.2.2.2)
    if r.form? m = some n then some m else none
  let sequences := lowerSequences.filterMap fun p => if p.2.head? = some n then some p.1 else none
  (if lowerCode n = n then [n] else []) ++ upper ++ sequences

def Folding.inRange (f : Folding) (low high folded : Nat) : Bool :=
  match f with
  | .none => low ≤ folded && folded ≤ high
  | .ascii =>
    let upper := if 0x61 ≤ folded ∧ folded ≤ 0x7A then folded - 0x20 else folded
    (low ≤ folded && folded ≤ high) || (low ≤ upper && upper ≤ high)
  | .full => (sameAs folded).any fun n => (formsOf n).any fun m => low ≤ m && m ≤ high

def Folding.isSame (f : Folding) (n folded : Nat) : Bool :=
  match f with
  | .full => (sameAs folded).contains (f.code n)
  | f => f.code n = folded

end ParamRules.Pattern
