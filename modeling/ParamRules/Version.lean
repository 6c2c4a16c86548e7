import ParamRules.Number.Integer
import ParamRules.Text.Split

/-!
Dotted version numbers with two to four parts. A part that is absent counts as minus one, so that
`1.2` comes before `1.2.0`.
-/

namespace ParamRules

/-- A version. The parts `build` and `revision` are `-1` where they are absent. -/
structure Version where
  major : Int
  minor : Int
  build : Int
  revision : Int
deriving Repr, DecidableEq

namespace Version

open Text

def partMax : Int := 0x7FFFFFFF

def min : Version := ⟨0, 0, -1, -1⟩

def max : Version := ⟨partMax, partMax, partMax, partMax⟩

def parts (v : Version) : List Int :=
  [v.major, v.minor, v.build, v.revision]

def compare (v w : Version) : Ordering :=
  (Ord.compare v.major w.major).then <| (Ord.compare v.minor w.minor).then <|
    (Ord.compare v.build w.build).then <| Ord.compare v.revision w.revision

/-- The parts that are present, with dots between them. -/
def text (v : Version) : String :=
  join "." ((v.parts.filter (0 ≤ ·)).map Integer.text)

def literal (v : Version) : String :=
  "Version(major=" ++ Integer.text v.major ++ ", minor=" ++ Integer.text v.minor ++ ", build=" ++
    Integer.text v.build ++ ", revision=" ++ Integer.text v.revision ++ ")"

inductive Part where
  | major | minor | build | revision
deriving Repr, DecidableEq

def Part.name : Part → String
  | .major => "major"
  | .minor => "minor"
  | .build => "build"
  | .revision => "revision"

/-- The least value of a part: absence is allowed for the last two. -/
def Part.minimum : Part → Int
  | .major | .minor => 0
  | .build | .revision => -1

inductive Fault where
  | outOfRange (part : Part) (value : Int)
  | revisionWithoutBuild
deriving Repr, DecidableEq

def Part.check (p : Part) (value : Int) : Except Fault Unit :=
  if value < p.minimum ∨ value > partMax then .error (.outOfRange p value) else .ok ()

/-- The version with the given parts, which have to be in range; a revision needs a build. -/
def ofParts (major minor build revision : Int) : Except Fault Version := do
  Part.check .major major
  Part.check .minor minor
  Part.check .build build
  Part.check .revision revision
  if build < 0 ∧ revision ≥ 0 then .error .revisionWithoutBuild
  else .ok ⟨major, minor, build, revision⟩

inductive ReadFault where
  | malformed
  | tooLong (digits : Nat)
  | parts (fault : Fault)
deriving Repr, DecidableEq

/-- The digits of each part of a version text: two to four parts with dots between them. -/
def partDigits? (s : List Char) : Option (List (List Nat)) := do
  let pieces := splitChars '.' s
  let digits ← pieces.mapM Integer.allDigits?
  if 2 ≤ digits.length ∧ digits.length ≤ 4 then some digits else none

def read (s : List Char) : Except ReadFault Version :=
  match partDigits? (trimChars s) with
  | none => .error .malformed
  | some digits =>
    -- The first part that is too long is the fault, whatever follows it.
    match digits.find? fun ds => ds.length > Integer.digitLimit with
    | some ds => .error (.tooLong ds.length)
    | none =>
      let nth := fun i => ((digits[i]?).map fun ds => (Integer.ofDigits 10 ds : Int)).getD (-1)
      (ofParts (nth 0) (nth 1) (nth 2) (nth 3)).mapError .parts

end Version

end ParamRules
