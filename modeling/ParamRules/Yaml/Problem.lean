import ParamRules.Time.Duration

/-!
What can be wrong with a YAML text. Almost everything is one problem: the text is malformed. Told
apart are the scalars that have the form of their kind and no value of it.
-/

namespace ParamRules.Yaml

/-- A part of a date or of a time of day that is out of its range. -/
inductive DatePart where
  | year (n : Nat)
  | month
  | day
  | hour
  | minute
  | second
deriving Repr, DecidableEq

inductive Problem where
  | malformed
  /-- An escape that is no code point. -/
  | codePoint (n : Nat)
  | notTruthValue (text : String)
  | emptyNumber
  | integer (fault : Integer.ReadFault)
  | notReal (text : String)
  | notTimestamp
  | date (part : DatePart)
  /-- A distance from universal time of a day or more. -/
  | offset (distance : Duration)
deriving Repr, DecidableEq

def DatePart.message : DatePart → String
  | .year n => "year " ++ Integer.natText n ++ " is out of range"
  | .month => "month must be in 1..12"
  | .day => "day is out of range for month"
  | .hour => "hour must be in 0..23"
  | .minute => "minute must be in 0..59"
  | .second => "second must be in 0..59"

end ParamRules.Yaml
