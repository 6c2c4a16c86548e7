import ParamRules.Fault

/-!
Regions of the text of constraints, and the step from one region to the next. A text is read from
left to right, one character at a time; a constraint is complete at its closing bracket.
-/

namespace ParamRules.Constraint

/-- Where in a text the next character stands. Texts that are still being read are kept last
character first, and parameters last one first. -/
inductive Region where
  | outside
  | inName (read : List Char)
  | inParameters (name : List Char) (parameters : List (List Char))
  | inPlain (name : List Char) (parameters : List (List Char)) (read : List Char)
  | inQuotes (name : List Char) (parameters : List (List Char)) (read : List Char)
  /-- After a quote in a parameter in quotes: the second one of a pair, or the end. -/
  | afterQuote (name : List Char) (parameters : List (List Char)) (read : List Char)
  | afterParameter (name : List Char) (parameters : List (List Char))
  | afterParameters (name : List Char) (parameters : List (List Char))
deriving Repr, DecidableEq

/-- What a character leads to: another region, or a complete constraint with its name and
parameters. -/
inductive Step where
  | move (region : Region)
  | complete (name : String) (parameters : List String)
deriving Repr, DecidableEq

def readText (read : List Char) : String :=
  String.ofList read.reverse

def completed (name : List Char) (parameters : List (List Char)) : Step :=
  .complete (readText name) (parameters.reverse.map readText)

namespace Region

def stepAfter (name : List Char) (parameters : List (List Char)) (c : Char) :
    Except SyntaxProblem Step :=
  if c = ' ' then .ok (.move (.afterParameter name parameters))
  else if c = ',' then .ok (.move (.inParameters name parameters))
  else if c = ')' then .ok (.move (.afterParameters name parameters))
  else .error (.characterAfterParameter c)

def step : Region → Char → Except SyntaxProblem Step
  | .outside, c =>
    if c = ' ' then .ok (.move .outside)
    else if c = '[' then .ok (.move (.inName []))
    else .error (.dataOutside c)
  | .inName read, c =>
    if c = ' ' || c = '\'' || c = '[' || c = ')' then .error (.characterInName c)
    else if c = ']' then
      if read.isEmpty then .error .emptyName else .ok (completed read [])
    else if c = '(' then
      if read.isEmpty then .error .emptyName else .ok (.move (.inParameters read []))
    else .ok (.move (.inName (c :: read)))
  | .inParameters name parameters, c =>
    if c = ' ' then .ok (.move (.inParameters name parameters))
    else if c = ',' || c = '[' || c = ']' || c = '(' then .error (.characterInParameters c)
    else if c = ')' then .ok (.move (.afterParameters name parameters))
    else if c = '\'' then .ok (.move (.inQuotes name parameters []))
    else .ok (.move (.inPlain name parameters [c]))
  | .inPlain name parameters read, c =>
    if c = ' ' || c = ',' || c = ')' then stepAfter name (read :: parameters) c
    else if c = '[' || c = ']' || c = '(' || c = '\'' then .error (.unmaskedDelimiter c)
    else .ok (.move (.inPlain name parameters (c :: read)))
  | .inQuotes name parameters read, c =>
    if c = '\'' then .ok (.move (.afterQuote name parameters read))
    else .ok (.move (.inQuotes name parameters (c :: read)))
  | .afterQuote name parameters read, c =>
    if c = '\'' then .ok (.move (.inQuotes name parameters (c :: read)))
    else stepAfter name (read :: parameters) c
  | .afterParameter name parameters, c => stepAfter name parameters c
  | .afterParameters name parameters, c =>
    if c = ']' then .ok (completed name parameters) else .error (.characterAfterParameters c)

end Region

end ParamRules.Constraint
