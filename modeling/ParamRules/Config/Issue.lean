import ParamRules.Text.Literal
import ParamRules.Text.Split
import ParamRules.Number.Integer

/-!
What is wrong with a configuration, field by field.
-/

namespace ParamRules.Config

/-- The version of configurations that is supported. -/
def schemaVersion : Int := 1

def guidance (version : Int) : String :=
  if version < schemaVersion then
    "schema version " ++ Integer.text version ++ " is older than supported " ++
      Integer.text schemaVersion ++ "; upgrade paramval.toml to the current schema"
  else if version > schemaVersion then
    "schema version " ++ Integer.text version ++ " is newer than supported " ++
      Integer.text schemaVersion ++ "; upgrade the parameter-validation package"
  else "schema version is current"

/-- What is wrong with a field. -/
inductive Problem where
  | unknownField
  | missingField
  | wrongType (expected got : String)
  | keyType (got : String)
  | belowOne
  | otherVersion (version : Int)
  | noImportPath
  | empty
  | holdsNul
  | notOneOf (text : String) (allowed : List String)
deriving Repr, DecidableEq

def Problem.message : Problem → String
  | .unknownField => "unknown field"
  | .missingField => "missing required field"
  | .wrongType expected got => "expected " ++ expected ++ ", got " ++ got
  | .keyType got => "object key must be string, got " ++ got
  | .belowOne => "must be >= 1"
  | .otherVersion version => guidance version
  | .noImportPath => "must be an import path (example: my_package.handlers:resolve)"
  | .empty => "must not be empty"
  | .holdsNul => "must not contain NUL bytes"
  | .notOneOf text allowed =>
    "invalid value " ++ Text.literal text ++ "; expected one of: " ++ Text.join ", " allowed

structure Issue where
  path : String
  problem : Problem
deriving Repr, DecidableEq

end ParamRules.Config
