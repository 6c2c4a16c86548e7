import ParamRules.Text.Blank
import ParamRules.Text.Split
import ParamRules.Text.Literal
import ParamRules.Text.WordCharacter
import ParamRules.Text.Digit
import ParamRules.Text.Case
import ParamRules.Number.Decimal
import ParamRules.Number.Double
import ParamRules.Time.Moment
import ParamRules.Base64
import ParamRules.Guid
import ParamRules.Version
import ParamRules.Network.Host
import ParamRules.Network.Uri
import ParamRules.Value
import ParamRules.ErrorCode
import ParamRules.Constraint.Written
import ParamRules.Fault
import ParamRules.Xml.Document
import ParamRules.Pattern.Matcher
import ParamRules.Constraint.Configure
import ParamRules.Constraint.Check
import ParamRules.Constraint.Build
import ParamRules.Constraint.Field
import ParamRules.Validator
import ParamRules.Outcome
import ParamRules.Catalog
import ParamRules.Config.Load
import ParamRules.Config.Runtime
import ParamRules.Log.Setup
import ParamRules.Proofs.Base64
import ParamRules.Proofs.Guid
import ParamRules.Proofs.Conversion.Coerced
import ParamRules.Proofs.Conversion.Lexical
import ParamRules.Proofs.Conversion.Members
import ParamRules.Proofs.Constraint.Checks
import ParamRules.Proofs.Constraint.Equality
import ParamRules.Proofs.Scan.Outline
import ParamRules.Proofs.Scan.Grammar
import ParamRules.Proofs.Scan.Reading
import ParamRules.Proofs.Scan.RoundTrip
import ParamRules.Proofs.Scan.Prefix
import ParamRules.Proofs.Parser.WellFormed
import ParamRules.Proofs.Parser.Canonical
import ParamRules.Proofs.Parser.Envelope
import ParamRules.Proofs.Parser.Offsets
import ParamRules.Proofs.Validator.Envelope
import ParamRules.Proofs.Setting.Normalized
import ParamRules.Constraint.Cell
import ParamRules.Proofs.Constraint.Cell
import ParamRules.Proofs.Constraint.Represents
import ParamRules.Proofs.Parser.ReadBack
import ParamRules.Proofs.Mapping
import ParamRules.Proofs.Config.Field
import ParamRules.Proofs.Config.Check
import ParamRules.Proofs.Config.Complete
import ParamRules.Proofs.Config.Hidden
import ParamRules.Proofs.Redaction.Secrets
import ParamRules.Proofs.Redaction.Names
import ParamRules.Proofs.Setting.Listed
import ParamRules.Proofs.Conversion.Order
import ParamRules.Proofs.Validator.Range
import ParamRules.Proofs.Enumeration.Joined
import ParamRules.Proofs.Constraint.Enumerated
import ParamRules.Proofs.Constraint.Extremes
import ParamRules.Proofs.Setting.Verbatim
import ParamRules.Proofs.Number.Numeral
import ParamRules.Proofs.Number.Rounding
import ParamRules.Proofs.Time.Written
import ParamRules.Proofs.Conversion.Durations
import ParamRules.Proofs.Network.Host
import ParamRules.Proofs.Network.Endpoint
import ParamRules.Proofs.Constraint.Pairs
import ParamRules.Proofs.Parser.Append
import ParamRules.Proofs.Validator.Leading
import ParamRules.Proofs.Factory.History
import ParamRules.Proofs.Constraint.Declared
import ParamRules.Log.Contextual
import ParamRules.Constraint.Use
import ParamRules.Proofs.Constraint.Invisible
import ParamRules.Proofs.Registry
import ParamRules.Proofs.Validator.Reported
import ParamRules.Proofs.Log.Nested
import ParamRules.Proofs.Log.Library
import ParamRules.Proofs.Catalog
import ParamRules.Proofs.Registry.Spelling
import ParamRules.Proofs.Mapping.Merge
import ParamRules.Proofs.Redaction.Masked
import ParamRules.Proofs.Redaction.Reassigned
import ParamRules.Proofs.Constraint.Flags
import ParamRules.Proofs.Constraint.Counts
import ParamRules.Proofs.Scan.Simulation
