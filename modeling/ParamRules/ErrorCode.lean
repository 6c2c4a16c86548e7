/-!
Codes that name the outcome of an operation to programs, with `success` for the one that is no
failure.
-/

namespace ParamRules

inductive ErrorCode where
  | success
  | syntaxError
  | dataOutsideConstraint
  | invalidCharacterInName
  | emptyConstraint
  | invalidCharacterInParameters
  | unmaskedDelimiter
  | invalidCharacterAfterParameter
  | invalidCharacterAfterParameters
  | constraintIncomplete
  | unknownConstraintName
  | constraintNotDefinedForType
  | parametersInvalid
  | constraintConfigurationInvalid
  | dataTypeNotSupported
  | valueTypeNotSupported
  | conversionFailed
  | validationFailed
  | valueNull
  | lengthMismatch
  | tooLong
  | tooShort
  | valueTooLarge
  | valueTooSmall
  | stepMismatch
  | tooManyDecimalPlaces
  | characterNotInSet
  | notLowercase
  | notUppercase
  | patternMismatch
  | schemeNotAllowed
  | valueEmpty
  | portInvalid
  | hostNameInvalid
  | fileNameInvalid
  | pathInvalid
  | enumValueNotDefined
  | enumFlagNotDefined
  | enumTypeMismatch
deriving Repr, DecidableEq

namespace ErrorCode

def text : ErrorCode → String
  | .success => "success"
  | .syntaxError => "syntax_error"
  | .dataOutsideConstraint => "data_outside_constraint"
  | .invalidCharacterInName => "invalid_character_in_name"
  | .emptyConstraint => "empty_constraint"
  | .invalidCharacterInParameters => "invalid_character_in_parameters"
  | .unmaskedDelimiter => "unmasked_delimiter"
  | .invalidCharacterAfterParameter => "invalid_character_after_parameter"
  | .invalidCharacterAfterParameters => "invalid_character_after_parameters"
  | .constraintIncomplete => "constraint_incomplete"
  | .unknownConstraintName => "unknown_constraint_name"
  | .constraintNotDefinedForType => "constraint_not_defined_for_type"
  | .parametersInvalid => "parameters_invalid"
  | .constraintConfigurationInvalid => "constraint_configuration_invalid"
  | .dataTypeNotSupported => "data_type_not_supported"
  | .valueTypeNotSupported => "value_type_not_supported"
  | .conversionFailed => "conversion_failed"
  | .validationFailed => "validation_failed"
  | .valueNull => "value_null"
  | .lengthMismatch => "length_mismatch"
  | .tooLong => "too_long"
  | .tooShort => "too_short"
  | .valueTooLarge => "value_too_large"
  | .valueTooSmall => "value_too_small"
  | .stepMismatch => "step_mismatch"
  | .tooManyDecimalPlaces => "too_many_decimal_places"
  | .characterNotInSet => "character_not_in_set"
  | .notLowercase => "not_lowercase"
  | .notUppercase => "not_uppercase"
  | .patternMismatch => "pattern_mismatch"
  | .schemeNotAllowed => "scheme_not_allowed"
  | .valueEmpty => "value_empty"
  | .portInvalid => "port_invalid"
  | .hostNameInvalid => "host_name_invalid"
  | .fileNameInvalid => "file_name_invalid"
  | .pathInvalid => "path_invalid"
  | .enumValueNotDefined => "enum_value_not_defined"
  | .enumFlagNotDefined => "enum_flag_not_defined"
  | .enumTypeMismatch => "enum_type_mismatch"

def all : List ErrorCode := [
  .success, .syntaxError, .dataOutsideConstraint, .invalidCharacterInName, .emptyConstraint,
  .invalidCharacterInParameters, .unmaskedDelimiter, .invalidCharacterAfterParameter,
  .invalidCharacterAfterParameters, .constraintIncomplete, .unknownConstraintName,
  .constraintNotDefinedForType, .parametersInvalid, .constraintConfigurationInvalid,
  .dataTypeNotSupported, .valueTypeNotSupported, .conversionFailed, .validationFailed, .valueNull,
  .lengthMismatch, .tooLong, .tooShort, .valueTooLarge, .valueTooSmall, .stepMismatch,
  .tooManyDecimalPlaces, .characterNotInSet, .notLowercase, .notUppercase, .patternMismatch,
  .schemeNotAllowed, .valueEmpty, .portInvalid, .hostNameInvalid, .fileNameInvalid, .pathInvalid,
  .enumValueNotDefined, .enumFlagNotDefined, .enumTypeMismatch]

def ofText? (s : String) : Option ErrorCode :=
  all.find? (·.text = s)

theorem mem_all (c : ErrorCode) : c ∈ all := by
  cases c <;> decide

end ErrorCode

end ParamRules
