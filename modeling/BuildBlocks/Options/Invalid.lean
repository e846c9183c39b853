import BuildBlocks.Value.Render

/-!
# Invalid options

An option that cannot be used is reported by where it stands in what the caller wrote, what is wrong
with it and what was given instead.
-/

namespace BuildBlocks

/-- One step on the way to an option: a key or a place in a list. -/
inductive OptionStep where
  | key (s : Text)
  | item (n : Int)
  deriving DecidableEq, Repr

/-- What is wrong with an option. -/
inductive OptionProblem where
  | boolParsing
  | boolType
  | stringType
  | stringBytes
  | mappingType
  | listType
  | groupType
  | patternSyntax
  | patternType
  /-- A pattern of the right form that says what cannot be meant. -/
  | patternMeaning (why : String)
  | pathType
  | blankMarker
  | intParsing
  | intSize
  | unknown
  deriving DecidableEq, Repr

namespace OptionProblem

/-- The short name of a problem. -/
def code : OptionProblem → String
  | .boolParsing => "bool_parsing"
  | .boolType => "bool_type"
  | .stringType => "string_type"
  | .stringBytes => "string_unicode"
  | .mappingType => "dict_type"
  | .listType => "list_type"
  | .groupType => "model_type"
  | .patternSyntax => "pattern_regex"
  | .patternType => "pattern_type"
  | .pathType => "path_type"
  | .patternMeaning _ | .blankMarker => "value_error"
  | .intParsing => "int_parsing"
  | .intSize => "int_parsing_size"
  | .unknown => "extra_forbidden"

/-- The wording of a problem. -/
def wording : OptionProblem → String
  | .boolParsing => "Input should be a valid boolean, unable to interpret input"
  | .boolType => "Input should be a valid boolean"
  | .stringType => "Input should be a valid string"
  | .stringBytes => "Input should be a valid string, unable to parse raw data as a unicode string"
  | .mappingType => "Input should be a valid dictionary"
  | .listType => "Input should be a valid list"
  | .groupType => "Input should be a valid dictionary or instance of TemplateSettings"
  | .patternSyntax => "Input should be a valid regular expression"
  | .patternType => "Input should be a valid pattern"
  | .pathType => "Input is not a valid path for <class 'pathlib.Path'>"
  | .patternMeaning why => s!"Value error, {why}"
  | .blankMarker => "Value error, commentMarker must be a non-empty token"
  | .intParsing => "Input should be a valid integer, unable to parse string as an integer"
  | .intSize => "Unable to parse input string as an integer, exceeded maximum size"
  | .unknown => "Extra inputs are not permitted"

end OptionProblem

/-- An option that cannot be used. -/
structure InvalidOption where
  location : List OptionStep
  problem : OptionProblem
  input : Value
  deriving Repr

end BuildBlocks
