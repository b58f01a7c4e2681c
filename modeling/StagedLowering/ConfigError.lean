import StagedLowering.Text.EditDistance

/-! Errors in a configuration, raised before any stage runs. -/
namespace StagedLowering

/-- Why a text is no value of its field. -/
inductive ValueFault where
  | notAmong (accepted : List String)
  | notUnsigned
  | notUtf8
  deriving DecidableEq, Repr

inductive ConfigError where
  | range (field : String) (value low high : Int) (hint : String)
  | invalidValue (field value : String) (fault : ValueFault)
  | unknownField (field group : String) (valid : List String)
  | missingPrerequisite (feature prerequisite hint : String)
  | unavailableDialect (dialect : String) (available : List String)
  | conflict (issue fix : String)
  | unknownPipeline (name : String) (registered : List String)
  | unsupportedVersion (found : UInt32) (supported : List UInt32)
  | file (cause : String)
  | yaml
  | validation (message : String)
  deriving DecidableEq, Repr

/-- Names the candidate closest to what was given. -/
def suggestion (given : String) (candidates : List String) : String :=
  match Text.closest? given candidates with
  | some c => "Did you mean '" ++ c ++ "'?"
  | none => "No valid values available"

/-- Items with a comma and a space between them. -/
def commaList (items : List String) : String := String.intercalate ", " items

def ValueFault.advice (value : String) : ValueFault → String
  | .notAmong accepted => suggestion value accepted
  | .notUnsigned => "Expected an unsigned integer"
  | .notUtf8 => "Environment variables must be valid UTF-8"

def ConfigError.message : ConfigError → String
  | .range field value low high hint =>
    "Invalid range for field '" ++ field ++ "': " ++ value.repr ++ " not in " ++ low.repr ++ "..=" ++
      high.repr ++ ". " ++ hint
  | .invalidValue field value fault =>
    "Invalid value '" ++ value ++ "' for field '" ++ field ++ "'. " ++ fault.advice value
  | .unknownField field group valid =>
    "Unknown field '" ++ field ++ "' in option group '" ++ group ++ "'. " ++ suggestion field valid
  | .missingPrerequisite feature prerequisite hint =>
    "'" ++ feature ++ "' requires " ++ prerequisite ++ ". " ++ hint
  | .unavailableDialect dialect available =>
    "Input dialect '" ++ dialect ++ "' has no registered converter. Available: [" ++
      commaList available ++ "]"
  | .conflict issue fix => "Cross-group configuration conflict: " ++ issue ++ ". Fix: " ++ fix
  | .unknownPipeline name registered =>
    "Unknown pipeline '" ++ name ++ "'. " ++ suggestion name registered
  | .unsupportedVersion found supported =>
    "Unsupported configuration version " ++ found.toNat.repr ++ ". Supported versions: " ++
      commaList (supported.map (·.toNat.repr))
  | .file cause => "IO error: " ++ cause
  | .yaml => "YAML parsing error: not an options document"
  | .validation message => "Validation error: " ++ message

abbrev Checked (α : Type) := Except ConfigError α

end StagedLowering
