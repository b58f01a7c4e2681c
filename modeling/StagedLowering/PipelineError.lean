import StagedLowering.ConfigError
import StagedLowering.Diagnostic
import StagedLowering.Json.Fault

/-! Why a run ends: its configuration, a stage or the gate. -/
namespace StagedLowering

inductive PipelineError where
  | config (cause : ConfigError)
  | stage (name : String) (diagnostics : List Diagnostic)
  | legality (name : String) (violation : Diagnostic)
  deriving DecidableEq, Repr

namespace PipelineError

/-- A failure of a stage with one message. -/
def failure (stage message : String) : PipelineError := .stage stage [.error message]

/-- The first message, and how many follow. -/
def summarize : List Diagnostic → String
  | [] => "no diagnostics"
  | [d] => d.text
  | d :: rest => d.text ++ " (+" ++ rest.length.repr ++ " more)"

def message : PipelineError → String
  | .config cause => "Invalid configuration: " ++ cause.message
  | .stage name ds => "Stage '" ++ name ++ "' failed: " ++ summarize ds
  | .legality name d => "Stage '" ++ name ++ "' failed: " ++ d.text

def diagnostics : PipelineError → List Diagnostic
  | .config cause => [.error cause.message]
  | .stage _ ds => ds
  | .legality _ d => [d]

/-- Moves the paths of all messages below `anchor`. -/
def rebased (anchor : OpPath) : PipelineError → PipelineError
  | .config cause => .config cause
  | .stage name ds => .stage name (ds.map (·.rebased anchor))
  | .legality name d => .legality name (d.rebased anchor)

def stageName? : PipelineError → Option String
  | .config _ => none
  | .stage name _ => some name
  | .legality name _ => some name

def isConfig : PipelineError → Bool
  | .config _ => true
  | _ => false

def category : PipelineError → String
  | .config _ => "config"
  | .stage _ _ => "stage"
  | .legality _ _ => "legality"

end PipelineError

/-- Why the compiler as a whole gives up. -/
inductive CompilerError where
  | file (cause : String)
  | program (cause : Json.ReadError)
  | config (cause : ConfigError)
  | pipeline (cause : PipelineError)

namespace CompilerError

def message : CompilerError → String
  | .file cause => "IO error: " ++ cause
  | .program cause => "Invalid program tree: " ++ cause.message
  | .config cause => "Configuration error: " ++ cause.message
  | .pipeline cause => cause.message

/-- Whether it happened before any stage ran. -/
def isConfig : CompilerError → Bool
  | .config _ => true
  | .pipeline cause => cause.isConfig
  | _ => false

/-- The exit status of the process. -/
def exitCode (e : CompilerError) : Nat := if e.isConfig then 2 else 1

end CompilerError
end StagedLowering
