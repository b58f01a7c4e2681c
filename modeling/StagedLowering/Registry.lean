import StagedLowering.Options.Environment
import StagedLowering.PipelineError
import StagedLowering.Stage.Plan
import StagedLowering.Text.Quoted

/-! Pipelines by name. -/
namespace StagedLowering

structure Registration where
  name : String
  description : String
  build : Resolved → Hooks → List Stage

namespace Registration

/-- The registration as a dump shows it. -/
def text (r : Registration) : String :=
  "PipelineRegistration \x7b name: " ++ Text.quoted r.name ++ ", description: " ++
    Text.quoted r.description ++ ", .. \x7d"

/-- Resolves options with the builtin converters, then builds. -/
def buildWith (r : Registration) (o : Options) (h : Hooks) : Except PipelineError (List Stage) :=
  match o.resolve h .builtin with
  | .ok resolved => .ok (r.build resolved h)
  | .error e => .error (.config e)

/-- Takes the options from the environment and installs no hooks. -/
def buildDefault (r : Registration) (vars : List (List UInt8 × List UInt8)) :
    Except PipelineError (List Stage) :=
  match Options.ofEnvironment vars with
  | .ok o => r.buildWith o {}
  | .error e => .error (.config e)

/-- The whole pipeline. -/
def transformation : Registration where
  name := "tensorvm-transformation-pipeline"
  description := "Runs the full input to VM transformation pipeline"
  build := Resolved.plan

/-- The gate alone. -/
def verification : Registration where
  name := "tensorvm-verify-transform-legality"
  description := "Checks that no transform markers remain on the configured op kind"
  build r _ := r.gatePlan

end Registration

abbrev Registry := Dict Registration

namespace Registry

/-- Adds a pipeline or replaces the one of the same name. -/
def register (r : Registry) (p : Registration) : Registry := r.insert p.name p

def builtin : Registry := register (register .empty .transformation) .verification

def find (r : Registry) (name : String) : Checked Registration :=
  match r.get? name with
  | some p => .ok p
  | none => .error (.unknownPipeline name r.keys)

end Registry
end StagedLowering
