import StagedLowering.Options.Basic
import StagedLowering.Program.Basic

/-! Resolution of options against what is installed: hooks and converters. -/
namespace StagedLowering

/-- Functions that a caller installs. The const-eval hook gives a replacement for an op, if it knows
one. -/
structure Hooks where
  constEval : Option (Op → Option Op) := none

namespace Hooks

def hasConstEval (h : Hooks) : Bool := h.constEval.isSome

/-- The hook's answer for an op. -/
def evaluate (h : Hooks) (op : Op) : Option Op := h.constEval.bind fun f => f op

/-- What is installed, as a dump shows it. -/
def text (h : Hooks) : String :=
  let value := if h.hasConstEval then "Some(\"<hook>\")" else "None"
  "PipelineHooks \x7b const_eval: " ++ value ++ " \x7d"

end Hooks

/-- The dialects for which a converter is registered. Programs without a dialect need none. -/
structure Converters where
  registered : List InputDialect := []

namespace Converters

def register (c : Converters) (d : InputDialect) : Converters :=
  if d = .none ∨ d ∈ c.registered then c else ⟨c.registered ++ [d]⟩

def ofList (ds : List InputDialect) : Converters := ds.foldl register {}

def builtin : Converters := ofList Choice.all

def isAvailable (c : Converters) (d : InputDialect) : Bool := d = .none || d ∈ c.registered

/-- The registered dialects in the order of their declaration. -/
def available (c : Converters) : List String :=
  ((Choice.all : List InputDialect).filter (· ∈ c.registered)).map Choice.name

end Converters

/-- Options that passed resolution; only these are built into pipelines. -/
structure Resolved where
  options : Options

namespace Options

/-- A feature whose prerequisite is missing is an error in strict mode and dropped otherwise. -/
def constEvalPrerequisite (o : Options) (h : Hooks) : Checked Options :=
  if o.groups.optimization.constEval && !h.hasConstEval then
    if o.strict then
      .error (.missingPrerequisite "high_level_optimization.const_eval" "a const-eval hook"
        "Install one with PipelineHooks::with_const_eval(..) or set const_eval=false")
    else
      .ok { o with groups.optimization.constEval := false }
  else .ok o

/-- A statistics file needs a format. -/
def statisticsPrerequisite (o : Options) : Checked Options :=
  if o.groups.scheduling.statisticsFile.isSome &&
      o.groups.scheduling.statisticsFormat = .none then
    if o.strict then
      .error (.missingPrerequisite "scheduling.dump_statistics_file"
        "a dump_statistics_format other than 'none'"
        "Set scheduling.dump_statistics_format or drop the file")
    else
      .ok { o with groups.scheduling.statisticsFile := none }
  else .ok o

/-- The dialect has a converter. -/
def checkDialect (o : Options) (c : Converters) : Checked Unit :=
  let d := o.groups.inputDialect.dialect
  if c.isAvailable d then .ok ()
  else .error (.unavailableDialect (Choice.name d) c.available)

/-- A model with devices has targets. -/
def checkTargets (o : Options) : Checked Unit :=
  let m := o.groups.scheduling.model
  if m.needsDevice && o.groups.targetBackend.targets.isEmpty then
    .error (.conflict
      ("execution model '" ++ Choice.name m ++
        "' lowers to devices but no target backends are configured")
      ("Add a target with .target_backend(|t| t.targets([\"llvm-cpu\"])) or use execution " ++
        "model 'host-only'"))
  else .ok ()

/-- Checks the groups one by one, then the features against what is installed, then the groups against
each other. -/
def resolve (o : Options) (h : Hooks) (c : Converters) : Checked Resolved := do
  o.groups.validate
  let o ← o.constEvalPrerequisite h
  let o ← o.statisticsPrerequisite
  o.checkDialect c
  o.checkTargets
  return ⟨o⟩

end Options
end StagedLowering
