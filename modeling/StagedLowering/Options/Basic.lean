import StagedLowering.Options.Group
import StagedLowering.Options.Provenance

/-! Options: values for all groups, the mode of resolution, and where each value comes from. -/
namespace StagedLowering

structure Options where
  groups : OptionGroups := {}
  strict : Bool := false
  provenance : Provenance := .empty

namespace Options

/-- The path of the mode of resolution. -/
def strictPath : String := "strict_mode"

def track (o : Options) (path : String) (s : OptionSource) : Options :=
  { o with provenance := o.provenance.insert path s }

/-- Sets the mode in code. -/
def withStrict (o : Options) (strict : Bool) : Options :=
  { o with strict }.track strictPath .builder

/-- Changes a group in code. All its fields then count as set there, those with a record of their own
apart. -/
def update (o : Options) (k : GroupKey) (f : k.Options → k.Options) : Options :=
  { o with groups := o.groups.set k (f (o.groups.get k)) }.track
    (Provenance.groupPath k.name) .builder

/-- The main values on one line. -/
def describe (o : Options) : String :=
  let bindings := (if o.groups.binding.native then ["native"] else []) ++
    (if o.groups.binding.tflite then ["tflite"] else [])
  "input=" ++ Choice.name o.groups.inputDialect.dialect ++
    " bindings=[" ++ commaList bindings ++
    "] model=" ++ Choice.name o.groups.scheduling.model ++
    " targets=[" ++ commaList o.groups.targetBackend.targets ++
    "] index_bits=" ++ o.groups.bytecodeTarget.indexBits.toNat.repr ++
    (if o.strict then " (strict)" else "")

def flagText (b : Bool) : String := if b then "true" else "false"

/-- All values that matter to a run, a line each. -/
def summary (o : Options) : String :=
  let g := o.groups
  String.intercalate "\n" ([
    "Pipeline options:",
    "  mode: " ++ (if o.strict then "strict" else "permissive"),
    "  input dialect: " ++ Choice.name g.inputDialect.dialect,
    "  bindings: native=" ++ flagText g.binding.native ++ " tflite=" ++ flagText g.binding.tflite,
    "  high-level optimization: const_eval=" ++ flagText g.optimization.constEval ++
      " hoisting=" ++ flagText g.optimization.constExprHoisting ++
      " precision_reduction=" ++ flagText g.optimization.numericPrecisionReduction ++
      " strip_assertions=" ++ flagText g.optimization.stripAssertions,
    "  scheduling: model=" ++ Choice.name g.scheduling.model ++
      " statistics=" ++ Choice.name g.scheduling.statisticsFormat,
    "  targets: [" ++ commaList g.targetBackend.targets ++ "] (legality gate: " ++
      (if g.targetBackend.verifyLegality then "on" else "off") ++ ")",
    "  bytecode: index_bits=" ++ g.bytecodeTarget.indexBits.toNat.repr ++
      " f32=" ++ flagText g.bytecodeTarget.f32Extension ++
      " f64=" ++ flagText g.bytecodeTarget.f64Extension] ++
    match g.scheduling.statisticsFile with
    | some file => ["  statistics file: " ++ file]
    | none => [])

end Options
end StagedLowering
