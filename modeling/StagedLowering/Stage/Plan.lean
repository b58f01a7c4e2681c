import StagedLowering.Options.Resolve
import StagedLowering.Stage.Basic

/-! The stages that resolved options ask for. -/
namespace StagedLowering.Resolved

/-- The kind of ops that functions are. -/
def functionKind : String := "func.func"

/-- How programs of a dialect are taken in. -/
def conversion : InputDialect → List Stage
  | .none => []
  | .mhlo => [.pass .mhloInputConversion]
  | .xla => [.pass .xlaCleanup, .pass .mhloInputConversion]
  | .tmTensor => [.nested functionKind [.pass .tmTensorToLinalgExt]]
  | .tosa => [.pass .tosaInputConversion]

def gate (o : TargetBackend) : Stage := .pass (.verifyLegality o.rule)

/-- A stage that only some options ask for. -/
def optional (b : Bool) (k : StageKind) : List Stage := if b then [.pass k] else []

/-- Scheduling, the device layer and the gate. -/
def deviceStages (g : OptionGroups) : List Stage :=
  match g.scheduling.model.device? with
  | none => []
  | some variant =>
    [.pass (.schedulingLowering g.scheduling.statisticsFormat g.scheduling.statisticsFile),
      .pass (.hardwareAbstraction variant g.targetBackend.targets)] ++
    (if g.targetBackend.verifyLegality then [gate g.targetBackend] else [])

/-- The whole way down: input, bindings, optimization, devices, virtual machine. Const-eval is planned
only with a hook. -/
def plan (r : Resolved) (h : Hooks) : List Stage :=
  let g := r.options.groups
  conversion g.inputDialect.dialect ++
    [.pass .commonInputConversion] ++
    optional g.binding.native .nativeBindings ++
    optional g.binding.tflite .tfliteBindings ++
    [.pass (.highLevelOptimization (g.optimization.constEval && h.hasConstEval)
      g.optimization.constExprHoisting g.optimization.numericPrecisionReduction)] ++
    optional g.optimization.stripAssertions .stripAssertions ++
    deviceStages g ++
    [.pass (.vmLowering g.bytecodeTarget), .pass .dropCompilerHints]

/-- The gate alone. -/
def gatePlan (r : Resolved) : List Stage := [gate r.options.groups.targetBackend]

end StagedLowering.Resolved
