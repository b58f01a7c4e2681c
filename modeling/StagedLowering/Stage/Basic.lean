import StagedLowering.Legality

/-! Stages of a pipeline: passes, and sub-pipelines that run on every outermost op of a kind. -/
namespace StagedLowering

/-- A pass, with the options it was planned with. -/
inductive StageKind where
  | xlaCleanup
  | mhloInputConversion
  | tmTensorToLinalgExt
  | tosaInputConversion
  | commonInputConversion
  | nativeBindings
  | tfliteBindings
  | highLevelOptimization (constEval constExprHoisting numericPrecisionReduction : Bool)
  | stripAssertions
  | schedulingLowering (format : StatisticsFormat) (file : Option String)
  | hardwareAbstraction (variant : DeviceVariant) (targets : List String)
  | verifyLegality (rule : LegalityRule)
  | vmLowering (target : BytecodeTarget)
  | dropCompilerHints
  deriving DecidableEq, Repr

inductive Stage where
  | pass (kind : StageKind)
  | nested (anchor : String) (stages : List Stage)
  deriving Repr

instance : Inhabited Stage := ⟨.nested "" []⟩

namespace StageKind

/-- The name under which a pass is looked up. -/
def name : StageKind → String
  | .xlaCleanup => "xla-cleanup"
  | .mhloInputConversion => "mhlo-input-conversion"
  | .tmTensorToLinalgExt => "tm-tensor-to-linalg-ext"
  | .tosaInputConversion => "tosa-input-conversion"
  | .commonInputConversion => "common-input-conversion"
  | .nativeBindings => "native-bindings"
  | .tfliteBindings => "tflite-bindings"
  | .highLevelOptimization _ _ _ => "high-level-optimization"
  | .stripAssertions => "strip-assertions"
  | .schedulingLowering _ _ => "scheduling-lowering"
  | .hardwareAbstraction variant _ => variant.stageName
  | .verifyLegality _ => "verify-transform-legality"
  | .vmLowering _ => "vm-lowering"
  | .dropCompilerHints => "drop-compiler-hints"

def flagOption (name : String) (b : Bool) : String :=
  name ++ "=" ++ (if b then "true" else "false")

/-- The options of a pass as texts; the empty list for none. -/
def options : StageKind → List String
  | .highLevelOptimization constEval hoisting reduction =>
    [flagOption "const-eval" constEval, flagOption "const-expr-hoisting" hoisting,
      flagOption "numeric-precision-reduction" reduction]
  | .schedulingLowering .none _ => []
  | .schedulingLowering format file =>
    ("dump-statistics-format=" ++ Choice.name format) ::
      (file.map fun f => "dump-statistics-file=" ++ f).toList
  | .hardwareAbstraction _ targets => ["targets=" ++ String.intercalate "," targets]
  | .verifyLegality rule => ["op-kind=" ++ rule.opKind, "marker=" ++ rule.marker]
  | .vmLowering o =>
    ["index-bits=" ++ o.indexBits.toNat.repr, flagOption "f32-extension" o.f32Extension,
      flagOption "f64-extension" o.f64Extension,
      flagOption "truncate-unsupported-floats" o.truncateUnsupportedFloats,
      flagOption "optimize-for-stack-size" o.optimizeForStackSize]
  | _ => []

/-- The name, with the options in braces. -/
def text (k : StageKind) : String :=
  match k.options with
  | [] => k.name
  | options => k.name ++ "\x7b" ++ String.intercalate " " options ++ "\x7d"

end StageKind

namespace Stage

mutual
/-- The name of a pass, or the anchor with the labels of its stages. -/
def label : Stage → String
  | .pass kind => kind.name
  | .nested anchor stages => anchor ++ "(" ++ String.intercalate "," (labels stages) ++ ")"

def labels : List Stage → List String
  | [] => []
  | s :: rest => s.label :: labels rest
end

mutual
/-- The label with the options of all passes. -/
def text : Stage → String
  | .pass kind => kind.text
  | .nested anchor stages => anchor ++ "(" ++ String.intercalate "," (texts stages) ++ ")"

def texts : List Stage → List String
  | [] => []
  | s :: rest => s.text :: texts rest
end

mutual
/-- The passes in the order in which they run. -/
def passes : Stage → List StageKind
  | .pass kind => [kind]
  | .nested _ stages => allPasses stages

def allPasses : List Stage → List StageKind
  | [] => []
  | s :: rest => s.passes ++ allPasses rest
end

/-- The names of all passes in the order in which they run. -/
def names (stages : List Stage) : List String := (allPasses stages).map (·.name)

def contains (stages : List Stage) (name : String) : Bool := (names stages).contains name

def position? (stages : List Stage) (name : String) : Option Nat :=
  (names stages).findIdx? (· = name)

/-- The pipeline on one line. -/
def pipelineText (stages : List Stage) : String := String.intercalate "," (texts stages)

end Stage
end StagedLowering
