import StagedLowering.Options.Field

/-! The six option groups. Each is a record with defaults, a table of its fields and a check of its
own values. -/
namespace StagedLowering

/-- Which entry points are generated. -/
structure Bindings where
  native : Bool := true
  tflite : Bool := false
  deriving DecidableEq, Repr

structure InputOptions where
  dialect : InputDialect := .none
  deriving DecidableEq, Repr

/-- Optimizations before scheduling. -/
structure Optimization where
  constExprHoisting : Bool := false
  numericPrecisionReduction : Bool := false
  constEval : Bool := false
  stripAssertions : Bool := false
  deriving DecidableEq, Repr

structure Scheduling where
  model : ExecutionModel := .asyncInternal
  statisticsFormat : StatisticsFormat := .none
  statisticsFile : Option String := none
  deriving DecidableEq, Repr

/-- Device targets, and the gate in front of the virtual machine. -/
structure TargetBackend where
  targets : List String := ["llvm-cpu"]
  verifyLegality : Bool := true
  legalityKind : String := "linalg.generic"
  legalityMarker : String := "__internal_linalg_transform__"
  deriving DecidableEq, Repr

/-- The virtual machine that bytecode is made for. -/
structure BytecodeTarget where
  indexBits : UInt32 := 32
  f32Extension : Bool := true
  f64Extension : Bool := false
  truncateUnsupportedFloats : Bool := true
  optimizeForStackSize : Bool := true
  deriving DecidableEq, Repr

/-- A group: its key in files and variables, its title, its fields in order, the defaults and the check
of its values. -/
structure Group (γ : Type) where
  key : String
  title : String
  fields : List (Field γ)
  initial : γ
  validate : γ → Checked Unit

namespace Group

variable {γ : Type}

def fieldNames (g : Group γ) : List String := g.fields.map (·.name)

def field? (g : Group γ) (name : String) : Option (Field γ) := g.fields.find? (·.name = name)

def toJson (g : Group γ) (o : γ) : Json :=
  .obj (g.fields.filterMap fun f => (f.kind.toJson (f.get o)).map fun v => (f.name, v))

open Json in
/-- Reads the group over its defaults. -/
def read (g : Group γ) (lax : Bool) : Nat → Reader γ
  | 0, s => s.tooDeep
  | levels + 1, s =>
    readRecord g.fieldNames
      (fun name v o =>
        match g.field? name with
        | some f => do return f.set o (← f.kind.read lax levels v)
        | none => .ok o)
      g.initial s

/-- Checks the options of a group that may be missing. -/
def validateSome (g : Group γ) : Option γ → Checked Unit
  | none => .ok ()
  | some o => g.validate o

end Group

def Bindings.group : Group Bindings where
  key := "binding"
  title := "BindingOptions"
  fields := [
    ⟨"native", .flag, (·.native), fun o v => { o with native := v }⟩,
    ⟨"tflite", .flag, (·.tflite), fun o v => { o with tflite := v }⟩]
  initial := {}
  validate _ := .ok ()

def InputOptions.group : Group InputOptions where
  key := "input_dialect"
  title := "InputDialectOptions"
  fields := [⟨"dialect", .dialect, (·.dialect), fun o v => { o with dialect := v }⟩]
  initial := {}
  validate _ := .ok ()

def Optimization.group : Group Optimization where
  key := "high_level_optimization"
  title := "HighLevelOptimizationOptions"
  fields := [
    ⟨"const_expr_hoisting", .flag, (·.constExprHoisting),
      fun o v => { o with constExprHoisting := v }⟩,
    ⟨"numeric_precision_reduction", .flag, (·.numericPrecisionReduction),
      fun o v => { o with numericPrecisionReduction := v }⟩,
    ⟨"const_eval", .flag, (·.constEval), fun o v => { o with constEval := v }⟩,
    ⟨"strip_assertions", .flag, (·.stripAssertions), fun o v => { o with stripAssertions := v }⟩]
  initial := {}
  validate _ := .ok ()

/-- A statistics file has a name. -/
def Scheduling.validate (o : Scheduling) : Checked Unit :=
  if o.statisticsFile = some "" then
    .error (.validation "scheduling.dump_statistics_file must not be empty")
  else .ok ()

def Scheduling.group : Group Scheduling where
  key := "scheduling"
  title := "SchedulingOptions"
  fields := [
    ⟨"execution_model", .model, (·.model), fun o v => { o with model := v }⟩,
    ⟨"dump_statistics_format", .format, (·.statisticsFormat),
      fun o v => { o with statisticsFormat := v }⟩,
    ⟨"dump_statistics_file", .optionalText, (·.statisticsFile),
      fun o v => { o with statisticsFile := v }⟩]
  initial := {}
  validate := Scheduling.validate

/-- Every target has a visible name and none comes twice; `before` are the targets in front of the
list. -/
def TargetBackend.validateTargets (before : List String) : List String → Checked Unit
  | [] => .ok ()
  | t :: rest =>
    if Text.isVoid t then
      .error (.validation ("target_backend.targets[" ++ before.length.repr ++ "] is empty"))
    else if t ∈ before then
      .error (.validation ("target_backend.targets lists '" ++ t ++ "' more than once"))
    else validateTargets (before ++ [t]) rest

def TargetBackend.validate (o : TargetBackend) : Checked Unit := do
  validateTargets [] o.targets
  if Text.isVoid o.legalityKind then
    .error (.validation "target_backend.legality_op_kind must not be empty")
  if Text.isVoid o.legalityMarker then
    .error (.validation "target_backend.legality_marker must not be empty")

def TargetBackend.group : Group TargetBackend where
  key := "target_backend"
  title := "TargetBackendOptions"
  fields := [
    ⟨"targets", .texts, (·.targets), fun o v => { o with targets := v }⟩,
    ⟨"verify_transform_legality", .flag, (·.verifyLegality),
      fun o v => { o with verifyLegality := v }⟩,
    ⟨"legality_op_kind", .text, (·.legalityKind), fun o v => { o with legalityKind := v }⟩,
    ⟨"legality_marker", .text, (·.legalityMarker), fun o v => { o with legalityMarker := v }⟩]
  initial := {}
  validate := TargetBackend.validate

def BytecodeTarget.validate (o : BytecodeTarget) : Checked Unit :=
  if o.indexBits = 32 ∨ o.indexBits = 64 then .ok ()
  else
    .error (.range "bytecode_target.index_bits" o.indexBits.toNat 32 64
      "Only 32 and 64 bit indices are supported")

def BytecodeTarget.group : Group BytecodeTarget where
  key := "bytecode_target"
  title := "BytecodeTargetOptions"
  fields := [
    ⟨"index_bits", .word, (·.indexBits), fun o v => { o with indexBits := v }⟩,
    ⟨"f32_extension", .flag, (·.f32Extension), fun o v => { o with f32Extension := v }⟩,
    ⟨"f64_extension", .flag, (·.f64Extension), fun o v => { o with f64Extension := v }⟩,
    ⟨"truncate_unsupported_floats", .flag, (·.truncateUnsupportedFloats),
      fun o v => { o with truncateUnsupportedFloats := v }⟩,
    ⟨"optimize_for_stack_size", .flag, (·.optimizeForStackSize),
      fun o v => { o with optimizeForStackSize := v }⟩]
  initial := {}
  validate := BytecodeTarget.validate

/-- The six groups by name, in the order in which they are checked and written. -/
inductive GroupKey where
  | binding
  | inputDialect
  | optimization
  | scheduling
  | targetBackend
  | bytecodeTarget
  deriving DecidableEq, Repr

namespace GroupKey

def all : List GroupKey :=
  [.binding, .inputDialect, .optimization, .scheduling, .targetBackend, .bytecodeTarget]

@[reducible] def Options : GroupKey → Type
  | .binding => Bindings
  | .inputDialect => InputOptions
  | .optimization => Optimization
  | .scheduling => Scheduling
  | .targetBackend => TargetBackend
  | .bytecodeTarget => BytecodeTarget

def group : (k : GroupKey) → Group k.Options
  | .binding => Bindings.group
  | .inputDialect => InputOptions.group
  | .optimization => Optimization.group
  | .scheduling => Scheduling.group
  | .targetBackend => TargetBackend.group
  | .bytecodeTarget => BytecodeTarget.group

def name (k : GroupKey) : String := k.group.key

def ofName? (s : String) : Option GroupKey := all.find? (·.name = s)

end GroupKey

/-- Values for all groups. -/
structure OptionGroups where
  binding : Bindings := {}
  inputDialect : InputOptions := {}
  optimization : Optimization := {}
  scheduling : Scheduling := {}
  targetBackend : TargetBackend := {}
  bytecodeTarget : BytecodeTarget := {}
  deriving DecidableEq, Repr

namespace OptionGroups

def get (o : OptionGroups) : (k : GroupKey) → k.Options
  | .binding => o.binding
  | .inputDialect => o.inputDialect
  | .optimization => o.optimization
  | .scheduling => o.scheduling
  | .targetBackend => o.targetBackend
  | .bytecodeTarget => o.bytecodeTarget

def set (o : OptionGroups) : (k : GroupKey) → k.Options → OptionGroups
  | .binding, v => { o with binding := v }
  | .inputDialect, v => { o with inputDialect := v }
  | .optimization, v => { o with optimization := v }
  | .scheduling, v => { o with scheduling := v }
  | .targetBackend, v => { o with targetBackend := v }
  | .bytecodeTarget, v => { o with bytecodeTarget := v }

/-- Checks each group on its own, in order. -/
def validate (o : OptionGroups) : Checked Unit :=
  GroupKey.all.forM fun k => k.group.validate (o.get k)

def toJson (o : OptionGroups) : Json :=
  .obj (GroupKey.all.map fun k => (k.name, k.group.toJson (o.get k)))

end OptionGroups
end StagedLowering
