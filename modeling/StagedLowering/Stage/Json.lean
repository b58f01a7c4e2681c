import StagedLowering.Stage.Basic

/-! The JSON form of stages. A pass is an object whose field `stage` names it and whose other fields are
its options. A stage is an object with one field, `Pass` or `Nested`. -/
namespace StagedLowering

namespace StageKind

/-- The name of a pass in JSON. -/
def tag : StageKind → String
  | .hardwareAbstraction _ _ => "hardware-abstraction"
  | k => k.name

def optionFields : StageKind → List (String × Json)
  | .highLevelOptimization constEval hoisting reduction =>
    [("const_eval", .bool constEval), ("const_expr_hoisting", .bool hoisting),
      ("numeric_precision_reduction", .bool reduction)]
  | .schedulingLowering format file =>
    [("dump_statistics_format", .str (Choice.name format)),
      ("dump_statistics_file", .ofOption .str file)]
  | .hardwareAbstraction variant targets =>
    [("variant", .str (Choice.name variant)), ("targets", .strs targets)]
  | .verifyLegality rule => [("op_kind", .str rule.opKind), ("marker", .str rule.marker)]
  | .vmLowering o =>
    BytecodeTarget.group.fields.filterMap fun f =>
      (f.kind.toJson (f.get o)).map fun v => (f.name, v)
  | _ => []

def toJson (k : StageKind) : Json := .obj (("stage", .str k.tag) :: k.optionFields)

/-- The passes without options. -/
def plain : List StageKind :=
  [.xlaCleanup, .mhloInputConversion, .tmTensorToLinalgExt, .tosaInputConversion,
    .commonInputConversion, .nativeBindings, .tfliteBindings, .stripAssertions,
    .dropCompilerHints]

def tags : List String :=
  plain.map tag ++ ["high-level-optimization", "scheduling-lowering", "hardware-abstraction",
    "verify-transform-legality", "vm-lowering"]

open Json

/-- A tag that names a pass. -/
def readTag : Reader String := fun s => do
  let t ← readString s
  if t ∈ tags then return t else .error .shape

/-- Takes the tag out of the fields of an object; the other values are kept as they are. -/
def splitTag (levels : Nat) (tag : Option String) :
    Fields → Result (Option String × List (String × Json))
  | .done => .ok (tag, [])
  | .stop f => faulty f
  | .stray _ => faulty .malformed
  | .cons name v rest => do
    let name ← readName name
    if name = "stage" then
      if tag.isSome then .error .shape
      else splitTag levels (some (← readTag v)) rest
    else do
      let v ← v.value levels
      let (tag, others) ← splitTag levels tag rest
      return (tag, (name, v) :: others)

/-- The tag, and the options in the form in which they came. An array has the tag in front. -/
def readTagged : Nat → Reader (String × Json)
  | 0, s => s.tooDeep
  | n + 1, .obj fields => do
    let (tag, others) ← splitTag n none fields
    return (← required tag, .obj others)
  | n + 1, .arr (.cons v rest) => do
    let tag ← readTag v
    return (tag, .arr (← rest.values n))
  | _ + 1, .arr (.stop f) => faulty f
  | _ + 1, s => s.refuse

/-- The three switches of the optimization pass. -/
def readOptimization : Nat → Reader StageKind := fun _ s => do
  let d ← readRecord ["const_eval", "const_expr_hoisting", "numeric_precision_reduction"]
    (fun name v d => do
      let b ← readBool v
      match name with
      | "const_eval" => return (some b, d.2)
      | "const_expr_hoisting" => return (d.1, some b, d.2.2)
      | _ => return (d.1, d.2.1, some b))
    ((none, none, none) : Option Bool × Option Bool × Option Bool) s
  return .highLevelOptimization (← required d.1) (← required d.2.1) (← required d.2.2)

/-- Format and file of the statistics; only an object may leave the file out. -/
def readScheduling : Nat → Reader StageKind := fun _ s => do
  let d ← readRecord ["dump_statistics_format", "dump_statistics_file"]
    (fun name v d =>
      match name with
      | "dump_statistics_format" => do return (some (← Choice.read true v), d.2)
      | _ => do return (d.1, some (← readOption readString v)))
    ((none, none) : Option StatisticsFormat × Option (Option String)) s
  let file ← match s with
    | .arr _ => required d.2
    | _ => .ok (d.2.getD none)
  return .schedulingLowering (← required d.1) file

def readHardware : Nat → Reader StageKind := fun levels s => do
  let d ← readRecord ["variant", "targets"]
    (fun name v d =>
      match name with
      | "variant" => do return (some (← Choice.read true v), d.2)
      | _ => do return (d.1, some (← readList (fun _ => readString) levels v)))
    ((none, none) : Option DeviceVariant × Option (List String)) s
  return .hardwareAbstraction (← required d.1) (← required d.2)

def readGate : Nat → Reader StageKind := fun _ s => do
  let d ← readRecord ["op_kind", "marker"]
    (fun name v d => do
      let t ← readString v
      match name with
      | "op_kind" => return (some t, d.2)
      | _ => return (d.1, some t))
    ((none, none) : Option String × Option String) s
  return .verifyLegality ⟨← required d.1, ← required d.2⟩

/-- The pass with this tag and these options. Passes without options ignore fields and refuse
elements. -/
def ofTagged (tag : String) (options : Json) : Result StageKind :=
  match tag with
  | "high-level-optimization" => readValue readOptimization options
  | "scheduling-lowering" => readValue readScheduling options
  | "hardware-abstraction" => readValue readHardware options
  | "verify-transform-legality" => readValue readGate options
  | "vm-lowering" =>
    .vmLowering <$> readValue (fun levels => BytecodeTarget.group.read true levels) options
  | tag =>
    match options with
    | .arr (_ :: _) => .error .shape
    | _ => required (plain.find? (·.tag = tag))

def read (levels : Nat) : Reader StageKind := fun s => do
  let (tag, options) ← readTagged levels s
  ofTagged tag options

end StageKind

namespace Stage

mutual
def toJson : Stage → Json
  | .pass kind => .obj [("Pass", kind.toJson)]
  | .nested anchor stages =>
    .obj [("Nested", .obj [("anchor", .str anchor), ("stages", .arr (toJsonList stages))])]

def toJsonList : List Stage → List Json
  | [] => []
  | s :: rest => s.toJson :: toJsonList rest
end

open Json

/-- Why a value that is no object is no stage. -/
def refuseStage {α : Type} : Reader α
  | .str _ => .error .shape
  | .bad f => faulty f.opening
  | _ => faulty .malformed

mutual
/-- Reads a stage. In a text the details of a sub-pipeline may also be an array. -/
def read (inText : Bool) : Nat → Reader Stage
  | 0, s => refuseStage s
  | n + 1, s =>
    match s with
    | .obj (.cons name v rest) => do
      let stage ← match (← readName name) with
        | "Pass" => Stage.pass <$> StageKind.read n v
        | "Nested" => readNested inText n v
        | _ => .error .shape
      rest.close
      return stage
    | .obj (.stop f) => faulty f
    | .obj (.stray v) => v.refuse
    | s => refuseStage s

def readNested (inText : Bool) : Nat → Reader Stage
  | 0, s => s.tooDeep
  | n + 1, s => do
    if let .arr _ := s then
      if !inText then .error .shape
    let d ← readRecord ["anchor", "stages"]
      (fun name v d =>
        match name with
        | "anchor" => do return (some (← readString v), d.2)
        | _ => do return (d.1, some (← readStages inText n v)))
      ((none, none) : Option String × Option (List Stage)) s
    return .nested (← required d.1) (← required d.2)

def readStages (inText : Bool) : Nat → Reader (List Stage)
  | 0, .obj _ => .error .shape
  | 0, s => s.tooDeep
  | n + 1, s => readItems (read inText n) s
end

/-- Reads a stage list from JSON text. -/
def listOfText (text : String) : Result (List Stage) := readText (readStages true) text

/-- Reads a stage list from a JSON value. -/
def listOfJson (v : Json) : Result (List Stage) := readValue (readStages false) v

end Stage
end StagedLowering
