import StagedLowering.Options.Basic
import StagedLowering.Yaml.Reader
import StagedLowering.Yaml.Writer

/-! Options in YAML files. A file gives a version, perhaps the mode, and perhaps some of the groups. -/
namespace StagedLowering

namespace Yaml.Value

/-- A scalar that may stand for something else than its text: a plain one, or a block of lines with the
tag of what it stands for. -/
def untyped? (tag : String) : Value → Option String
  | .scalar _ .plain s => some s
  | .scalar (some t) .literal s => if t = "tag:yaml.org,2002:" ++ tag then some s else none
  | _ => none

def flag? (v : Value) : Option Bool := (v.untyped? "bool").bind bool?

def word? (v : Value) : Option UInt32 := do
  let n ← unsigned? (← v.untyped? "int")
  if n < UInt32.size then return UInt32.ofNat n else none

/-- A text is what is written, whatever it might stand for. -/
def text? : Value → Option String
  | .scalar _ _ s => some s
  | _ => none

/-- Whether a value stands for nothing; none if it is tagged so and is something. -/
def absent? : Value → Option Bool
  | .scalar none .plain s => some (s = "" || isNull s)
  | .scalar (some t) .plain s =>
    if t = "tag:yaml.org,2002:null" then (if isNull s then some true else none) else some false
  | .cyclic => none
  | _ => some false

/-- A value that may be missing. -/
def option? {α : Type} (read : Value → Option α) (v : Value) : Option (Option α) := do
  if ← v.absent? then return none else return some (← read v)

/-- An empty value is an empty list. -/
def list? {α : Type} (read : Value → Option α) : Value → Option (List α)
  | .seq items => items.mapM read
  | .scalar _ .plain "" => some []
  | _ => none

/-- An empty value is an empty mapping. -/
def pairs? : Value → Option (List (Value × Value))
  | .map pairs => some pairs
  | .scalar _ .plain "" => some []
  | _ => none

/-- One of a few names: the text of a scalar, or a tag in front of nothing. -/
def choice? {α : Type} [Choice α] : Value → Option α
  | .scalar none _ s => Choice.ofName? s
  | .scalar (some t) .plain s =>
    if s = "" || isNull s then
      Choice.ofName? (match t.toList with
        | '!' :: cs => String.ofList cs
        | _ => t)
    else none
  | _ => none

/-- Reads the pairs of a record into a value under construction. `set` gives none for a name it does not
know; such a pair is passed over if `others` is set. Names it knows come once. -/
def record? {ρ : Type} (others : Bool) (set : String → Option (Value → ρ → Option ρ)) :
    (seen : List String) → List (Value × Value) → ρ → Option ρ
  | _, [], r => some r
  | seen, (k, v) :: rest, r => do
    let name ← k.text?
    match set name with
    | some put =>
      if name ∈ seen then none else record? others set (name :: seen) rest (← put v r)
    | none => if others then record? others set seen rest r else none

end Yaml.Value

open Yaml (Value)

/-- The value of a field. -/
def FieldKind.ofYaml? : (k : FieldKind) → Yaml.Value → Option k.Value
  | .flag => Yaml.Value.flag?
  | .word => Yaml.Value.word?
  | .text => Yaml.Value.text?
  | .optionalText => Yaml.Value.option? Yaml.Value.text?
  | .texts => Yaml.Value.list? Yaml.Value.text?
  | .dialect => Yaml.Value.choice?
  | .model => Yaml.Value.choice?
  | .format => Yaml.Value.choice?

/-- How a field is written; a missing optional text is left out. -/
def FieldKind.toYaml : (k : FieldKind) → k.Value → Option Yaml.Doc
  | .flag, b => some (.word (if b then "true" else "false"))
  | .word, n => some (.word n.toNat.repr)
  | .text, s => some (.text s)
  | .optionalText, s => s.map .text
  | .texts, ss => some (.texts ss)
  | .dialect, d => some (.text (Choice.name d))
  | .model, m => some (.text (Choice.name m))
  | .format, f => some (.text (Choice.name f))

namespace Group

variable {γ : Type}

/-- Reads a group over its defaults; names of no field are passed over. -/
def ofYaml? (g : Group γ) (v : Value) : Option γ := do
  Value.record? true
    (fun name => (g.field? name).map fun f v o => (f.kind.ofYaml? v).map (f.set o))
    [] (← v.pairs?) g.initial

def toYaml (g : Group γ) (o : γ) : List (String × Yaml.Doc) :=
  g.fields.filterMap fun f => (f.kind.toYaml (f.get o)).map fun d => (f.name, d)

end Group

/-- The groups that a file gives. -/
structure GivenGroups where
  binding : Option Bindings := none
  inputDialect : Option InputOptions := none
  optimization : Option Optimization := none
  scheduling : Option Scheduling := none
  targetBackend : Option TargetBackend := none
  bytecodeTarget : Option BytecodeTarget := none
  deriving DecidableEq, Repr

namespace GivenGroups

def get (g : GivenGroups) : (k : GroupKey) → Option k.Options
  | .binding => g.binding
  | .inputDialect => g.inputDialect
  | .optimization => g.optimization
  | .scheduling => g.scheduling
  | .targetBackend => g.targetBackend
  | .bytecodeTarget => g.bytecodeTarget

def set (g : GivenGroups) : (k : GroupKey) → Option k.Options → GivenGroups
  | .binding, o => { g with binding := o }
  | .inputDialect, o => { g with inputDialect := o }
  | .optimization, o => { g with optimization := o }
  | .scheduling, o => { g with scheduling := o }
  | .targetBackend, o => { g with targetBackend := o }
  | .bytecodeTarget, o => { g with bytecodeTarget := o }

def ofYaml? (v : Value) : Option GivenGroups := do
  Value.record? false
    (fun name => (GroupKey.ofName? name).map fun k v g =>
      (Value.option? k.group.ofYaml? v).map (g.set k))
    [] (← v.pairs?) {}

/-- Checks the given groups, in order. -/
def validate (g : GivenGroups) : Checked Unit :=
  GroupKey.all.forM fun k => k.group.validateSome (g.get k)

end GivenGroups

/-- What a file says. -/
structure OptionsFile where
  version : UInt32
  strict : Option Bool := none
  groups : GivenGroups := {}
  deriving DecidableEq, Repr

namespace OptionsFile

/-- A file under construction. -/
structure Draft where
  version : Option UInt32 := none
  strict : Option Bool := none
  groups : Option GivenGroups := none

def setField : String → Option (Value → Draft → Option Draft)
  | "version" => some fun v d => do return { d with version := some (← v.word?) }
  | "strict_mode" => some fun v d => do return { d with strict := ← v.option? Value.flag? }
  | "options" => some fun v d => do return { d with groups := ← v.option? GivenGroups.ofYaml? }
  | _ => none

def ofYaml? (v : Value) : Option OptionsFile := do
  let d ← Value.record? false setField [] (← v.pairs?) {}
  return ⟨← d.version, d.strict, d.groups.getD {}⟩

def supported : List UInt32 := [1]

/-- Puts a given group over the defaults and remembers where it is from. -/
def overlay (origin : String) (g : GivenGroups) (o : Options) (k : GroupKey) : Options :=
  match g.get k with
  | some v =>
    { o with groups := o.groups.set k v }.track (Provenance.groupPath k.name) (.yaml origin)
  | none => o

/-- The options of a file over the defaults. -/
def load (f : OptionsFile) (origin : String) : Checked Options := do
  if f.version ∉ supported then .error (.unsupportedVersion f.version supported)
  f.groups.validate
  let o : Options := match f.strict with
    | some strict => ({ strict } : Options).track Options.strictPath (.yaml origin)
    | none => {}
  return GroupKey.all.foldl (overlay origin f.groups) o

end OptionsFile

namespace Options

/-- Options from a YAML text; `origin` says where it is from. -/
def ofYaml (text origin : String) : Checked Options :=
  match (Yaml.read text).bind OptionsFile.ofYaml? with
  | some f => f.load origin
  | none => .error .yaml

/-- All options as a YAML text. -/
def toYaml (o : Options) : String :=
  Yaml.write [
    ("version", .word "1"),
    ("strict_mode", .word (flagText o.strict)),
    ("options", .map (GroupKey.all.map fun k => (k.name, .map (k.group.toYaml (o.groups.get k)))))]

end Options
end StagedLowering
