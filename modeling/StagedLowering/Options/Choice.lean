import StagedLowering.ConfigError
import StagedLowering.Json.Read
import StagedLowering.Text.Blank
import StagedLowering.Text.Lowercase

/-! Options whose values are a few fixed names. -/
namespace StagedLowering

/-- A type of named alternatives, in the order in which they are listed to users. -/
class Choice (α : Type) where
  all : List α
  name : α → String

namespace Choice

variable {α : Type} [Choice α]

def names (α : Type) [Choice α] : List String := (all : List α).map name

/-- The alternative with exactly this name. -/
def ofName? (s : String) : Option α := (all : List α).find? fun a => name a = s

/-- Names given by hand: blanks around them, case, and `_` for `-` do not matter. -/
def normalize (s : String) : String :=
  String.ofList ((Text.lower (Text.trim s)).toList.map fun c => if c = '_' then '-' else c)

/-- The alternative that a text given by hand means. -/
def parse (field s : String) : Checked α :=
  match ofName? (normalize s) with
  | some a => .ok a
  | none => .error (.invalidValue field s (.notAmong (names α)))

open Json in
/-- Reads exactly the name, alone or as the name of an empty field. `lax` lets that field hold an
object without fields as well. -/
def read (lax : Bool) : Reader α
  | .str s => required (ofName? s)
  | .obj (.cons name v rest) => do
    let a ← required (ofName? (← readName name))
    match v with
    | .null => rest.close
    | .obj .done => if lax then rest.close else .error .shape
    | v => v.refuse
    return a
  | .obj fields => do fields.close; faulty .malformed
  | s => s.refuse

end Choice

/-- The dialect a program comes in. -/
inductive InputDialect where
  | none
  | mhlo
  | xla
  | tmTensor
  | tosa
  deriving DecidableEq, Repr

instance : Choice InputDialect where
  all := [.none, .mhlo, .xla, .tmTensor, .tosa]
  name
    | .none => "none"
    | .mhlo => "mhlo"
    | .xla => "xla"
    | .tmTensor => "tm-tensor"
    | .tosa => "tosa"

/-- How the lowered program is executed. -/
inductive ExecutionModel where
  | hostOnly
  | asyncInternal
  | asyncExternal
  | inlineStatic
  | inlineDynamic
  deriving DecidableEq, Repr

instance : Choice ExecutionModel where
  all := [.hostOnly, .asyncInternal, .asyncExternal, .inlineStatic, .inlineDynamic]
  name
    | .hostOnly => "host-only"
    | .asyncInternal => "async-internal"
    | .asyncExternal => "async-external"
    | .inlineStatic => "inline-static"
    | .inlineDynamic => "inline-dynamic"

/-- The flavour of the device layer. -/
inductive DeviceVariant where
  | async
  | inlineStatic
  | inlineDynamic
  deriving DecidableEq, Repr

instance : Choice DeviceVariant where
  all := [.async, .inlineStatic, .inlineDynamic]
  name
    | .async => "async"
    | .inlineStatic => "inline-static"
    | .inlineDynamic => "inline-dynamic"

def DeviceVariant.stageName : DeviceVariant → String
  | .async => "hal-async"
  | .inlineStatic => "hal-inline-static"
  | .inlineDynamic => "hal-inline-dynamic"

/-- The device layer of an execution model; none on the host alone. -/
def ExecutionModel.device? : ExecutionModel → Option DeviceVariant
  | .hostOnly => none
  | .asyncInternal => some .async
  | .asyncExternal => some .async
  | .inlineStatic => some .inlineStatic
  | .inlineDynamic => some .inlineDynamic

def ExecutionModel.needsDevice (m : ExecutionModel) : Bool := m.device?.isSome

/-- The format of op statistics. -/
inductive StatisticsFormat where
  | none
  | pretty
  | verbose
  | csv
  | json
  deriving DecidableEq, Repr

instance : Choice StatisticsFormat where
  all := [.none, .pretty, .verbose, .csv, .json]
  name
    | .none => "none"
    | .pretty => "pretty"
    | .verbose => "verbose"
    | .csv => "csv"
    | .json => "json"

end StagedLowering
