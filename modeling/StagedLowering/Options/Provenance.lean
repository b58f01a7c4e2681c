import StagedLowering.Json.Read

/-! Where option values come from. A record for a whole group, `group.*`, stands for all its fields that
have no record of their own. -/
namespace StagedLowering

/-- The layer that set a value. -/
inductive OptionSource where
  | default
  | yaml (path : String)
  | env (name : String)
  | builder
  deriving DecidableEq, Repr

namespace OptionSource

/-- The layer as a summary names it. -/
def label : OptionSource → String
  | .default => "default"
  | .yaml path => path
  | .env name => "env $" ++ name
  | .builder => "builder API"

/-- The layer in short. -/
def describe : OptionSource → String
  | .default => "default"
  | .yaml path => "yaml:" ++ path
  | .env name => "env:" ++ name
  | .builder => "builder"

def toJson : OptionSource → Json
  | .default => .str "Default"
  | .yaml path => .obj [("Yaml", .obj [("path", .str path)])]
  | .env name => .obj [("Env", .str name)]
  | .builder => .str "Builder"

open Json in
/-- Reads a layer; the details of a file must be an object. -/
def read (levels : Nat) : Reader OptionSource := fun s =>
  match levels, s with
  | _, .str "Default" => .ok .default
  | _, .str "Builder" => .ok .builder
  | _ + 1, .obj (.cons name v rest) => do
    let source ← match (← readName name), v with
      | "Default", .null => .ok .default
      | "Builder", .null => .ok .builder
      | "Env", v => .env <$> readString v
      | "Yaml", .obj fields => do
        let path ← fields.readRecord ["path"] (fun _ v _ => some <$> readString v) [] none
        return .yaml (← required path)
      | _, v => v.refuse
    rest.close
    return source
  | _, s => s.refuse

end OptionSource

abbrev Provenance := Dict OptionSource

namespace Provenance

/-- The record that stands for all fields of a group. -/
def groupPath (group : String) : String := group ++ ".*"

/-- The group a path is in: what stands before its first point. -/
def groupOf? (path : String) : Option String :=
  let cs := path.toList
  if '.' ∈ cs then some (String.ofList (cs.takeWhile (· ≠ '.'))) else none

/-- The source on record for a field: the field's own record, or else that of its group, or else the
default. A record of the group does not replace one of the field, however late it is made. -/
def source (p : Provenance) (path : String) : OptionSource :=
  match p.get? path with
  | some s => s
  | none => ((groupOf? path).bind fun g => p.get? (groupPath g)).getD .default

def summary (p : Provenance) : String :=
  if p.isEmpty then "All options at defaults"
  else
    String.intercalate "\n"
      ("Overridden fields:" :: p.entries.map fun (path, s) => "  " ++ path ++ " ← " ++ s.label)

def toJson (p : Provenance) : Json :=
  .obj [("field_sources", .obj (p.entries.map fun (path, s) => (path, s.toJson)))]

open Json in
def read : Nat → Reader Provenance
  | 0, s => s.tooDeep
  | levels + 1, s => do
    let d ← readRecord ["field_sources"] (fun _ v _ => some <$> readDict OptionSource.read levels v)
      none s
    required d

end Provenance
end StagedLowering
