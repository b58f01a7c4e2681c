import StagedLowering.Json.Print
import StagedLowering.Program.Basic

/-! The JSON form of programs. Empty attributes, empty regions and a missing location are left out;
the lists of blocks and of ops are always there. -/
namespace StagedLowering

namespace Op

def attrFields (attrs : AttrMap) : List (String × Json) :=
  attrs.entries.map fun (k, v) => (k, v.toJson)

/-- The fields of a head that come before and after the regions. -/
def headFields (h : OpHead) : List (String × Json) :=
  ("kind", .str h.kind) ::
    (if h.attrs.isEmpty then [] else [("attributes", .obj (attrFields h.attrs))])

def tailFields (h : OpHead) : List (String × Json) :=
  match h.location with
  | none => []
  | some l => [("location", l.toJson)]

mutual
def toJson : Op → Json
  | ⟨h, regions⟩ =>
    .obj (headFields h ++
      (if regions.isEmpty then [] else [("regions", .arr (regionsToJson regions))]) ++
      tailFields h)

def blockToJson : List Op → List Json
  | [] => []
  | op :: rest => op.toJson :: blockToJson rest

def blocksToJson : List (List Op) → List Json
  | [] => []
  | block :: rest => .obj [("operations", .arr (blockToJson block))] :: blocksToJson rest

def regionsToJson : List (List (List Op)) → List Json
  | [] => []
  | region :: rest => .obj [("blocks", .arr (blocksToJson region))] :: regionsToJson rest
end

/-- An op under construction. -/
structure Draft where
  kind : Option String := none
  attrs : AttrMap := .empty
  regions : List Region := []
  location : Option Location := none

end Op

namespace Program

def toJson (p : Program) : Json := .obj [("operations", .arr (Op.blockToJson p.ops))]

/-- The program as indented JSON text. -/
def pretty (p : Program) : String := p.toJson.pretty

end Program

open Json

/-- The single list field of blocks, regions and programs, which may be missing. -/
def readListField {α : Type} (name : String) (read : Reader (List α)) : Reader (List α) :=
  readRecord [name] (fun _ v _ => read v) []

namespace Op

/-- Reads one field of an op; `regions` reads the regions. -/
def setField (levels : Nat) (regions : Reader (List Region)) : FieldReader Draft := fun name v d =>
  match name with
  | "kind" => do return { d with kind := some (← readString v) }
  | "attributes" => do return { d with attrs := ← readDict Attr.read levels v }
  | "regions" => do return { d with regions := ← regions v }
  | _ => do return { d with location := ← readOption (Location.read levels) v }

mutual
/-- Reads an op; each container on the way down takes one of the levels. -/
def read : Nat → Reader Op
  | 0, s => s.tooDeep
  | n + 1, s => do
    let d ← readRecord ["kind", "attributes", "regions", "location"] (setField n (readRegions n)) {} s
    return ⟨⟨← required d.kind, d.attrs, d.location⟩, d.regions⟩

def readOps : Nat → Reader (List Op)
  | 0, .obj _ => .error .shape
  | 0, s => s.tooDeep
  | n + 1, s => readItems (read n) s

def readBlock : Nat → Reader Block
  | 0, s => s.tooDeep
  | n + 1, s => readListField "operations" (readOps n) s

def readBlocks : Nat → Reader (List Block)
  | 0, .obj _ => .error .shape
  | 0, s => s.tooDeep
  | n + 1, s => readItems (readBlock n) s

def readRegion : Nat → Reader Region
  | 0, s => s.tooDeep
  | n + 1, s => readListField "blocks" (readBlocks n) s

def readRegions : Nat → Reader (List Region)
  | 0, .obj _ => .error .shape
  | 0, s => s.tooDeep
  | n + 1, s => readItems (readRegion n) s
end

end Op

namespace Program

def read : Nat → Reader Program
  | 0, s => s.tooDeep
  | n + 1, s => Program.mk <$> readListField "operations" (Op.readOps n) s

/-- Reads a program from JSON text. -/
def ofText (text : String) : Result Program := readText read text

end Program
end StagedLowering
