import StagedLowering.Json.Read

/-! Positions in source files. -/
namespace StagedLowering

structure Location where
  file : String
  line : UInt32
  column : UInt32
  deriving DecidableEq, Repr, Inhabited

namespace Location

/-- The position of code that has none. -/
def unknown : Location := ⟨"<unknown>", 0, 0⟩

def isUnknown (l : Location) : Bool := l.line = 0 && l.column = 0

def text (l : Location) : String :=
  l.file ++ ":" ++ l.line.toNat.repr ++ ":" ++ l.column.toNat.repr

def toJson (l : Location) : Json :=
  .obj [("file", .str l.file), ("line", .nat l.line.toNat), ("column", .nat l.column.toNat)]

/-- A location under construction. -/
structure Draft where
  file : Option String := none
  line : Option UInt32 := none
  column : Option UInt32 := none

open Json in
def setField : FieldReader Draft := fun name v d =>
  match name with
  | "file" => do return { d with file := some (← readString v) }
  | "line" => do return { d with line := some (← readUInt32 v) }
  | _ => do return { d with column := some (← readUInt32 v) }

open Json in
/-- Reads a location; all three fields must be there. -/
def read : Nat → Reader Location
  | 0, s => s.tooDeep
  | _ + 1, s => do
    let d ← readRecord ["file", "line", "column"] setField {} s
    return ⟨← required d.file, ← required d.line, ← required d.column⟩

end Location
end StagedLowering
