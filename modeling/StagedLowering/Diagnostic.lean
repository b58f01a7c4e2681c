import StagedLowering.Program.Path

/-! Messages about programs, with the op they are about. -/
namespace StagedLowering

inductive Severity where
  | error
  deriving DecidableEq, Repr

def Severity.name : Severity → String
  | .error => "error"

structure Diagnostic where
  severity : Severity := .error
  message : String
  location : Option Location := none
  opKind : Option String := none
  path : Option OpPath := none
  deriving DecidableEq, Repr

namespace Diagnostic

def error (message : String) : Diagnostic := { message }

/-- Says which op the message is about. -/
def atOp (d : Diagnostic) (op : Op) (path : OpPath) : Diagnostic :=
  { d with location := op.location, opKind := some op.kind, path := some path }

def isError (d : Diagnostic) : Bool := d.severity = .error

/-- Moves the path below `anchor`. -/
def rebased (d : Diagnostic) (anchor : OpPath) : Diagnostic :=
  { d with path := d.path.map (·.rebased anchor) }

/-- The op that the message is about, in words. -/
def position (d : Diagnostic) : String :=
  match d.opKind, d.path with
  | some kind, some path => " ['" ++ kind ++ "' at " ++ path.text ++ "]"
  | some kind, none => " ['" ++ kind ++ "']"
  | none, _ => ""

def text (d : Diagnostic) : String :=
  d.severity.name ++ ": " ++
    (match d.location with
      | some l => l.text ++ ": "
      | none => "") ++
    d.message ++ d.position

def toJson (d : Diagnostic) : Json :=
  .obj ([("severity", .str d.severity.name), ("message", .str d.message)] ++
    (d.location.map fun l => ("location", l.toJson)).toList ++
    (d.opKind.map fun k => ("op_kind", .str k)).toList ++
    (d.path.map fun p => ("path", p.toJson)).toList)

/-- A message under construction. -/
structure Draft where
  severity : Option Severity := none
  message : Option String := none
  location : Option Location := none
  opKind : Option String := none
  path : Option OpPath := none

open Json in
def readSeverity : Reader Severity
  | .str "error" => .ok .error
  | .obj (.cons (.ok "error") .null rest) => do rest.close; return .error
  | s => s.refuse

open Json in
def read : Nat → Reader Diagnostic
  | 0, s => s.tooDeep
  | n + 1, s => do
    let d ← readRecord ["severity", "message", "location", "op_kind", "path"]
      (fun name v d =>
        match name with
        | "severity" => do return { d with severity := some (← readSeverity v) }
        | "message" => do return { d with message := some (← readString v) }
        | "location" => do return { d with location := ← readOption (Location.read n) v }
        | "op_kind" => do return { d with opKind := ← readOption readString v }
        | _ => do return { d with path := ← readOption (OpPath.read n) v })
      ({} : Draft) s
    return ⟨← required d.severity, ← required d.message, d.location, d.opKind, d.path⟩

end Diagnostic
end StagedLowering
