import StagedLowering.Dict

/-! A working directory that holds plain files and no directories. -/
namespace StagedLowering

structure Disk where
  files : Dict (List UInt8) := .empty

/-- Why a file cannot be opened. -/
inductive DiskFault where
  | missing
  | notDirectory
  | directory
  | nul
  deriving DecidableEq, Repr

def DiskFault.message : DiskFault → String
  | .missing => "No such file or directory (os error 2)"
  | .notDirectory => "Not a directory (os error 20)"
  | .directory => "Is a directory (os error 21)"
  | .nul => "file name contained an unexpected NUL byte"

namespace Disk

/-- The parts between slashes. -/
def components : List Char → List (List Char)
  | [] => [[]]
  | c :: cs =>
    match components cs with
    | [] => [[c]]
    | part :: parts => if c = '/' then [] :: part :: parts else (c :: part) :: parts

/-- Parts that do not lead anywhere else. -/
def isHere (part : List Char) : Bool := part = [] || part = ['.']

def isAbove (part : List Char) : Bool := part = ['.', '.']

/-- The name of the file that a path leads to; the flag says that the path asks for a directory of that
name. Nothing is known of what lies outside the directory. -/
def locate (d : Disk) (path : String) : Except DiskFault (String × Bool) :=
  let parts := components path.toList
  let steps := parts.filter (!isHere ·)
  if path.toList.any (·.toNat = 0) then .error .nul
  else if path = "" then .error .missing
  else if steps.all isAbove then .error .directory
  else if parts.head? = some [] then .error .missing
  else
    match steps with
    | [] => .error .directory
    | [name] => .ok (String.ofList name, parts.getLast?.any isHere)
    | name :: _ =>
      if d.files.contains (String.ofList name) then .error .notDirectory else .error .missing

def read (d : Disk) (path : String) : Except DiskFault (List UInt8) := do
  let (name, asDirectory) ← d.locate path
  match d.files.get? name with
  | none => .error .missing
  | some content => if asDirectory then .error .notDirectory else .ok content

/-- Why a file cannot be written. -/
def fault? (d : Disk) (path : String) : Option DiskFault :=
  match d.locate path with
  | .error f => some f
  | .ok (name, asDirectory) =>
    if asDirectory then some (if d.files.contains name then .notDirectory else .directory)
    else none

/-- Writes a file that can be written. -/
def write (d : Disk) (path : String) (content : List UInt8) : Disk :=
  match d.fault? path, d.locate path with
  | none, .ok (name, _) => ⟨d.files.insert name content⟩
  | _, _ => d

end Disk
end StagedLowering
