import StagedLowering.Command.Tool
import StagedLowering.Disk

/-! The command as a process. -/
namespace StagedLowering.Command

/-- The number of a failure, which some calls give with its sign changed. -/
def failureNumber (code : UInt32) : Nat := min code.toNat (UInt32.size - code.toNat)

/-- What is said about a failure of the system. -/
def causeOf (e : IO.Error) : String :=
  match e with
  | .noFileOrDirectory _ _ _ => DiskFault.missing.message
  | .inappropriateType _ code _ =>
    if failureNumber code = 20 then DiskFault.notDirectory.message else DiskFault.directory.message
  | .permissionDenied _ code _ =>
    "Permission denied (os error " ++ (failureNumber code).repr ++ ")"
  | e => e.toString

def bytesOf (path : String) : IO FileContent := do
  try return .ok (← IO.FS.readBinFile path).toList
  catch e => return .error (causeOf e)

/-- The parts between zero bytes. -/
def splitZeros : List UInt8 → List (List UInt8)
  | [] => []
  | b :: rest =>
    if b = 0 then [] :: splitZeros rest
    else
      match splitZeros rest with
      | [] => [[b]]
      | part :: parts => (b :: part) :: parts

/-- A variable's name and value. -/
def splitVariable (bytes : List UInt8) : List UInt8 × List UInt8 :=
  (bytes.takeWhile (· ≠ 61), (bytes.dropWhile (· ≠ 61)).drop 1)

def environmentBytes : IO (List (List UInt8 × List UInt8)) := do
  match ← bytesOf "/proc/self/environ" with
  | .ok bytes => return (splitZeros bytes).map splitVariable
  | .error _ => return []

def attempt (act : IO Unit) : IO WriteAnswer := do
  try act; return none
  catch e => return some (causeOf e)

/-- Runs a session in the real world. -/
def Session.perform {α : Type} : Session α → IO α
  | .done a => return a
  | .environment next => do (next (← environmentBytes)).perform
  | .readFile path next => do (next (← bytesOf path)).perform
  | .readInput next => do (next (← bytesOf "/dev/stdin")).perform
  | .writeFile path text next => do (next (← attempt (IO.FS.writeFile path text))).perform
  | .print text next => do (next (← attempt (IO.print text))).perform
  | .complain text next => do IO.eprint text; next.perform
  | .enter _ next => next.perform
  | .clock next => do (next (← IO.monoNanosNow)).perform

end StagedLowering.Command

open StagedLowering.Command in
def main (args : List String) : IO UInt32 := do
  match Arguments.parse args with
  | .error e =>
    IO.eprintln ("error: " ++ e.message)
    return 2
  | .ok a => return (← (tool a).perform).toUInt32
