import StagedLowering.Options.File
import StagedLowering.Pass.Basic

/-! Programs that talk to the world around them, as data: each step says what is asked for and how to go
on with the answer. -/
namespace StagedLowering.Command

/-- A file or stream that was written: none, or why it could not be. -/
abbrev WriteAnswer := Option String

inductive Session (α : Type) where
  | done (a : α)
  | environment (next : List (List UInt8 × List UInt8) → Session α)
  | readFile (path : String) (next : FileContent → Session α)
  | readInput (next : FileContent → Session α)
  | writeFile (path text : String) (next : WriteAnswer → Session α)
  | print (text : String) (next : WriteAnswer → Session α)
  | complain (text : String) (next : Session α)
  | enter (stage : StageKind) (next : Session α)
  | clock (next : Nat → Session α)

namespace Session

variable {α β : Type}

def bind (f : α → Session β) : Session α → Session β
  | .done a => f a
  | .environment next => .environment fun r => (next r).bind f
  | .readFile path next => .readFile path fun r => (next r).bind f
  | .readInput next => .readInput fun r => (next r).bind f
  | .writeFile path text next => .writeFile path text fun r => (next r).bind f
  | .print text next => .print text fun r => (next r).bind f
  | .complain text next => .complain text (next.bind f)
  | .enter stage next => .enter stage (next.bind f)
  | .clock next => .clock fun r => (next r).bind f

instance : Monad Session where
  pure := .done
  bind s f := s.bind f

end Session

/-- The answers of the world. They do not depend on what was asked before. -/
structure World where
  environment : List (List UInt8 × List UInt8) := []
  files : String → FileContent
  input : FileContent := .ok []
  refusal : String → WriteAnswer := fun _ => none
  printRefusal : WriteAnswer := none
  now : Nat := 0

/-- What a session does that others can see. -/
inductive Effect where
  | readFile (path : String)
  | readInput
  | wrote (path text : String)
  | refused (path : String)
  | printed (text : String)
  | complained (text : String)
  | entered (stage : StageKind)
  deriving DecidableEq, Repr

/-- Runs a session in a world. -/
def Session.run {α : Type} (w : World) : Session α → α × List Effect
  | .done a => (a, [])
  | .environment next => (next w.environment).run w
  | .readFile path next =>
    let (a, es) := (next (w.files path)).run w
    (a, .readFile path :: es)
  | .readInput next =>
    let (a, es) := (next w.input).run w
    (a, .readInput :: es)
  | .writeFile path text next =>
    let (a, es) := (next (w.refusal path)).run w
    (a, (if (w.refusal path).isNone then .wrote path text else .refused path) :: es)
  | .print text next =>
    let (a, es) := (next w.printRefusal).run w
    (a, if w.printRefusal.isNone then .printed text :: es else es)
  | .complain text next =>
    let (a, es) := next.run w
    (a, .complained text :: es)
  | .enter stage next =>
    let (a, es) := next.run w
    (a, .entered stage :: es)
  | .clock next => (next w.now).run w

end StagedLowering.Command
