import StagedLowering.PipelineError
import StagedLowering.Program.Edit
import StagedLowering.Stage.Basic

/-! Passes: what they leave behind, how they end, and what they did on the way. -/
namespace StagedLowering

/-- Something that others can see of a run. -/
inductive Event where
  | entered (stage : StageKind) (program : Program)
  | wrote (path text : String)
  | logged (text : String)

/-- The end of a computation on a state: the state is there also after a failure. -/
structure Outcome (ε σ α : Type) where
  state : σ
  result : Except ε α
  events : List Event := []

namespace Outcome

variable {ε ε' σ τ α β : Type}

def ok (s : σ) (a : α) : Outcome ε σ α := { state := s, result := .ok a }

def fail (s : σ) (e : ε) : Outcome ε σ α := { state := s, result := .error e }

/-- Puts events in front. -/
def after (events : List Event) (o : Outcome ε σ α) : Outcome ε σ α :=
  { o with events := events ++ o.events }

def map (f : σ → τ) (g : α → β) (o : Outcome ε σ α) : Outcome ε τ β :=
  ⟨f o.state, o.result.map g, o.events⟩

def mapError (f : ε → ε') (o : Outcome ε σ α) : Outcome ε' σ α :=
  ⟨o.state, o.result.mapError f, o.events⟩

/-- Goes on after success; `stop` completes the state after a failure. -/
def andThen (o : Outcome ε σ α) (stop : σ → τ) (next : σ → α → Outcome ε τ β) :
    Outcome ε τ β :=
  match o.result with
  | .error e => ⟨stop o.state, .error e, o.events⟩
  | .ok a => (next o.state a).after o.events

def succeeded (o : Outcome ε σ α) : Bool := o.result.isOk

/-- The texts that were logged. -/
def log (o : Outcome ε σ α) : List String :=
  o.events.filterMap fun
    | .logged text => some text
    | _ => none

/-- The files that were written, in order. -/
def written (o : Outcome ε σ α) : List (String × String) :=
  o.events.filterMap fun
    | .wrote path text => some (path, text)
    | _ => none

end Outcome

abbrev Pass := Program → Outcome PipelineError Program Unit

/-- Supplies the pass for each stage. -/
abbrev Provider := StageKind → Pass

namespace Pass

/-- A pass that cannot fail. -/
def edit (f : Program → Program) : Pass := fun p => .ok (f p) ()

/-- A pass that always fails. -/
def reject (e : PipelineError) : Pass := fun p => .fail p e

/-- Fails when `test` gives a reason to. -/
def check (test : Program → Option PipelineError) : Pass := fun p =>
  match test p with
  | none => .ok p ()
  | some e => .fail p e

/-- One pass after the other. -/
def andThen (f g : Pass) : Pass := fun p => (f p).andThen id fun q _ => g q

def sequence : List Pass → Pass
  | [] => edit id
  | f :: rest => f.andThen (sequence rest)

/-- Fails with a message about every op that is meant, if there is one. -/
def forbid (stage : String) (s : OpSelector) (message : String) : Pass :=
  check fun p =>
    match p.addressed.filter fun (_, op) => s.selects op.kind with
    | [] => none
    | ops => some (.stage stage (ops.map fun (path, op) => (Diagnostic.error message).atOp op path))

end Pass

/-- Replaces the passes of the stages with certain names. -/
def Provider.override (base : Provider) (passes : String → Option Pass) : Provider := fun kind =>
  (passes kind.name).getD (base kind)

end StagedLowering
