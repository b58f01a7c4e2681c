import StagedLowering.Pass.Basic

/-! Running stages on a program, strictly in order; the first failure ends the run. A sub-pipeline runs
on every outermost op of its anchor kind by itself, and what it leaves of that op takes its place. -/
namespace StagedLowering.Executor

/-- What runs on a program of one anchor op. -/
abbrev Body := Program → Outcome PipelineError Program Unit

mutual
/-- Runs `body` on an op of the anchor kind, else on the anchors inside it. The result is the ops that
take the place of the op, and the number of anchors. -/
def sweepOp (anchor : String) (body : Body) (path : List Nat) :
    Op → Outcome PipelineError (List Op) Nat
  | ⟨h, regions⟩ =>
    if h.kind = anchor then
      ((body ⟨[⟨h, regions⟩]⟩).map (·.ops) fun _ => 1).mapError (·.rebased ⟨path⟩)
    else
      (sweepRegions anchor body path 0 regions).map (fun rs => [⟨h, rs⟩]) id

/-- Sweeps a list of ops; `i` is the place of the next op among those already put back. -/
def sweepBlock (anchor : String) (body : Body) (base : List Nat) (i : Nat) :
    List Op → Outcome PipelineError (List Op) Nat
  | [] => .ok [] 0
  | op :: rest =>
    (sweepOp anchor body (base ++ [i]) op).andThen (· ++ rest) fun ops m =>
      (sweepBlock anchor body base (i + ops.length) rest).map (ops ++ ·) (m + ·)

def sweepRegion (anchor : String) (body : Body) (base : List Nat) (i : Nat) :
    List (List Op) → Outcome PipelineError (List (List Op)) Nat
  | [] => .ok [] 0
  | block :: rest =>
    (sweepBlock anchor body (base ++ [i]) 0 block).andThen (· :: rest) fun block m =>
      (sweepRegion anchor body base (i + 1) rest).map (block :: ·) (m + ·)

def sweepRegions (anchor : String) (body : Body) (base : List Nat) (i : Nat) :
    List (List (List Op)) → Outcome PipelineError (List (List (List Op))) Nat
  | [] => .ok [] 0
  | region :: rest =>
    (sweepRegion anchor body (base ++ [i]) 0 region).andThen (· :: rest) fun region m =>
      (sweepRegions anchor body base (i + 1) rest).map (region :: ·) (m + ·)
end

/-- Runs `body` on every outermost op of the anchor kind; the result is their number. -/
def sweep (anchor : String) (body : Body) (p : Program) : Outcome PipelineError Program Nat :=
  (sweepBlock anchor body [] 0 p.ops).map Program.mk id

/-- Runs the pass of a stage. -/
def runPass (provider : Provider) (kind : StageKind) (p : Program) :
    Outcome PipelineError Program Nat :=
  ((provider kind p).map id fun _ => 1).after [.entered kind p]

mutual
/-- Runs a stage; the result is the number of scopes it ran on. -/
def runStage (provider : Provider) : Stage → Program → Outcome PipelineError Program Nat
  | .pass kind, p => runPass provider kind p
  | .nested anchor stages, p => sweep anchor (fun q => runBody provider stages q) p

/-- Runs stages one after the other. -/
def runBody (provider : Provider) : List Stage → Program → Outcome PipelineError Program Unit
  | [], p => .ok p ()
  | s :: rest, p => (runStage provider s p).andThen id fun q _ => runBody provider rest q
end

/-- The line of a report about one stage: on how many scopes it ran, and the number of ops after it. -/
structure Entry where
  label : String
  scopes : Nat
  opsAfter : Nat
  deriving DecidableEq, Repr

/-- Runs all stages, with one entry each. -/
def run (provider : Provider) : List Stage → Program → Outcome PipelineError Program (List Entry)
  | [], p => .ok p []
  | s :: rest, p =>
    (runStage provider s p).andThen id fun q n =>
      (run provider rest q).map id (⟨s.label, n, q.opCount⟩ :: ·)

/-- Runs the stages on each program by itself; the outcomes are in the order of the programs. -/
def runBatch (provider : Provider) (stages : List Stage) (ps : List Program) :
    List (Outcome PipelineError Program (List Entry)) :=
  ps.map (run provider stages)

end StagedLowering.Executor
