import StagedLowering.Executor
import StagedLowering.Pass.Builtin
import StagedLowering.Stage.Plan

/-! From options and a program to the lowered program. -/
namespace StagedLowering

/-- Resolves the options with the builtin converters, plans the stages and runs the builtin passes.
The program is touched only when the options are good. -/
def lower (o : Options) (h : Hooks) (refusal : Refusal) (p : Program) :
    Outcome CompilerError Program (List Executor.Entry) :=
  match o.resolve h .builtin with
  | .error e => .fail p (.config e)
  | .ok r => (Executor.run (.builtin h refusal) (r.plan h) p).mapError .pipeline

end StagedLowering
