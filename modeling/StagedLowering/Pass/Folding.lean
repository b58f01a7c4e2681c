import StagedLowering.Program.Basic

/-! Const-eval folding: ops marked as constant expressions are replaced by what a hook makes of them.
The ops inside a replacement are visited in turn, so with a hook that keeps nesting the walk never comes
to an end; such a walk has no result. -/
namespace StagedLowering.Folding

/-- The attribute of constant expressions. -/
def marker : String := "const_expr"

/-- Asks the hook about an op that is marked, and counts the question. -/
def foldHere (hook : Op → Option Op) (op : Op) : Op × Nat :=
  if op.hasAttr marker then ((hook op).getD op, 1) else (op, 0)

/-- What folds one op: the op that takes its place and the number of questions to the hook, or `none` when
the folding never ends. -/
abbrev Folder := Op → Option (Op × Nat)

/-- Folds every op of some regions. -/
abbrev Folder.inside (folder : Folder) (regions : List Region) :
    Option (List (List (List (Op × Nat)))) :=
  regions.mapM fun region => region.mapM fun block => block.mapM folder

variable (hook : Op → Option Op)

/-- Folds an op and all that is then inside it. -/
def foldOp : Folder := fun op => do
  let (answer, asked) := foldHere hook op
  let regions ← foldOp.inside answer.regions
  return (⟨answer.head, regions.map (·.map (·.map (·.1)))⟩,
    regions.flatten.flatten.foldl (fun n x => n + x.2) asked)
partial_fixpoint

/-- Folds a program. -/
def fold (p : Program) : Option (Program × Nat) := do
  let ops ← p.ops.mapM (foldOp hook)
  return (⟨ops.map (·.1)⟩, ops.foldl (fun n x => n + x.2) 0)

end StagedLowering.Folding
