import StagedLowering.Diagnostic
import StagedLowering.Options.Group
import StagedLowering.Program.Walk

/-! The gate in front of the virtual machine: no op of a kind may still carry a marker. -/
namespace StagedLowering

structure LegalityRule where
  opKind : String
  marker : String
  deriving DecidableEq, Repr

/-- The rule that target options ask for. -/
def TargetBackend.rule (o : TargetBackend) : LegalityRule := ⟨o.legalityKind, o.legalityMarker⟩

namespace LegalityRule

def initial : LegalityRule := ({} : TargetBackend).rule

def violatedBy (r : LegalityRule) (op : Op) : Bool := op.kind = r.opKind && op.hasAttr r.marker

def message (r : LegalityRule) : String :=
  "expected no transform markers on '" ++ r.opKind ++ "'"

/-- The message about an op that violates the rule. -/
def report (r : LegalityRule) (path : OpPath) (op : Op) : Diagnostic :=
  (Diagnostic.error r.message).atOp op path

/-- The first violation in pre-order. -/
def violation? (r : LegalityRule) (p : Program) : Option Diagnostic :=
  p.findSome? fun path op => if r.violatedBy op then some (r.report path op) else none

end LegalityRule
end StagedLowering
