import StagedLowering.Program.Walk

/-! Changes to the ops of a program that are picked by their kind. -/
namespace StagedLowering

/-- Which ops are meant. -/
inductive OpSelector where
  | any
  | kind (k : String)
  deriving DecidableEq, Repr

def OpSelector.selects : OpSelector → String → Bool
  | .any, _ => true
  | .kind k, k' => k = k'

namespace Program

def empty : Program := ⟨[]⟩

/-- All root ops twice, the copies behind. -/
def duplicate (p : Program) : Program := ⟨p.ops ++ p.ops⟩

/-- Changes the heads of the ops that are meant. -/
def mapSelected (s : OpSelector) (f : OpHead → OpHead) (p : Program) : Program :=
  p.mapHeads fun h => if s.selects h.kind then f h else h

def rename (s : OpSelector) (kind : String) (p : Program) : Program :=
  p.mapSelected s fun h => { h with kind }

def setAttr (s : OpSelector) (key : String) (v : Attr) (p : Program) : Program :=
  p.mapSelected s (·.setAttr key v)

/-- Removes an attribute; the values are those removed, in pre-order. -/
def removeAttr (s : OpSelector) (key : String) (p : Program) : Program × List Attr :=
  (p.mapSelected s (·.removeAttr key),
    p.addressed.filterMap fun (_, op) => if s.selects op.kind then op.attrs.get? key else none)

/-- Removes the ops of the given kinds, with all that is inside them, and counts them. -/
def dropKinds (kinds : List String) (p : Program) : Program × Nat :=
  p.retain fun op => !kinds.contains op.kind

end Program
end StagedLowering
