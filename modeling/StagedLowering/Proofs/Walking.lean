import StagedLowering.Legality
import StagedLowering.Proofs.Addressing

/-! A walk is a run through the list of all ops, up to the op at which the visitor stops; the gate stops
at the first violation. -/
namespace StagedLowering

variable {σ β : Type}

/-- Shows a visitor the listed ops one after the other, until it stops. -/
def Visitor.visitAll (visit : Visitor σ β) (s : σ) : List (OpPath × Op) → σ × Option β
  | [] => (s, none)
  | x :: rest =>
    match visit s x.1 x.2 with
    | (s, some b) => (s, some b)
    | (s, none) => visitAll visit s rest

namespace Visitor

lemma visitAll_append (visit : Visitor σ β) (s : σ) (l l' : List (OpPath × Op)) :
    visitAll visit s (l ++ l') =
      match visitAll visit s l with
      | (s, some b) => (s, some b)
      | (s, none) => visitAll visit s l' := by
  induction l generalizing s with
  | nil => rfl
  | cons x rest ih =>
    rw [List.cons_append, visitAll, visitAll]
    split
    · rfl
    · exact ih _

/-- A visitor that only asks stops with the first answer. -/
lemma visitAll_ask (f : OpPath → Op → Option β) (l : List (OpPath × Op)) :
    (visitAll (fun (_ : Unit) path op => ((), f path op)) () l).2 =
      l.findSome? fun x => f x.1 x.2 := by
  induction l with
  | nil => rfl
  | cons x rest ih =>
    rw [visitAll, List.findSome?_cons]
    cases f x.1 x.2 with
    | none => exact ih
    | some b => rfl

end Visitor

namespace Op

mutual
theorem walk_eq (visit : Visitor σ β) (path : List Nat) (s : σ) :
    ∀ op : Op, op.walk visit path s = visit.visitAll s (op.addressed path)
  | ⟨h, regions⟩ => by
    rcases hv : visit s ⟨path⟩ ⟨h, regions⟩ with ⟨s', _ | b⟩
    · simp only [walk, addressed, Visitor.visitAll, hv]
      exact walkRegions_eq visit path 0 s' regions
    · simp only [walk, addressed, Visitor.visitAll, hv]

theorem walkBlock_eq (visit : Visitor σ β) (base : List Nat) (i : Nat) (s : σ) :
    ∀ ops : List Op, walkBlock visit base i s ops = visit.visitAll s (addressedBlock base i ops)
  | [] => by rw [walkBlock, addressedBlock, Visitor.visitAll]
  | op :: rest => by
    rw [walkBlock, addressedBlock, Visitor.visitAll_append, walk_eq visit _ s op]
    rcases visit.visitAll s (op.addressed (base ++ [i])) with ⟨s', _ | b⟩
    · exact walkBlock_eq visit base (i + 1) s' rest
    · rfl

theorem walkRegion_eq (visit : Visitor σ β) (base : List Nat) (i : Nat) (s : σ) :
    ∀ region : List (List Op),
      walkRegion visit base i s region = visit.visitAll s (addressedRegion base i region)
  | [] => by rw [walkRegion, addressedRegion, Visitor.visitAll]
  | block :: rest => by
    rw [walkRegion, addressedRegion, Visitor.visitAll_append, walkBlock_eq visit _ 0 s block]
    rcases visit.visitAll s (addressedBlock (base ++ [i]) 0 block) with ⟨s', _ | b⟩
    · exact walkRegion_eq visit base (i + 1) s' rest
    · rfl

theorem walkRegions_eq (visit : Visitor σ β) (base : List Nat) (i : Nat) (s : σ) :
    ∀ regions : List (List (List Op)),
      walkRegions visit base i s regions = visit.visitAll s (addressedRegions base i regions)
  | [] => by rw [walkRegions, addressedRegions, Visitor.visitAll]
  | region :: rest => by
    rw [walkRegions, addressedRegions, Visitor.visitAll_append, walkRegion_eq visit _ 0 s region]
    rcases visit.visitAll s (addressedRegion (base ++ [i]) 0 region) with ⟨s', _ | b⟩
    · exact walkRegions_eq visit base (i + 1) s' rest
    · rfl
end

end Op

namespace Program

theorem walk_eq (p : Program) (visit : Visitor σ β) (s : σ) :
    p.walk visit s = visit.visitAll s p.addressed := Op.walkBlock_eq visit [] 0 s p.ops

/-- The first answer of a walk is the first answer in the list of ops. -/
theorem findSome?_eq (p : Program) (f : OpPath → Op → Option β) :
    p.findSome? f = p.addressed.findSome? fun x => f x.1 x.2 := by
  rw [findSome?, walk_eq, Visitor.visitAll_ask]

end Program

namespace LegalityRule

/-- What the rule is about: an op of the kind that still has the marker among its attributes. -/
def Forbids (r : LegalityRule) (op : Op) : Prop := op.kind = r.opKind ∧ op.hasAttr r.marker = true

variable {r : LegalityRule} {p : Program}

lemma violatedBy_iff {op : Op} : r.violatedBy op = true ↔ r.Forbids op := by
  rw [violatedBy, Bool.and_eq_true, decide_eq_true_iff]
  rfl

/-- There is no violation in a program without an op that violates the rule. -/
theorem violation?_eq_none : r.violation? p = none ↔ ∀ x ∈ p.addressed, r.violatedBy x.2 = false := by
  rw [violation?, Program.findSome?_eq, List.findSome?_eq_none_iff]
  simp

/-- The violation is about the first op that violates the rule. -/
theorem violation?_eq_some {d : Diagnostic} : r.violation? p = some d ↔
    ∃ before x after, p.addressed = before ++ x :: after ∧ r.violatedBy x.2 = true ∧
      (∀ y ∈ before, r.violatedBy y.2 = false) ∧ r.report x.1 x.2 = d := by
  rw [violation?, Program.findSome?_eq, List.findSome?_eq_some_iff]
  constructor
  · rintro ⟨before, x, after, hsplit, hx, hbefore⟩
    obtain ⟨hxv, hd⟩ : r.violatedBy x.2 = true ∧ r.report x.1 x.2 = d := by simpa using hx
    exact ⟨before, x, after, hsplit, hxv, by simpa using hbefore, hd⟩
  · rintro ⟨before, x, after, hsplit, hxv, hbefore, hd⟩
    exact ⟨before, x, after, hsplit, by simp [hxv, hd], by simpa using hbefore⟩

end LegalityRule

/-- An op that carries a marker and no other attribute. -/
def markedOp (kind marker : String) (regions : List Region := []) : Op :=
  ⟨(OpHead.mk kind .empty none).setAttr marker .unit, regions⟩

/-- An op that the first rule forbids. -/
def refusedOp : Op := markedOp LegalityRule.initial.opKind LegalityRule.initial.marker

lemma refusedOp_forbidden : LegalityRule.initial.Forbids refusedOp := ⟨rfl, rfl⟩

end StagedLowering
