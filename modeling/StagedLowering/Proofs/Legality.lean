import StagedLowering.Pass.Builtin
import StagedLowering.Proofs.Walking

/-! The gate against look-up by path: it passes the programs in which no op anywhere is forbidden, and
else it names the forbidden op that comes first in pre-order. -/
namespace StagedLowering

/-- An op comes before all that is inside it. -/
lemma OpPath.precedes_of_prefix {a b : OpPath} (h : a.indices <+: b.indices) (hne : a ≠ b) :
    a.Precedes b := by
  obtain ⟨s, hs⟩ := h
  cases s with
  | nil =>
    refine absurd ?_ hne
    rw [List.append_nil] at hs
    cases a
    cases b
    exact congrArg OpPath.mk hs
  | cons i s =>
    rw [Precedes, ← hs]
    simpa using List.Lex.append_left (· < ·) (.nil : List.Lex (· < ·) [] (i :: s)) a.indices

namespace LegalityRule

/-- The message is about the op that comes first among those that the rule forbids: its path leads to
that op, its kind and location are those of the op, and no op at a path in front of it, be it around the op
or in an earlier branch, is forbidden. -/
def NamesFirst (r : LegalityRule) (p : Program) (d : Diagnostic) : Prop :=
  ∃ path op, d.path = some path ∧ p.opAt path = some op ∧ r.Forbids op ∧
    d.opKind = some op.kind ∧ d.location = op.location ∧
    ∀ path' op', p.opAt path' = some op' →
      (path'.indices <+: path.indices ∧ path' ≠ path) ∨
        List.Lex (· < ·) path'.indices path.indices →
      ¬ r.Forbids op'

variable {r : LegalityRule} {p : Program}

lemma violation?_eq_none_iff : r.violation? p = none ↔
    ∀ path op, p.opAt path = some op → ¬ r.Forbids op := by
  rw [violation?_eq_none]
  constructor
  · intro h path op hop hforbids
    have hfalse := h (path, op) (Program.mem_addressed.2 hop)
    rw [violatedBy_iff.2 hforbids] at hfalse
    cases hfalse
  · intro h x hx
    have hallowed := h x.1 x.2 (Program.mem_addressed.1 hx)
    rwa [← violatedBy_iff, Bool.not_eq_true] at hallowed

/-- What stands in front of an op in the list of all ops is what comes before it in pre-order. -/
lemma mem_front_of_precedes {front back : List (OpPath × Op)} {x y : OpPath × Op}
    (hsplit : p.addressed = front ++ x :: back) (hy : p.opAt y.1 = some y.2)
    (hbefore : y.1.Precedes x.1) : y ∈ front := by
  have hmem : y ∈ front ++ x :: back := hsplit ▸ Program.mem_addressed.2 hy
  have hordered := p.addressed_ordered
  rw [hsplit, List.pairwise_append, List.pairwise_cons] at hordered
  rcases List.mem_append.1 hmem with hfront | hback
  · exact hfront
  · rcases List.mem_cons.1 hback with rfl | hback
    · exact absurd rfl hbefore.ne
    · exact absurd (hordered.2.1.1 y hback) hbefore.asymm

lemma namesFirst_of_violation? {d : Diagnostic} (h : r.violation? p = some d) : r.NamesFirst p d := by
  obtain ⟨front, x, back, hsplit, hx, hfront, rfl⟩ := violation?_eq_some.1 h
  have hmem : x ∈ p.addressed := by simp [hsplit]
  refine ⟨x.1, x.2, rfl, Program.mem_addressed.1 hmem, violatedBy_iff.1 hx, rfl, rfl, ?_⟩
  intro path' op' hop' hbefore hforbids
  have hprecedes : path'.Precedes x.1 := by
    rcases hbefore with ⟨habove, hne⟩ | hless
    · exact OpPath.precedes_of_prefix habove hne
    · exact hless
  have hallowed := hfront (path', op') (mem_front_of_precedes hsplit hop' hprecedes)
  rw [violatedBy_iff.2 hforbids] at hallowed
  cases hallowed

/-- The gate is sound and complete, and it names the first violation. It finds none exactly when no op
anywhere in the program is forbidden; otherwise it gives one message, about the forbidden op that comes
first. The same holds of the gate as a stage, whose failure carries that message and no other. -/
theorem gate_names_first (r : LegalityRule) (p : Program) :
    (r.violation? p = none ↔ ∀ path op, p.opAt path = some op → ¬ r.Forbids op) ∧
    (∀ d, r.violation? p = some d → r.NamesFirst p d) ∧
    ∀ stage,
      ((Pass.verify stage r p).result = .ok () ↔
        ∀ path op, p.opAt path = some op → ¬ r.Forbids op) ∧
      ∀ e, (Pass.verify stage r p).result = .error e →
        ∃ d, e.diagnostics = [d] ∧ r.NamesFirst p d := by
  refine ⟨violation?_eq_none_iff, fun d => namesFirst_of_violation?, fun stage => ?_⟩
  rw [← violation?_eq_none_iff, Pass.verify]
  cases hv : r.violation? p with
  | none => exact ⟨⟨fun _ => rfl, fun _ => rfl⟩, fun e he => nomatch he⟩
  | some d =>
    refine ⟨⟨fun hok => ?_, fun hnone => ?_⟩, fun e he => ?_⟩
    · cases hok
    · cases hnone
    cases he
    exact ⟨d, rfl, namesFirst_of_violation? hv⟩

/-- An op with the marker in a function, a second one inside it, and a third one in a later function. -/
def markedInside : Program :=
  let head (line : UInt32) : OpHead :=
    { kind := "linalg.generic", location := some ⟨"model.mlir", line, 5⟩ }
  let marked (line : UInt32) (regions : List Region) : Op :=
    ⟨(head line).setAttr "__internal_linalg_transform__" (.str "tiled"), regions⟩
  ⟨[⟨{ kind := "func.func" }, [[[⟨head 2, []⟩, marked 3 [[[marked 4 []]]]]]]⟩,
    ⟨{ kind := "func.func" }, [[[marked 9 []]]]⟩]⟩

/-- The outer one is named: it has a marked op inside it, and only an op without the marker before it. -/
theorem gate_names_first_outer : ∃ d, initial.violation? markedInside = some d ∧
    d.path = some ⟨[0, 0, 0, 1]⟩ ∧ d.location = some ⟨"model.mlir", 3, 5⟩ ∧
    initial.NamesFirst markedInside d := by
  obtain ⟨-, hfirst, -⟩ := gate_names_first initial markedInside
  exact ⟨_, rfl, rfl, rfl, hfirst _ rfl⟩

end LegalityRule
end StagedLowering
