import StagedLowering.Pass.Builtin
import StagedLowering.Proofs.Inspection
import StagedLowering.Proofs.Running
import StagedLowering.Proofs.Scopes
import StagedLowering.Proofs.Walking

/-! The gate inside sub-pipelines: however deep it is nested, it finds the first of all violations that a
chain of anchors leads to, and says where in the whole program that is. -/
namespace StagedLowering

namespace LegalityRule

variable {r : LegalityRule}

/-- What the gate objects to among the listed ops: the first that violates the rule. -/
def objection? (r : LegalityRule) (nodes : List (OpPath × Op)) : Option PipelineError :=
  (nodes.find? fun x => r.violatedBy x.2).map fun x =>
    .legality "verify-transform-legality" (r.report x.1 x.2)

lemma objection?_append (l l' : List (OpPath × Op)) :
    r.objection? (l ++ l') = (r.objection? l).or (r.objection? l') := by
  rw [objection?, List.find?_append, Option.map_or]
  rfl

/-- The gate objects to the same op when it sees the ops from further out. -/
lemma objection?_rebased (a : OpPath) (l : List (OpPath × Op)) :
    r.objection? (l.map fun y => (y.1.rebased a, y.2)) = (r.objection? l).map (·.rebased a) := by
  rw [objection?, objection?, List.find?_map, Option.map_map, Option.map_map]
  rfl

lemma objection?_eq_none {l : List (OpPath × Op)} :
    r.objection? l = none ↔ ∀ x ∈ l, r.violatedBy x.2 = false := by
  simp [objection?]

lemma objection?_eq_some {l : List (OpPath × Op)} {e : PipelineError} :
    r.objection? l = some e ↔ ∃ before x after, l = before ++ x :: after ∧
      r.violatedBy x.2 = true ∧ (∀ y ∈ before, r.violatedBy y.2 = false) ∧
      e = .legality "verify-transform-legality" (r.report x.1 x.2) := by
  rw [objection?, Option.map_eq_some_iff]
  constructor
  · rintro ⟨x, hx, rfl⟩
    obtain ⟨hv, before, after, hsplit, hbefore⟩ := List.find?_eq_some_iff_append.1 hx
    exact ⟨before, x, after, hsplit, hv, by simpa using hbefore, rfl⟩
  · rintro ⟨before, x, after, hsplit, hv, hbefore, rfl⟩
    exact ⟨x, List.find?_eq_some_iff_append.2 ⟨hv, before, after, hsplit, by simpa using hbefore⟩, rfl⟩

/-- The gate objects to the first violation of the program. -/
lemma violation?_eq_objection? (r : LegalityRule) (p : Program) :
    (r.violation? p).map (.legality "verify-transform-legality") = r.objection? p.addressed := by
  cases hv : r.violation? p with
  | none => exact (objection?_eq_none.2 (violation?_eq_none.1 hv)).symm
  | some d =>
    obtain ⟨before, x, after, hsplit, hx, hbefore, rfl⟩ := violation?_eq_some.1 hv
    exact (objection?_eq_some.2 ⟨before, x, after, hsplit, hx, hbefore, rfl⟩).symm

end LegalityRule

namespace Executor

/-- The gate in sub-pipelines with the given anchors, one inside the other. -/
def gateIn (rule : LegalityRule) : List String → Stage
  | [] => .pass (.verifyLegality rule)
  | a :: anchors => .nested a [gateIn rule anchors]

/-- On how many scopes the gate runs, as seen from outside. -/
def scopeCount (p : Program) : List String → Nat
  | [] => 1
  | a :: _ => (p.outermost a).length

variable {rule : LegalityRule}

/-- Accepts with `a`, or fails with the objection there is. -/
def answer {α : Type} (a : α) (objection : Option PipelineError) : Except PipelineError α :=
  objection.elim (.ok a) .error

/-- When a body objects to what is in scope in each op alone, its verdict on listed ops is about the first
objection in all of them. -/
lemma verdict_scoped {body : Body} {anchors : List String}
    (hbody : ∀ x : Op, (body ⟨[x]⟩).result =
      answer () (rule.objection? (scopedIn anchors (Program.mk [x]).addressed)))
    {l : List (OpPath × Op)} (hl : ∀ x ∈ l, x.1.indices ≠ []) :
    verdict body l = answer l.length
      (rule.objection? (l.flatMap fun x => scopedIn anchors (x.2.addressed x.1.indices))) := by
  induction l with
  | nil => rfl
  | cons x rest ih =>
    rw [List.forall_mem_cons] at hl
    rw [verdict, hbody, ih hl.2, List.flatMap_cons, LegalityRule.objection?_append,
      scopedIn_alone anchors x.2 hl.1, LegalityRule.objection?_rebased]
    cases rule.objection? (scopedIn anchors (Program.mk [x.2]).addressed) with
    | some e => rfl
    | none =>
      cases rule.objection? (rest.flatMap fun x => scopedIn anchors (x.2.addressed x.1.indices)) with
      | some e => rfl
      | none => exact congrArg Except.ok (Nat.add_comm 1 rest.length)

/-- The gate in sub-pipelines changes nothing and objects to the first violation in scope. -/
theorem runStage_gateIn (h : Hooks) (refusal : Refusal) (rule : LegalityRule) (anchors : List String)
    (p : Program) :
    (runStage (.builtin h refusal) (gateIn rule anchors) p).state = p ∧
      (runStage (.builtin h refusal) (gateIn rule anchors) p).result =
        answer (scopeCount p anchors) (rule.objection? (scopedIn anchors p.addressed)) := by
  induction anchors generalizing p with
  | nil =>
    rw [scopedIn, ← LegalityRule.violation?_eq_objection?, gateIn, runStage, runPass, Provider.builtin,
      Pass.verify]
    cases rule.violation? p <;> exact ⟨rfl, rfl⟩
  | cons a anchors ih =>
    rw [gateIn, runStage]
    have hbody : ∀ x : Op, (runBody (.builtin h refusal) [gateIn rule anchors] ⟨[x]⟩).result =
        answer () (rule.objection? (scopedIn anchors (Program.mk [x]).addressed)) := by
      intro x
      rw [(runBody_singleton _ _ _).2, (ih ⟨[x]⟩).2]
      cases rule.objection? (scopedIn anchors (Program.mk [x]).addressed) <;> rfl
    have hkeep : ∀ x : Op,
        (runBody (.builtin h refusal) [gateIn rule anchors] ⟨[x]⟩).state = ⟨[x]⟩ :=
      fun x => (runBody_singleton _ _ _).1.trans (ih ⟨[x]⟩).1
    obtain ⟨hstate, hresult⟩ := sweep_inspects hkeep p
    refine ⟨hstate, hresult.trans ?_⟩
    exact verdict_scoped hbody fun x hx =>
      Program.indices_ne_nil (Program.mem_addressed_of_mem_outermost hx)

/-- The first violation in scope is, in the whole program, the first violation that a chain leads to. -/
lemma first_in_scope {p : Program} {anchors : List String} {e : PipelineError}
    (he : rule.objection? (scopedIn anchors p.addressed) = some e) :
    ∃ before v after, p.addressed = before ++ v :: after ∧ rule.violatedBy v.2 = true ∧
      p.InScope anchors v.1 ∧
      (∀ y ∈ before, rule.violatedBy y.2 = true → ¬ p.InScope anchors y.1) ∧
      e = .legality "verify-transform-legality" (rule.report v.1 v.2) := by
  obtain ⟨earlier, v, later, hsplit, hv, hearlier, rfl⟩ := LegalityRule.objection?_eq_some.1 he
  have hmem : v ∈ scopedIn anchors p.addressed := by simp [hsplit]
  obtain ⟨hvp, hscope⟩ := mem_scopedIn_program.1 hmem
  obtain ⟨before, after, haddressed⟩ := List.append_of_mem hvp
  refine ⟨before, v, after, haddressed, hv, hscope, fun y hy hyv hys => ?_, rfl⟩
  have hyp : y ∈ p.addressed := by simp [haddressed, hy]
  have hyscoped : y ∈ scopedIn anchors p.addressed := mem_scopedIn_program.2 ⟨hyp, hys⟩
  have hordered := scopedIn_ordered anchors p.addressed_ordered
  have hprecedes : y.1.Precedes v.1 := by
    have hall := p.addressed_ordered
    rw [haddressed] at hall
    exact (List.pairwise_append.1 hall).2.2 y hy v List.mem_cons_self
  -- In scope `y` stands before `v`, where nothing violates the rule, or is `v`, or comes later.
  rw [hsplit] at hyscoped hordered
  rcases List.mem_append.1 hyscoped with hy | hy
  · rw [hearlier y hy] at hyv
    cases hyv
  · rcases List.mem_cons.1 hy with rfl | hy
    · exact hprecedes.ne rfl
    · have hlater := (List.pairwise_cons.1 (List.pairwise_append.1 hordered).2.1).1 y hy
      exact hprecedes.asymm hlater

/-- Gates in sub-pipelines agree with the flat definition. With the gate inside sub-pipelines, one anchor
inside the other, a run changes nothing. It fails exactly when a chain of anchors leads to a violation;
its one message is then about the first such op in pre-order, with the path in the whole program. Else it
reports as many scopes as there are outermost ops of the first anchor kind. -/
theorem scoped_gate_flat (h : Hooks) (refusal : Refusal) (rule : LegalityRule) (a : String)
    (anchors : List String) (p : Program) :
    (run (.builtin h refusal) [gateIn rule (a :: anchors)] p).state = p ∧
    ((∃ e, (run (.builtin h refusal) [gateIn rule (a :: anchors)] p).result = .error e) ↔
      ∃ v ∈ p.addressed, rule.violatedBy v.2 = true ∧ p.InScope (a :: anchors) v.1) ∧
    (∀ e, (run (.builtin h refusal) [gateIn rule (a :: anchors)] p).result = .error e →
      ∃ before v after d, p.addressed = before ++ v :: after ∧
        rule.violatedBy v.2 = true ∧ p.InScope (a :: anchors) v.1 ∧
        (∀ y ∈ before, rule.violatedBy y.2 = true → ¬ p.InScope (a :: anchors) y.1) ∧
        e = .legality "verify-transform-legality" d ∧ e.diagnostics = [d] ∧
        d.path = some v.1 ∧ d.opKind = some v.2.kind ∧ d.location = v.2.location) ∧
    ∀ report, (run (.builtin h refusal) [gateIn rule (a :: anchors)] p).result = .ok report →
      report.map (·.scopes) = [(p.outermost a).length] := by
  obtain ⟨hstate, hresult⟩ := run_singleton (.builtin h refusal) (gateIn rule (a :: anchors)) p
  obtain ⟨hkept, hanswer⟩ := runStage_gateIn h refusal rule (a :: anchors) p
  rw [hanswer] at hresult
  rw [hresult]
  refine ⟨hstate.trans hkept, ?_⟩
  cases hobjection : rule.objection? (scopedIn (a :: anchors) p.addressed) with
  | none =>
    have hnone := LegalityRule.objection?_eq_none.1 hobjection
    refine ⟨⟨?_, ?_⟩, ?_, ?_⟩
    · rintro ⟨e, he⟩
      cases he
    · rintro ⟨v, hvp, hv, hscope⟩
      rw [hnone v (mem_scopedIn_program.2 ⟨hvp, hscope⟩)] at hv
      cases hv
    · intro e he
      cases he
    · intro report hreport
      cases hreport
      rfl
  | some e =>
    obtain ⟨before, v, after, hsplit, hv, hscope, hbefore, rfl⟩ := first_in_scope hobjection
    refine ⟨⟨fun _ => ⟨v, by simp [hsplit], hv, hscope⟩, fun _ => ⟨_, rfl⟩⟩, ?_, ?_⟩
    · intro e he
      cases he
      exact ⟨before, v, after, _, hsplit, hv, hscope, hbefore, rfl, rfl, rfl, rfl, rfl⟩
    · intro report hreport
      cases hreport

/-- The forbidden op three times: by itself, behind another op in a function, and in a function inside that
function. -/
def forbiddenInFunctions : Program :=
  ⟨[refusedOp, ⟨{ kind := "func.func" },
    [[[Op.ofKind "arith.constant", refusedOp, ⟨{ kind := "func.func" }, [[[refusedOp]]]⟩]]]⟩]⟩

/-- Anchors may repeat, and the last one may be the forbidden op itself. The op outside the function is not
in scope, the other two are, and the first of them is reported. -/
theorem scoped_gate_flat_repeated : ∃ e d v,
    (run (.builtin {} fun _ => none) [gateIn .initial ["func.func", "func.func", "linalg.generic"]]
      forbiddenInFunctions).result = .error e ∧
    e.diagnostics = [d] ∧ d.path = some ⟨[1, 0, 0, 1]⟩ ∧ d.path = some v ∧
    forbiddenInFunctions.InScope ["func.func", "func.func", "linalg.generic"] v := by
  obtain ⟨-, -, hfails, -⟩ := scoped_gate_flat {} (fun _ => none) .initial "func.func"
    ["func.func", "linalg.generic"] forbiddenInFunctions
  obtain ⟨before, v, after, d, -, -, hscope, -, he, hd, hpath, -, -⟩ := hfails _ rfl
  cases he
  exact ⟨_, _, v.1, rfl, hd, rfl, hpath, hscope⟩

end Executor
end StagedLowering
