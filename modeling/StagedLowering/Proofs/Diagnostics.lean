import Mathlib.Data.List.Forall2
import StagedLowering.Pass.Builtin
import StagedLowering.Proofs.Rebasing
import StagedLowering.Proofs.Sweep
import StagedLowering.Proofs.Walking

/-! Messages of failed runs point into the program that the run leaves. The path of a message is built up
on the way out of the nested sub-pipelines; the invariant is that the ops which the failing pass left
stand in the enclosing program at the paths moved so far. -/
namespace StagedLowering

variable {α β : Type}

namespace Executor

/-- A failure in a list that is swept, with `front` already put back before it: the error is that of
the body on one op, and what the body left of this op is found at the moved paths. -/
def Located (body : Body) (base : List Nat) (front : List α) (look : α → List Nat → Option Op)
    (o : Outcome PipelineError (List α) Nat) : Prop :=
  ∀ e, o.result = .error e → ∃ x e₀ rel, rel ≠ [] ∧ (body ⟨[x]⟩).result = .error e₀ ∧
    e = e₀.rebased ⟨base ++ rel⟩ ∧ (∃ before, o.events = before ++ (body ⟨[x]⟩).events) ∧
    ∀ rest q y, (body ⟨[x]⟩).state.opAt q = some y →
      lookAt look (front ++ o.state ++ rest) (q.rebased ⟨rel⟩).indices = some y

variable {anchor : String} {body : Body} {base : List Nat} {look : α → List Nat → Option Op}

lemma located_each {sweep : List Nat → α → Outcome PipelineError (List α) Nat} {xs : List α}
    (h : ∀ a ∈ xs, ∀ front : List α,
      Located body base front look (sweep (base ++ [front.length]) a)) (front : List α) :
    Located body base front look (sweepEach sweep base front.length xs) := by
  induction xs generalizing front with
  | nil =>
    intro e he
    cases he
  | cons a tail ih =>
    rw [List.forall_mem_cons] at h
    intro e he
    rw [sweepEach] at he ⊢
    cases hres : (sweep (base ++ [front.length]) a).result with
    | error e' =>
      rw [Outcome.andThen_of_error hres] at he ⊢
      cases he
      obtain ⟨x, e₀, rel, hrel, hbad, he, hevents, hfound⟩ := h.1 front e hres
      refine ⟨x, e₀, rel, hrel, hbad, he, hevents, fun rest q y hy => ?_⟩
      simpa using hfound (tail ++ rest) q y hy
    | ok m =>
      rw [Outcome.andThen_of_ok hres] at he ⊢
      -- What the element became is put back before the loop goes on.
      have hnext := ih h.2 (front ++ (sweep (base ++ [front.length]) a).state)
      rw [List.length_append] at hnext
      obtain ⟨x, e₀, rel, hrel, hbad, he, ⟨before, hevents⟩, hfound⟩ :=
        hnext e (Outcome.map_eq_error.1 he)
      refine ⟨x, e₀, rel, hrel, hbad, he, ⟨(sweep (base ++ [front.length]) a).events ++ before, ?_⟩,
        fun rest q y hy => ?_⟩
      · simp [hevents]
      · simpa using hfound rest q y hy

/-- A failure inside an element is one in the list around it, one index further out. -/
lemma Located.wrap {front : List α} {look' : β → List Nat → Option Op} {wrap : List β → α}
    {o : Outcome PipelineError (List β) Nat}
    (hwrap : ∀ bs s, s ≠ [] → look (wrap bs) s = lookAt look' bs s)
    (h : Located body (base ++ [front.length]) [] look' o) :
    Located body base front look (o.map (fun bs => [wrap bs]) id) := by
  intro e he
  obtain ⟨x, e₀, rel, hrel, hbad, he, hevents, hfound⟩ := h e (Outcome.map_eq_error.1 he)
  refine ⟨x, e₀, front.length :: rel, List.cons_ne_nil _ _, hbad, by simpa using he, hevents,
    fun rest q y hy => ?_⟩
  have hin := hfound [] q y hy
  rw [List.nil_append, List.append_nil] at hin
  rw [OpPath.rebased_cons q _ hrel, lookAt]
  have hne : (q.rebased ⟨rel⟩).indices ≠ [] := by
    intro hnil
    rw [hnil] at hin
    simp [lookAt] at hin
  simpa [hwrap _ _ hne] using hin

theorem located_op (anchor : String) (body : Body) (op : Op) : ∀ (base : List Nat) (front : List Op),
    Located body base front Op.within (sweepOp anchor body (base ++ [front.length]) op) := by
  induction op using Op.induction with
  | step h regions ih =>
    intro base front
    rw [sweepOp]
    split
    · -- The anchor itself: its roots start where it stood.
      intro e he
      obtain ⟨e₀, hbad, he⟩ := Outcome.mapError_eq_error.1 he
      refine ⟨⟨h, regions⟩, e₀, [front.length], List.cons_ne_nil _ _, Outcome.map_eq_error.1 hbad,
        he.symm, ⟨[], rfl⟩, fun rest q y hy => ?_⟩
      rw [Program.opAt, Op.atIndices_eq] at hy
      obtain ⟨_ | ⟨j, s⟩⟩ := q
      · simp [lookAt] at hy
      · obtain ⟨z, hz, hy⟩ := Option.bind_eq_some_iff.1 hy
        have hlt := (List.getElem?_eq_some_iff.1 hz).1
        have hplace : (front ++ (body ⟨[⟨h, regions⟩]⟩).state.ops ++ rest)[front.length + j]? =
            some z := by
          rw [List.append_assoc, List.getElem?_append_right (Nat.le_add_right _ _),
            Nat.add_sub_cancel_left, List.getElem?_append_left hlt, hz]
        exact Option.bind_eq_some_iff.2 ⟨z, hplace, hy⟩
    · refine Located.wrap (fun rs s hs => Op.within_of_ne_nil ⟨h, rs⟩ hs) ?_
      rw [sweepRegions_eq]
      refine located_each (fun region hr front => ?_) []
      refine Located.wrap (fun _ _ _ => rfl) ?_
      rw [sweepRegion_eq]
      refine located_each (fun block hb front => ?_) []
      refine Located.wrap (fun ops s _ => Op.atIndices_eq ops s) ?_
      rw [sweepBlock_eq]
      exact located_each (fun op ho front => ih region hr block hb op ho _ front) []

/-- A sweep fails with the error of its body on one op, seen from the swept program. -/
theorem sweep_error {p : Program} {e : PipelineError} (h : (sweep anchor body p).result = .error e) :
    ∃ x e₀ a, (body ⟨[x]⟩).result = .error e₀ ∧ e = e₀.rebased a ∧
      (∃ before, (sweep anchor body p).events = before ++ (body ⟨[x]⟩).events) ∧
      ∀ q y, (body ⟨[x]⟩).state.opAt q = some y →
        (sweep anchor body p).state.opAt (q.rebased a) = some y := by
  have hlocated : Located body [] [] Op.within (sweepBlock anchor body [] 0 p.ops) := by
    rw [sweepBlock_eq]
    exact located_each (fun op _ front => located_op anchor body op [] front) []
  obtain ⟨x, e₀, rel, _, hbad, he, hevents, hfound⟩ := hlocated e (Outcome.map_eq_error.1 h)
  refine ⟨x, e₀, ⟨rel⟩, hbad, he, hevents, fun q y hy => ?_⟩
  rw [Program.opAt, Op.atIndices_eq]
  simpa [sweep] using hfound [] q y hy

/-- The failure `e` of an outcome comes from a pass: the last pass that was entered failed, its error is
`e` seen from further in, and the ops that it left are found at the moved paths. -/
structure Traced (provider : Provider) (o : Outcome PipelineError Program α) (e : PipelineError)
    (kind : StageKind) (q : Program) (e₀ : PipelineError) (a : OpPath) : Prop where
  failed : (provider kind q).result = .error e₀
  error : e = e₀.rebased a
  last : ∃ before, o.events = before ++ .entered kind q :: (provider kind q).events
  found : ∀ path y, (provider kind q).state.opAt path = some y →
    o.state.opAt (path.rebased a) = some y

/-- Every failure of the outcome comes from a pass. -/
def Traces (provider : Provider) (o : Outcome PipelineError Program α) : Prop :=
  ∀ e, o.result = .error e → ∃ kind q e₀ a, Traced provider o e kind q e₀ a

variable {provider : Provider}

lemma Traces.map {o : Outcome PipelineError Program α} (h : Traces provider o) (f : α → β) :
    Traces provider (o.map id f) := by
  intro e he
  obtain ⟨kind, q, e₀, a, ht⟩ := h e (Outcome.map_eq_error.1 he)
  exact ⟨kind, q, e₀, a, ht.failed, ht.error, ht.last, ht.found⟩

lemma Traces.andThen {o : Outcome PipelineError Program α}
    {next : Program → α → Outcome PipelineError Program β} (h : Traces provider o)
    (hnext : ∀ q a, Traces provider (next q a)) : Traces provider (o.andThen id next) := by
  intro e he
  cases hres : o.result with
  | error e' =>
    rw [Outcome.andThen_of_error hres] at he ⊢
    cases he
    obtain ⟨kind, q, e₀, a, ht⟩ := h e hres
    exact ⟨kind, q, e₀, a, ht.failed, ht.error, ht.last, ht.found⟩
  | ok b =>
    rw [Outcome.andThen_of_ok hres] at he ⊢
    obtain ⟨kind, q, e₀, a, ht⟩ := hnext o.state b e he
    obtain ⟨before, hlast⟩ := ht.last
    exact ⟨kind, q, e₀, a, ht.failed, ht.error, ⟨o.events ++ before, by simp [hlast]⟩, ht.found⟩

mutual
theorem runStage_traces (provider : Provider) : ∀ (s : Stage) (p : Program),
    Traces provider (runStage provider s p)
  | .pass kind, p => by
    intro e he
    rw [runStage, runPass] at he ⊢
    refine ⟨kind, p, e, ⟨[]⟩, Outcome.map_eq_error.1 he, by simp, ⟨[], rfl⟩, fun path y hy => ?_⟩
    rwa [OpPath.rebased_empty]
  | .nested anchor stages, p => by
    intro e he
    rw [runStage] at he ⊢
    obtain ⟨x, e₁, a, hbad, he, ⟨before, hevents⟩, hfound⟩ := sweep_error he
    obtain ⟨kind, q, e₀, b, ht⟩ := runBody_traces provider stages ⟨[x]⟩ e₁ hbad
    obtain ⟨between, hlast⟩ := ht.last
    refine ⟨kind, q, e₀, b.rebased a, ht.failed, ?_, ⟨before ++ between, ?_⟩, fun path y hy => ?_⟩
    · rw [he, ht.error, PipelineError.rebased_rebased]
    · rw [hevents, hlast, List.append_assoc]
    · rw [← OpPath.rebased_rebased]
      exact hfound _ _ (ht.found path y hy)

theorem runBody_traces (provider : Provider) : ∀ (stages : List Stage) (p : Program),
    Traces provider (runBody provider stages p)
  | [], p => by
    intro e he
    rw [runBody] at he
    cases he
  | s :: rest, p => by
    rw [runBody]
    exact (runStage_traces provider s p).andThen fun q _ => runBody_traces provider rest q
end

theorem run_traces (provider : Provider) (stages : List Stage) (p : Program) :
    Traces provider (run provider stages p) := by
  induction stages generalizing p with
  | nil =>
    intro e he
    cases he
  | cons s rest ih => exact (runStage_traces provider s p).andThen fun q n => (ih q).map _

end Executor

/-- The path of a message, if there is one, leads to an op of the kind and at the location that the
message names. -/
def Diagnostic.PointsInto (d : Diagnostic) (p : Program) : Prop :=
  ∀ path, d.path = some path →
    ∃ op, p.opAt path = some op ∧ d.opKind = some op.kind ∧ d.location = op.location

/-- When the pass fails, but not over its configuration, its messages point into the program that it
leaves. -/
def Pass.Honest (f : Pass) : Prop :=
  ∀ p e, (f p).result = .error e → e.isConfig = false →
    ∀ d ∈ e.diagnostics, d.PointsInto (f p).state

/-- `d'` is the message `d` about the program `p`, given about `p'`: it says the same, and its path leads
to the very op of `p` that `d` is about. -/
structure Diagnostic.MovedTo (p p' : Program) (d d' : Diagnostic) : Prop where
  severity : d'.severity = d.severity
  message : d'.message = d.message
  location : d'.location = d.location
  opKind : d'.opKind = d.opKind
  noPath : d.path = none → d'.path = none
  sameOp : ∀ path, d.path = some path → ∃ path' op, d'.path = some path' ∧
    p.opAt path = some op ∧ p'.opAt path' = some op ∧
    d'.opKind = some op.kind ∧ d'.location = op.location

lemma Diagnostic.PointsInto.movedTo {p p' : Program} {d : Diagnostic} {a : OpPath}
    (h : d.PointsInto p)
    (hfound : ∀ path y, p.opAt path = some y → p'.opAt (path.rebased a) = some y) :
    d.MovedTo p p' (d.rebased a) where
  severity := rfl
  message := rfl
  location := rfl
  opKind := rfl
  noPath hd := by simp [Diagnostic.rebased, hd]
  sameOp path hd := by
    obtain ⟨op, hop, hkind, hlocation⟩ := h path hd
    exact ⟨path.rebased a, op, by simp [Diagnostic.rebased, hd], hop, hfound path op hop, hkind,
      hlocation⟩

namespace Pass

/-- The gate names the op that it finds. -/
theorem verify_honest (stage : String) (rule : LegalityRule) : (verify stage rule).Honest := by
  intro p e he _ d hd path hpath
  rw [verify] at he ⊢
  cases hv : rule.violation? p with
  | none =>
    rw [hv] at he
    cases he
  | some v =>
    rw [hv] at he
    cases he
    rw [PipelineError.diagnostics, List.mem_singleton] at hd
    subst hd
    obtain ⟨before, x, after, hsplit, _, _, rfl⟩ := LegalityRule.violation?_eq_some.1 hv
    have hx : x ∈ p.addressed := by simp [hsplit]
    cases hpath
    exact ⟨x.2, Program.mem_addressed.1 hx, rfl, rfl⟩

/-- A pass that only fails with a text is honest: there is no path. -/
lemma honest_of_failure {f : Pass}
    (h : ∀ p e, (f p).result = .error e → ∃ stage text, e = .failure stage text) : f.Honest := by
  intro p e he _ d hd path hpath
  obtain ⟨stage, text, rfl⟩ := h p e he
  rw [PipelineError.failure, PipelineError.diagnostics, List.mem_singleton] at hd
  subst hd
  cases hpath

lemma foldConstants_error {h : Hooks} {p : Program} {e : PipelineError}
    (he : (foldConstants h p).result = .error e) : ∃ stage text, e = .failure stage text := by
  rw [foldConstants] at he
  split at he
  · cases he
  · split at he
    · cases he
    · cases he
      exact ⟨_, _, rfl⟩

lemma dumpStatistics_error {refusal : Refusal} {format : StatisticsFormat} {file : Option String}
    {p : Program} {e : PipelineError} (he : (dumpStatistics refusal format file p).result = .error e) :
    ∃ stage text, e = .failure stage text := by
  rw [dumpStatistics] at he
  split at he
  · cases he
  · dsimp only at he
    split at he
    · cases he
    · split at he
      · cases he
      · cases he
        exact ⟨_, _, rfl⟩

lemma edit_honest (f : Program → Program) : (edit f).Honest := by
  intro p e he
  cases he

end Pass

theorem Provider.builtin_honest (h : Hooks) (refusal : Refusal) (kind : StageKind) :
    (Provider.builtin h refusal kind).Honest := by
  unfold Provider.builtin
  split
  · exact Pass.honest_of_failure fun _ _ => Pass.foldConstants_error
  · exact Pass.edit_honest _
  · exact Pass.honest_of_failure fun _ _ => Pass.dumpStatistics_error
  · exact Pass.verify_honest _ _
  · exact Pass.edit_honest _
  · exact Pass.edit_honest id

namespace Executor

/-- Messages of a failed run point into the caller's program. With honest passes, a run that fails in a
stage or at the gate gives the messages of the pass that failed last, moved to the program that the run
leaves: as many, in the same order, with the same texts and about the same ops. The gate is honest, and so
are the builtin passes all together. -/
theorem run_diagnostics_moved :
    (∀ stage rule, (Pass.verify stage rule).Honest) ∧
    (∀ h refusal kind, (Provider.builtin h refusal kind).Honest) ∧
    ∀ provider : Provider, (∀ kind, (provider kind).Honest) →
      ∀ (stages : List Stage) (p : Program) (e : PipelineError),
        (run provider stages p).result = .error e → e.isConfig = false →
        ∃ kind q e₀, (provider kind q).result = .error e₀ ∧
          (∃ before, (run provider stages p).events =
            before ++ .entered kind q :: (provider kind q).events) ∧
          e.stageName? = e₀.stageName? ∧ e.category = e₀.category ∧
          List.Forall₂ (Diagnostic.MovedTo (provider kind q).state (run provider stages p).state)
            e₀.diagnostics e.diagnostics := by
  refine ⟨Pass.verify_honest, Provider.builtin_honest, ?_⟩
  intro provider honest stages p e he hconfig
  obtain ⟨kind, q, e₀, a, ht⟩ := run_traces provider stages p e he
  obtain rfl := ht.error
  rw [PipelineError.isConfig_rebased] at hconfig
  refine ⟨kind, q, e₀, ht.failed, ht.last, by cases e₀ <;> rfl, by cases e₀ <;> rfl, ?_⟩
  rw [PipelineError.diagnostics_rebased hconfig, List.forall₂_map_right_iff, List.forall₂_same]
  intro d hd
  exact (honest kind q e₀ ht.failed hconfig d hd).movedTo ht.found

/-- An assertion in front of a function that holds an op with a marker, in the second of two modules. -/
def markedBehindAssertion : Program :=
  ⟨[Op.ofKind "builtin.module", ⟨{ kind := "builtin.module" }, [[[Op.ofKind "util.assert",
    ⟨{ kind := "func.func" }, [[[refusedOp]]]⟩]]]⟩]⟩

/-- The gate in each function of each module, without the assertions. -/
def gateInFunctions : List Stage :=
  [.nested "builtin.module" [.nested "util.assert" [.pass .stripAssertions],
    .nested "func.func" [.pass (.verifyLegality .initial)]]]

/-- The function is the first op of its module by the time the gate fails in it. -/
theorem run_diagnostics_moved_gate : ∃ e kind q e₀,
    (run (.builtin {} fun _ => none) gateInFunctions markedBehindAssertion).result = .error e ∧
    e.diagnostics.map (·.path) = [some ⟨[1, 0, 0, 0, 0, 0, 0]⟩] ∧
    (Provider.builtin {} (fun _ => none) kind q).result = .error e₀ ∧
    List.Forall₂ (Diagnostic.MovedTo (Provider.builtin {} (fun _ => none) kind q).state
      (run (.builtin {} fun _ => none) gateInFunctions markedBehindAssertion).state)
      e₀.diagnostics e.diagnostics := by
  obtain ⟨-, honest, hmoved⟩ := run_diagnostics_moved
  obtain ⟨kind, q, e₀, hfailed, -, -, -, hsame⟩ := hmoved (.builtin {} fun _ => none) (honest _ _)
    gateInFunctions markedBehindAssertion _ rfl (by rfl)
  exact ⟨_, kind, q, e₀, rfl, rfl, hfailed, hsame⟩

end Executor
end StagedLowering
