import Mathlib.Logic.Relation
import StagedLowering.Proofs.Running

/-! Batches whose runs take turns. A turn is the next stage of some program that is not finished, so a batch
can be worked off in many ways. How the run on a program ends is settled from the start: the turns of
other programs do not touch it, and its own bring it nearer to that end. -/
namespace StagedLowering.Executor

open Relation

/-- A run on the way: the stages to come, and what those before them have come to. -/
structure Job where
  stages : List Stage
  outcome : Outcome PipelineError Program (List Entry)

namespace Job

variable {provider : Provider} {j j' : Job}

/-- A run before its first stage. -/
def start (stages : List Stage) (p : Program) : Job := ⟨stages, .ok p []⟩

/-- The run after its next stage; there is none after the last stage or a failure. -/
def next? (provider : Provider) (j : Job) : Option Job :=
  match j.outcome.result, j.stages with
  | .ok _, s :: rest =>
    some ⟨rest, j.outcome.andThen id fun p entries =>
      (runStage provider s p).andThen id fun q n => .ok q (entries ++ [⟨s.label, n, q.opCount⟩])⟩
  | _, _ => none

/-- All stages were run, or one failed. -/
def Finished (j : Job) : Prop := j.stages = [] ∨ ∃ e, j.outcome.result = .error e

/-- What the run comes to when the stages to come are run without a break. -/
def final (provider : Provider) (j : Job) : Outcome PipelineError Program (List Entry) :=
  j.outcome.andThen id fun p entries => (run provider j.stages p).map id (entries ++ ·)

lemma final_start (stages : List Stage) (p : Program) :
    (start stages p).final provider = run provider stages p := by
  rw [final, start, Outcome.ok_andThen]
  exact Outcome.map_id _

lemma final_of_finished (h : j.Finished) : j.final provider = j.outcome := by
  obtain ⟨stages, outcome⟩ := j
  cases hresult : outcome.result with
  | error e =>
    rw [final, Outcome.andThen_of_error hresult, ← hresult]
    rfl
  | ok entries =>
    rcases h with rfl | ⟨e, herror⟩
    · rw [final, Outcome.andThen_of_ok hresult, run]
      simp [Outcome.ok, Outcome.map, Outcome.after, Except.map, ← hresult]
    · cases hresult.symm.trans herror

lemma next?_eq_none : j.next? provider = none ↔ j.Finished := by
  obtain ⟨stages, outcome⟩ := j
  cases hresult : outcome.result with
  | error e => simp [next?, Finished, hresult]
  | ok entries => cases stages <;> simp [next?, Finished, hresult]

/-- What a turn does, on a run that can take one. -/
lemma next?_eq_some (h : j.next? provider = some j') : ∃ s, j.stages = s :: j'.stages ∧
    j'.outcome = j.outcome.andThen id fun p entries => (runStage provider s p).andThen id fun q n =>
      .ok q (entries ++ [⟨s.label, n, q.opCount⟩]) := by
  unfold next? at h
  split at h
  · next s rest _ hstages =>
    cases h
    exact ⟨s, hstages, rfl⟩
  · cases h

/-- A turn does not change what the run comes to. -/
lemma final_next (h : j.next? provider = some j') : j'.final provider = j.final provider := by
  obtain ⟨s, hstages, houtcome⟩ := next?_eq_some h
  rw [final, final, houtcome, hstages, Outcome.andThen_andThen]
  congr 1
  funext p entries
  rw [run, Outcome.andThen_andThen, Outcome.andThen_map]
  congr 1
  funext q n
  rw [Outcome.ok_andThen, Outcome.map_map]
  simp only [List.append_assoc, List.singleton_append]
  rfl

end Job

/-- A turn of a batch: some run that is not finished runs its next stage. -/
inductive Turn (provider : Provider) : List Job → List Job → Prop
  | next {j j' : Job} (before after : List Job) (h : j.next? provider = some j') :
    Turn provider (before ++ j :: after) (before ++ j' :: after)

variable {provider : Provider} {jobs jobs' : List Job}

lemma Turn.final_eq (h : Turn provider jobs jobs') :
    jobs'.map (Job.final provider) = jobs.map (Job.final provider) := by
  obtain ⟨before, after, hnext⟩ := h
  simp only [List.map_append, List.map_cons, Job.final_next hnext]

lemma Turn.stages_length (h : Turn provider jobs jobs') :
    (jobs.flatMap Job.stages).length = (jobs'.flatMap Job.stages).length + 1 := by
  obtain ⟨before, after, hnext⟩ := h
  obtain ⟨s, hstages, -⟩ := Job.next?_eq_some hnext
  simp only [List.flatMap_append, List.flatMap_cons, List.length_append, hstages, List.length_cons]
  omega

/-- However the turns are taken, every run comes to the same. -/
lemma turns_final_eq (h : ReflTransGen (Turn provider) jobs jobs') :
    jobs'.map (Job.final provider) = jobs.map (Job.final provider) := by
  induction h with
  | refl => rfl
  | tail _ hturn ih => exact hturn.final_eq.trans ih

/-- A batch can always be worked off. -/
lemma exists_finished (provider : Provider) (jobs : List Job) :
    ∃ jobs', ReflTransGen (Turn provider) jobs jobs' ∧ ∀ j ∈ jobs', j.Finished := by
  induction hn : (jobs.flatMap Job.stages).length generalizing jobs with
  | zero =>
    refine ⟨jobs, .refl, fun j hj => .inl ?_⟩
    have hnone := List.flatMap_eq_nil_iff.1 (List.length_eq_zero_iff.1 hn)
    exact hnone j hj
  | succ n ih =>
    by_cases hall : ∀ j ∈ jobs, j.Finished
    · exact ⟨jobs, .refl, hall⟩
    · push Not at hall
      obtain ⟨j, hj, hopen⟩ := hall
      obtain ⟨j', hnext⟩ := Option.ne_none_iff_exists'.1 (mt Job.next?_eq_none.1 hopen)
      obtain ⟨before, after, rfl⟩ := List.append_of_mem hj
      have hturn := Turn.next before after hnext
      obtain ⟨jobs', hturns, hfinished⟩ := ih _ (Nat.succ.inj (hturn.stages_length.symm.trans hn))
      exact ⟨jobs', .head hturn hturns, hfinished⟩

/-- A batch is independent of how its runs take turns. Whatever turns were taken, it can be worked off, and
once all runs are finished, each has ended as it does alone, in the place of its program. -/
theorem runBatch_interleaved (provider : Provider) (stages : List Stage) (ps : List Program)
    (jobs : List Job) (h : ReflTransGen (Turn provider) (ps.map (Job.start stages)) jobs) :
    (∃ jobs', ReflTransGen (Turn provider) jobs jobs' ∧ ∀ j ∈ jobs', j.Finished) ∧
    ((∀ j ∈ jobs, j.Finished) →
      jobs.map Job.outcome = runBatch provider stages ps ∧
      ∀ i : Nat, (jobs[i]?).map Job.outcome = (ps[i]?).map (run provider stages)) := by
  refine ⟨exists_finished provider jobs, fun hfinished => ?_⟩
  have houtcomes : jobs.map Job.outcome = ps.map (run provider stages) := by
    calc
      jobs.map Job.outcome = jobs.map (Job.final provider) :=
        List.map_congr_left fun j hj => (Job.final_of_finished (hfinished j hj)).symm
      _ = (ps.map (Job.start stages)).map (Job.final provider) := turns_final_eq h
      _ = ps.map (run provider stages) := by
        rw [List.map_map]
        exact List.map_congr_left fun p _ => Job.final_start stages p
  refine ⟨houtcomes, fun i => ?_⟩
  rw [← List.getElem?_map, houtcomes, List.getElem?_map]

/-- A program and one without ops, and passes that refuse the latter at the second of three stages. -/
def unevenBatch : List Program := [⟨[]⟩, ⟨[Op.ofKind "func.func"]⟩]

def unevenStages : List Stage :=
  [.pass .commonInputConversion, .pass .stripAssertions, .pass .dropCompilerHints]

def refuseEmpty : Provider := fun kind p =>
  if kind = .stripAssertions ∧ p.ops.length = 0 then .fail p (.stage kind.name []) else .ok p ()

/-- The second program goes first, the first one fails in between, and the second goes on. -/
theorem runBatch_interleaved_uneven : ∃ jobs,
    ReflTransGen (Turn refuseEmpty) (unevenBatch.map (Job.start unevenStages)) jobs ∧
    (∀ j ∈ jobs, j.Finished) ∧ (jobs.map (·.outcome.succeeded)) = [false, true] ∧
    jobs.map Job.outcome = runBatch refuseEmpty unevenStages unevenBatch := by
  have hturns : ∃ jobs, ReflTransGen (Turn refuseEmpty) (unevenBatch.map (Job.start unevenStages)) jobs ∧
      (∀ j ∈ jobs, j.Finished) ∧ (jobs.map (·.outcome.succeeded)) = [false, true] := by
    refine ⟨_, .head (.next [_] [] rfl) (.head (.next [] [_] rfl) (.head (.next [] [_] rfl)
      (.head (.next [_] [] rfl) (.head (.next [_] [] rfl) .refl)))), ?_, rfl⟩
    exact List.forall_mem_cons.2 ⟨.inr ⟨_, rfl⟩, List.forall_mem_cons.2 ⟨.inl rfl, by simp⟩⟩
  obtain ⟨jobs, hturns, hfinished, hends⟩ := hturns
  obtain ⟨-, hall⟩ := runBatch_interleaved refuseEmpty unevenStages unevenBatch jobs hturns
  exact ⟨jobs, hturns, hfinished, hends, (hall hfinished).1⟩

end StagedLowering.Executor
