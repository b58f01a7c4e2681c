import StagedLowering.Proofs.Running

/-! Which passes a run calls, and on what. A pass may note things of its own, so the calls are read off a
run of the same passes without their notes; that run ends in the same way. -/
namespace StagedLowering

namespace Outcome

variable {ε ε' σ τ α β : Type}

/-- Two computations end with the same state and result, whatever was seen on the way. -/
structure EndsAlike (o o' : Outcome ε σ α) : Prop where
  state : o.state = o'.state
  result : o.result = o'.result

lemma EndsAlike.rfl {o : Outcome ε σ α} : EndsAlike o o := ⟨Eq.refl _, Eq.refl _⟩

lemma EndsAlike.map {o o' : Outcome ε σ α} (h : EndsAlike o o') (f : σ → τ) (g : α → β) :
    EndsAlike (o.map f g) (o'.map f g) :=
  ⟨congrArg f h.state, congrArg (Except.map g) h.result⟩

lemma EndsAlike.mapError {o o' : Outcome ε σ α} (h : EndsAlike o o') (f : ε → ε') :
    EndsAlike (o.mapError f) (o'.mapError f) :=
  ⟨h.state, congrArg (Except.mapError f) h.result⟩

lemma EndsAlike.after {o o' : Outcome ε σ α} (h : EndsAlike o o') (l l' : List Event) :
    EndsAlike (o.after l) (o'.after l') := ⟨h.state, h.result⟩

lemma EndsAlike.andThen {o o' : Outcome ε σ α} {next next' : σ → α → Outcome ε τ β}
    (h : EndsAlike o o') (hnext : ∀ s a, EndsAlike (next s a) (next' s a)) (stop : σ → τ) :
    EndsAlike (o.andThen stop next) (o'.andThen stop next') := by
  cases hres : o.result with
  | error e =>
    rw [andThen_of_error hres, andThen_of_error (h.result ▸ hres)]
    exact ⟨congrArg stop h.state, Eq.refl _⟩
  | ok a =>
    rw [andThen_of_ok hres, andThen_of_ok (h.result ▸ hres), h.state]
    exact (hnext o'.state a).after _ _

end Outcome

/-- The same passes without what they note. -/
def Provider.silent (provider : Provider) : Provider := fun kind p =>
  { provider kind p with events := [] }

/-- The pass that was entered, with the program it got. -/
def Event.entry? : Event → Option (StageKind × Program)
  | .entered kind p => some (kind, p)
  | _ => none

namespace Stage

lemma allPasses_append (a b : List Stage) : allPasses (a ++ b) = allPasses a ++ allPasses b := by
  induction a with
  | nil => rw [List.nil_append, allPasses, List.nil_append]
  | cons s rest ih => rw [List.cons_append, allPasses, allPasses, ih, List.append_assoc]

end Stage

namespace Executor

open Outcome

variable {α : Type} {anchor : String} {body body' : Body}

lemma sweepEach_alike {sweep sweep' : List Nat → α → Outcome PipelineError (List α) Nat} {xs : List α}
    (h : ∀ a ∈ xs, ∀ path, EndsAlike (sweep path a) (sweep' path a)) (base : List Nat) (i : Nat) :
    EndsAlike (sweepEach sweep base i xs) (sweepEach sweep' base i xs) := by
  induction xs generalizing i with
  | nil => exact .rfl
  | cons a rest ih =>
    rw [List.forall_mem_cons] at h
    exact (h.1 _).andThen (fun as m => (ih h.2 (i + as.length)).map _ _) _

theorem sweepOp_alike (hbody : ∀ q, EndsAlike (body q) (body' q)) (op : Op) : ∀ path,
    EndsAlike (sweepOp anchor body path op) (sweepOp anchor body' path op) := by
  induction op using Op.induction with
  | step h regions ih =>
    intro path
    rw [sweepOp, sweepOp]
    split
    · exact ((hbody _).map _ _).mapError _
    · rw [sweepRegions_eq, sweepRegions_eq]
      refine (sweepEach_alike (fun region hr path => ?_) path 0).map _ _
      rw [sweepRegion_eq, sweepRegion_eq]
      refine (sweepEach_alike (fun block hb path => ?_) path 0).map _ _
      rw [sweepBlock_eq, sweepBlock_eq]
      exact (sweepEach_alike (ih region hr block hb) path 0).map _ _

lemma sweep_alike (hbody : ∀ q, EndsAlike (body q) (body' q)) (p : Program) :
    EndsAlike (sweep anchor body p) (sweep anchor body' p) := by
  rw [sweep, sweep, sweepBlock_eq, sweepBlock_eq]
  exact (sweepEach_alike (fun op _ => sweepOp_alike hbody op) [] 0).map _ _

mutual
theorem runStage_silent (provider : Provider) : ∀ (s : Stage) (p : Program),
    EndsAlike (runStage provider.silent s p) (runStage provider s p)
  | .pass kind, p => by
    rw [runStage, runStage]
    exact ⟨rfl, rfl⟩
  | .nested anchor stages, p => by
    rw [runStage, runStage]
    exact sweep_alike (runBody_silent provider stages) p

theorem runBody_silent (provider : Provider) : ∀ (stages : List Stage) (p : Program),
    EndsAlike (runBody provider.silent stages p) (runBody provider stages p)
  | [], p => by
    rw [runBody, runBody]
    exact .rfl
  | s :: rest, p => by
    rw [runBody, runBody]
    exact (runStage_silent provider s p).andThen (fun q _ => runBody_silent provider rest q) id
end

/-- What the passes note does not change how a run ends. -/
theorem run_silent (provider : Provider) (stages : List Stage) (p : Program) :
    EndsAlike (run provider.silent stages p) (run provider stages p) := by
  induction stages generalizing p with
  | nil => exact .rfl
  | cons s rest ih => exact (runStage_silent provider s p).andThen (fun q _ => (ih q).map _ _) id

/-- The passes that a run calls, each with the program it gets, in order. -/
def invoked (provider : Provider) (stages : List Stage) (p : Program) : List (StageKind × Program) :=
  (run provider.silent stages p).events.filterMap Event.entry?

variable {provider : Provider} {stages a b : List Stage} {p : Program}

lemma invoked_pass (provider : Provider) (kind : StageKind) (p : Program) :
    invoked provider [.pass kind] p = [(kind, p)] := by
  have hevents : (run provider.silent [.pass kind] p).events = [.entered kind p] := by
    rw [run, runStage]
    cases hres : (runPass provider.silent kind p).result with
    | error e =>
      rw [andThen_of_error hres]
      rfl
    | ok n =>
      rw [andThen_of_ok hres]
      rfl
  rw [invoked, hevents]
  rfl

/-- After a failure no later stage is called. -/
lemma invoked_append_of_error {e : PipelineError} (h : (run provider a p).result = .error e)
    (b : List Stage) : invoked provider (a ++ b) p = invoked provider a p := by
  have hsilent := run_silent provider a p
  rw [invoked, run_append, andThen_of_error (hsilent.result.trans h)]
  rfl

/-- After success the later stages are called on the program that the earlier ones leave. -/
lemma invoked_append_of_ok {report : List Entry} (h : (run provider a p).result = .ok report)
    (b : List Stage) :
    invoked provider (a ++ b) p =
      invoked provider a p ++ invoked provider b (run provider a p).state := by
  have hsilent := run_silent provider a p
  rw [invoked, run_append, andThen_of_ok (hsilent.result.trans h), hsilent.state]
  simp [invoked]

/-- All that is seen of an outcome are entries of passes of the given kinds. -/
def Enters (kinds : List StageKind) (o : Outcome PipelineError Program α) : Prop :=
  ∀ e ∈ o.events, ∃ kind ∈ kinds, ∃ q, e = .entered kind q

lemma Enters.andThen {β : Type} {kinds kinds' : List StageKind} {o : Outcome PipelineError Program α}
    {next : Program → α → Outcome PipelineError Program β} (h : Enters kinds o)
    (hnext : ∀ q a, Enters kinds' (next q a)) : Enters (kinds ++ kinds') (o.andThen id next) := by
  intro e he
  have hfirst : e ∈ o.events → ∃ kind ∈ kinds ++ kinds', ∃ q, e = .entered kind q := by
    intro he
    obtain ⟨kind, hkind, q, rfl⟩ := h e he
    exact ⟨kind, List.mem_append_left _ hkind, q, rfl⟩
  cases hres : o.result with
  | error e' =>
    rw [andThen_of_error hres] at he
    exact hfirst he
  | ok a =>
    rw [andThen_of_ok hres, after_events] at he
    rcases List.mem_append.1 he with he | he
    · exact hfirst he
    · obtain ⟨kind, hkind, q, rfl⟩ := hnext o.state a e he
      exact ⟨kind, List.mem_append_right _ hkind, q, rfl⟩

mutual
theorem runStage_enters (provider : Provider) : ∀ (s : Stage) (p : Program),
    Enters s.passes (runStage provider.silent s p)
  | .pass kind, p => by
    rw [runStage, runPass, Stage.passes]
    intro e he
    exact ⟨kind, List.mem_singleton_self kind, p, List.mem_singleton.1 he⟩
  | .nested anchor stages, p => by
    rw [runStage, Stage.passes]
    intro e he
    obtain ⟨done, todo, hs⟩ := swept_program anchor (runBody provider.silent stages) p
    rw [hs.events] at he
    obtain ⟨x, -, he⟩ := List.mem_flatMap.1 he
    exact runBody_enters provider stages ⟨[x.2]⟩ e he

theorem runBody_enters (provider : Provider) : ∀ (stages : List Stage) (p : Program),
    Enters (Stage.allPasses stages) (runBody provider.silent stages p)
  | [], p => by
    rw [runBody]
    intro e he
    cases he
  | s :: rest, p => by
    rw [runBody, Stage.allPasses]
    exact (runStage_enters provider s p).andThen fun q _ => runBody_enters provider rest q
end

theorem run_enters (provider : Provider) (stages : List Stage) (p : Program) :
    Enters (Stage.allPasses stages) (run provider.silent stages p) := by
  induction stages generalizing p with
  | nil =>
    intro e he
    cases he
  | cons s rest ih =>
    rw [run, Stage.allPasses]
    exact (runStage_enters provider s p).andThen fun q _ => ih q

/-- A run calls the passes of its stages and no others. -/
theorem kind_mem_of_mem_invoked {x : StageKind × Program} (hx : x ∈ invoked provider stages p) :
    x.1 ∈ Stage.allPasses stages := by
  obtain ⟨e, he, hentry⟩ := List.mem_filterMap.1 hx
  obtain ⟨kind, hkind, q, rfl⟩ := run_enters provider stages p e he
  cases hentry
  exact hkind

end Executor
end StagedLowering
