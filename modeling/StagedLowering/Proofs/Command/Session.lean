import StagedLowering.Command.Tool
import StagedLowering.Proofs.Refusal

/-! Stages inside a session. They end as a run of the executor does with the refusals of the world, and
others see the events of that run. -/
namespace StagedLowering

namespace Command

variable {α β σ : Type} {w : World}

/-- The effects of a session come before those of what follows it. -/
lemma Session.run_bind (s : Session α) (f : α → Session β) :
    (s.bind f).run w =
      (((f (s.run w).1).run w).1, (s.run w).2 ++ ((f (s.run w).1).run w).2) := by
  induction s with
  | done a => rfl
  | environment next ih => exact ih w.environment
  | readFile path next ih => simp [Session.bind, Session.run, ih]
  | readInput next ih => simp [Session.bind, Session.run, ih]
  | writeFile path text next ih => simp [Session.bind, Session.run, ih]
  | print text next ih =>
    cases hprint : w.printRefusal <;> simp [Session.bind, Session.run, ih, hprint]
  | complain text next ih => simp [Session.bind, Session.run, ih]
  | enter stage next ih => simp [Session.bind, Session.run, ih]
  | clock next ih => exact ih w.now

lemma Session.run_bind_of_eq {s : Session α} {f : α → Session β} {a : α} {b : β}
    {es es' : List Effect} (hs : s.run w = (a, es)) (hf : (f a).run w = (b, es')) :
    (s.bind f).run w = (b, es ++ es') := by
  rw [run_bind, hs, hf]

lemma Session.run_bind_done {s : Session α} {f : α → Session β} {a : α} {b : β} {es : List Effect}
    (hs : s.run w = (a, es)) (hf : f a = .done b) : (s.bind f).run w = (b, es) := by
  rw [run_bind, hs, hf]
  exact congrArg (b, ·) (List.append_nil es)

lemma fail_run {f : Failure} {code : Nat} (h : f.exitCode = code) :
    (fail f).run w = (code, [.complained f.text]) := by
  rw [← h]
  rfl

/-- What others see of an event when a session does it. -/
def Effect.ofEvent? : Event → Option Effect
  | .entered stage _ => some (.entered stage)
  | .wrote path text => some (.wrote path text)
  | .logged _ => none

def effectsOf (events : List Event) : List Effect := events.filterMap Effect.ofEvent?

@[simp] lemma effectsOf_nil : effectsOf [] = [] := rfl
@[simp] lemma effectsOf_entered (stage : StageKind) (p : Program) (events : List Event) :
    effectsOf (.entered stage p :: events) = .entered stage :: effectsOf events := rfl
@[simp] lemma effectsOf_wrote (path text : String) (events : List Event) :
    effectsOf (.wrote path text :: events) = .wrote path text :: effectsOf events := rfl
@[simp] lemma effectsOf_logged (text : String) (events : List Event) :
    effectsOf (.logged text :: events) = effectsOf events := rfl

lemma effectsOf_append (a b : List Event) : effectsOf (a ++ b) = effectsOf a ++ effectsOf b :=
  List.filterMap_append

lemma replay_accepted {events : List Event} (h : Refusal.Accepts w.refusal events) :
    (replay events).run w = (none, effectsOf events) := by
  induction events with
  | nil => rfl
  | cons event events ih =>
    obtain ⟨hfirst, hrest⟩ := Refusal.accepts_append (a := [event]).1 h
    cases event with
    | entered stage p => simp [replay, Session.run, ih hrest]
    | wrote path text =>
      have hpath : w.refusal path = none := hfirst path text List.mem_cons_self
      simp [replay, Session.run, hpath, ih hrest]
    | logged text => simp [replay, ih hrest]

lemma replay_refused {before : List Event} (h : Refusal.Accepts w.refusal before)
    {path cause : String} (hpath : w.refusal path = some cause) (text : String)
    (after : List Event) :
    (replay (before ++ .wrote path text :: after)).run w =
      (some (path, cause), effectsOf before ++ [.refused path]) := by
  induction before with
  | nil => simp [replay, Session.run, hpath]
  | cons event before ih =>
    obtain ⟨hfirst, hrest⟩ := Refusal.accepts_append (a := [event]).1 h
    cases event with
    | entered stage p => simp [replay, Session.run, ih hrest]
    | wrote path' text' =>
      have hpath' : w.refusal path' = none := hfirst path' text' List.mem_cons_self
      simp [replay, Session.run, hpath', ih hrest]
    | logged text => simp [replay, ih hrest]

/-- What others see of an outcome: its events and, when it failed at a file that cannot be written, that
file. -/
inductive Shows (w : World) (o : Outcome PipelineError σ α) : List Effect → Prop
  | events : Shows w o (effectsOf o.events)
  | refused {path cause : String} {e : PipelineError} (hpath : w.refusal path = some cause)
    (hfailed : o.result = .error e) : Shows w o (effectsOf o.events ++ [.refused path])

lemma Shows.of_ok {o : Outcome PipelineError σ α} {es : List Effect} (h : Shows w o es) {a : α}
    (hok : o.result = .ok a) : es = effectsOf o.events := by
  cases h with
  | events => rfl
  | refused hpath hfailed =>
    rw [hok] at hfailed
    cases hfailed

lemma Shows.map {o : Outcome PipelineError σ α} {es : List Effect} (h : Shows w o es) (g : α → β) :
    Shows w (o.map id g) es := by
  cases h with
  | events => exact .events
  | refused hpath hfailed => exact .refused hpath (Outcome.map_eq_error.2 hfailed)

lemma Shows.after {o : Outcome PipelineError σ α} {es : List Effect} (h : Shows w o es)
    (events : List Event) : Shows w (o.after events) (effectsOf events ++ es) := by
  cases h with
  | events =>
    rw [← effectsOf_append]
    exact .events
  | refused hpath hfailed =>
    rw [← List.append_assoc, ← effectsOf_append]
    exact .refused hpath hfailed

/-- A stage inside a session ends as it does with the refusals of the world. -/
lemma runStage_run (w : World) (h : Hooks) (s : Stage) (p : Program) : ∃ es,
    (runStage h s p).run w = (Executor.runStage (.builtin h w.refusal) s p, es) ∧
      Shows w (Executor.runStage (.builtin h w.refusal) s p) es := by
  have hstops := Executor.runStage_stops h s p
  rcases Refusal.accepts_or_refuses w.refusal
    (Executor.runStage (.builtin h .nothing) s p).events with
    hall | ⟨before, path, text, after, cause, hevents, hbefore, hcause⟩
  · rw [hstops.accepted w.refusal hall]
    exact ⟨_, Session.run_bind_done (replay_accepted hall) rfl, .events⟩
  · obtain ⟨q, e, hstop⟩ := hstops.refused before path text after cause hevents
    -- The session runs the stage again with this file alone refused.
    have hone : Refusal.Accepts (refuseOne path cause) before := by
      intro path' text' hmem
      refine if_neg fun heq => ?_
      have haccepted := hbefore path' text' hmem
      rw [heq, hcause] at haccepted
      cases haccepted
    have hagain := hstop (refuseOne path cause) hone (if_pos rfl)
    rw [hstop w.refusal hbefore hcause]
    refine ⟨effectsOf before ++ [.refused path], ?_, .refused hcause rfl⟩
    have hreplay := replay_refused hbefore hcause text after
    rw [← hevents] at hreplay
    rw [← hagain]
    exact Session.run_bind_done hreplay rfl

/-- Stages inside a session end as a run with the refusals of the world does, and leave the entries of
its report. -/
lemma runStages_run (w : World) (h : Hooks) (stages : List Stage) (p : Program) : ∃ r es,
    (runStages h stages p).run w =
        (((Executor.run (.builtin h w.refusal) stages p).state, r), es) ∧
      r.map (List.map StageMetrics.entry) = (Executor.run (.builtin h w.refusal) stages p).result ∧
      Shows w (Executor.run (.builtin h w.refusal) stages p) es := by
  induction stages generalizing p with
  | nil => exact ⟨.ok [], [], rfl, rfl, .events⟩
  | cons s rest ih =>
    obtain ⟨es, hrun, hshows⟩ := runStage_run w h s p
    rw [Executor.run]
    cases hres : (Executor.runStage (.builtin h w.refusal) s p).result with
    | error e =>
      rw [Outcome.andThen_of_error hres]
      refine ⟨.error e, es, ?_, rfl, ?_⟩
      · refine Session.run_bind_done hrun ?_
        simp only [hres, id]
      · cases hshows with
        | events => exact .events
        | refused hpath _ => exact .refused hpath rfl
    | ok n =>
      rw [Outcome.andThen_of_ok hres]
      obtain ⟨r, es', hrun', hreport, hshows'⟩ :=
        ih (Executor.runStage (.builtin h w.refusal) s p).state
      rw [hshows.of_ok hres] at hrun
      refine ⟨r.map (⟨⟨s.label, n, (Executor.runStage (.builtin h w.refusal) s p).state.opCount⟩,
        .ofNanos (w.now - w.now)⟩ :: ·), _, ?_, ?_, (hshows'.map _).after _⟩
      · refine Session.run_bind_of_eq hrun ?_
        simp only [hres]
        exact Session.run_bind_done hrun' rfl
      · rw [Outcome.after_result, Outcome.map_result, ← hreport]
        cases r <;> rfl

end Command
end StagedLowering
