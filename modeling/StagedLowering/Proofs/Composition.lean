import StagedLowering.Proofs.Invocation

/-! Runs compose: to run stages and then others is to run them all. The report tells each stage apart, with
what it found and left at its place in the run. -/
namespace StagedLowering.Executor

variable {provider : Provider} {stages a b : List Stage} {p q : Program}

/-- After a stage that succeeds a run is where the run of the other stages is on what the stage leaves. -/
lemma run_cons_state {s : Stage} {n : Nat} (h : (runStage provider s p).Gives q n)
    (stages : List Stage) : (run provider (s :: stages) p).state = (run provider stages q).state := by
  rw [run, Outcome.andThen_of_ok h.2, h.1]
  rfl

/-- What a report says about the stage behind the first `i`: its label, on how many scopes it ran on the
program that those stages leave, and the number of ops that it left itself. -/
structure EntryAt (provider : Provider) (stages : List Stage) (p : Program) (i : Nat) (s : Stage)
    (e : Entry) : Prop where
  label : e.label = s.label
  scopes : (runStage provider s (run provider (stages.take i) p).state).result = .ok e.scopes
  opsAfter : e.opsAfter = (run provider (stages.take (i + 1)) p).state.opCount

lemma EntryAt.cons {s s' : Stage} {n i : Nat} {e : Entry} (hs : (runStage provider s p).Gives q n)
    (h : EntryAt provider stages q i s' e) : EntryAt provider (s :: stages) p (i + 1) s' e where
  label := h.label
  scopes := by
    rw [List.take_succ_cons, run_cons_state hs]
    exact h.scopes
  opsAfter := by
    rw [List.take_succ_cons, run_cons_state hs]
    exact h.opsAfter

/-- A report has one entry for each stage, in the order of the stages. -/
theorem run_entries {es : List Entry} (h : (run provider stages p).Gives q es) :
    es.length = stages.length ∧
      ∀ (i : Nat) s, stages[i]? = some s → ∃ e, es[i]? = some e ∧ EntryAt provider stages p i s e := by
  induction stages generalizing p es with
  | nil =>
    obtain ⟨rfl, rfl⟩ := Outcome.ok_gives.1 h
    exact ⟨rfl, by simp⟩
  | cons s stages ih =>
    obtain ⟨q₁, n, hs, rest, hrest, rfl⟩ := run_cons_gives.1 h
    obtain ⟨hlength, hentries⟩ := ih hrest
    refine ⟨congrArg Nat.succ hlength, fun i s' hi => ?_⟩
    cases i with
    | zero =>
      cases hi
      exact ⟨_, rfl, rfl, hs.2, by rw [List.take_succ_cons, run_cons_state hs]; rfl⟩
    | succ i =>
      obtain ⟨e, he, hentry⟩ := hentries i s' hi
      exact ⟨e, he, hentry.cons hs⟩

/-- Runs compose. Stages in two parts run through exactly when the first part does and the second one does
on what the first leaves; the programs at the end agree, and the report is the one report behind the other,
with one entry for each stage about the program at its place. A failure of the first part is the end: same
error, same program, and no pass is called that the first part has not called. A failure of the second part
is the failure of its run on what the first leaves. -/
theorem run_composes (provider : Provider) (a b : List Stage) (p : Program) :
    ((∃ report, (run provider (a ++ b) p).result = .ok report) ↔
      (∃ report, (run provider a p).result = .ok report) ∧
        ∃ report, (run provider b (run provider a p).state).result = .ok report) ∧
    (∀ report report', (run provider a p).result = .ok report →
      (run provider b (run provider a p).state).result = .ok report' →
      (run provider (a ++ b) p).result = .ok (report ++ report') ∧
      (run provider (a ++ b) p).state = (run provider b (run provider a p).state).state ∧
      invoked provider (a ++ b) p =
        invoked provider a p ++ invoked provider b (run provider a p).state) ∧
    (∀ report, (run provider (a ++ b) p).result = .ok report →
      report.length = (a ++ b).length ∧
      ∀ (i : Nat) s, (a ++ b)[i]? = some s →
        ∃ e, report[i]? = some e ∧ EntryAt provider (a ++ b) p i s e) ∧
    (∀ e, (run provider a p).result = .error e →
      (run provider (a ++ b) p).result = .error e ∧
      (run provider (a ++ b) p).state = (run provider a p).state ∧
      (run provider (a ++ b) p).events = (run provider a p).events ∧
      invoked provider (a ++ b) p = invoked provider a p) ∧
    ∀ report e, (run provider a p).result = .ok report →
      (run provider b (run provider a p).state).result = .error e →
      (run provider (a ++ b) p).result = .error e ∧
      (run provider (a ++ b) p).state = (run provider b (run provider a p).state).state := by
  refine ⟨⟨?_, ?_⟩, ?_, ?_, ?_, ?_⟩
  · rintro ⟨report, h⟩
    obtain ⟨r, ⟨ha, rfl⟩, hb, -⟩ := reaches_append.1 ⟨⟨report, h⟩, rfl⟩
    exact ⟨ha, hb⟩
  · rintro ⟨ha, hb⟩
    exact (reaches_append.2 ⟨_, ⟨ha, rfl⟩, hb, rfl⟩).1
  · intro report report' ha hb
    obtain ⟨hstate, hresult⟩ :=
      run_append_gives.2 ⟨_, report, ⟨rfl, ha⟩, report', ⟨rfl, hb⟩, rfl⟩
    exact ⟨hresult, hstate, invoked_append_of_ok ha b⟩
  · intro report h
    exact run_entries ⟨rfl, h⟩
  · intro e ha
    have hrun : run provider (a ++ b) p =
        ⟨(run provider a p).state, .error e, (run provider a p).events⟩ := by
      rw [run_append]
      exact Outcome.andThen_of_error ha _ _
    rw [invoked_append_of_error ha, hrun]
    exact ⟨rfl, rfl, rfl, rfl⟩
  · intro report e ha hb
    exact Reaches.stops ⟨⟨report, ha⟩, rfl⟩ ⟨hb, rfl⟩

/-- Doubles every function by itself. -/
def doubleFunctions : List Stage := [.nested "func.func" [.pass .stripAssertions]]

/-- Fails if there is an assertion. -/
def forbidAssertions : List Stage := [.pass .xlaCleanup]

/-- Without assertions both parts run through: two functions are doubled, and there are seven ops then. The
second part fails on assertions that the first has doubled, and what fails first is not followed by anything. -/
theorem run_composes_doubled :
    (∃ report e, (run doubleOrForbid (doubleFunctions ++ forbidAssertions) nestedFunctions).result =
        .ok report ∧ report[0]? = some e ∧
      EntryAt doubleOrForbid (doubleFunctions ++ forbidAssertions) nestedFunctions 0
        (.nested "func.func" [.pass .stripAssertions]) e ∧ e.scopes = 2 ∧ e.opsAfter = 7) ∧
    (∃ e, (run doubleOrForbid (doubleFunctions ++ forbidAssertions) assertingSecond).result = .error e ∧
      e.diagnostics.map (·.path) = [some ⟨[2, 0, 0, 0]⟩, some ⟨[3, 0, 0, 0]⟩]) ∧
    invoked doubleOrForbid (forbidAssertions ++ doubleFunctions) assertingSecond =
      [(.xlaCleanup, assertingSecond)] := by
  obtain ⟨-, hok, hentries, -⟩ :=
    run_composes doubleOrForbid doubleFunctions forbidAssertions nestedFunctions
  obtain ⟨-, -, -, -, hsecond⟩ :=
    run_composes doubleOrForbid doubleFunctions forbidAssertions assertingSecond
  obtain ⟨-, -, -, hfirst, -⟩ :=
    run_composes doubleOrForbid forbidAssertions doubleFunctions assertingSecond
  obtain ⟨hreport, -⟩ := hok _ _ rfl rfl
  obtain ⟨-, hstages⟩ := hentries _ hreport
  obtain ⟨e, he, hentry⟩ := hstages 0 _ rfl
  obtain ⟨-, -, -, hinvoked⟩ := hfirst _ rfl
  refine ⟨⟨_, e, hreport, he, hentry, ?_⟩, ⟨_, (hsecond _ _ rfl rfl).1, rfl⟩,
    hinvoked.trans (invoked_pass _ _ _)⟩
  cases he
  exact ⟨rfl, rfl⟩

end StagedLowering.Executor
