import StagedLowering.Proofs.Sweep

/-! Runs in parts: stages go on where the run of the stages before them ended. -/
namespace StagedLowering.Executor

theorem run_append (provider : Provider) (a b : List Stage) (p : Program) :
    run provider (a ++ b) p =
      (run provider a p).andThen id fun q es => (run provider b q).map id (es ++ ·) := by
  induction a generalizing p with
  | nil =>
    rw [List.nil_append, run, Outcome.ok_andThen]
    exact (Outcome.map_id _).symm
  | cons s rest ih =>
    rw [List.cons_append, run, run, Outcome.andThen_andThen]
    congr 1
    funext q n
    rw [ih, Outcome.andThen_map, Outcome.map_andThen]
    congr 1
    funext q' es
    rw [Outcome.map_map]
    rfl

lemma run_singleton (provider : Provider) (s : Stage) (p : Program) :
    (run provider [s] p).state = (runStage provider s p).state ∧
      (run provider [s] p).result = (runStage provider s p).result.map fun n =>
        [⟨s.label, n, (runStage provider s p).state.opCount⟩] := by
  rw [run]
  cases hres : (runStage provider s p).result with
  | error e =>
    rw [Outcome.andThen_of_error hres]
    exact ⟨rfl, rfl⟩
  | ok n =>
    rw [Outcome.andThen_of_ok hres, run]
    exact ⟨rfl, rfl⟩

lemma runBody_singleton (provider : Provider) (s : Stage) (q : Program) :
    (runBody provider [s] q).state = (runStage provider s q).state ∧
      (runBody provider [s] q).result = (runStage provider s q).result.map fun _ => () := by
  obtain ⟨hstate, hresult⟩ := run_singleton provider s q
  rw [runBody_eq_run, Outcome.map_state, Outcome.map_result, hstate, hresult]
  refine ⟨rfl, ?_⟩
  cases (runStage provider s q).result <;> rfl

/-- The stages run through and leave the program `q`. -/
def Reaches (provider : Provider) (stages : List Stage) (p q : Program) : Prop :=
  (∃ report, (run provider stages p).result = .ok report) ∧ (run provider stages p).state = q

/-- The stages stop with an error and leave the program `q`. -/
def Stops (provider : Provider) (stages : List Stage) (p : Program) (e : PipelineError)
    (q : Program) : Prop :=
  (run provider stages p).result = .error e ∧ (run provider stages p).state = q

variable {provider : Provider} {stages a b : List Stage} {p q r : Program} {e : PipelineError}

lemma run_cons_gives {s : Stage} {es : List Entry} :
    (run provider (s :: stages) p).Gives q es ↔ ∃ r n, (runStage provider s p).Gives r n ∧
      ∃ rest, (run provider stages r).Gives q rest ∧ ⟨s.label, n, r.opCount⟩ :: rest = es := by
  simp only [run, Outcome.andThen_gives, Outcome.map_gives, id_eq]
  refine exists_congr fun r => exists_congr fun n => and_congr_right fun _ => ?_
  constructor
  · rintro ⟨_, rest, hrest, rfl, hes⟩
    exact ⟨rest, hrest, hes⟩
  · rintro ⟨rest, hrest, hes⟩
    exact ⟨q, rest, hrest, rfl, hes⟩

lemma run_single_gives {s : Stage} {es : List Entry} : (run provider [s] p).Gives q es ↔
    ∃ n, (runStage provider s p).Gives q n ∧ [⟨s.label, n, q.opCount⟩] = es := by
  rw [run_cons_gives]
  constructor
  · rintro ⟨r, n, hs, rest, hrest, hes⟩
    obtain ⟨rfl, rfl⟩ := Outcome.ok_gives.1 hrest
    exact ⟨n, hs, hes⟩
  · rintro ⟨n, hs, hes⟩
    exact ⟨q, n, hs, [], Outcome.ok_gives.2 ⟨rfl, rfl⟩, hes⟩

/-- A report names the stages one by one. -/
lemma run_labels {es : List Entry} (h : (run provider stages p).Gives q es) :
    es.map (·.label) = stages.map (·.label) := by
  induction stages generalizing p es with
  | nil =>
    obtain ⟨-, rfl⟩ := Outcome.ok_gives.1 h
    rfl
  | cons s stages ih =>
    obtain ⟨r, n, -, rest, hrest, rfl⟩ := run_cons_gives.1 h
    exact congrArg (s.label :: ·) (ih hrest)

lemma run_append_gives {es : List Entry} : (run provider (a ++ b) p).Gives q es ↔
    ∃ r ra, (run provider a p).Gives r ra ∧ ∃ rb, (run provider b r).Gives q rb ∧ ra ++ rb = es := by
  simp only [run_append, Outcome.andThen_gives, Outcome.map_gives, id_eq]
  refine exists_congr fun r => exists_congr fun ra => and_congr_right fun _ => ?_
  constructor
  · rintro ⟨_, rb, hb, rfl, hes⟩
    exact ⟨rb, hb, hes⟩
  · rintro ⟨rb, hb, hes⟩
    exact ⟨q, rb, hb, rfl, hes⟩

lemma reaches_iff_gives : Reaches provider stages p q ↔ ∃ es, (run provider stages p).Gives q es := by
  rw [Reaches, and_comm, ← exists_and_left]
  rfl

lemma reaches_nil (provider : Provider) (p : Program) : Reaches provider [] p p := ⟨⟨[], rfl⟩, rfl⟩

/-- Stages run through when they do so in two parts. -/
lemma reaches_append : Reaches provider (a ++ b) p q ↔
    ∃ r, Reaches provider a p r ∧ Reaches provider b r q := by
  simp only [reaches_iff_gives, run_append_gives]
  constructor
  · rintro ⟨_, r, ra, ha, rb, hb, -⟩
    exact ⟨r, ⟨ra, ha⟩, rb, hb⟩
  · rintro ⟨r, ⟨ra, ha⟩, rb, hb⟩
    exact ⟨_, r, ra, ha, rb, hb, rfl⟩

lemma Reaches.append (ha : Reaches provider a p q) (hb : Reaches provider b q r) :
    Reaches provider (a ++ b) p r := reaches_append.2 ⟨q, ha, hb⟩

lemma Reaches.stops (ha : Reaches provider a p q) (hb : Stops provider b q e r) :
    Stops provider (a ++ b) p e r := by
  obtain ⟨⟨report, hok⟩, rfl⟩ := ha
  rw [Stops, run_append, Outcome.andThen_of_ok hok]
  exact ⟨Outcome.map_eq_error.2 hb.1, hb.2⟩

lemma Stops.append (ha : Stops provider a p e q) (b : List Stage) :
    Stops provider (a ++ b) p e q := by
  rw [Stops, run_append, Outcome.andThen_of_error ha.1]
  exact ⟨rfl, ha.2⟩

lemma reaches_stage {s : Stage} {n : Nat} (h : (runStage provider s p).result = .ok n) :
    Reaches provider [s] p (runStage provider s p).state := by
  rw [Reaches, run, Outcome.andThen_of_ok h]
  exact ⟨⟨_, rfl⟩, rfl⟩

lemma reaches_pass {kind : StageKind} (hr : (provider kind p).result = .ok ())
    (hs : (provider kind p).state = q) : Reaches provider [.pass kind] p q := by
  have hrun : (runStage provider (.pass kind) p).result = .ok 1 := by
    rw [runStage, runPass]
    exact Outcome.map_eq_ok.2 ⟨(), hr, rfl⟩
  subst hs
  simpa [runStage, runPass] using reaches_stage hrun

lemma stops_pass {kind : StageKind} (hr : (provider kind p).result = .error e)
    (hs : (provider kind p).state = q) : Stops provider [.pass kind] p e q := by
  have hrun : (runStage provider (.pass kind) p).result = .error e := by
    rw [runStage, runPass]
    exact Outcome.map_eq_error.2 hr
  rw [Stops, run, Outcome.andThen_of_error hrun]
  exact ⟨rfl, hs⟩

/-- A sub-pipeline whose stages leave every program as it is does so too. -/
lemma reaches_nested {anchor : String}
    (h : ∀ q, (runBody provider stages q).result = .ok () ∧ (runBody provider stages q).state = q) :
    Reaches provider [.nested anchor stages] p p := by
  obtain ⟨d, t, hs⟩ := swept_program anchor (runBody provider stages) p
  obtain ⟨hd, hok⟩ := hs.all_of_good fun x _ => (h ⟨[x.2]⟩).1
  have hstate : (runStage provider (.nested anchor stages) p).state = p := by
    refine hs.state.trans ?_
    rw [hd]
    exact Program.substitute_outermost_self fun x _ => by simp [Body.roots, (h ⟨[x.2]⟩).2]
  have hreaches := reaches_stage (show (runStage provider (.nested anchor stages) p).result = _ from hok)
  rwa [hstate] at hreaches

/-- The stages run through, and none of them changes the program: every entry counts the ops that there were
from the start. -/
def Rests (provider : Provider) (stages : List Stage) (p : Program) : Prop :=
  ∃ es, (run provider stages p).Gives p es ∧ ∀ e ∈ es, e.opsAfter = p.opCount

lemma Rests.reaches (h : Rests provider stages p) : Reaches provider stages p p := by
  obtain ⟨es, hes, -⟩ := h
  exact reaches_iff_gives.2 ⟨es, hes⟩

lemma rests_nil (provider : Provider) (p : Program) : Rests provider [] p := ⟨[], ⟨rfl, rfl⟩, by simp⟩

lemma Rests.append (ha : Rests provider a p) (hb : Rests provider b p) : Rests provider (a ++ b) p := by
  obtain ⟨ra, hra, hcounts⟩ := ha
  obtain ⟨rb, hrb, hcounts'⟩ := hb
  refine ⟨_, run_append_gives.2 ⟨p, ra, hra, rb, hrb, rfl⟩, fun e he => ?_⟩
  exact (List.mem_append.1 he).elim (hcounts e) (hcounts' e)

/-- A stage that leaves the program as it is has no other program to count. -/
lemma Reaches.rests {s : Stage} (h : Reaches provider [s] p p) : Rests provider [s] p := by
  obtain ⟨es, hes⟩ := reaches_iff_gives.1 h
  refine ⟨es, hes, ?_⟩
  obtain ⟨n, -, rfl⟩ := run_single_gives.1 hes
  simp

end StagedLowering.Executor
