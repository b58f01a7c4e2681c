import StagedLowering.Proofs.Lowering
import StagedLowering.Proofs.Retention

/-! Lowering of what is lowered already. The removal of hints touches no kind and adds no attribute, so it
brings back no assertion, and what the gate has let through it lets through again. Every stage then finds the
program as it leaves it. -/
namespace StagedLowering

namespace Pass

variable {p : Program}

lemma dropHints_dropHints (p : Program) :
    (dropHints (dropHints p).state).state = (dropHints p).state := by
  simp only [dropHints, edit, Outcome.ok_state, Program.mapHeads_mapHeads]
  congr 1
  funext h
  simp [Dict.filter, List.filter_filter]

/-- An op without its hints has the kind that it had, and no attribute that it did not have. -/
lemma exists_of_dropHints {x : OpPath × Op} (hx : x ∈ (dropHints p).state.addressed) :
    ∃ y, (x.1, y) ∈ p.addressed ∧ y.kind = x.2.kind ∧
      ∀ key, x.2.hasAttr key = true → y.hasAttr key = true := by
  obtain ⟨y, hy, hxy⟩ := Program.mem_addressed_mapHeads.1 hx
  refine ⟨y, hy, ?_, fun key hkey => ?_⟩
  · simp [← hxy, Op.kind]
  · simp only [← hxy, Op.hasAttr, OpHead.hasAttr, Op.mapHeads_head, Dict.contains,
      Dict.get?_filter fun key => !isHint key] at hkey ⊢
    split at hkey
    · exact hkey
    · cases hkey

end Pass

namespace Resolved

variable {r : Resolved} {h : Hooks} {p : Program}

lemma prepared_of_no_hook (hno : h.constEval = none) (p : Program) :
    r.folded h p = some p ∧ r.prepared h p = some (r.stripped p) := by
  have hfolded : r.folded h p = some p := by simp [folded, hno]
  exact ⟨hfolded, by rw [prepared, hfolded, Option.map_some]⟩

/-- A gate that is open stays open when hints go, also where its marker is a hint. -/
lemma GateCloses.of_dropHints (hg : r.GateCloses (Pass.dropHints p).state) : r.GateCloses p := by
  obtain ⟨hm, hv, x, hx, hkind, hmarker⟩ := hg
  obtain ⟨y, hy, hsame, hattrs⟩ := Pass.exists_of_dropHints hx
  exact ⟨hm, hv, (x.1, y), hy, hsame.trans hkind, hattrs _ hmarker⟩

/-- There is nothing left to strip, whatever hints have gone. -/
lemma stripped_dropHints (r : Resolved) (p : Program) :
    r.stripped (Pass.dropHints (r.stripped p)).state = (Pass.dropHints (r.stripped p)).state := by
  cases hs : r.options.groups.optimization.stripAssertions with
  | false => simp [stripped, hs]
  | true =>
    simp only [stripped, hs, if_true]
    refine congrArg Prod.fst (Program.retain_self fun x hx => ?_)
    obtain ⟨y, hy, hkind, -⟩ := Pass.exists_of_dropHints hx
    rw [← hkind]
    exact p.accepted_of_retain (fun h => !Pass.assertionKinds.contains h.kind) hy

end Resolved

namespace Executor

variable {h : Hooks} {refusal : Refusal} {r : Resolved} {p : Program}

lemma Reaches.rests_optional {provider : Provider} {b : Bool} {kind : StageKind}
    (hp : Reaches provider (Resolved.optional b kind) p p) :
    Rests provider (Resolved.optional b kind) p := by
  cases b with
  | false => exact rests_nil _ p
  | true => exact hp.rests

/-- No stage of a plan changes a program without anything to fold, to strip, to refuse or to drop. -/
lemma plan_rests (hc : r.options.groups.optimization.constEval = true → h.hasConstEval = true)
    (hf : r.folded h p = some p) (hs : r.stripped p = p) (hw : ¬ r.WriteFails refusal)
    (hg : ¬ r.GateCloses p) (hd : (Pass.dropHints p).state = p) :
    Rests (.builtin h refusal) (r.plan h) p := by
  have hstrip : Reaches (.builtin h refusal)
      (Resolved.optional r.options.groups.optimization.stripAssertions .stripAssertions) p p := by
    simpa only [hs] using reaches_stripAssertions r p
  exact (rests_input r p).append (reaches_optimization hc hf).rests
    |>.append hstrip.rests_optional
    |>.append (deviceStages_rests hw hg)
    |>.append ((rests_idle rfl p).append (reaches_pass rfl hd).rests)

end Executor

section

variable {o : Options} {h : Hooks} {refusal : Refusal} {r : Resolved} {p q : Program}

/-- A run that comes to its end has written its statistics and found the gate open. -/
lemma lower_succeeded (hr : o.resolve h .builtin = .ok r) (hq : r.prepared h p = some q)
    {report : List Executor.Entry} (hok : (lower o h refusal p).result = .ok report) :
    ¬ r.GateCloses q ∧ (lower o h refusal p).state = (Pass.dropHints q).state := by
  have hw : ¬ r.WriteFails refusal := by
    intro hw
    obtain ⟨ds, herror, -⟩ := lower_refused hr hq hw
    cases hok.symm.trans herror
  have hg : ¬ r.GateCloses q := by
    intro hg
    obtain ⟨x, d, -, -, -, -, herror, -⟩ := lower_illegal hr hq hw hg
    cases hok.symm.trans herror
  exact ⟨hg, (lower_of_reaches hr hq (Executor.deviceStages_rests hw hg).reaches).2⟩

lemma not_writeFails (hr : o.resolve h .builtin = .ok r)
    (hw : ∀ file, o.groups.scheduling.statisticsFile = some file → refusal file = none) :
    ¬ r.WriteFails refusal := by
  rintro ⟨-, file, cause, hfile, hcause⟩
  obtain ⟨-, rfl⟩ := Options.resolve_ok_iff.1 hr
  cases (hw file (Options.settled_file_eq_some.1 hfile).2).symm.trans hcause

end

/-- Lowering a lowered program changes nothing. Without const-eval, what a successful run leaves goes through
a second run with the same options, if its statistics can be written, and is left as it is; that run reports
the same stages, and each of them counts the ops of the lowered program. -/
theorem lower_again (o : Options) (h : Hooks) (refusal refusal' : Refusal) (p : Program)
    (hno : h.constEval = none)
    (hw : ∀ file, o.groups.scheduling.statisticsFile = some file → refusal' file = none)
    (report : List Executor.Entry) (hok : (lower o h refusal p).result = .ok report) :
    ∃ report', (lower o h refusal' (lower o h refusal p).state).result = .ok report' ∧
      (lower o h refusal' (lower o h refusal p).state).state = (lower o h refusal p).state ∧
      report'.map (·.label) = report.map (·.label) ∧
      ∀ e ∈ report', e.opsAfter = (lower o h refusal p).state.opCount := by
  cases hr : o.resolve h .builtin with
  | error e =>
    rw [lower, hr] at hok
    cases hok
  | ok r =>
    obtain ⟨-, hprepared⟩ := Resolved.prepared_of_no_hook (r := r) hno p
    obtain ⟨hopen, hstate⟩ := lower_succeeded hr hprepared hok
    have hfirst : (Executor.run (.builtin h refusal) (r.plan h) p).result = .ok report := by
      rw [lower, hr] at hok
      exact Outcome.mapError_eq_ok.1 hok
    rw [hstate]
    have hrests : Executor.Rests (.builtin h refusal') (r.plan h) (Pass.dropHints (r.stripped p)).state :=
      Executor.plan_rests (Resolved.hasConstEval_of_resolve hr) (Resolved.prepared_of_no_hook hno _).1
        (r.stripped_dropHints p) (not_writeFails hr hw) (mt Resolved.GateCloses.of_dropHints hopen)
        (Pass.dropHints_dropHints _)
    obtain ⟨report', ⟨hsame, hresult⟩, hcounts⟩ := hrests
    refine ⟨report', ?_, ?_, ?_, hcounts⟩
    · rw [lower, hr]
      exact Outcome.mapError_eq_ok.2 hresult
    · rw [lower, hr]
      exact hsame
    · exact (Executor.run_labels ⟨hsame, hresult⟩).trans (Executor.run_labels ⟨rfl, hfirst⟩).symm

/-- Options for a gate whose marker is a hint, with assertions to strip and statistics to write. -/
def hintedGate : Options where
  groups.inputDialect.dialect := .tmTensor
  groups.optimization := { constEval := true, stripAssertions := true }
  groups.scheduling := { statisticsFormat := .csv, statisticsFile := some "statistics.csv" }
  groups.targetBackend.legalityMarker := "hint.tile"

/-- A function with the marker on an op that may have it, an assertion, and an op that the gate watches. -/
def hintedProgram : Program :=
  ⟨[⟨{ kind := "func.func" },
    [[[markedOp "linalg.matmul" "hint.tile", Op.ofKind "util.assert", Op.ofKind "linalg.generic"]]]⟩]⟩

/-- The first run leaves three of four ops, and the second one counts three at each of its ten stages. -/
theorem lower_again_hinted : ∃ report', (lower hintedGate {} (fun _ => none)
      (lower hintedGate {} (fun _ => none) hintedProgram).state).result = .ok report' ∧
    (lower hintedGate {} (fun _ => none) (lower hintedGate {} (fun _ => none) hintedProgram).state).state =
      ⟨[⟨{ kind := "func.func" }, [[[Op.ofKind "linalg.matmul", Op.ofKind "linalg.generic"]]]⟩]⟩ ∧
    report'.length = 10 ∧ ∀ e ∈ report', e.opsAfter = 3 := by
  obtain ⟨report', hresult, hstate, hlabels, hcounts⟩ :=
    lower_again hintedGate {} (fun _ => none) (fun _ => none) hintedProgram rfl (fun _ _ => rfl) _ rfl
  exact ⟨report', hresult, hstate, by simpa using congrArg List.length hlabels, hcounts⟩

end StagedLowering
