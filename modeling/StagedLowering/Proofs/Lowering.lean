import StagedLowering.Lower
import StagedLowering.Proofs.Folding
import StagedLowering.Proofs.Heads
import StagedLowering.Proofs.Resolution
import StagedLowering.Proofs.Running

/-! What lowering does with a program, from the options to the program it leaves. -/
namespace StagedLowering

namespace Resolved

/-- The program after const-eval, if that is on; there is none when the walk never ends. -/
def folded (r : Resolved) (h : Hooks) (p : Program) : Option Program :=
  if r.options.groups.optimization.constEval then
    match h.constEval with
    | some hook => (Folding.fold hook p).map (·.1)
    | none => some p
  else some p

/-- The program without its assertions, if they are to go. -/
def stripped (r : Resolved) (p : Program) : Program :=
  if r.options.groups.optimization.stripAssertions then
    (p.retain fun op => !Pass.assertionKinds.contains op.kind).1
  else p

/-- The program as the device layer gets it, if const-eval comes to an end. -/
def prepared (r : Resolved) (h : Hooks) (p : Program) : Option Program :=
  (r.folded h p).map r.stripped

/-- Statistics are to be written into a file that cannot be written. -/
def WriteFails (r : Resolved) (refusal : Refusal) : Prop :=
  r.options.groups.scheduling.model ≠ .hostOnly ∧
    ∃ file cause, r.options.groups.scheduling.statisticsFile = some file ∧ refusal file = some cause

/-- The rule of the gate forbids the op. -/
def Illegal (r : Resolved) (op : Op) : Prop := r.options.groups.targetBackend.rule.Forbids op

lemma illegal_iff {r : Resolved} {op : Op} :
    r.Illegal op ↔ r.options.groups.targetBackend.rule.violatedBy op = true :=
  LegalityRule.violatedBy_iff.symm

/-- The op at `x` is the first in pre-order that is illegal. -/
def FirstIllegal (r : Resolved) (p : Program) (x : OpPath × Op) : Prop :=
  ∃ before after, p.addressed = before ++ x :: after ∧ r.Illegal x.2 ∧ ∀ y ∈ before, ¬ r.Illegal y.2

/-- There is a gate, and an op that it does not let through. -/
def GateCloses (r : Resolved) (p : Program) : Prop :=
  r.options.groups.scheduling.model ≠ .hostOnly ∧
    r.options.groups.targetBackend.verifyLegality = true ∧ ∃ x ∈ p.addressed, r.Illegal x.2

end Resolved

lemma ExecutionModel.device?_eq_none {m : ExecutionModel} : m.device? = none ↔ m = .hostOnly := by
  cases m <;> simp [device?]

namespace Pass

variable {refusal : Refusal} {format : StatisticsFormat} {p : Program}

lemma dumpStatistics_ok {file : Option String}
    (hw : ∀ path, file = some path → refusal path = none) :
    (dumpStatistics refusal format file p).result = .ok () ∧
      (dumpStatistics refusal format file p).state = p := by
  unfold dumpStatistics
  split
  · exact ⟨rfl, rfl⟩
  · cases file with
    | none => exact ⟨rfl, rfl⟩
    | some path =>
      simp [hw path rfl]

lemma dumpStatistics_refused {path cause : String} (hf : format ≠ .none)
    (hc : refusal path = some cause) (p : Program) : ∃ ds,
      dumpStatistics refusal format (some path) p = .fail p (.stage "scheduling-lowering" ds) := by
  refine ⟨[.error ("failed to write statistics to " ++ path ++ ": " ++ cause)], ?_⟩
  simp only [dumpStatistics, if_neg hf, hc]
  rfl

/-- The gate lets a program through without a violation. -/
lemma verify_ok (stage : String) {rule : LegalityRule}
    (hl : ∀ x ∈ p.addressed, rule.violatedBy x.2 = false) : verify stage rule p = .ok p () := by
  rw [verify, LegalityRule.violation?_eq_none.2 hl]

/-- The gate fails at the first violation in pre-order. -/
lemma verify_refused (stage : String) {rule : LegalityRule} {x : OpPath × Op}
    (hx : x ∈ p.addressed) (hv : rule.violatedBy x.2 = true) : ∃ before x after,
      p.addressed = before ++ x :: after ∧ rule.violatedBy x.2 = true ∧
      (∀ y ∈ before, rule.violatedBy y.2 = false) ∧
      verify stage rule p = .fail p (.legality stage (rule.report x.1 x.2)) := by
  cases hd : rule.violation? p with
  | none =>
    rw [LegalityRule.violation?_eq_none.1 hd x hx] at hv
    cases hv
  | some d =>
    obtain ⟨before, y, after, hsplit, hy, hbefore, rfl⟩ := LegalityRule.violation?_eq_some.1 hd
    exact ⟨before, y, after, hsplit, hy, hbefore, by rw [verify, hd]⟩

end Pass

namespace Executor

variable {h : Hooks} {refusal : Refusal} {r : Resolved} {p q : Program}

/-- Most stages have a pass that does nothing. -/
lemma rests_idle {kind : StageKind} (hk : Provider.builtin h refusal kind = Pass.edit id)
    (p : Program) : Rests (.builtin h refusal) [.pass kind] p :=
  (reaches_pass (by rw [hk]; rfl) (by rw [hk]; rfl)).rests

lemma rests_optional {kind : StageKind} (hk : Provider.builtin h refusal kind = Pass.edit id)
    (b : Bool) (p : Program) : Rests (.builtin h refusal) (Resolved.optional b kind) p := by
  cases b with
  | false => exact rests_nil _ p
  | true => exact rests_idle hk p

/-- Taking a program in leaves it as it is, whatever its dialect. -/
lemma rests_conversion (d : InputDialect) (p : Program) :
    Rests (.builtin h refusal) (Resolved.conversion d) p := by
  cases d with
  | none => exact rests_nil _ p
  | mhlo => exact rests_idle rfl p
  | xla => exact (rests_idle rfl p).append (rests_idle rfl p)
  | tmTensor => exact (reaches_nested fun q => ⟨rfl, rfl⟩).rests
  | tosa => exact rests_idle rfl p

/-- What comes before const-eval changes nothing. -/
lemma rests_input (r : Resolved) (p : Program) :
    Rests (.builtin h refusal) (Resolved.conversion r.options.groups.inputDialect.dialect ++
      [.pass .commonInputConversion] ++
      Resolved.optional r.options.groups.binding.native .nativeBindings ++
      Resolved.optional r.options.groups.binding.tflite .tfliteBindings) p :=
  (rests_conversion _ p).append (rests_idle rfl p) |>.append (rests_optional rfl _ p)
    |>.append (rests_optional rfl _ p)

lemma reaches_optimization {hoisting precision : Bool}
    (hc : r.options.groups.optimization.constEval = true → h.hasConstEval = true)
    (hf : r.folded h p = some q) :
    Reaches (.builtin h refusal)
      [.pass (.highLevelOptimization (r.options.groups.optimization.constEval && h.hasConstEval)
        hoisting precision)] p q := by
  cases hce : r.options.groups.optimization.constEval with
  | false =>
    obtain rfl : p = q := by simpa [Resolved.folded, hce] using hf
    exact (rests_idle rfl p).reaches
  | true =>
    obtain ⟨hook, hh⟩ := Option.isSome_iff_exists.1 (hc hce)
    obtain ⟨n, hn⟩ : ∃ n, Folding.fold hook p = some (q, n) := by
      simpa [Resolved.folded, hce, hh] using hf
    have hok : Pass.foldConstants h p = .ok q () := by simp only [Pass.foldConstants, hh, hn]
    rw [hc hce]
    refine reaches_pass (show (Pass.foldConstants h p).result = _ from ?_)
      (show (Pass.foldConstants h p).state = _ from ?_)
    · rw [hok]
      rfl
    · rw [hok]
      rfl

lemma reaches_stripAssertions (r : Resolved) (p : Program) :
    Reaches (.builtin h refusal)
      (Resolved.optional r.options.groups.optimization.stripAssertions .stripAssertions) p
      (r.stripped p) := by
  rw [Resolved.stripped]
  cases r.options.groups.optimization.stripAssertions with
  | false => exact reaches_nil _ p
  | true => exact reaches_pass rfl rfl

/-- The plan up to the device layer folds and strips, and only that. -/
lemma plan_front (refusal : Refusal)
    (hc : r.options.groups.optimization.constEval = true → h.hasConstEval = true)
    (hq : r.prepared h p = some q) : ∃ front,
      r.plan h = front ++ Resolved.deviceStages r.options.groups ++
        [.pass (.vmLowering r.options.groups.bytecodeTarget), .pass .dropCompilerHints] ∧
      Reaches (.builtin h refusal) front p q := by
  obtain ⟨folded, hf, rfl⟩ := Option.map_eq_some_iff.1 hq
  exact ⟨_, rfl, (rests_input r p).reaches.append (reaches_optimization hc hf)
    |>.append (reaches_stripAssertions r folded)⟩

lemma deviceStages_of_device (hm : r.options.groups.scheduling.model ≠ .hostOnly) : ∃ variant,
    Resolved.deviceStages r.options.groups =
      [.pass (.schedulingLowering r.options.groups.scheduling.statisticsFormat
        r.options.groups.scheduling.statisticsFile)] ++
      [.pass (.hardwareAbstraction variant r.options.groups.targetBackend.targets)] ++
      Resolved.optional r.options.groups.targetBackend.verifyLegality
        (.verifyLegality r.options.groups.targetBackend.rule) := by
  obtain ⟨variant, hv⟩ := Option.ne_none_iff_exists'.1 (mt ExecutionModel.device?_eq_none.1 hm)
  refine ⟨variant, ?_⟩
  simp only [Resolved.deviceStages, hv]
  rfl

/-- Statistics that can be written leave the program to the gate. -/
lemma rests_before_gate (hm : r.options.groups.scheduling.model ≠ .hostOnly)
    (hw : ¬ r.WriteFails refusal) (p : Program) : ∃ front,
      Resolved.deviceStages r.options.groups = front ++
        Resolved.optional r.options.groups.targetBackend.verifyLegality
          (.verifyLegality r.options.groups.targetBackend.rule) ∧
      Rests (.builtin h refusal) front p := by
  obtain ⟨variant, hd⟩ := deviceStages_of_device hm
  refine ⟨_, hd, Rests.append ?_ (rests_idle rfl p)⟩
  have hfile : ∀ path, r.options.groups.scheduling.statisticsFile = some path →
      refusal path = none := by
    intro path hpath
    by_contra hcause
    obtain ⟨cause, hcause⟩ := Option.ne_none_iff_exists'.1 hcause
    exact hw ⟨hm, path, cause, hpath, hcause⟩
  obtain ⟨hok, hstate⟩ := Pass.dumpStatistics_ok hfile
  exact (reaches_pass hok hstate).rests

lemma deviceStages_rests (hw : ¬ r.WriteFails refusal) (hg : ¬ r.GateCloses p) :
    Rests (.builtin h refusal) (Resolved.deviceStages r.options.groups) p := by
  by_cases hm : r.options.groups.scheduling.model = .hostOnly
  · rw [Resolved.deviceStages, ExecutionModel.device?_eq_none.2 hm]
    exact rests_nil _ p
  obtain ⟨front, hd, hfront⟩ := rests_before_gate hm hw p
  rw [hd]
  refine hfront.append ?_
  cases hv : r.options.groups.targetBackend.verifyLegality with
  | false => exact rests_nil _ p
  | true =>
    have hok : Pass.verify "verify-transform-legality" r.options.groups.targetBackend.rule p =
        .ok p () := by
      refine Pass.verify_ok _ fun x hx => ?_
      refine Bool.eq_false_iff.2 fun hill => ?_
      exact hg ⟨hm, hv, x, hx, Resolved.illegal_iff.2 hill⟩
    refine Reaches.rests (reaches_pass ?_ ?_)
    · exact congrArg Outcome.result hok
    · exact congrArg Outcome.state hok

lemma deviceStages_refused
    (hformat : ∀ file, r.options.groups.scheduling.statisticsFile = some file →
      r.options.groups.scheduling.statisticsFormat ≠ .none)
    (hw : r.WriteFails refusal) (p : Program) : ∃ ds,
      Stops (.builtin h refusal) (Resolved.deviceStages r.options.groups) p
        (.stage "scheduling-lowering" ds) p := by
  obtain ⟨hm, file, cause, hfile, hcause⟩ := hw
  obtain ⟨variant, hd⟩ := deviceStages_of_device hm
  obtain ⟨ds, hfail⟩ := Pass.dumpStatistics_refused (hformat file hfile) hcause p
  refine ⟨ds, ?_⟩
  rw [hd, hfile]
  have hstop : Stops (.builtin h refusal) [.pass (.schedulingLowering
      r.options.groups.scheduling.statisticsFormat (some file))] p
      (.stage "scheduling-lowering" ds) p :=
    stops_pass (congrArg Outcome.result hfail) (congrArg Outcome.state hfail)
  exact (hstop.append _).append _

lemma deviceStages_illegal (hw : ¬ r.WriteFails refusal) (hg : r.GateCloses p) :
    ∃ x, r.FirstIllegal p x ∧
      Stops (.builtin h refusal) (Resolved.deviceStages r.options.groups) p
        (.legality "verify-transform-legality"
          (r.options.groups.targetBackend.rule.report x.1 x.2)) p := by
  obtain ⟨hm, hv, x, hx, hill⟩ := hg
  obtain ⟨front, hd, hfront⟩ := rests_before_gate (h := h) hm hw p
  obtain ⟨before, x, after, hsplit, hxv, hbefore, hfail⟩ :=
    Pass.verify_refused "verify-transform-legality" hx (Resolved.illegal_iff.1 hill)
  refine ⟨x, ⟨before, after, hsplit, Resolved.illegal_iff.2 hxv, fun y hy hill => ?_⟩, ?_⟩
  · rw [Resolved.illegal_iff, hbefore y hy] at hill
    exact Bool.false_ne_true hill
  · rw [hd, hv]
    exact hfront.reaches.stops (stops_pass (congrArg Outcome.result hfail) (congrArg Outcome.state hfail))

end Executor

section

variable {o : Options} {h : Hooks} {refusal : Refusal} {r : Resolved} {p q : Program}
  (hr : o.resolve h .builtin = .ok r) (hq : r.prepared h p = some q)

include hr hq

/-- What the device layer does not let through ends the run. -/
lemma lower_of_stops {e : PipelineError}
    (hd : Executor.Stops (.builtin h refusal) (Resolved.deviceStages r.options.groups) q e q) :
    (lower o h refusal p).result = .error (.pipeline e) ∧ (lower o h refusal p).state = q := by
  obtain ⟨front, hplan, hfront⟩ :=
    Executor.plan_front refusal (Resolved.hasConstEval_of_resolve hr) hq
  obtain ⟨he, hstate⟩ := (hfront.stops hd).append
    [.pass (.vmLowering r.options.groups.bytecodeTarget), .pass .dropCompilerHints]
  rw [← hplan] at he hstate
  rw [lower, hr]
  exact ⟨Outcome.mapError_eq_error.2 ⟨e, he, rfl⟩, hstate⟩

/-- Behind the device layer only the hints go. -/
lemma lower_of_reaches
    (hd : Executor.Reaches (.builtin h refusal) (Resolved.deviceStages r.options.groups) q q) :
    (∃ report, (lower o h refusal p).result = .ok report) ∧
      (lower o h refusal p).state = (Pass.dropHints q).state := by
  obtain ⟨front, hplan, hfront⟩ :=
    Executor.plan_front refusal (Resolved.hasConstEval_of_resolve hr) hq
  have hback : Executor.Reaches (.builtin h refusal)
      [.pass (.vmLowering r.options.groups.bytecodeTarget), .pass .dropCompilerHints] q
      (Pass.dropHints q).state :=
    (Executor.rests_idle rfl q).reaches.append (Executor.reaches_pass rfl rfl)
  obtain ⟨⟨report, hok⟩, hstate⟩ := (hfront.append hd).append hback
  rw [← hplan] at hok hstate
  rw [lower, hr]
  exact ⟨⟨report, Outcome.mapError_eq_ok.2 hok⟩, hstate⟩

lemma lower_refused (hw : r.WriteFails refusal) : ∃ ds,
    (lower o h refusal p).result = .error (.pipeline (.stage "scheduling-lowering" ds)) ∧
      (lower o h refusal p).state = q := by
  obtain ⟨ds, hstop⟩ :=
    Executor.deviceStages_refused (fun _ hfile => Resolved.format_of_resolve hr hfile) hw q
  exact ⟨ds, lower_of_stops hr hq hstop⟩

lemma lower_illegal (hw : ¬ r.WriteFails refusal) (hg : r.GateCloses q) : ∃ x d,
    r.FirstIllegal q x ∧
      d.path = some x.1 ∧ d.opKind = some x.2.kind ∧ d.location = x.2.location ∧
      (lower o h refusal p).result =
        .error (.pipeline (.legality "verify-transform-legality" d)) ∧
      (lower o h refusal p).state = q := by
  obtain ⟨x, hx, hstop⟩ := Executor.deviceStages_illegal hw hg
  exact ⟨x, _, hx, rfl, rfl, rfl, lower_of_stops hr hq hstop⟩

lemma lower_through (hw : ¬ r.WriteFails refusal) (hg : ¬ r.GateCloses q) :
    (∃ report, (lower o h refusal p).result = .ok report) ∧
      q.SameButHints (lower o h refusal p).state := by
  obtain ⟨hok, hstate⟩ := lower_of_reaches hr hq (Executor.deviceStages_rests hw hg).reaches
  rw [hstate]
  exact ⟨hok, Pass.dropHints_sameButHints q⟩

end

/-- Lowering from end to end. Options that do not resolve are the only configuration error, and the
program is not touched. Otherwise the program is folded and stripped; then a refused statistics file or
the gate ends the run with that program, and else only the hints go. -/
theorem lower_end_to_end (o : Options) (h : Hooks) (refusal : Refusal) (p : Program) :
    (∀ e, o.resolve h .builtin = .error e →
      (lower o h refusal p).result = .error (.config e) ∧ (lower o h refusal p).state = p ∧
      (CompilerError.config e).isConfig = true ∧ (CompilerError.config e).exitCode = 2) ∧
    ∀ r q, o.resolve h .builtin = .ok r → r.prepared h p = some q →
      (∀ e, (lower o h refusal p).result = .error e → e.isConfig = false) ∧
      (r.WriteFails refusal → ∃ ds,
        (lower o h refusal p).result = .error (.pipeline (.stage "scheduling-lowering" ds)) ∧
        (lower o h refusal p).state = q) ∧
      (¬ r.WriteFails refusal → r.GateCloses q → ∃ x d, r.FirstIllegal q x ∧
        d.path = some x.1 ∧ d.opKind = some x.2.kind ∧ d.location = x.2.location ∧
        (lower o h refusal p).result =
          .error (.pipeline (.legality "verify-transform-legality" d)) ∧
        (lower o h refusal p).state = q) ∧
      (¬ r.WriteFails refusal → ¬ r.GateCloses q →
        (∃ report, (lower o h refusal p).result = .ok report) ∧
        q.SameButHints (lower o h refusal p).state) := by
  refine ⟨fun e he => ?_, fun r q hr hq =>
    ⟨fun e he => ?_, lower_refused hr hq, lower_illegal hr hq, lower_through hr hq⟩⟩
  · rw [lower, he]
    exact ⟨rfl, rfl, rfl, rfl⟩
  · by_cases hw : r.WriteFails refusal
    · obtain ⟨ds, hfail, -⟩ := lower_refused hr hq hw
      cases hfail.symm.trans he
      rfl
    by_cases hg : r.GateCloses q
    · obtain ⟨x, d, -, -, -, -, hfail, -⟩ := lower_illegal hr hq hw hg
      cases hfail.symm.trans he
      rfl
    · obtain ⟨⟨report, hok⟩, -⟩ := lower_through hr hq hw hg
      cases hok.symm.trans he

/-- Options that ask for every step on the way to the gate. -/
def everyStep : Resolved where
  options.groups := { inputDialect := ⟨.tmTensor⟩, optimization := ⟨false, false, true, true⟩ }

/-- Takes one constant for every constant expression. -/
def constantHook (_ : Op) : Option Op := some (Op.ofKind "arith.constant")

/-- A constant expression, an assertion and the refused op, in a function. -/
def refusedProgram : Program :=
  ⟨[⟨{ kind := "func.func" },
    [[[markedOp "arith.addi" "const_expr", Op.ofKind "util.assert", refusedOp]]]⟩]⟩

/-- The function as the gate gets it. -/
def refusedAtGate : Program :=
  ⟨[⟨{ kind := "func.func" }, [[[Op.ofKind "arith.constant", refusedOp]]]⟩]⟩

lemma refusedProgram_prepared :
    everyStep.prepared ⟨some constantHook⟩ refusedProgram = some refusedAtGate := by
  have hexpr : Folding.foldOp constantHook (markedOp "arith.addi" "const_expr") =
      some (Op.ofKind "arith.constant", 1) :=
    Folding.foldOp_of_leaf rfl rfl
  have hassert : Folding.foldOp constantHook (Op.ofKind "util.assert") =
      some (Op.ofKind "util.assert", 0) :=
    Folding.foldOp_of_leaf rfl rfl
  have hrefused : Folding.foldOp constantHook refusedOp = some (refusedOp, 0) :=
    Folding.foldOp_of_leaf rfl rfl
  have hfunction : Folding.foldOp constantHook ⟨{ kind := "func.func" },
      [[[markedOp "arith.addi" "const_expr", Op.ofKind "util.assert", refusedOp]]]⟩ =
      some (⟨{ kind := "func.func" },
        [[[Op.ofKind "arith.constant", Op.ofKind "util.assert", refusedOp]]]⟩, 1) :=
    Folding.foldOp_of_block rfl (.cons hexpr (.cons hassert (.cons hrefused .nil)))
  have hfold : Folding.fold constantHook refusedProgram = some (⟨[⟨{ kind := "func.func" },
      [[[Op.ofKind "arith.constant", Op.ofKind "util.assert", refusedOp]]]⟩]⟩, 1) :=
    Folding.fold_eq_some (.cons hfunction .nil)
  rw [Resolved.prepared, Resolved.folded]
  simp only [hfold]
  rfl

/-- The gate refuses an op behind a constant expression and an assertion, which are gone by then. -/
theorem lower_end_to_end_refused : ∃ x d, everyStep.FirstIllegal refusedAtGate x ∧
    d.path = some x.1 ∧
    (lower everyStep.options ⟨some constantHook⟩ (fun _ => none) refusedProgram).result =
      .error (.pipeline (.legality "verify-transform-legality" d)) ∧
    (lower everyStep.options ⟨some constantHook⟩ (fun _ => none) refusedProgram).state =
      refusedAtGate := by
  obtain ⟨-, hlower⟩ :=
    lower_end_to_end everyStep.options ⟨some constantHook⟩ (fun _ => none) refusedProgram
  obtain ⟨-, -, hgate, -⟩ := hlower everyStep refusedAtGate rfl refusedProgram_prepared
  have hw : ¬ everyStep.WriteFails fun _ => none := by
    rintro ⟨-, file, cause, -, hcause⟩
    cases hcause
  have hg : everyStep.GateCloses refusedAtGate :=
    ⟨by decide, rfl, (⟨[0, 0, 0, 1]⟩, refusedOp), Program.mem_addressed.2 rfl, refusedOp_forbidden⟩
  obtain ⟨x, d, hx, hpath, -, -, hresult, hstate⟩ := hgate hw hg
  exact ⟨x, d, hx, hpath, hresult, hstate⟩

end StagedLowering
