import StagedLowering.Proofs.Invocation
import StagedLowering.Proofs.Lowering

/-! The gate in front of the virtual machine, with any passes around it. What the passes before it do to the
program does not matter: the gate sees the whole of what they leave, and the virtual machine gets the
program as the gate has seen it. -/
namespace StagedLowering

/-- The kinds of stages that a plan has before the gate only. -/
def StageKind.isEarly : StageKind → Bool
  | .verifyLegality _ => false
  | .vmLowering _ => false
  | .dropCompilerHints => false
  | _ => true

namespace Resolved

open Stage

lemma early_append {a b : List Stage} (ha : ∀ k ∈ allPasses a, k.isEarly = true)
    (hb : ∀ k ∈ allPasses b, k.isEarly = true) : ∀ k ∈ allPasses (a ++ b), k.isEarly = true := by
  intro k hk
  rw [allPasses_append] at hk
  exact (List.mem_append.1 hk).elim (ha k) (hb k)

lemma early_pass {kind : StageKind} (h : kind.isEarly = true) :
    ∀ k ∈ allPasses [.pass kind], k.isEarly = true := by
  intro k hk
  obtain rfl : k = kind := by simpa [allPasses, passes] using hk
  exact h

lemma early_optional (b : Bool) {kind : StageKind} (h : kind.isEarly = true) :
    ∀ k ∈ allPasses (optional b kind), k.isEarly = true := by
  cases b with
  | false => simp [optional, allPasses]
  | true => exact early_pass h

lemma early_conversion (d : InputDialect) : ∀ k ∈ allPasses (conversion d), k.isEarly = true := by
  cases d <;> decide

/-- A plan with a gate: early stages, the gate, the virtual machine, the hints. -/
lemma plan_gate {r : Resolved} (h : Hooks) (hm : r.options.groups.scheduling.model ≠ .hostOnly)
    (hv : r.options.groups.targetBackend.verifyLegality = true) : ∃ front,
      r.plan h = front ++ ([.pass (.verifyLegality r.options.groups.targetBackend.rule)] ++
        ([.pass (.vmLowering r.options.groups.bytecodeTarget)] ++ [.pass .dropCompilerHints])) ∧
      ∀ k ∈ allPasses front, k.isEarly = true := by
  obtain ⟨variant, hd⟩ := Executor.deviceStages_of_device hm
  have hplan : ∃ input, r.plan h = input ++ deviceStages r.options.groups ++
      [.pass (.vmLowering r.options.groups.bytecodeTarget), .pass .dropCompilerHints] ∧
      ∀ k ∈ allPasses input, k.isEarly = true :=
    ⟨_, rfl, early_append (early_append (early_append (early_append (early_append
      (early_conversion _) (early_pass rfl)) (early_optional _ rfl)) (early_optional _ rfl))
      (early_pass rfl)) (early_optional _ rfl)⟩
  obtain ⟨input, hplan, hinput⟩ := hplan
  refine ⟨input ++ ([.pass (.schedulingLowering r.options.groups.scheduling.statisticsFormat
    r.options.groups.scheduling.statisticsFile)] ++
    [.pass (.hardwareAbstraction variant r.options.groups.targetBackend.targets)]), ?_, ?_⟩
  · rw [hplan, hd, hv]
    simp only [List.append_assoc]
    rfl
  · exact early_append hinput (early_append (early_pass rfl) (early_pass rfl))

end Resolved

/-- The gate changes nothing. -/
lemma Pass.verify_state (stage : String) (rule : LegalityRule) (p : Program) :
    (verify stage rule p).state = p := by
  rw [verify]
  cases rule.violation? p <;> rfl

/-- What the gate lets through has no violation. -/
lemma Pass.legal_of_verify {stage : String} {rule : LegalityRule} {p : Program}
    (h : (verify stage rule p).result = .ok ()) : ∀ x ∈ p.addressed, rule.violatedBy x.2 = false := by
  rw [verify] at h
  cases hv : rule.violation? p with
  | none => exact LegalityRule.violation?_eq_none.1 hv
  | some d =>
    rw [hv] at h
    cases h

namespace Executor

variable {provider : Provider} {r : Resolved} {h : Hooks} {p : Program}

section

variable (hm : r.options.groups.scheduling.model ≠ .hostOnly)
  (hv : r.options.groups.targetBackend.verifyLegality = true)
  (hgate : ∀ rule, provider (.verifyLegality rule) = Pass.verify "verify-transform-legality" rule)

include hm hv hgate

/-- How far a run with a gate can get: to a failure before the gate, to the gate, or beyond it with the
program that the gate has seen. `late` are the calls from the gate on. -/
lemma guarded_cases (h : Hooks) (p : Program) : ∃ early late : List (StageKind × Program),
    invoked provider (r.plan h) p = early ++ late ∧ (∀ x ∈ early, x.1.isEarly = true) ∧
      (late = [] ∨
      (∃ q e, late = [(.verifyLegality r.options.groups.targetBackend.rule, q)] ∧
        (Pass.verify "verify-transform-legality" r.options.groups.targetBackend.rule q).result =
          .error e ∧ Stops provider (r.plan h) p e q) ∨
      ∃ q rest, late = (.verifyLegality r.options.groups.targetBackend.rule, q) ::
          (.vmLowering r.options.groups.bytecodeTarget, q) :: rest ∧
        (Pass.verify "verify-transform-legality" r.options.groups.targetBackend.rule q).result =
          .ok () ∧ ∀ x ∈ rest, x.1 = .dropCompilerHints) := by
  obtain ⟨front, hplan, hfront⟩ := Resolved.plan_gate h hm hv
  have hearly : ∀ x ∈ invoked provider front p, x.1.isEarly = true :=
    fun x hx => hfront _ (kind_mem_of_mem_invoked hx)
  rw [hplan]
  cases hres : (run provider front p).result with
  | error e =>
    exact ⟨_, [], by rw [invoked_append_of_error hres, List.append_nil], hearly, .inl rfl⟩
  | ok report =>
    have hreaches : Reaches provider front p (run provider front p).state := ⟨⟨report, hres⟩, rfl⟩
    refine ⟨_, _, invoked_append_of_ok hres _, hearly, .inr ?_⟩
    generalize (run provider front p).state = q at hreaches
    cases hverify :
      (Pass.verify "verify-transform-legality" r.options.groups.targetBackend.rule q).result with
    | error e =>
      have hstop := stops_pass (hgate _ ▸ hverify) (hgate _ ▸ Pass.verify_state _ _ q)
      refine .inl ⟨q, e, ?_, hverify, hreaches.stops (hstop.append _)⟩
      rw [invoked_append_of_error hstop.1, invoked_pass]
    | ok u =>
      obtain ⟨⟨report', hok⟩, hstate⟩ :=
        reaches_pass (hgate _ ▸ hverify) (hgate _ ▸ Pass.verify_state _ _ q)
      refine .inr ⟨q, ?_⟩
      rw [invoked_append_of_ok hok, hstate, invoked_pass]
      cases hvm : (run provider [.pass (.vmLowering r.options.groups.bytecodeTarget)] q).result with
      | error e =>
        rw [invoked_append_of_error hvm, invoked_pass]
        exact ⟨[], rfl, hverify, by simp⟩
      | ok report'' =>
        rw [invoked_append_of_ok hvm, invoked_pass, invoked_pass]
        exact ⟨_, rfl, hverify, by simp⟩

omit hm hv hgate in
lemma mem_late {early late : List (StageKind × Program)} (hearly : ∀ x ∈ early, x.1.isEarly = true)
    {x : StageKind × Program} (hx : x ∈ early ++ late) (hkind : x.1.isEarly = false) : x ∈ late := by
  refine (List.mem_append.1 hx).resolve_left fun hx => ?_
  rw [hearly x hx] at hkind
  cases hkind

/-- The virtual machine gets a program that the gate has seen and let through. -/
lemma machine_after_gate {target : BytecodeTarget} {q : Program}
    (hq : (.vmLowering target, q) ∈ invoked provider (r.plan h) p) :
    (.verifyLegality r.options.groups.targetBackend.rule, q) ∈ invoked provider (r.plan h) p ∧
      ∀ x ∈ q.addressed, r.options.groups.targetBackend.rule.violatedBy x.2 = false := by
  obtain ⟨early, late, hcalls, hearly, hcases⟩ := guarded_cases hm hv hgate h p
  rw [hcalls] at hq ⊢
  have hlate := mem_late hearly hq rfl
  rcases hcases with rfl | ⟨q', e, rfl, -, -⟩ | ⟨q', rest, rfl, hok, hrest⟩
  · cases hlate
  · cases List.mem_singleton.1 hlate
  · rcases List.mem_cons.1 hlate with heq | hlate
    · cases heq
    rcases List.mem_cons.1 hlate with heq | hlate
    · cases heq
      exact ⟨by simp, Pass.legal_of_verify hok⟩
    · cases hrest _ hlate

/-- A failure of the gate ends the run there. -/
lemma gate_failure_ends {rule : LegalityRule} {q : Program} {e : PipelineError}
    (hq : (.verifyLegality rule, q) ∈ invoked provider (r.plan h) p)
    (he : (provider (.verifyLegality rule) q).result = .error e) :
    (∀ target q', (.vmLowering target, q') ∉ invoked provider (r.plan h) p) ∧
      (∀ q', (.dropCompilerHints, q') ∉ invoked provider (r.plan h) p) ∧
      Stops provider (r.plan h) p e q := by
  obtain ⟨early, late, hcalls, hearly, hcases⟩ := guarded_cases hm hv hgate h p
  rw [hcalls] at hq ⊢
  have hlate := mem_late hearly hq rfl
  rcases hcases with rfl | ⟨q', e', rfl, hfail, hstops⟩ | ⟨q', rest, rfl, hok, hrest⟩
  · cases hlate
  · cases List.mem_singleton.1 hlate
    rw [hgate, hfail] at he
    cases he
    refine ⟨fun target q' hq => ?_, fun q' hq => ?_, hstops⟩
    · cases List.mem_singleton.1 (mem_late hearly hq rfl)
    · cases List.mem_singleton.1 (mem_late hearly hq rfl)
  · -- The gate let this program through, so it did not fail on it.
    rcases List.mem_cons.1 hlate with heq | hlate
    · cases heq
      rw [hgate, hok] at he
      cases he
    rcases List.mem_cons.1 hlate with heq | hlate
    · cases heq
    · cases hrest _ hlate

end

/-- A run that succeeds has called the removal of hints last. -/
lemma state_of_ok {report : List Entry} (hok : (run provider (r.plan h) p).result = .ok report) :
    ∃ q, (run provider (r.plan h) p).state = (provider .dropCompilerHints q).state := by
  obtain ⟨front, hplan⟩ : ∃ front, r.plan h = front ++ [.pass .dropCompilerHints] := by
    exact ⟨_, (List.append_assoc _ [Stage.pass (.vmLowering r.options.groups.bytecodeTarget)] _).symm⟩
  rw [hplan, run_append] at hok ⊢
  cases hfront : (run provider front p).result with
  | error e =>
    rw [Outcome.andThen_of_error hfront] at hok
    cases hok
  | ok report' =>
    rw [Outcome.andThen_of_ok hfront]
    refine ⟨(run provider front p).state, ?_⟩
    exact (run_singleton _ _ _).1

end Executor

/-- Where hints were removed, no op has one. -/
lemma Pass.no_hint_of_dropHints {q : Program} {x : OpPath × Op} {key : String}
    (hx : x ∈ (dropHints q).state.addressed) (hkey : x.2.hasAttr key = true) :
    ¬ "hint.".toList <+: key.toList := by
  intro hint
  have hrel := dropHints_sameButHints q x.1
  rw [Program.mem_addressed.1 hx] at hrel
  generalize q.opAt x.1 = before at hrel
  cases hrel with
  | some hsame =>
    have hnone : x.2.attrs.get? key = none := (hsame.2.2.2 key).trans (if_pos hint)
    rw [Op.hasAttr, OpHead.hasAttr, Dict.contains, show x.2.head.attrs.get? key = none from hnone] at hkey
    cases hkey

namespace Executor

/-- The gate guards the virtual machine, whatever the other passes do. Whenever the virtual machine's pass
is called in a planned run, the gate was called on the same program, and no op of it has the forbidden kind
and marker. When the gate fails, that pass and the removal of hints are not called, and the run ends with
the gate's error and the program that the gate got. Whatever the plan, a run that succeeds leaves no hints. -/
theorem gate_guards_machine (r : Resolved) (h : Hooks) (provider : Provider) (p : Program) :
    (r.options.groups.scheduling.model ≠ .hostOnly →
      r.options.groups.targetBackend.verifyLegality = true →
      (∀ rule, provider (.verifyLegality rule) = Pass.verify "verify-transform-legality" rule) →
      (∀ target q, (.vmLowering target, q) ∈ invoked provider (r.plan h) p →
        (.verifyLegality r.options.groups.targetBackend.rule, q) ∈ invoked provider (r.plan h) p ∧
        ∀ x ∈ q.addressed, ¬ (x.2.kind = r.options.groups.targetBackend.legalityKind ∧
          x.2.hasAttr r.options.groups.targetBackend.legalityMarker = true)) ∧
      ∀ rule q e, (.verifyLegality rule, q) ∈ invoked provider (r.plan h) p →
        (provider (.verifyLegality rule) q).result = .error e →
        (∀ target q', (.vmLowering target, q') ∉ invoked provider (r.plan h) p) ∧
        (∀ q', (.dropCompilerHints, q') ∉ invoked provider (r.plan h) p) ∧
        (run provider (r.plan h) p).result = .error e ∧ (run provider (r.plan h) p).state = q) ∧
    (provider .dropCompilerHints = Pass.dropHints →
      ∀ report, (run provider (r.plan h) p).result = .ok report →
        ∀ x ∈ (run provider (r.plan h) p).state.addressed, ∀ key, x.2.hasAttr key = true →
          ¬ "hint.".toList <+: key.toList) := by
  refine ⟨fun hm hv hgate => ⟨fun target q hq => ?_, fun rule q e hq he => ?_⟩,
    fun hdrop report hok x hx key hkey => ?_⟩
  · obtain ⟨hseen, hlegal⟩ := machine_after_gate hm hv hgate hq
    refine ⟨hseen, fun x hx hillegal => ?_⟩
    have hviolated := Resolved.illegal_iff.1 hillegal
    rw [hlegal x hx] at hviolated
    cases hviolated
  · exact gate_failure_ends hm hv hgate hq he
  · obtain ⟨q, hstate⟩ := state_of_ok hok
    rw [hstate, hdrop] at hx
    exact Pass.no_hint_of_dropHints hx hkey

/-- Passes of an embedder: an early one puts the marker on every op that may not have it, and the one of the
virtual machine puts a hint on every op. -/
def markingPasses : Provider
  | .commonInputConversion =>
    Pass.edit (Program.setAttr (.kind "linalg.generic") "__internal_linalg_transform__" .unit)
  | .vmLowering _ => Pass.edit (Program.setAttr .any "hint.stack" (.bool true))
  | kind => Provider.builtin {} (fun _ => none) kind

/-- The gate stops a marker that an early pass has put there. A program without such ops gets to the virtual
machine, whose hints are gone in the end. -/
theorem gate_guards_machine_marked :
    (∃ e, (run markingPasses (everyStep.plan {}) ⟨[Op.ofKind "linalg.generic"]⟩).result = .error e ∧
      (run markingPasses (everyStep.plan {}) ⟨[Op.ofKind "linalg.generic"]⟩).state = ⟨[refusedOp]⟩ ∧
      ∀ target q, (.vmLowering target, q) ∉
        invoked markingPasses (everyStep.plan {}) ⟨[Op.ofKind "linalg.generic"]⟩) ∧
    ∃ report q, (run markingPasses (everyStep.plan {}) ⟨[Op.ofKind "func.func"]⟩).result = .ok report ∧
      (.vmLowering {}, q) ∈ invoked markingPasses (everyStep.plan {}) ⟨[Op.ofKind "func.func"]⟩ ∧
      (.verifyLegality .initial, q) ∈
        invoked markingPasses (everyStep.plan {}) ⟨[Op.ofKind "func.func"]⟩ ∧
      ∀ x ∈ (run markingPasses (everyStep.plan {}) ⟨[Op.ofKind "func.func"]⟩).state.addressed,
        ∀ key, x.2.hasAttr key = true → ¬ "hint.".toList <+: key.toList := by
  obtain ⟨hrefused, -⟩ :=
    gate_guards_machine everyStep {} markingPasses ⟨[Op.ofKind "linalg.generic"]⟩
  obtain ⟨hpassed, hhints⟩ := gate_guards_machine everyStep {} markingPasses ⟨[Op.ofKind "func.func"]⟩
  have hgate : (.verifyLegality .initial, ⟨[refusedOp]⟩) ∈
      invoked markingPasses (everyStep.plan {}) ⟨[Op.ofKind "linalg.generic"]⟩ :=
    List.mem_of_getElem? (i := 6) rfl
  have hmachine : (.vmLowering {}, ⟨[Op.ofKind "func.func"]⟩) ∈
      invoked markingPasses (everyStep.plan {}) ⟨[Op.ofKind "func.func"]⟩ :=
    List.mem_of_getElem? (i := 8) rfl
  obtain ⟨hno, -, herror, hstate⟩ :=
    (hrefused (by decide) rfl fun _ => rfl).2 .initial ⟨[refusedOp]⟩ _ hgate rfl
  obtain ⟨hseen, -⟩ := (hpassed (by decide) rfl fun _ => rfl).1 {} _ hmachine
  exact ⟨⟨_, herror, hstate, hno⟩, _, _, rfl, hmachine, hseen, hhints rfl _ rfl⟩

end Executor
end StagedLowering
