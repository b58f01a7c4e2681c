import Mathlib.Tactic.Lemma
import StagedLowering.Options.Resolve

/-! What options have to meet to be resolved. The requirements stand in a list, each with its error, and
resolution gives the error of the first that is not met. When all are met, only what has no use is
cleared, so that a second resolution finds nothing to do. -/
namespace StagedLowering

/-- A check followed by another passes when both do, the second on what the first gives. -/
lemma Checked.bind_passes {α β : Type} {x : Checked α} {f : α → Checked β} {b : β} :
    x >>= f = .ok b ↔ ∃ a, x = .ok a ∧ f a = .ok b := by
  rcases x with e | a
  · exact ⟨fun h => (nomatch h), fun ⟨_, h, _⟩ => (nomatch h)⟩
  · refine ⟨fun h => ⟨a, rfl, h⟩, ?_⟩
    rintro ⟨_, h, hf⟩
    cases h
    exact hf

/-- It fails when the first does, or the second on what the first gives. -/
lemma Checked.bind_fails {α β : Type} {x : Checked α} {f : α → Checked β} {e : ConfigError} :
    x >>= f = .error e ↔ x = .error e ∨ ∃ a, x = .ok a ∧ f a = .error e := by
  rcases x with e' | a
  · refine ⟨fun h => .inl ?_, ?_⟩
    · cases h
      rfl
    · rintro (h | ⟨_, h, _⟩) <;> cases h
      rfl
  · refine ⟨fun h => .inr ⟨a, rfl, h⟩, ?_⟩
    rintro (h | ⟨_, h, hf⟩) <;> cases h
    exact hf

@[simp] lemma Checked.ok_bind {α β : Type} (a : α) (f : α → Checked β) :
    (.ok a : Checked α) >>= f = f a := rfl

@[simp] lemma Checked.error_bind {α β : Type} (e : ConfigError) (f : α → Checked β) :
    (.error e : Checked α) >>= f = .error e := rfl

/-- The text has a character that is no white space. -/
def Text.Visible (s : String) : Prop := ∃ c ∈ s.toList, isBlank c = false

lemma Text.isVoid_eq_false {s : String} : isVoid s = false ↔ Visible s := by
  simp [isVoid, Visible]

/-- A condition, and the error when it is not met. -/
structure Requirement where
  met : Prop
  error : ConfigError

/-- The error of the first requirement that is not met. -/
inductive FirstUnmet : List Requirement → ConfigError → Prop
  | here {q : Requirement} {l : List Requirement} (h : ¬q.met) : FirstUnmet (q :: l) q.error
  | later {q : Requirement} {l : List Requirement} {e : ConfigError} (hq : q.met)
    (h : FirstUnmet l e) : FirstUnmet (q :: l) e

namespace FirstUnmet

variable {l l' : List Requirement} {e e' : ConfigError}

lemma append_left (h : FirstUnmet l e) (l' : List Requirement) : FirstUnmet (l ++ l') e := by
  induction h with
  | here h => exact .here h
  | later hq _ ih => exact .later hq ih

lemma append_right (hl : ∀ q ∈ l, q.met) (h : FirstUnmet l' e) : FirstUnmet (l ++ l') e := by
  induction l with
  | nil => exact h
  | cons q l ih =>
    rw [List.forall_mem_cons] at hl
    exact .later hl.1 (ih hl.2)

lemma of_append (hl : ∀ q ∈ l, q.met) (h : FirstUnmet (l ++ l') e) : FirstUnmet l' e := by
  induction l with
  | nil => exact h
  | cons q l ih =>
    rw [List.forall_mem_cons] at hl
    cases h with
    | here hq => exact absurd hl.1 hq
    | later _ h => exact ih hl.2 h

lemma not_all_met (h : FirstUnmet l e) : ¬∀ q ∈ l, q.met := by
  intro hl
  induction h with
  | here h => exact h (hl _ List.mem_cons_self)
  | later _ _ ih => exact ih fun q hq => hl q (List.mem_cons_of_mem _ hq)

lemma unique (h : FirstUnmet l e) (h' : FirstUnmet l e') : e = e' := by
  induction h with
  | here h =>
    cases h' with
    | here => rfl
    | later hq _ => exact absurd hq h
  | later hq _ ih =>
    cases h' with
    | here h => exact absurd hq h
    | later _ h' => exact ih h'

end FirstUnmet

/-- The computation checks the requirements in order, and gives `a` when all are met. -/
def Checked.Tests {α : Type} (x : Checked α) (l : List Requirement) (a : α) : Prop :=
  (x = .ok a ∧ ∀ q ∈ l, q.met) ∨ ∃ e, x = .error e ∧ FirstUnmet l e

namespace Checked.Tests

variable {α β : Type} {x : Checked α} {l l' : List Requirement} {a b : α}

lemma eq_ok_iff (h : Tests x l a) : x = .ok b ↔ (∀ q ∈ l, q.met) ∧ b = a := by
  rcases h with ⟨rfl, hl⟩ | ⟨e, rfl, he⟩
  · exact ⟨fun h => ⟨hl, (Except.ok.inj h).symm⟩, fun h => by rw [h.2]⟩
  · exact ⟨fun h => (nomatch h), fun h => absurd h.1 he.not_all_met⟩

lemma eq_error_iff (h : Tests x l a) {e : ConfigError} : x = .error e ↔ FirstUnmet l e := by
  rcases h with ⟨rfl, hl⟩ | ⟨e', rfl, he⟩
  · exact ⟨fun h => (nomatch h), fun h => absurd hl h.not_all_met⟩
  · exact ⟨fun h => Except.error.inj h ▸ he, fun h => by rw [he.unique h]⟩

lemma ok (a : α) : Tests (.ok a) [] a := .inl ⟨rfl, by simp⟩

lemma bind {f : α → Checked β} {b : β} (hx : Tests x l a) (hf : Tests (f a) l' b) :
    Tests (x >>= f) (l ++ l') b := by
  rcases hx with ⟨rfl, hl⟩ | ⟨e, rfl, he⟩
  · rcases hf with ⟨hb, hl'⟩ | ⟨e, he, hfirst⟩
    · exact .inl ⟨hb, List.forall_mem_append.2 ⟨hl, hl'⟩⟩
    · exact .inr ⟨e, he, hfirst.append_right hl⟩
  · exact .inr ⟨e, rfl, he.append_left l'⟩

/-- A check that refuses `p` in front of others. -/
lemma cons {p m : Prop} [Decidable p] (hm : m ↔ ¬p) (e : ConfigError) (hx : Tests x l a) :
    Tests (if p then .error e else x) (⟨m, e⟩ :: l) a := by
  by_cases hp : p
  · rw [if_pos hp]
    exact .inr ⟨e, rfl, .here fun hmet => hm.1 hmet hp⟩
  · rw [if_neg hp]
    rcases hx with ⟨hx, hl⟩ | ⟨e', he, hfirst⟩
    · exact .inl ⟨hx, List.forall_mem_cons.2 ⟨hm.2 hp, hl⟩⟩
    · exact .inr ⟨e', he, .later (hm.2 hp) hfirst⟩

/-- A check that asks for `p`. -/
lemma asks {p m : Prop} [Decidable p] (hm : m ↔ p) (e : ConfigError) (a : α) :
    Tests (if p then .ok a else .error e) [⟨m, e⟩] a := by
  rw [← ite_not]
  exact cons (hm.trans Decidable.not_not.symm) e (ok a)

/-- A check that refuses `p` in strict mode only, and otherwise goes on with what `p` does not concern. -/
lemma strictly {p m : Prop} [Decidable p] {strict : Bool} (hm : m ↔ (strict = true → ¬p))
    (e : ConfigError) (hab : ¬p → a = b) :
    Tests (if p then if strict then .error e else .ok b else .ok a) [⟨m, e⟩] b := by
  by_cases hp : p
  · rw [if_pos hp]
    exact cons (hm.trans (imp_congr_right fun _ => iff_false_intro (not_not_intro hp))) e (ok b)
  · rw [if_neg hp, hab hp]
    exact .inl ⟨rfl, List.forall_mem_singleton.2 (hm.2 fun _ => hp)⟩

end Checked.Tests

/-- The requirements on each target behind those in `before`, in order: its name is visible, and no target
in front has it. -/
def targetRequirements (before targets : List String) : List Requirement :=
  (targets.zipIdx before.length).flatMap fun x =>
    [⟨Text.Visible x.1, .validation ("target_backend.targets[" ++ x.2.repr ++ "] is empty")⟩,
      ⟨x.1 ∉ (before ++ targets).take x.2,
        .validation ("target_backend.targets lists '" ++ x.1 ++ "' more than once")⟩]

/-- No target is among those before it when no two are equal. -/
lemma fresh_iff (before targets : List String) :
    (∀ x ∈ targets.zipIdx before.length, x.1 ∉ (before ++ targets).take x.2) ↔
      targets.Nodup ∧ ∀ t ∈ targets, t ∉ before := by
  induction targets generalizing before with
  | nil => simp
  | cons t rest ih =>
    have hrest := ih (before ++ [t])
    rw [List.append_assoc, List.singleton_append, List.length_append, List.length_singleton] at hrest
    rw [List.zipIdx_cons, List.forall_mem_cons, List.take_left, hrest, List.nodup_cons,
      List.forall_mem_cons]
    simp only [List.mem_append, List.mem_singleton]
    grind

lemma targetRequirements_met {targets : List String} :
    (∀ q ∈ targetRequirements [] targets, q.met) ↔
      (∀ t ∈ targets, Text.Visible t) ∧ targets.Nodup := by
  have hfresh := fresh_iff [] targets
  simp only [List.length_nil, List.nil_append, List.not_mem_nil, not_false_eq_true, implies_true,
    and_true] at hfresh
  have hvisible : (∀ x ∈ targets.zipIdx, Text.Visible x.1) ↔ ∀ t ∈ targets, Text.Visible t := by
    rw [← List.forall_mem_map (f := Prod.fst), List.zipIdx_map_fst]
  rw [← hfresh, ← hvisible]
  simp only [targetRequirements, List.mem_flatMap]
  constructor
  · intro hmet
    exact ⟨fun x hx => hmet _ ⟨x, hx, List.mem_cons_self⟩,
      fun x hx => hmet _ ⟨x, hx, List.mem_cons_of_mem _ List.mem_cons_self⟩⟩
  · rintro ⟨hseen, hnew⟩ q ⟨x, hx, hq⟩
    rcases List.mem_cons.1 hq with rfl | hq
    · exact hseen x hx
    · rw [List.mem_singleton.1 hq]
      exact hnew x hx

def Scheduling.fileRequirement (o : Scheduling) : Requirement :=
  ⟨o.statisticsFile ≠ some "", .validation "scheduling.dump_statistics_file must not be empty"⟩

def TargetBackend.requirements (o : TargetBackend) : List Requirement :=
  targetRequirements [] o.targets ++
    [⟨Text.Visible o.legalityKind, .validation "target_backend.legality_op_kind must not be empty"⟩,
      ⟨Text.Visible o.legalityMarker, .validation "target_backend.legality_marker must not be empty"⟩]

def BytecodeTarget.indexRequirement (o : BytecodeTarget) : Requirement :=
  ⟨o.indexBits = 32 ∨ o.indexBits = 64, .range "bytecode_target.index_bits" o.indexBits.toNat 32 64
    "Only 32 and 64 bit indices are supported"⟩

/-- What groups have to meet on their own. -/
def OptionGroups.requirements (g : OptionGroups) : List Requirement :=
  g.scheduling.fileRequirement :: (g.targetBackend.requirements ++ [g.bytecodeTarget.indexRequirement])

namespace Options

def hookRequirement (o : Options) (h : Hooks) : Requirement :=
  ⟨o.strict = true → o.groups.optimization.constEval = true → h.hasConstEval = true,
    .missingPrerequisite "high_level_optimization.const_eval" "a const-eval hook"
      "Install one with PipelineHooks::with_const_eval(..) or set const_eval=false"⟩

def formatRequirement (o : Options) : Requirement :=
  ⟨o.strict = true → o.groups.scheduling.statisticsFile.isSome = true →
      o.groups.scheduling.statisticsFormat ≠ .none,
    .missingPrerequisite "scheduling.dump_statistics_file"
      "a dump_statistics_format other than 'none'"
      "Set scheduling.dump_statistics_format or drop the file"⟩

def dialectRequirement (o : Options) (c : Converters) : Requirement :=
  ⟨o.groups.inputDialect.dialect = .none ∨ o.groups.inputDialect.dialect ∈ c.registered,
    .unavailableDialect (Choice.name o.groups.inputDialect.dialect) c.available⟩

def deviceRequirement (o : Options) : Requirement :=
  ⟨o.groups.scheduling.model = .hostOnly ∨ o.groups.targetBackend.targets ≠ [],
    .conflict
      ("execution model '" ++ Choice.name o.groups.scheduling.model ++
        "' lowers to devices but no target backends are configured")
      ("Add a target with .target_backend(|t| t.targets([\"llvm-cpu\"])) or use execution " ++
        "model 'host-only'")⟩

/-- What options have to meet, in the order of the checks: each group, the features and what they need, the
groups with each other. -/
def requirements (o : Options) (h : Hooks) (c : Converters) : List Requirement :=
  o.groups.requirements ++
    [o.hookRequirement h, o.formatRequirement, o.dialectRequirement c, o.deviceRequirement]

end Options

open Checked

lemma validateTargets_tests (before targets : List String) :
    Tests (TargetBackend.validateTargets before targets)
      (targetRequirements before targets) () := by
  induction targets generalizing before with
  | nil => exact Tests.ok ()
  | cons t rest ih =>
    have hrest := ih (before ++ [t])
    rw [targetRequirements, List.append_assoc, List.singleton_append, List.length_append,
      List.length_singleton] at hrest
    rw [TargetBackend.validateTargets, targetRequirements, List.zipIdx_cons, List.flatMap_cons]
    simp only [List.cons_append, List.nil_append]
    have hvisible : Text.Visible t ↔ ¬Text.isVoid t = true := by
      rw [Bool.not_eq_true, Text.isVoid_eq_false]
    have hfresh : t ∉ (before ++ t :: rest).take before.length ↔ ¬t ∈ before := by
      rw [List.take_left]
    exact .cons hvisible _ (.cons hfresh _ hrest)

lemma TargetBackend.validate_tests (o : TargetBackend) : Tests o.validate o.requirements () := by
  unfold TargetBackend.validate
  refine Tests.bind (validateTargets_tests [] o.targets) ?_
  simp only [Checked.error_bind]
  have hvisible (s : String) : Text.Visible s ↔ ¬Text.isVoid s = true := by
    rw [Bool.not_eq_true, Text.isVoid_eq_false]
  exact .cons (hvisible _) _ (.cons (hvisible _) _ (.ok ()))

lemma Scheduling.validate_tests (o : Scheduling) : Tests o.validate [o.fileRequirement] () := by
  unfold Scheduling.validate
  exact .cons Iff.rfl _ (.ok ())

lemma BytecodeTarget.validate_tests (o : BytecodeTarget) :
    Tests o.validate [o.indexRequirement] () := by
  unfold BytecodeTarget.validate
  exact .asks Iff.rfl _ ()

lemma OptionGroups.validate_tests (g : OptionGroups) : Tests g.validate g.requirements () := by
  unfold OptionGroups.validate
  simp only [GroupKey.all, List.forM_eq_forM, List.forM_cons, List.forM_nil]
  -- Three of the groups have nothing to check.
  exact .bind (.ok ()) (.bind (.ok ()) (.bind (.ok ()) (.bind g.scheduling.validate_tests
    (.bind g.targetBackend.validate_tests (.bind g.bytecodeTarget.validate_tests (.ok ()))))))

namespace Options

/-- The options without what has no use: const-eval without a hook, a statistics file without a format. -/
def settled (o : Options) (h : Hooks) : Options :=
  { o with
    groups.optimization.constEval := o.groups.optimization.constEval && h.hasConstEval
    groups.scheduling.statisticsFile :=
      if o.groups.scheduling.statisticsFormat = .none then none
      else o.groups.scheduling.statisticsFile }

variable (o : Options) (h : Hooks) (c : Converters)

lemma constEvalPrerequisite_tests : Tests (o.constEvalPrerequisite h) [o.hookRequirement h]
    { o with groups.optimization.constEval := o.groups.optimization.constEval && h.hasConstEval } := by
  unfold constEvalPrerequisite
  cases hhook : h.hasConstEval with
  | true =>
    simp only [Bool.not_true, Bool.and_false, Bool.and_true]
    exact .inl ⟨rfl, List.forall_mem_singleton.2 fun _ _ => hhook⟩
  | false =>
    simp only [Bool.not_false, Bool.and_true, Bool.and_false]
    refine .strictly (by simp [hhook]) _ ?_
    intro hoff
    rw [Bool.not_eq_true] at hoff
    simp [← hoff]

lemma statisticsPrerequisite_tests : Tests o.statisticsPrerequisite [o.formatRequirement]
    { o with
      groups.scheduling.statisticsFile :=
        if o.groups.scheduling.statisticsFormat = .none then none
        else o.groups.scheduling.statisticsFile } := by
  unfold statisticsPrerequisite
  by_cases hformat : o.groups.scheduling.statisticsFormat = .none
  · simp only [hformat, decide_true, Bool.and_true, if_true]
    refine .strictly (by simp [hformat]) _ ?_
    intro hfile
    simp only [Bool.not_eq_true, Option.isSome_eq_false_iff, Option.isNone_iff_eq_none] at hfile
    simp [← hfile, ← hformat]
  · simp only [hformat, decide_false, Bool.and_false, if_false]
    exact .inl ⟨rfl, List.forall_mem_singleton.2 fun _ _ => hformat⟩

lemma checkDialect_tests : Tests (o.checkDialect c) [o.dialectRequirement c] () := by
  unfold checkDialect
  refine .asks ?_ _ ()
  simp [Converters.isAvailable]

lemma checkTargets_tests : Tests o.checkTargets [o.deviceRequirement] () := by
  unfold checkTargets
  refine .cons ?_ _ (.ok ())
  cases o.groups.scheduling.model <;> simp [ExecutionModel.needsDevice, ExecutionModel.device?]

/-- Resolution checks the requirements in their order, and clears what has no use. -/
theorem resolve_tests : Tests (o.resolve h c) (o.requirements h c) ⟨o.settled h⟩ :=
  .bind o.groups.validate_tests (.bind (o.constEvalPrerequisite_tests h)
    (.bind (statisticsPrerequisite_tests _) (.bind (checkDialect_tests _ c)
      (.bind (checkTargets_tests _) (.ok _)))))

/-- What options, hooks and converters have to agree on. -/
structure Resolvable (o : Options) (h : Hooks) (c : Converters) : Prop where
  file : o.groups.scheduling.statisticsFile ≠ some ""
  targets : ∀ t ∈ o.groups.targetBackend.targets, Text.Visible t
  distinct : o.groups.targetBackend.targets.Nodup
  legalityKind : Text.Visible o.groups.targetBackend.legalityKind
  legalityMarker : Text.Visible o.groups.targetBackend.legalityMarker
  indexBits : o.groups.bytecodeTarget.indexBits = 32 ∨ o.groups.bytecodeTarget.indexBits = 64
  hook : o.strict = true → o.groups.optimization.constEval = true → h.hasConstEval = true
  format : o.strict = true → o.groups.scheduling.statisticsFile.isSome = true →
    o.groups.scheduling.statisticsFormat ≠ .none
  dialect : o.groups.inputDialect.dialect = .none ∨ o.groups.inputDialect.dialect ∈ c.registered
  devices : o.groups.scheduling.model = .hostOnly ∨ o.groups.targetBackend.targets ≠ []

lemma requirements_met : (∀ q ∈ o.requirements h c, q.met) ↔ o.Resolvable h c := by
  simp only [requirements, OptionGroups.requirements, TargetBackend.requirements, List.cons_append,
    List.forall_mem_cons, List.forall_mem_append, targetRequirements_met, List.not_mem_nil,
    false_imp_iff, implies_true, and_true]
  constructor
  · rintro ⟨hfile, ⟨⟨⟨htargets, hdistinct⟩, hkind, hmarker⟩, hbits⟩, hhook, hformat, hdialect, hdevices⟩
    exact ⟨hfile, htargets, hdistinct, hkind, hmarker, hbits, hhook, hformat, hdialect, hdevices⟩
  · rintro ⟨hfile, htargets, hdistinct, hkind, hmarker, hbits, hhook, hformat, hdialect, hdevices⟩
    exact ⟨hfile, ⟨⟨⟨htargets, hdistinct⟩, hkind, hmarker⟩, hbits⟩, hhook, hformat, hdialect, hdevices⟩

variable {o h c}

theorem resolve_ok_iff {r : Resolved} :
    o.resolve h c = .ok r ↔ o.Resolvable h c ∧ r = ⟨o.settled h⟩ := by
  rw [(o.resolve_tests h c).eq_ok_iff, requirements_met]

lemma resolvable_iff : (∃ r, o.resolve h c = .ok r) ↔ o.Resolvable h c := by
  simp only [resolve_ok_iff, exists_and_left, exists_eq, and_true]

lemma settled_file_eq_some {file : String} :
    (o.settled h).groups.scheduling.statisticsFile = some file ↔
      o.groups.scheduling.statisticsFormat ≠ .none ∧
        o.groups.scheduling.statisticsFile = some file := by
  simp [settled]

lemma settled_settled : (o.settled h).settled h = o.settled h := by
  by_cases hformat : o.groups.scheduling.statisticsFormat = .none <;> simp [settled, hformat]

/-- A file that is cleared breaks no requirement, and one that stays has a format. -/
lemma Resolvable.settled (ho : o.Resolvable h c) : (o.settled h).Resolvable h c where
  file := by
    simp only [Options.settled]
    split
    · exact nofun
    · exact ho.file
  hook _ hon := ((Bool.and_eq_true _ _).mp hon).2
  format _ hfile hnone := by simp_all [Options.settled]
  targets := ho.targets
  distinct := ho.distinct
  legalityKind := ho.legalityKind
  legalityMarker := ho.legalityMarker
  indexBits := ho.indexBits
  dialect := ho.dialect
  devices := ho.devices

/-- Nothing is cleared when the features have what they need. -/
lemma settled_eq_self : o.settled h = o ↔
    (o.groups.optimization.constEval = true → h.hasConstEval = true) ∧
      (o.groups.scheduling.statisticsFile.isSome = true →
        o.groups.scheduling.statisticsFormat ≠ .none) := by
  constructor
  · intro hself
    have hconst : (o.groups.optimization.constEval && h.hasConstEval) =
        o.groups.optimization.constEval := congrArg (·.groups.optimization.constEval) hself
    have hfile : (if o.groups.scheduling.statisticsFormat = .none then none
        else o.groups.scheduling.statisticsFile) = o.groups.scheduling.statisticsFile :=
      congrArg (·.groups.scheduling.statisticsFile) hself
    refine ⟨Bool.and_eq_left_iff_imp.1 hconst, fun hsome hnone => ?_⟩
    rw [if_pos hnone] at hfile
    rw [← hfile] at hsome
    cases hsome
  · rintro ⟨hhook, hformat⟩
    have hconst : (o.groups.optimization.constEval && h.hasConstEval) =
        o.groups.optimization.constEval := Bool.and_eq_left_iff_imp.2 hhook
    have hfile : (if o.groups.scheduling.statisticsFormat = .none then none
        else o.groups.scheduling.statisticsFile) = o.groups.scheduling.statisticsFile := by
      cases hsome : o.groups.scheduling.statisticsFile with
      | none => exact ite_self _
      | some file => exact if_neg (hformat (by rw [hsome]; rfl))
    simp only [settled, hconst, hfile]

lemma resolvable_strict : { o with strict := true }.Resolvable h c ↔
    { o with strict := false }.Resolvable h c ∧ o.settled h = o := by
  rw [settled_eq_self]
  constructor
  · intro ho
    exact ⟨{ ho with hook := nofun, format := nofun }, ho.hook rfl, ho.format rfl⟩
  · rintro ⟨ho, hhook, hformat⟩
    exact { ho with hook := fun _ => hhook, format := fun _ => hformat }

/-- Options resolve exactly when they are resolvable, and only what has no use is cleared, once and for
all. Strict mode lets through what loses nothing without it. A refusal gives the error of the first
requirement that is not met. -/
theorem resolve_exact (o : Options) (h : Hooks) (c : Converters) :
    ((∃ r, o.resolve h c = .ok r) ↔ o.Resolvable h c) ∧
    (∀ r, o.resolve h c = .ok r → r = ⟨o.settled h⟩ ∧ r.options.resolve h c = .ok r) ∧
    ((∃ r, { o with strict := true }.resolve h c = .ok r) ↔
      { o with strict := false }.resolve h c = .ok ⟨{ o with strict := false }⟩) ∧
    (∀ r, { o with strict := true }.resolve h c = .ok r →
      ∃ r', { o with strict := false }.resolve h c = .ok r' ∧ r'.options.groups = r.options.groups) ∧
    ∀ e, o.resolve h c = .error e ↔ FirstUnmet (o.requirements h c) e := by
  refine ⟨resolvable_iff, ?_, ?_, ?_, fun e => (o.resolve_tests h c).eq_error_iff⟩
  · intro r hr
    obtain ⟨ho, rfl⟩ := resolve_ok_iff.1 hr
    exact ⟨rfl, resolve_ok_iff.2 ⟨ho.settled, by rw [settled_settled]⟩⟩
  · rw [resolvable_iff, resolvable_strict, resolve_ok_iff, Resolved.mk.injEq, settled_eq_self]
    exact and_congr_right fun _ =>
      (eq_comm.trans (settled_eq_self (o := { o with strict := false }))).symm
  · intro r hr
    obtain ⟨hstrict, rfl⟩ := resolve_ok_iff.1 hr
    exact ⟨_, resolve_ok_iff.2 ⟨(resolvable_strict.1 hstrict).1, rfl⟩, rfl⟩

/-- Asks for two features that lack what they need. -/
def idle : Options where
  groups.optimization.constEval := true
  groups.scheduling := { model := .hostOnly, statisticsFile := some "statistics.csv" }

/-- Without a hook both features are dropped; in strict mode the first is refused. -/
theorem resolve_exact_idle :
    idle.resolve {} {} = .ok ⟨idle.settled {}⟩ ∧
    (idle.settled {}).resolve {} {} = .ok ⟨idle.settled {}⟩ ∧
    FirstUnmet ({ idle with strict := true }.requirements {} {})
      (.missingPrerequisite "high_level_optimization.const_eval" "a const-eval hook"
        "Install one with PipelineHooks::with_const_eval(..) or set const_eval=false") := by
  have hr : idle.resolve {} {} = .ok ⟨idle.settled {}⟩ := rfl
  obtain ⟨_, hagain⟩ := (resolve_exact idle {} {}).2.1 _ hr
  exact ⟨hr, hagain, ((resolve_exact { idle with strict := true } {} {}).2.2.2.2 _).1 rfl⟩

end Options

namespace Resolved

variable {o : Options} {h : Hooks} {c : Converters} {r : Resolved}

/-- Const-eval stays on only with a hook. -/
theorem hasConstEval_of_resolve (hr : o.resolve h c = .ok r)
    (hc : r.options.groups.optimization.constEval = true) : h.hasConstEval = true := by
  obtain ⟨_, rfl⟩ := Options.resolve_ok_iff.1 hr
  exact ((Bool.and_eq_true _ _).mp hc).2

/-- A statistics file stays only with a format. -/
theorem format_of_resolve (hr : o.resolve h c = .ok r) {file : String}
    (hf : r.options.groups.scheduling.statisticsFile = some file) :
    r.options.groups.scheduling.statisticsFormat ≠ .none := by
  obtain ⟨_, rfl⟩ := Options.resolve_ok_iff.1 hr
  exact (Options.settled_file_eq_some.1 hf).1

end Resolved

end StagedLowering
