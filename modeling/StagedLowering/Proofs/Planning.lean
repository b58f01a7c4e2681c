import Mathlib.Data.List.Nodup
import StagedLowering.Proofs.Invocation
import StagedLowering.Proofs.Lowering
import StagedLowering.Proofs.Resolution

/-! Plans of resolved options. What a plan can hold stands in one list of passes with their options, of
which every plan leaves some out; that the options of its stages make sense, that no stage comes twice
and that their order is fixed are read off that list. -/
namespace StagedLowering

/-- The options of the pass make sense. -/
def StageKind.Sound : StageKind → Prop
  | .schedulingLowering format file => ∀ path, file = some path → format ≠ .none ∧ path ≠ ""
  | .hardwareAbstraction _ targets =>
    targets ≠ [] ∧ targets.Nodup ∧ ∀ t ∈ targets, Text.Visible t
  | .verifyLegality rule => Text.Visible rule.opKind ∧ Text.Visible rule.marker
  | .vmLowering target => target.indexBits = 32 ∨ target.indexBits = 64
  | _ => True

namespace Stage

/-- The order of all stages by their names. -/
def order : List String :=
  ["xla-cleanup", "mhlo-input-conversion", "tm-tensor-to-linalg-ext", "tosa-input-conversion",
    "common-input-conversion", "native-bindings", "tflite-bindings", "high-level-optimization",
    "strip-assertions", "scheduling-lowering", "hal-async", "hal-inline-static", "hal-inline-dynamic",
    "verify-transform-legality", "vm-lowering", "drop-compiler-hints"]

lemma mem_allPasses {k : StageKind} {stages : List Stage} :
    k ∈ allPasses stages ↔ ∃ s ∈ stages, k ∈ s.passes := by
  induction stages with
  | nil => simp [allPasses]
  | cons s rest ih => simp [allPasses, ih]

lemma mem_allPasses_of_pass {k : StageKind} {stages : List Stage} (h : .pass k ∈ stages) :
    k ∈ allPasses stages :=
  mem_allPasses.2 ⟨_, h, by simp [passes]⟩

lemma allPasses_pass (k : StageKind) : allPasses [.pass k] = [k] := by
  simp [allPasses, passes]

/-- A pass that occurs once determines the stages before and after its own. -/
lemma split_unique {front back before after : List Stage} {s : Stage} {k : StageKind}
    (honce : (allPasses (front ++ .pass k :: back)).Nodup)
    (hsplit : front ++ .pass k :: back = before ++ s :: after) (hk : k ∈ s.passes) :
    front = before ∧ back = after := by
  rw [← List.singleton_append, allPasses_append, allPasses_append, allPasses_pass,
    List.singleton_append, List.nodup_middle, List.nodup_cons, List.mem_append, not_or] at honce
  have hfront : s ∉ front := fun hs => honce.1.1 (mem_allPasses.2 ⟨s, hs, hk⟩)
  have hback : s ∉ back := fun hs => honce.1.2 (mem_allPasses.2 ⟨s, hs, hk⟩)
  obtain ⟨hbefore, _, hafter⟩ := (List.append_cons_inj_of_notMem hfront hback).1 hsplit
  exact ⟨hbefore, hafter⟩

end Stage

namespace Resolved

open Stage

/-- What a plan can hold for a device layer. -/
def possibleDevice (g : OptionGroups) (variant : DeviceVariant) : List StageKind :=
  [.schedulingLowering g.scheduling.statisticsFormat g.scheduling.statisticsFile,
    .hardwareAbstraction variant g.targetBackend.targets, .verifyLegality g.targetBackend.rule]

/-- All that a plan can hold, in order. -/
def possible (g : OptionGroups) (h : Hooks) : List StageKind :=
  [.xlaCleanup, .mhloInputConversion, .tmTensorToLinalgExt, .tosaInputConversion,
    .commonInputConversion, .nativeBindings, .tfliteBindings,
    .highLevelOptimization (g.optimization.constEval && h.hasConstEval)
      g.optimization.constExprHoisting g.optimization.numericPrecisionReduction,
    .stripAssertions] ++
  g.scheduling.model.device?.toList.flatMap (possibleDevice g) ++
  [.vmLowering g.bytecodeTarget, .dropCompilerHints]

lemma conversion_sublist (d : InputDialect) : (allPasses (conversion d)).Sublist
    [.xlaCleanup, .mhloInputConversion, .tmTensorToLinalgExt, .tosaInputConversion] := by
  cases d <;> decide

lemma optional_sublist (b : Bool) (k : StageKind) : (allPasses (optional b k)).Sublist [k] := by
  cases b with
  | false => exact List.nil_sublist _
  | true => rw [optional, if_pos rfl, allPasses_pass]

lemma deviceStages_sublist (g : OptionGroups) : (allPasses (deviceStages g)).Sublist
    (g.scheduling.model.device?.toList.flatMap (possibleDevice g)) := by
  unfold deviceStages
  cases g.scheduling.model.device? with
  | none => exact List.nil_sublist _
  | some variant =>
    rw [Option.toList_some, List.flatMap_singleton, allPasses_append]
    exact .append (.refl [_, _]) (optional_sublist _ _)

/-- A plan leaves out some of what it can hold, and keeps the rest in order. -/
lemma plan_sublist (r : Resolved) (h : Hooks) :
    (allPasses (r.plan h)).Sublist (possible r.options.groups h) := by
  simp only [plan, allPasses_append, allPasses_pass]
  refine .append (.append ?_ (deviceStages_sublist _)) (.refl _)
  exact .append (.append (.append (.append (.append (conversion_sublist _) (.refl [_]))
    (optional_sublist _ _)) (optional_sublist _ _)) (.refl [_])) (optional_sublist _ _)

lemma possible_names (g : OptionGroups) (h : Hooks) :
    ((possible g h).map (·.name)).Sublist order := by
  unfold possible
  cases g.scheduling.model.device? with
  | none => exact List.isSublist_iff_sublist.1 rfl
  | some variant => cases variant <;> exact List.isSublist_iff_sublist.1 rfl

variable {o : Options} {r : Resolved} {h : Hooks} {c : Converters}

lemma names_sublist (r : Resolved) (h : Hooks) : (names (r.plan h)).Sublist order :=
  ((plan_sublist r h).map _).trans (possible_names _ h)

lemma names_nodup (r : Resolved) (h : Hooks) : (names (r.plan h)).Nodup :=
  (names_sublist r h).nodup (by decide)

lemma device_mem_possible {g : OptionGroups} {variant : DeviceVariant} {targets : List String} :
    .hardwareAbstraction variant targets ∈ possible g h ↔
      g.scheduling.model.device? = some variant ∧ targets = g.targetBackend.targets := by
  simp [possible, possibleDevice]

lemma optimization_mem_possible {g : OptionGroups} {constEval hoisting reduction : Bool} :
    .highLevelOptimization constEval hoisting reduction ∈ possible g h ↔
      constEval = (g.optimization.constEval && h.hasConstEval) ∧
        hoisting = g.optimization.constExprHoisting ∧
        reduction = g.optimization.numericPrecisionReduction := by
  simp [possible, possibleDevice]

/-- What a plan of resolved options can hold makes sense. -/
lemma sound_of_possible (ho : o.Resolvable h c) {k : StageKind}
    (hk : k ∈ possible (o.settled h).groups h) : k.Sound := by
  cases k with
  | schedulingLowering format file =>
    have hoptions : format = o.groups.scheduling.statisticsFormat ∧
        file = (o.settled h).groups.scheduling.statisticsFile := by
      simp_all [possible, possibleDevice, Options.settled]
    obtain ⟨rfl, rfl⟩ := hoptions
    intro path hpath
    rw [Options.settled_file_eq_some] at hpath
    exact ⟨hpath.1, fun hempty => ho.file (hempty ▸ hpath.2)⟩
  | hardwareAbstraction variant targets =>
    obtain ⟨hdevice, rfl⟩ := device_mem_possible.1 hk
    have hmodel : o.groups.scheduling.model ≠ .hostOnly := by
      intro hhost
      cases hdevice.symm.trans (ExecutionModel.device?_eq_none.2 hhost)
    exact ⟨ho.devices.resolve_left hmodel, ho.distinct, ho.targets⟩
  | verifyLegality rule =>
    obtain rfl : rule = o.groups.targetBackend.rule := by
      simp_all [possible, possibleDevice, Options.settled]
    exact ⟨ho.legalityKind, ho.legalityMarker⟩
  | vmLowering target =>
    obtain rfl : target = o.groups.bytecodeTarget := by
      simp_all [possible, possibleDevice, Options.settled]
    exact ho.indexBits
  | _ => trivial

/-- A plan with a device layer: scheduling, the layer, and the gate if there is one. -/
lemma plan_device (h : Hooks) {variant : DeviceVariant}
    (hv : r.options.groups.scheduling.model.device? = some variant) : ∃ input, r.plan h =
      (input ++ [.pass (.schedulingLowering r.options.groups.scheduling.statisticsFormat
        r.options.groups.scheduling.statisticsFile)]) ++
      .pass (.hardwareAbstraction variant r.options.groups.targetBackend.targets) ::
      (optional r.options.groups.targetBackend.verifyLegality
        (.verifyLegality r.options.groups.targetBackend.rule) ++
        [.pass (.vmLowering r.options.groups.bytecodeTarget), .pass .dropCompilerHints]) := by
  have hplan : ∃ input, r.plan h = input ++ deviceStages r.options.groups ++
      [.pass (.vmLowering r.options.groups.bytecodeTarget), .pass .dropCompilerHints] := ⟨_, rfl⟩
  obtain ⟨input, hplan⟩ := hplan
  refine ⟨input, ?_⟩
  rw [hplan]
  simp only [deviceStages, hv, List.append_assoc, List.cons_append, List.nil_append]
  rfl

/-- The device layer is there exactly when the model asks for devices. -/
lemma device_mem_plan (r : Resolved) (h : Hooks) :
    (∃ variant targets, .hardwareAbstraction variant targets ∈ allPasses (r.plan h)) ↔
      r.options.groups.scheduling.model ≠ .hostOnly := by
  constructor
  · rintro ⟨variant, targets, hk⟩ hhost
    obtain ⟨hdevice, _⟩ := device_mem_possible.1 ((plan_sublist r h).mem hk)
    cases hdevice.symm.trans (ExecutionModel.device?_eq_none.2 hhost)
  · intro hm
    obtain ⟨variant, hv⟩ := Option.ne_none_iff_exists'.1 (mt ExecutionModel.device?_eq_none.1 hm)
    obtain ⟨input, hplan⟩ := plan_device h hv
    refine ⟨variant, r.options.groups.targetBackend.targets, mem_allPasses_of_pass ?_⟩
    rw [hplan]
    exact List.mem_append_right _ List.mem_cons_self

lemma optimization_mem_plan {constEval hoisting reduction : Bool} :
    .highLevelOptimization constEval hoisting reduction ∈ allPasses (r.plan h) ↔
      constEval = (r.options.groups.optimization.constEval && h.hasConstEval) ∧
        hoisting = r.options.groups.optimization.constExprHoisting ∧
        reduction = r.options.groups.optimization.numericPrecisionReduction := by
  constructor
  · exact fun hk => optimization_mem_possible.1 ((plan_sublist r h).mem hk)
  · rintro ⟨rfl, rfl, rfl⟩
    apply mem_allPasses_of_pass
    simp [plan]

/-- Scheduling comes right before the device layer, and the gate, if there is one, right after. -/
lemma device_neighbours {before after : List Stage} {s : Stage} {variant : DeviceVariant}
    {targets : List String} (hsplit : r.plan h = before ++ s :: after)
    (hk : .hardwareAbstraction variant targets ∈ s.passes) :
    (∃ front format file, before = front ++ [.pass (.schedulingLowering format file)]) ∧
    (r.options.groups.targetBackend.verifyLegality = true →
      ∃ rule rest, after = .pass (.verifyLegality rule) :: rest) := by
  have hmem : .hardwareAbstraction variant targets ∈ allPasses (r.plan h) := by
    rw [hsplit]
    exact mem_allPasses.2 ⟨s, List.mem_append_right _ List.mem_cons_self, hk⟩
  obtain ⟨hv, rfl⟩ := device_mem_possible.1 ((plan_sublist r h).mem hmem)
  obtain ⟨input, hplan⟩ := plan_device h hv
  -- No pass comes twice, so the split is the one around the planned layer.
  have honce : (allPasses (r.plan h)).Nodup := (names_nodup r h).of_map _
  rw [hplan] at honce hsplit
  obtain ⟨rfl, rfl⟩ := split_unique honce hsplit hk
  refine ⟨⟨input, _, _, rfl⟩, fun hgate => ?_⟩
  rw [hgate]
  exact ⟨_, _, rfl⟩

/-- The stages agree with the options and with each other. -/
structure Consistent (o : Options) (h : Hooks) (stages : List Stage) : Prop where
  sound : ∀ k ∈ allPasses stages, k.Sound
  around : ∀ before s after variant targets, stages = before ++ s :: after →
    .hardwareAbstraction variant targets ∈ s.passes →
    (∃ front format file, before = front ++ [.pass (.schedulingLowering format file)]) ∧
    (o.groups.targetBackend.verifyLegality = true →
      ∃ rule rest, after = .pass (.verifyLegality rule) :: rest)
  devices : (∃ variant targets, .hardwareAbstraction variant targets ∈ allPasses stages) ↔
    o.groups.scheduling.model ≠ .hostOnly
  optimized : ∀ constEval hoisting reduction,
    .highLevelOptimization constEval hoisting reduction ∈ allPasses stages ↔
      (constEval = true ↔ o.groups.optimization.constEval = true ∧ h.hasConstEval = true) ∧
        hoisting = o.groups.optimization.constExprHoisting ∧
        reduction = o.groups.optimization.numericPrecisionReduction
  distinct : (names stages).Nodup
  ordered : (names stages).Sublist order
  last : ∃ front target, stages = front ++ [.pass (.vmLowering target), .pass .dropCompilerHints]

/-- Whatever options resolve, their plan is consistent. -/
theorem plan_consistent (hr : o.resolve h c = .ok r) : Consistent o h (r.plan h) := by
  obtain ⟨ho, rfl⟩ := Options.resolve_ok_iff.1 hr
  constructor
  case sound => exact fun k hk => sound_of_possible ho ((plan_sublist _ h).mem hk)
  case around =>
    intro before s after variant targets hsplit hk
    exact device_neighbours (r := ⟨o.settled h⟩) hsplit hk
  case devices => exact device_mem_plan _ h
  case optimized =>
    intro constEval hoisting reduction
    rw [optimization_mem_plan, Bool.eq_iff_iff]
    simp [Options.settled]
  case distinct => exact names_nodup _ h
  case ordered => exact names_sublist _ h
  case last => exact ⟨_, _, rfl⟩

/-- Asks for every stage that fits with the others. -/
def everything : Options where
  groups.binding := { native := true, tflite := true }
  groups.inputDialect.dialect := .xla
  groups.optimization := { constEval := true, constExprHoisting := true, stripAssertions := true }
  groups.scheduling :=
    { model := .inlineStatic, statisticsFormat := .csv, statisticsFile := some "statistics.csv" }
  groups.targetBackend.targets := ["llvm-cpu", "cuda"]
  groups.bytecodeTarget.indexBits := 64
  strict := true

/-- A hook that replaces nothing. -/
def knowsNothing : Hooks := ⟨some fun _ => none⟩

theorem plan_consistent_everything :
    everything.resolve knowsNothing .builtin = .ok ⟨everything⟩ ∧
      Consistent everything knowsNothing (plan ⟨everything⟩ knowsNothing) :=
  ⟨rfl, plan_consistent (c := .builtin) rfl⟩

end Resolved

end StagedLowering
