import StagedLowering.Executor
import StagedLowering.Proofs.Outcome
import StagedLowering.Proofs.Substitution

/-! What a sub-pipeline does to a program: it replaces the outermost anchors one after the other, up to
the first one on which it fails. -/
namespace StagedLowering

/-- Neither op is the other one or inside it. -/
def OpPath.Apart (a b : OpPath) : Prop := ¬ a.indices <+: b.indices ∧ ¬ b.indices <+: a.indices

lemma OpPath.Apart.ne {a b : OpPath} (h : a.Apart b) : a ≠ b := by
  rintro rfl
  exact h.1 List.prefix_rfl

lemma apart_of_prefix {base : List Nat} {i j : Nat} {a b : OpPath} (hij : i ≠ j)
    (ha : base ++ [i] <+: a.indices) (hb : base ++ [j] <+: b.indices) : a.Apart b := by
  have hne : ∀ {c : List Nat}, base ++ [i] <+: c → ¬ base ++ [j] <+: c := by
    intro c hi hj
    have heq := List.prefix_of_prefix_length_le hi hj (by simp)
    rw [List.prefix_append_right_inj, List.cons_prefix_cons] at heq
    exact hij heq.1
  exact ⟨fun h => hne (ha.trans h) hb, fun h => hne ha (hb.trans h)⟩

/-- What is listed in an element of a list lies apart from what is listed in the elements behind it. -/
lemma Lists.apart_gather {α : Type} {f : List Nat → α → List (OpPath × Op)}
    {look : α → List Nat → Option Op} {a : α} {rest : List α} (ha : Lists f look a)
    (hrest : ∀ b ∈ rest, Lists f look b) (base : List Nat) (i : Nat) :
    ∀ x ∈ f (base ++ [i]) a, ∀ y ∈ StagedLowering.gather f base (i + 1) rest, x.1.Apart y.1 := by
  intro x hx y hy
  obtain ⟨j, b, hb, hy⟩ := mem_gather.1 hy
  exact apart_of_prefix (by omega) (ha.under hx) ((hrest b (List.mem_of_getElem? hb)).under hy)

namespace Executor

/-- What a body leaves of an op that it runs on by itself. -/
def Body.roots (body : Body) (x : Op) : List Op := (body ⟨[x]⟩).state.ops

/-- How a sweep over anchors ends: after all of them, or with the first failure. -/
inductive Ended (body : Body) :
    List (OpPath × Op) → List (OpPath × Op) → Except PipelineError Nat → Prop
  | all {done : List (OpPath × Op)} (good : ∀ x ∈ done, (body ⟨[x.2]⟩).result = .ok ()) :
    Ended body done [] (.ok done.length)
  | failed {before todo : List (OpPath × Op)} {x : OpPath × Op} {e : PipelineError} (path : OpPath)
    (good : ∀ y ∈ before, (body ⟨[y.2]⟩).result = .ok ())
    (bad : (body ⟨[x.2]⟩).result = .error e) :
    Ended body (before ++ [x]) todo (.error (e.rebased path))

lemma Ended.of_ok {body : Body} {done todo : List (OpPath × Op)} {n : Nat}
    (h : Ended body done todo (.ok n)) :
    todo = [] ∧ (∀ x ∈ done, (body ⟨[x.2]⟩).result = .ok ()) ∧ n = done.length := by
  cases h with
  | all good => exact ⟨rfl, good, rfl⟩

lemma Ended.of_error {body : Body} {done todo : List (OpPath × Op)} {e : PipelineError}
    (h : Ended body done todo (.error e)) :
    ∃ before x e₀ path, done = before ++ [x] ∧
      (∀ y ∈ before, (body ⟨[y.2]⟩).result = .ok ()) ∧ (body ⟨[x.2]⟩).result = .error e₀ ∧
      e = e₀.rebased path := by
  cases h with
  | failed path good bad => exact ⟨_, _, _, path, rfl, good, bad, rfl⟩

/-- Anchors that went well come before whatever ends the sweep. -/
lemma Ended.append {body : Body} {good done todo : List (OpPath × Op)}
    {r : Except PipelineError Nat} (hgood : ∀ x ∈ good, (body ⟨[x.2]⟩).result = .ok ())
    (h : Ended body done todo r) : Ended body (good ++ done) todo (r.map (good.length + ·)) := by
  cases h with
  | all hdone =>
    change Ended body _ _ (.ok (good.length + done.length))
    rw [← List.length_append]
    exact .all fun x hx => (List.mem_append.1 hx).elim (hgood x) (hdone x)
  | failed path hbefore bad =>
    change Ended body _ _ (.error _)
    rw [← List.append_assoc]
    exact .failed path (fun x hx => (List.mem_append.1 hx).elim (hgood x) (hbefore x)) bad

/-- The outcome of a sweep: `done` are the anchors that the body ran on, `todo` those it did not reach,
and `result` says what becomes of the swept ops when those at given places are replaced. -/
structure Swept {σ : Type} (anchor : String) (body : Body) (nodes : List (OpPath × Op))
    (result : List OpPath → σ) (o : Outcome PipelineError σ Nat)
    (done todo : List (OpPath × Op)) : Prop where
  anchors : outermostIn anchor nodes = done ++ todo
  state : o.state = result (done.map (·.1))
  events : o.events = done.flatMap fun x => (body ⟨[x.2]⟩).events
  ended : Ended body done todo o.result

variable {α σ τ : Type} {anchor : String} {body : Body} {nodes : List (OpPath × Op)}

lemma Swept.mem_nodes {result : List OpPath → σ} {o : Outcome PipelineError σ Nat}
    {done todo : List (OpPath × Op)} (h : Swept anchor body nodes result o done todo)
    {x : OpPath × Op} (hx : x ∈ done) : x ∈ nodes :=
  mem_of_mem_outermostIn (h.anchors ▸ List.mem_append_left _ hx)

/-- One sweep after another, over ops that lie apart: after a failure of the first the others stay. -/
lemma Swept.andThen {n₁ n₂ d₁ t₁ : List (OpPath × Op)} {r₁ r₂ : List OpPath → List α}
    {o : Outcome PipelineError (List α) Nat} {rest : List α}
    {next : List α → Nat → Outcome PipelineError (List α) Nat}
    (h₁ : Swept anchor body n₁ r₁ o d₁ t₁)
    (h₂ : ∀ s m, ∃ d₂ t₂, Swept anchor body n₂ r₂ (next s m) d₂ t₂)
    (hapart : ∀ x ∈ n₁, ∀ y ∈ n₂, x.1.Apart y.1)
    (hr₁ : ∀ p p', (∀ x ∈ n₁, x.1 ∈ p ↔ x.1 ∈ p') → r₁ p = r₁ p')
    (hr₂ : ∀ p p', (∀ x ∈ n₂, x.1 ∈ p ↔ x.1 ∈ p') → r₂ p = r₂ p')
    (hrest : r₂ [] = rest) :
    ∃ d t, Swept anchor body (n₁ ++ n₂) (fun p => r₁ p ++ r₂ p)
      (o.andThen (· ++ rest) fun s m => (next s m).map (s ++ ·) (m + ·)) d t := by
  have houter : outermostIn anchor (n₁ ++ n₂) = (d₁ ++ t₁) ++ outermostIn anchor n₂ := by
    rw [outermostIn_append anchor fun x hx y hy =>
      ⟨fun h => (hapart x hx y hy).1 h.1, fun h => (hapart x hx y hy).2 h.1⟩, h₁.anchors]
  have hd₁ : ∀ x ∈ n₂, x.1 ∉ d₁.map (·.1) := by
    intro x hx hmem
    obtain ⟨y, hy, heq⟩ := List.mem_map.1 hmem
    exact (hapart y (h₁.mem_nodes hy) x hx).ne heq
  cases hres : o.result with
  | error e =>
    rw [Outcome.andThen_of_error hres]
    refine ⟨d₁, t₁ ++ outermostIn anchor n₂, ?_, ?_, h₁.events, ?_⟩
    · rw [houter, List.append_assoc]
    · have hsame : r₂ (d₁.map (·.1)) = rest := by
        rw [← hrest]
        exact hr₂ _ _ fun x hx => by simp [hd₁ x hx]
      simp only [h₁.state, hsame]
    · have hend := h₁.ended
      rw [hres] at hend
      cases hend with
      | failed path good bad => exact .failed path good bad
  | ok m =>
    rw [Outcome.andThen_of_ok hres]
    obtain ⟨d₂, t₂, h₂⟩ := h₂ o.state m
    have hd₂ : ∀ x ∈ n₁, x.1 ∉ d₂.map (·.1) := by
      intro x hx hmem
      obtain ⟨y, hy, heq⟩ := List.mem_map.1 hmem
      exact (hapart x hx y (h₂.mem_nodes hy)).ne heq.symm
    have hend := h₁.ended
    rw [hres] at hend
    cases hend with
    | all good₁ =>
      have hs₁ : o.state = r₁ ((d₁ ++ d₂).map (·.1)) := by
        rw [h₁.state, List.map_append]
        exact hr₁ _ _ fun x hx => by simp only [List.mem_append, hd₂ x hx, or_false]
      have hs₂ : (next o.state d₁.length).state = r₂ ((d₁ ++ d₂).map (·.1)) := by
        rw [h₂.state, List.map_append]
        exact hr₂ _ _ fun x hx => by simp only [List.mem_append, hd₁ x hx, false_or]
      refine ⟨d₁ ++ d₂, t₂, ?_, congrArg₂ (· ++ ·) hs₁ hs₂, ?_, h₂.ended.append good₁⟩
      · rw [houter, h₂.anchors, List.append_nil, List.append_assoc]
      · simp [h₁.events, h₂.events]

lemma Swept.map {result : List OpPath → σ} {o : Outcome PipelineError σ Nat}
    {done todo : List (OpPath × Op)} (h : Swept anchor body nodes result o done todo) (f : σ → τ) :
    Swept anchor body nodes (fun p => f (result p)) (o.map f id) done todo where
  anchors := h.anchors
  state := congrArg f h.state
  events := h.events
  ended := by
    rw [Outcome.map_result, Except.map_id]
    exact h.ended

/-- The loop of a sweep over one list; `i` is the place of the next element among those put back. -/
def sweepEach (sweep : List Nat → α → Outcome PipelineError (List α) Nat) (base : List Nat) :
    Nat → List α → Outcome PipelineError (List α) Nat
  | _, [] => .ok [] 0
  | i, a :: rest =>
    (sweep (base ++ [i]) a).andThen (· ++ rest) fun as m =>
      (sweepEach sweep base (i + as.length) rest).map (as ++ ·) (m + ·)

lemma sweepBlock_eq (base : List Nat) (i : Nat) (ops : List Op) :
    sweepBlock anchor body base i ops = sweepEach (sweepOp anchor body) base i ops := by
  induction ops generalizing i with
  | nil => simp [sweepBlock, sweepEach]
  | cons op rest ih => simp [sweepBlock, sweepEach, ih]

lemma sweepRegion_eq (base : List Nat) (i : Nat) (region : List (List Op)) :
    sweepRegion anchor body base i region =
      sweepEach (fun path block => (sweepBlock anchor body path 0 block).map ([·]) id) base i
        region := by
  induction region generalizing i with
  | nil => simp [sweepRegion, sweepEach]
  | cons block rest ih => simp [sweepRegion, sweepEach, ih, Outcome.map_andThen]

lemma sweepRegions_eq (base : List Nat) (i : Nat) (regions : List (List (List Op))) :
    sweepRegions anchor body base i regions =
      sweepEach (fun path region => (sweepRegion anchor body path 0 region).map ([·]) id) base i
        regions := by
  induction regions generalizing i with
  | nil => simp [sweepRegions, sweepEach]
  | cons region rest ih => simp [sweepRegions, sweepEach, ih, Outcome.map_andThen]

/-- `sweep` sweeps `a` by replacing anchors in it, among the ops that `f` lists and in the way of `g`. The
paths it is told need not be those of the listed ops: anchors before may have been replaced. -/
def Sweeps (anchor : String) (body : Body) (f : List Nat → α → List (OpPath × Op))
    (g : List OpPath → List Nat → α → List α)
    (sweep : List Nat → α → Outcome PipelineError (List α) Nat) (a : α) : Prop :=
  ∀ path path', ∃ d t, Swept anchor body (f path a) (fun p => g p path a) (sweep path' a) d t

/-- When each element is swept by replacing anchors in it, so is the list. -/
lemma swept_each {f : List Nat → α → List (OpPath × Op)}
    {g : List OpPath → List Nat → α → List α}
    {sweep : List Nat → α → Outcome PipelineError (List α) Nat} {xs : List α}
    {look : α → List Nat → Option Op} (hlists : ∀ a ∈ xs, Lists f look a)
    (hreplaces : ∀ a ∈ xs, Replaces body.roots f g a)
    (hsweep : ∀ a ∈ xs, Sweeps anchor body f g sweep a) (base base' : List Nat) (i i' : Nat) :
    ∃ d t, Swept anchor body (gather f base i xs) (fun p => gather (g p) base i xs)
      (sweepEach sweep base' i' xs) d t := by
  induction xs generalizing i i' with
  | nil => exact ⟨[], [], rfl, rfl, rfl, .all (by simp)⟩
  | cons a rest ih =>
    rw [List.forall_mem_cons] at hlists hreplaces hsweep
    obtain ⟨ha, hrest⟩ := hreplaces
    obtain ⟨d, t, hhead⟩ := hsweep.1 (base ++ [i]) (base' ++ [i'])
    exact hhead.andThen (fun s _ => ih hlists.2 hrest hsweep.2 (i + 1) (i' + s.length))
      (Lists.apart_gather hlists.1 hlists.2 base i)
      (ha.congr _) (fun p p' hp => Replaces.gather_places hrest hp)
      (Replaces.gather_self hrest (by simp))

lemma block_sweeps {block : List Op}
    (h : ∀ op ∈ block, Sweeps anchor body Op.addressed (fun p => Op.substitute p body.roots)
      (sweepOp anchor body) op) :
    Sweeps anchor body (fun path block => Op.addressedBlock path 0 block)
      (fun p path block => [Op.substituteBlock p body.roots path 0 block])
      (fun path block => (sweepBlock anchor body path 0 block).map ([·]) id) block := by
  intro path path'
  obtain ⟨d, t, hs⟩ := swept_each (fun op _ => op.lists_addressed)
    (fun op _ => op.replaces body.roots) h path path' 0 0
  simp only [Op.addressedBlock_eq, Op.substituteBlock_eq, sweepBlock_eq]
  exact ⟨d, t, hs.map ([·])⟩

lemma region_sweeps {region : List (List Op)}
    (h : ∀ block ∈ region, Sweeps anchor body (fun path block => Op.addressedBlock path 0 block)
      (fun p path block => [Op.substituteBlock p body.roots path 0 block])
      (fun path block => (sweepBlock anchor body path 0 block).map ([·]) id) block) :
    Sweeps anchor body (fun path region => Op.addressedRegion path 0 region)
      (fun p path region => [Op.substituteRegion p body.roots path 0 region])
      (fun path region => (sweepRegion anchor body path 0 region).map ([·]) id) region := by
  intro path path'
  obtain ⟨d, t, hs⟩ := swept_each
    (fun block _ => Op.block_lists fun op _ => op.lists_addressed)
    (fun block _ => Op.block_replaces fun op _ => op.replaces body.roots) h path path' 0 0
  simp only [Op.addressedRegion_eq, Op.substituteRegion_eq, sweepRegion_eq]
  exact ⟨d, t, hs.map ([·])⟩

lemma regions_swept {regions : List (List (List Op))}
    (h : ∀ region ∈ regions, Sweeps anchor body (fun path region => Op.addressedRegion path 0 region)
      (fun p path region => [Op.substituteRegion p body.roots path 0 region])
      (fun path region => (sweepRegion anchor body path 0 region).map ([·]) id) region)
    (path path' : List Nat) :
    ∃ d t, Swept anchor body (Op.addressedRegions path 0 regions)
      (fun p => Op.substituteRegions p body.roots path 0 regions)
      (sweepRegions anchor body path' 0 regions) d t := by
  simp only [Op.addressedRegions_eq, Op.substituteRegions_eq, sweepRegions_eq]
  exact swept_each
    (fun region _ => Op.region_lists fun block _ => Op.block_lists fun op _ => op.lists_addressed)
    (fun region _ => Op.region_replaces fun block _ => Op.block_replaces fun op _ =>
      op.replaces body.roots) h path path' 0 0

/-- A sweep of an op replaces it when it is an anchor, and else the anchors inside it. -/
theorem op_sweeps (anchor : String) (body : Body) (op : Op) :
    Sweeps anchor body Op.addressed (fun p => Op.substitute p body.roots) (sweepOp anchor body)
      op := by
  induction op using Op.induction with
  | step h regions ih =>
    intro path path'
    change ∃ d t, Swept anchor body (Op.addressed path ⟨h, regions⟩)
      (fun p => Op.substitute p body.roots path ⟨h, regions⟩)
      (sweepOp anchor body path' ⟨h, regions⟩) d t
    by_cases hk : h.kind = anchor
    · refine ⟨[(⟨path⟩, ⟨h, regions⟩)], [], ?_, ?_, ?_, ?_⟩
      · rw [Op.outermostIn_addressed_self hk, List.append_nil]
      · simp [sweepOp, hk, Op.substitute, Body.roots]
      · simp [sweepOp, hk]
      · rw [sweepOp, if_pos hk]
        simp only [Outcome.mapError_result, Outcome.map_result]
        cases hres : (body ⟨[⟨h, regions⟩]⟩).result with
        | ok u => exact .all (by simpa using hres)
        | error e =>
          change Ended body ([] ++ [_]) [] (.error _)
          exact .failed ⟨path'⟩ (by simp) hres
    · obtain ⟨d, t, hs⟩ := regions_swept (fun region hr => region_sweeps fun block hb =>
        block_sweeps (ih region hr block hb)) path path'
      have hout : ⟨path⟩ ∉ d.map (·.1) := by
        intro hmem
        obtain ⟨x, hx, heq⟩ := List.mem_map.1 hmem
        exact (Op.isAbove_of_mem_addressedRegions (hs.mem_nodes hx)).2 heq.symm
      refine ⟨d, t, ?_, ?_, ?_, ?_⟩
      · rw [Op.outermostIn_addressed_of_ne hk, hs.anchors]
      · rw [sweepOp, if_neg hk, Outcome.map_state, hs.state, Op.substitute, if_neg hout]
      · rw [sweepOp, if_neg hk, Outcome.map_events, hs.events]
      · rw [sweepOp, if_neg hk]
        exact (hs.map fun rs => [(⟨h, rs⟩ : Op)]).ended

/-- A sweep of a program replaces its outermost anchors, all of them or those up to a failure. -/
theorem swept_program (anchor : String) (body : Body) (p : Program) :
    ∃ d t, Swept anchor body p.addressed (fun places => p.substitute places body.roots)
      (sweep anchor body p) d t := by
  obtain ⟨d, t, hs⟩ := swept_each (fun op (_ : op ∈ p.ops) => op.lists_addressed)
    (fun op _ => op.replaces body.roots) (fun op _ => op_sweeps anchor body op) [] [] 0 0
  rw [← Op.addressedBlock_eq, ← sweepBlock_eq] at hs
  simp only [← Op.substituteBlock_eq] at hs
  exact ⟨d, t, hs.map Program.mk⟩

/-- Without a failure all anchors are replaced. -/
lemma Swept.all_of_good {result : List OpPath → σ} {o : Outcome PipelineError σ Nat}
    {done todo : List (OpPath × Op)} (h : Swept anchor body nodes result o done todo)
    (good : ∀ x ∈ outermostIn anchor nodes, (body ⟨[x.2]⟩).result = .ok ()) :
    done = outermostIn anchor nodes ∧ o.result = .ok done.length := by
  have hended := h.ended
  cases hres : o.result with
  | ok n =>
    rw [hres] at hended
    obtain ⟨rfl, _, rfl⟩ := hended.of_ok
    exact ⟨by rw [h.anchors, List.append_nil], rfl⟩
  | error e =>
    rw [hres] at hended
    obtain ⟨before, x, e₀, _, rfl, _, bad, _⟩ := hended.of_error
    have hok := good x (by simp [h.anchors])
    rw [bad] at hok
    contradiction

/-- The stages of a sub-pipeline run as they do at the top; only the report is missing. -/
theorem runBody_eq_run (provider : Provider) (stages : List Stage) (p : Program) :
    runBody provider stages p = (run provider stages p).map id fun _ => () := by
  induction stages generalizing p with
  | nil =>
    rw [runBody, run]
    rfl
  | cons s rest ih =>
    rw [runBody, run, Outcome.andThen_map]
    congr 1
    funext q n
    rw [ih, Outcome.map_map]
    rfl

/-- A sub-pipeline on a program of one op. -/
def runAlone (provider : Provider) (stages : List Stage) (x : Op) :
    Outcome PipelineError Program Unit := runBody provider stages ⟨[x]⟩

/-- Alone means a whole run of the stages on that op: it ends the same way, with the same program and the
same events. -/
lemma runAlone_eq_run (provider : Provider) (stages : List Stage) (x : Op) :
    runAlone provider stages x = (run provider stages ⟨[x]⟩).map id fun _ => () :=
  runBody_eq_run provider stages ⟨[x]⟩

/-- A sub-pipeline that succeeds has replaced every outermost anchor, in its place, by the roots that
the sub-stages make of it alone, in a run on nothing but that anchor (`runAlone_eq_run`). It was started
on each anchor once, in pre-order: whatever is noted at its starts is noted once for each anchor as it
was. -/
theorem nested_success (provider : Provider) (anchor : String) (stages : List Stage) (p : Program)
    (n : Nat) (h : (runStage provider (.nested anchor stages) p).result = .ok n) :
    (∀ x ∈ p.outermost anchor, (runAlone provider stages x.2).result = .ok ()) ∧
    (runStage provider (.nested anchor stages) p).state =
      p.substitute ((p.outermost anchor).map (·.1)) (fun x => (runAlone provider stages x).state.ops) ∧
    n = (p.outermost anchor).length ∧
    (runStage provider (.nested anchor stages) p).events =
      (p.outermost anchor).flatMap (fun x => (runAlone provider stages x.2).events) ∧
    (∀ note : Program → List Event,
      (sweep anchor (fun q => (runBody provider stages q).after (note q)) p).events =
        (p.outermost anchor).flatMap
          fun x => note ⟨[x.2]⟩ ++ (runAlone provider stages x.2).events) ∧
    ((∀ x ∈ p.outermost anchor, (runAlone provider stages x.2).state = ⟨[x.2]⟩) →
      (runStage provider (.nested anchor stages) p).state = p) := by
  obtain ⟨d, t, hs⟩ := swept_program anchor (runBody provider stages) p
  have hended := hs.ended
  rw [show (sweep anchor (runBody provider stages) p).result = .ok n from h] at hended
  obtain ⟨rfl, hgood, rfl⟩ := hended.of_ok
  have hd : p.outermost anchor = d := hs.anchors.trans (List.append_nil d)
  rw [hd]
  have hstate : (runStage provider (.nested anchor stages) p).state =
      p.substitute (d.map (·.1)) (fun x => (runAlone provider stages x).state.ops) := hs.state
  refine ⟨hgood, hstate, rfl, hs.events, fun note => ?_, fun hsame => ?_⟩
  · obtain ⟨d', t', hs'⟩ :=
      swept_program anchor (fun q => (runBody provider stages q).after (note q)) p
    obtain ⟨hd', _⟩ := hs'.all_of_good fun x hx => hgood x (hd ▸ hx)
    rw [hs'.events, hd', ← hd]
    rfl
  · rw [hstate, ← hd]
    refine Program.substitute_outermost_self fun x hx => ?_
    rw [hsame x (hd ▸ hx)]

/-- A function with another one inside it and an empty block, in a module, and a function behind it. -/
def nestedFunctions : Program :=
  ⟨[⟨{ kind := "builtin.module" },
      [[[⟨{ kind := "func.func" }, [[[Op.ofKind "func.func"]]]⟩], []]]⟩,
    Op.ofKind "func.func"]⟩

/-- A sub-pipeline that doubles functions does so once for each outermost function. -/
theorem nested_success_doubled :
    (runStage (fun _ => Pass.edit Program.duplicate) (.nested "func.func" [.pass .stripAssertions])
      nestedFunctions).state =
        nestedFunctions.substitute [⟨[0, 0, 0, 0]⟩, ⟨[1]⟩] (fun x => [x, x]) ∧
      (nestedFunctions.outermost "func.func").length = 2 := by
  obtain ⟨-, hstate, hn, -⟩ := nested_success (fun _ => Pass.edit Program.duplicate) "func.func"
    [.pass .stripAssertions] nestedFunctions 2 rfl
  exact ⟨hstate, hn.symm⟩

/-- A sub-pipeline that fails has replaced the outermost anchors before the first one that it fails on
by the roots it made of them, and that one by the roots it left of it. Everything else is as it was, and
nothing ran on the anchors behind. -/
theorem nested_failure (provider : Provider) (anchor : String) (stages : List Stage) (p : Program)
    (e : PipelineError) (h : (runStage provider (.nested anchor stages) p).result = .error e) :
    ∃ before x after, p.outermost anchor = before ++ x :: after ∧
      (∀ y ∈ before, (runAlone provider stages y.2).result = .ok ()) ∧
      (∃ e₀, (runAlone provider stages x.2).result = .error e₀) ∧
      (∀ y ∈ after, y.1 ∉ (before ++ [x]).map (·.1)) ∧
      (runStage provider (.nested anchor stages) p).state =
        p.substitute ((before ++ [x]).map (·.1)) (fun y => (runAlone provider stages y).state.ops) ∧
      (runStage provider (.nested anchor stages) p).events =
        (before ++ [x]).flatMap fun y => (runAlone provider stages y.2).events := by
  obtain ⟨d, t, hs⟩ := swept_program anchor (runBody provider stages) p
  have hended := hs.ended
  rw [show (sweep anchor (runBody provider stages) p).result = .error e from h] at hended
  obtain ⟨before, x, e₀, _, rfl, hgood, hbad, _⟩ := hended.of_error
  have hsplit : p.outermost anchor = before ++ x :: t := hs.anchors.trans (by simp)
  refine ⟨before, x, t, hsplit, hgood, ⟨e₀, hbad⟩, ?_, hs.state, hs.events⟩
  intro y hy hmem
  obtain ⟨z, hz, heq⟩ := List.mem_map.1 hmem
  have hordered := p.outermost_ordered anchor
  rw [show p.outermost anchor = (before ++ [x]) ++ t from hs.anchors] at hordered
  exact ((List.pairwise_append.1 hordered).2.2 z hz y hy).ne heq

/-- Doubles the roots of a program, or fails if there is an assertion. -/
def doubleOrForbid : Provider
  | .stripAssertions => Pass.edit Program.duplicate
  | _ => Pass.forbid "assertions" (.kind "util.assert") "unexpected assertion"

/-- Three functions, the second with an assertion. -/
def assertingSecond : Program :=
  ⟨[Op.ofKind "func.func", ⟨{ kind := "func.func" }, [[[Op.ofKind "util.assert"]]]⟩,
    Op.ofKind "func.func"]⟩

/-- The second function fails when it is doubled already. -/
theorem nested_failure_doubled : ∃ e before x after,
    (runStage doubleOrForbid (.nested "func.func" [.pass .stripAssertions, .pass .xlaCleanup])
      assertingSecond).result = .error e ∧
    assertingSecond.outermost "func.func" = before ++ x :: after ∧
    (runStage doubleOrForbid (.nested "func.func" [.pass .stripAssertions, .pass .xlaCleanup])
      assertingSecond).state = assertingSecond.substitute ((before ++ [x]).map (·.1)) fun y =>
        (runAlone doubleOrForbid [.pass .stripAssertions, .pass .xlaCleanup] y).state.ops := by
  obtain ⟨before, x, after, hsplit, -, -, -, hstate, -⟩ := nested_failure doubleOrForbid "func.func"
    [.pass .stripAssertions, .pass .xlaCleanup] assertingSecond _ rfl
  exact ⟨_, before, x, after, rfl, hsplit, hstate⟩

end Executor
end StagedLowering
