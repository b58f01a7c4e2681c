import StagedLowering.Proofs.Sweep

/-! Sub-pipelines that only look. When the body leaves every op as it is, no anchor moves, so the path of
a failure is seen from the place where its anchor stands in the program. -/
namespace StagedLowering.Executor

/-- What a body says about the listed ops, one after the other: their number when it accepts them all, and
else its first failure, seen from the path of the op. -/
def verdict (body : Body) : List (OpPath × Op) → Except PipelineError Nat
  | [] => .ok 0
  | x :: rest =>
    match (body ⟨[x.2]⟩).result with
    | .error e => .error (e.rebased x.1)
    | .ok _ => (verdict body rest).map (1 + ·)

variable {α : Type} {anchor : String} {body : Body}

lemma verdict_append_of_error {l : List (OpPath × Op)} {e : PipelineError}
    (h : verdict body l = .error e) (l' : List (OpPath × Op)) :
    verdict body (l ++ l') = .error e := by
  induction l with
  | nil => cases h
  | cons x rest ih =>
    rw [List.cons_append, verdict]
    rw [verdict] at h
    cases hx : (body ⟨[x.2]⟩).result with
    | error e' => rwa [hx] at h
    | ok u =>
      rw [hx] at h
      exact Outcome.map_eq_error.2 (ih (Outcome.map_eq_error.1 h))

lemma verdict_append_of_ok {l : List (OpPath × Op)} {m : Nat} (h : verdict body l = .ok m)
    (l' : List (OpPath × Op)) : verdict body (l ++ l') = (verdict body l').map (m + ·) := by
  induction l generalizing m with
  | nil =>
    cases h
    rw [List.nil_append]
    cases verdict body l' with
    | error e => rfl
    | ok n => exact congrArg Except.ok (Nat.zero_add n).symm
  | cons x rest ih =>
    rw [List.cons_append, verdict]
    rw [verdict] at h
    cases hx : (body ⟨[x.2]⟩).result with
    | error e =>
      rw [hx] at h
      cases h
    | ok u =>
      rw [hx] at h
      obtain ⟨m', hrest, rfl⟩ := Outcome.map_eq_ok.1 h
      dsimp only
      rw [ih hrest]
      cases verdict body l' with
      | error e => rfl
      | ok n => exact congrArg Except.ok (Nat.add_assoc 1 m' n).symm

/-- `sweep` leaves `a` as it is and says what the body says about the anchors among the ops that `f`
lists. -/
structure Inspects (anchor : String) (body : Body) (f : List Nat → α → List (OpPath × Op))
    (sweep : List Nat → α → Outcome PipelineError (List α) Nat) (a : α) : Prop where
  state : ∀ path, (sweep path a).state = [a]
  result : ∀ path, (sweep path a).result = verdict body (outermostIn anchor (f path a))

/-- When each element is inspected, so is the list; each element keeps its place. -/
lemma inspected_each {f : List Nat → α → List (OpPath × Op)}
    {sweep : List Nat → α → Outcome PipelineError (List α) Nat} {look : α → List Nat → Option Op}
    {xs : List α} (hlists : ∀ a ∈ xs, Lists f look a) (h : ∀ a ∈ xs, Inspects anchor body f sweep a)
    (base : List Nat) (i : Nat) :
    (sweepEach sweep base i xs).state = xs ∧
      (sweepEach sweep base i xs).result = verdict body (outermostIn anchor (gather f base i xs)) := by
  induction xs generalizing i with
  | nil => exact ⟨rfl, rfl⟩
  | cons a rest ih =>
    rw [List.forall_mem_cons] at hlists h
    have hsplit : outermostIn anchor (gather f base i (a :: rest)) =
        outermostIn anchor (f (base ++ [i]) a) ++ outermostIn anchor (gather f base (i + 1) rest) := by
      refine outermostIn_append anchor fun x hx y hy => ?_
      have hapart := Lists.apart_gather hlists.1 hlists.2 base i x hx y hy
      exact ⟨fun habove => hapart.1 habove.1, fun habove => hapart.2 habove.1⟩
    rw [sweepEach, hsplit]
    have hstate := h.1.state (base ++ [i])
    have hresult := h.1.result (base ++ [i])
    cases hv : verdict body (outermostIn anchor (f (base ++ [i]) a)) with
    | error e =>
      rw [hv] at hresult
      rw [Outcome.andThen_of_error hresult, verdict_append_of_error hv]
      exact ⟨by rw [hstate]; rfl, rfl⟩
    | ok m =>
      rw [hv] at hresult
      obtain ⟨hrest, hrest'⟩ := ih hlists.2 h.2 (i + 1)
      rw [Outcome.andThen_of_ok hresult, verdict_append_of_ok hv, hstate]
      exact ⟨congrArg ([a] ++ ·) hrest, congrArg (Except.map (m + ·)) hrest'⟩

/-- One list inspected is one element of the list around it. -/
lemma Inspects.of_list {β : Type} {f : List Nat → β → List (OpPath × Op)}
    {sweep : List Nat → β → Outcome PipelineError β Nat} {b : β}
    (h : ∀ path, (sweep path b).state = b ∧
      (sweep path b).result = verdict body (outermostIn anchor (f path b))) :
    Inspects anchor body f (fun path b => (sweep path b).map ([·]) id) b where
  state path := congrArg ([·]) (h path).1
  result path := by
    rw [Outcome.map_result, Except.map_id]
    exact (h path).2

/-- A body that leaves ops as they are inspects the anchors in every op. -/
theorem inspects_op (hkeep : ∀ x, (body ⟨[x]⟩).state = ⟨[x]⟩) (op : Op) :
    Inspects anchor body Op.addressed (sweepOp anchor body) op := by
  induction op using Op.induction with
  | step h regions ih =>
    by_cases hk : h.kind = anchor
    · constructor
      · intro path
        simp [sweepOp, hk, hkeep]
      · intro path
        rw [sweepOp, if_pos hk, Op.outermostIn_addressed_self hk]
        simp only [verdict, Outcome.mapError_result, Outcome.map_result]
        cases (body ⟨[⟨h, regions⟩]⟩).result <;> rfl
    · have hblock : ∀ region ∈ regions, ∀ block ∈ region, Inspects anchor body
          (fun path block => Op.addressedBlock path 0 block)
          (fun path block => (sweepBlock anchor body path 0 block).map ([·]) id) block := by
        intro region hr block hb
        refine .of_list fun path => ?_
        rw [sweepBlock_eq, Op.addressedBlock_eq]
        exact inspected_each (fun op _ => op.lists_addressed) (ih region hr block hb) path 0
      have hregion : ∀ region ∈ regions, Inspects anchor body
          (fun path region => Op.addressedRegion path 0 region)
          (fun path region => (sweepRegion anchor body path 0 region).map ([·]) id) region := by
        intro region hr
        refine .of_list fun path => ?_
        rw [sweepRegion_eq, Op.addressedRegion_eq]
        exact inspected_each (fun block _ => Op.block_lists fun op _ => op.lists_addressed)
          (hblock region hr) path 0
      have hregions : ∀ path, (sweepRegions anchor body path 0 regions).state = regions ∧
          (sweepRegions anchor body path 0 regions).result =
            verdict body (outermostIn anchor (Op.addressedRegions path 0 regions)) := by
        intro path
        rw [sweepRegions_eq, Op.addressedRegions_eq]
        exact inspected_each (fun region _ => Op.region_lists fun block _ => Op.block_lists
          fun op _ => op.lists_addressed) hregion path 0
      constructor
      · intro path
        rw [sweepOp, if_neg hk, Outcome.map_state, (hregions path).1]
      · intro path
        rw [sweepOp, if_neg hk, Op.outermostIn_addressed_of_ne hk, Outcome.map_result, Except.map_id]
        exact (hregions path).2

/-- A sub-pipeline that leaves every op as it is leaves the program as it is, and says what its stages say
about the outermost anchors where they stand. -/
theorem sweep_inspects (hkeep : ∀ x, (body ⟨[x]⟩).state = ⟨[x]⟩) (p : Program) :
    (sweep anchor body p).state = p ∧
      (sweep anchor body p).result = verdict body (p.outermost anchor) := by
  have hops : ∀ op ∈ p.ops, Inspects anchor body Op.addressed (sweepOp anchor body) op :=
    fun op _ => inspects_op hkeep op
  have hblock := inspected_each (fun op _ => op.lists_addressed) hops [] 0
  rw [← sweepBlock_eq, ← Op.addressedBlock_eq] at hblock
  refine ⟨congrArg Program.mk hblock.1, ?_⟩
  rw [sweep, Outcome.map_result, Except.map_id]
  exact hblock.2

end StagedLowering.Executor
