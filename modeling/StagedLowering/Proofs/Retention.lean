import StagedLowering.Proofs.Folding
import StagedLowering.Proofs.Sweep
import StagedLowering.Proofs.Visiting

/-! Removal of ops with all that is inside them. It goes down level by level into the ops that stay, so an op
is left exactly when it is accepted together with all ops around it, and it is counted exactly when it is the
first on its way down that is not. -/
namespace StagedLowering

variable {α σ : Type}

/-- The listed ops that are accepted together with all ops above them. -/
def survivorsIn (keep : OpHead → Bool) (nodes : List (OpPath × Op)) : List (OpPath × Op) :=
  selectIn (fun op => keep op.head) (fun op => keep op.head) nodes

/-- The listed ops that are not accepted while all ops above them are. -/
def rejectedIn (keep : OpHead → Bool) (nodes : List (OpPath × Op)) : List (OpPath × Op) :=
  selectIn (fun op => !keep op.head) (fun op => keep op.head) nodes

/-- `y` is what is left of `x`: the same head and the same regions and blocks, where each block has kept the
accepted ones of its ops, in their order. -/
def Op.Thinned (keep : OpHead → Bool) (x y : Op) : Prop :=
  y.head = x.head ∧ y.regions.map (·.map (·.map (·.head))) =
    x.regions.map (·.map fun block => (block.map (·.head)).filter keep)

lemma gather_append {β : Type} (f : List Nat → α → List β) (base : List Nat) (i : Nat) (xs ys : List α) :
    gather f base i (xs ++ ys) = gather f base i xs ++ gather f base (i + xs.length) ys := by
  induction xs generalizing i with
  | nil => rfl
  | cons a rest ih =>
    rw [List.cons_append, gather, gather, ih, List.append_assoc, List.length_cons, Nat.add_right_comm]
    rfl

/-- The loop of a removal over one list: what is left, and how many were rejected. -/
def retainEach (r : α → List α × Nat) : List α → List α × Nat
  | [] => ([], 0)
  | a :: rest => ((r a).1 ++ (retainEach r rest).1, (r a).2 + (retainEach r rest).2)

/-- A list that lost some of its own stays one element of the list around it. -/
def asOne (r : σ → σ × Nat) (b : σ) : List σ × Nat := ([(r b).1], (r b).2)

lemma retainEach_asOne (r : σ → σ × Nat) (xs : List σ) :
    (retainEach (asOne r) xs).1 = xs.map fun b => (r b).1 := by
  induction xs with
  | nil => rfl
  | cons b rest ih => rw [retainEach, ih]; rfl

/-- Where nothing is rejected nothing changes. -/
lemma retainEach_self {r : α → List α × Nat} {xs : List α} (h : ∀ a ∈ xs, r a = ([a], 0)) :
    retainEach r xs = (xs, 0) := by
  induction xs with
  | nil => rfl
  | cons a rest ih =>
    rw [List.forall_mem_cons] at h
    rw [retainEach, h.1, ih h.2]
    rfl

namespace Op

variable (keep : Op → Bool)

/-- What becomes of an op in its list. -/
def retainOne (op : Op) : List Op × Nat :=
  if keep op then ([(op.retain keep).1], (op.retain keep).2) else ([], 1)

lemma retain_eq (h : OpHead) (regions : List (List (List Op))) :
    retain keep ⟨h, regions⟩ = (⟨h, (retainRegions keep regions).1⟩, (retainRegions keep regions).2) := by
  rw [retain]

lemma retainBlock_eq (ops : List Op) : retainBlock keep ops = retainEach (retainOne keep) ops := by
  induction ops with
  | nil => rw [retainBlock, retainEach]
  | cons op rest ih =>
    by_cases hk : keep op = true
    · simp [retainBlock, retainEach, retainOne, ih, hk]
    · simp [retainBlock, retainEach, retainOne, ih, hk, Nat.add_comm]

lemma retainRegion_eq (region : List (List Op)) :
    retainRegion keep region = retainEach (asOne (retainBlock keep)) region := by
  induction region with
  | nil => rw [retainRegion, retainEach]
  | cons block rest ih =>
    rw [retainRegion, retainEach, ih]
    rfl

lemma retainRegions_eq (regions : List (List (List Op))) :
    retainRegions keep regions = retainEach (asOne (retainRegion keep)) regions := by
  induction regions with
  | nil => rw [retainRegions, retainEach]
  | cons region rest ih =>
    rw [retainRegions, retainEach, ih]
    rfl

end Op

/-- Removal from `a` leaves the survivors among the ops that `f` lists, as `left` lists them, and counts those
rejected; nothing else is lost but what is inside the rejected ones. -/
structure Retains {ι : Type} (keep : OpHead → Bool) (f : List Nat → α → List (OpPath × Op))
    (left : ι → σ → List (OpPath × Op)) (r : α → σ × Nat) (a : α) : Prop where
  kept : ∀ path i, List.Forall₂ (fun x y => x.2.Thinned keep y.2) (survivorsIn keep (f path a))
    (left i (r a).1)
  counted : ∀ path, (rejectedIn keep (f path a)).length = (r a).2
  parted : ∀ path, (f path a).length =
    (survivorsIn keep (f path a)).length + Op.countBlock ((rejectedIn keep (f path a)).map (·.2))

namespace Retains

variable {keep : OpHead → Bool} {f : List Nat → α → List (OpPath × Op)} {r : α → List α × Nat}

lemma asOne {f : List Nat → σ → List (OpPath × Op)} {r : σ → σ × Nat} {b : σ}
    (h : Retains keep f f r b) :
    Retains keep f (fun (i : List Nat × Nat) => gather f i.1 i.2) (asOne r) b where
  kept path i := by
    rw [StagedLowering.asOne, gather, gather, List.append_nil]
    exact h.kept path _
  counted := h.counted
  parted := h.parted

variable {look : α → List Nat → Option Op} {xs : List α} (hlists : ∀ a ∈ xs, Lists f look a)
  (h : ∀ a ∈ xs, Retains keep f (fun (i : List Nat × Nat) => gather f i.1 i.2) r a)

include hlists h

/-- What is true of the elements of a list adds up in the list. -/
lemma adds_up (base base' : List Nat) (i i' : Nat) :
    List.Forall₂ (fun x y => x.2.Thinned keep y.2) (survivorsIn keep (gather f base i xs))
      (gather f base' i' (retainEach r xs).1) ∧
    (rejectedIn keep (gather f base i xs)).length = (retainEach r xs).2 ∧
    (gather f base i xs).length = (survivorsIn keep (gather f base i xs)).length +
      Op.countBlock ((rejectedIn keep (gather f base i xs)).map (·.2)) := by
  induction xs generalizing i i' with
  | nil => exact ⟨.nil, rfl, rfl⟩
  | cons a rest ih =>
    rw [List.forall_mem_cons] at hlists h
    obtain ⟨hkept, hcounted, hparted⟩ := ih hlists.2 h.2 (i + 1) (i' + (r a).1.length)
    -- No op of the first element is above one of the others, so each part selects by itself.
    have hapart : ∀ x ∈ f (base ++ [i]) a, ∀ y ∈ gather f base (i + 1) rest,
        ¬ x.1.IsAbove y.1 ∧ ¬ y.1.IsAbove x.1 := by
      intro x hx y hy
      have hxy := Lists.apart_gather hlists.1 hlists.2 base i x hx y hy
      exact ⟨fun habove => hxy.1 habove.1, fun habove => hxy.2 habove.1⟩
    rw [gather, retainEach, gather_append]
    simp only [survivorsIn, rejectedIn, selectIn_append hapart, List.length_append, List.map_append,
      Op.countBlock_append] at hkept hcounted hparted ⊢
    refine ⟨List.rel_append (h.1.kept _ (base', i')) hkept, ?_, ?_⟩
    · rw [hcounted]
      exact congrArg (· + _) (h.1.counted _)
    · have ha := h.1.parted (base ++ [i])
      simp only [survivorsIn, rejectedIn] at ha
      omega

lemma each : Retains keep (fun path xs => gather f path 0 xs) (fun path xs => gather f path 0 xs)
    (retainEach r) xs where
  kept path path' := (adds_up hlists h path path' 0 0).1
  counted path := (adds_up hlists h path path 0 0).2.1
  parted path := (adds_up hlists h path path 0 0).2.2

end Retains

namespace Op

variable (keep : OpHead → Bool)

lemma heads_retainBlock (ops : List Op) :
    (retainBlock (fun op => keep op.head) ops).1.map (·.head) = (ops.map (·.head)).filter keep := by
  induction ops with
  | nil => simp [retainBlock]
  | cons op rest ih =>
    obtain ⟨h, regions⟩ := op
    by_cases hk : keep h = true
    · simpa [retainBlock, retain_eq, hk] using ih
    · simpa [retainBlock, hk] using ih

/-- What is left of an op that stays. -/
lemma thinned_retain (op : Op) : op.Thinned keep (op.retain fun op => keep op.head).1 := by
  obtain ⟨h, regions⟩ := op
  rw [retain_eq]
  refine ⟨rfl, ?_⟩
  simp only [retainRegions_eq, retainRegion_eq, retainEach_asOne, List.map_map]
  refine List.map_congr_left fun region _ => ?_
  simp [heads_retainBlock]

lemma survivorsIn_addressed (path : List Nat) (h : OpHead) (regions : List (List (List Op))) :
    survivorsIn keep (addressed path ⟨h, regions⟩) =
      if keep h then (⟨path⟩, ⟨h, regions⟩) :: survivorsIn keep (addressedRegions path 0 regions)
      else [] := by
  rw [survivorsIn, selectIn_addressed]
  cases keep h <;> rfl

lemma rejectedIn_addressed (path : List Nat) (h : OpHead) (regions : List (List (List Op))) :
    rejectedIn keep (addressed path ⟨h, regions⟩) =
      if keep h then rejectedIn keep (addressedRegions path 0 regions)
      else [(⟨path⟩, ⟨h, regions⟩)] := by
  rw [rejectedIn, selectIn_addressed]
  cases keep h <;> rfl

variable {keep}

lemma block_retains {ops : List Op}
    (h : ∀ op ∈ ops, Retains keep addressed (fun (i : List Nat × Nat) => gather addressed i.1 i.2)
      (retainOne fun op => keep op.head) op) :
    Retains keep (fun path ops => addressedBlock path 0 ops) (fun path ops => addressedBlock path 0 ops)
      (retainBlock fun op => keep op.head) ops := by
  have heq : retainBlock (fun op => keep op.head) = retainEach (retainOne fun op => keep op.head) :=
    funext (retainBlock_eq _)
  simp only [addressedBlock_eq, heq]
  exact .each (fun op _ => op.lists_addressed) h

lemma region_retains {region : List (List Op)}
    (h : ∀ block ∈ region, Retains keep (fun path ops => addressedBlock path 0 ops)
      (fun path ops => addressedBlock path 0 ops) (retainBlock fun op => keep op.head) block) :
    Retains keep (fun path region => addressedRegion path 0 region)
      (fun path region => addressedRegion path 0 region) (retainRegion fun op => keep op.head) region := by
  have heq : retainRegion (fun op => keep op.head) =
      retainEach (asOne (retainBlock fun op => keep op.head)) := funext (retainRegion_eq _)
  simp only [addressedRegion_eq, heq]
  exact .each (fun block _ => block_lists fun op _ => op.lists_addressed) fun block hb => (h block hb).asOne

lemma regions_retains {regions : List (List (List Op))}
    (h : ∀ region ∈ regions, Retains keep (fun path region => addressedRegion path 0 region)
      (fun path region => addressedRegion path 0 region) (retainRegion fun op => keep op.head) region) :
    Retains keep (fun path regions => addressedRegions path 0 regions)
      (fun path regions => addressedRegions path 0 regions) (retainRegions fun op => keep op.head)
      regions := by
  have heq : retainRegions (fun op => keep op.head) =
      retainEach (asOne (retainRegion fun op => keep op.head)) := funext (retainRegions_eq _)
  simp only [addressedRegions_eq, heq]
  exact .each (fun region _ => region_lists fun block _ => block_lists fun op _ => op.lists_addressed)
    fun region hr => (h region hr).asOne

/-- An op that is accepted stays with what is left inside it. -/
lemma accepted_retains {h : OpHead} {regions : List (List (List Op))} (hk : keep h = true)
    (hregions : Retains keep (fun path regions => addressedRegions path 0 regions)
      (fun path regions => addressedRegions path 0 regions) (retainRegions fun op => keep op.head)
      regions) :
    Retains keep addressed (fun (i : List Nat × Nat) => gather addressed i.1 i.2)
      (retainOne fun op => keep op.head) ⟨h, regions⟩ where
  kept path i := by
    rw [survivorsIn_addressed, if_pos hk, retainOne, if_pos hk, gather, gather, retain_eq, addressed,
      List.append_nil]
    refine .cons ?_ (hregions.kept path _)
    simpa only [retain_eq] using thinned_retain keep ⟨h, regions⟩
  counted path := by
    rw [rejectedIn_addressed, if_pos hk, retainOne, if_pos hk, retain_eq]
    exact hregions.counted path
  parted path := by
    rw [survivorsIn_addressed, rejectedIn_addressed, if_pos hk, if_pos hk, addressed, List.length_cons,
      hregions.parted path, List.length_cons, Nat.add_right_comm]

/-- An op that is rejected is counted once and goes with all that is inside it. -/
lemma rejected_retains {h : OpHead} (hk : keep h ≠ true) (regions : List (List (List Op))) :
    Retains keep addressed (fun (i : List Nat × Nat) => gather addressed i.1 i.2)
      (retainOne fun op => keep op.head) ⟨h, regions⟩ where
  kept path i := by
    rw [survivorsIn_addressed, if_neg hk, retainOne, if_neg hk]
    exact .nil
  counted path := by
    rw [rejectedIn_addressed, if_neg hk, retainOne, if_neg hk]
    rfl
  parted path := by
    rw [survivorsIn_addressed, rejectedIn_addressed, if_neg hk, if_neg hk, length_addressed]
    simp [countBlock]

theorem retains (op : Op) : Retains keep addressed (fun (i : List Nat × Nat) => gather addressed i.1 i.2)
    (retainOne fun op => keep op.head) op := by
  induction op using Op.induction with
  | step h regions ih =>
    by_cases hk : keep h = true
    · refine accepted_retains hk (regions_retains fun region hr => region_retains fun block hb => ?_)
      exact block_retains (ih region hr block hb)
    · exact rejected_retains hk regions

/-- The ops listed in an op that stands right inside another one are listed there, under some path. -/
lemma exists_path_inside {h : OpHead} {regions : List (List (List Op))} {region : List (List Op)}
    {block : List Op} {op : Op} (hr : region ∈ regions) (hb : block ∈ region) (ho : op ∈ block)
    (path : List Nat) : ∃ path', ∀ x ∈ op.addressed path', x ∈ addressed path ⟨h, regions⟩ := by
  obtain ⟨r, hr⟩ := List.getElem?_of_mem hr
  obtain ⟨b, hb⟩ := List.getElem?_of_mem hb
  obtain ⟨o, ho⟩ := List.getElem?_of_mem ho
  refine ⟨path ++ [0 + r] ++ [0 + b] ++ [0 + o], fun x hx => ?_⟩
  rw [addressed, addressedRegions_eq]
  refine List.mem_cons_of_mem _ (mem_gather.2 ⟨r, region, hr, ?_⟩)
  rw [addressedRegion_eq]
  refine mem_gather.2 ⟨b, block, hb, ?_⟩
  rw [addressedBlock_eq]
  exact mem_gather.2 ⟨o, op, ho, hx⟩

/-- Where all ops are accepted nothing is removed. -/
lemma retainOne_self {keep : Op → Bool} (op : Op) :
    ∀ path, (∀ x ∈ op.addressed path, keep x.2 = true) → op.retainOne keep = ([op], 0) := by
  induction op using Op.induction with
  | step h regions ih =>
    intro path hall
    have hregions : retainRegions keep regions = (regions, 0) := by
      rw [retainRegions_eq]
      refine retainEach_self fun region hr => ?_
      rw [asOne, retainRegion_eq, retainEach_self fun block hb => ?_]
      rw [asOne, retainBlock_eq, retainEach_self fun op ho => ?_]
      obtain ⟨path', hinside⟩ := exists_path_inside hr hb ho path
      exact ih region hr block hb op ho path' fun x hx => hall x (hinside x hx)
    have hhere : keep ⟨h, regions⟩ = true := hall (⟨path⟩, _) (by simp [addressed])
    rw [retainOne, if_pos hhere, retain_eq, hregions]

end Op

namespace Program

lemma retain_eq (keep : Op → Bool) (p : Program) :
    p.retain keep = (⟨(Op.retainBlock keep p.ops).1⟩, (Op.retainBlock keep p.ops).2) := rfl

lemma retain_self {keep : Op → Bool} {p : Program} (h : ∀ x ∈ p.addressed, keep x.2 = true) :
    p.retain keep = (p, 0) := by
  have hops : Op.retainBlock keep p.ops = (p.ops, 0) := by
    rw [Op.retainBlock_eq]
    refine retainEach_self fun op ho => ?_
    obtain ⟨o, ho⟩ := List.getElem?_of_mem ho
    refine op.retainOne_self ([] ++ [0 + o]) fun x hx => h x ?_
    rw [addressed, Op.addressedBlock_eq]
    exact mem_gather.2 ⟨o, op, ho, hx⟩
  rw [retain_eq, hops]

variable (keep : OpHead → Bool) (p : Program)

lemma retains : Retains keep (fun path ops => Op.addressedBlock path 0 ops)
    (fun path ops => Op.addressedBlock path 0 ops) (Op.retainBlock fun op => keep op.head) p.ops :=
  Op.block_retains fun op _ => op.retains

/-- The ops that are left are the survivors, one by one. -/
lemma retain_survivors : List.Forall₂ (fun x y => x.2.Thinned keep y.2) (survivorsIn keep p.addressed)
    (p.retain fun op => keep op.head).1.addressed := (p.retains keep).kept [] []

/-- No op is left that is not accepted. -/
lemma accepted_of_retain {x : OpPath × Op} (hx : x ∈ (p.retain fun op => keep op.head).1.addressed) :
    keep x.2.head = true := by
  obtain ⟨i, hi⟩ := List.getElem?_of_mem hx
  obtain ⟨y, hy, hthinned⟩ := getElem?_of_forall₂ (p.retain_survivors keep).flip hi
  rw [hthinned.1]
  exact (mem_selectIn.1 (List.mem_of_getElem? hy)).2.1

/-- Removal of ops is exact. The ops left, in pre-order, have the heads of those that are accepted together
with all ops above them; each of these keeps its regions and blocks, with the accepted ones of the ops in
them. No op is left that is not accepted. The number counts the rejected ops with none but accepted ops above
them, and the ops lost are those and what is inside them. A second removal finds nothing. The pass that strips
assertions removes the ops of the three assertion kinds. -/
theorem retain_exact :
    ∃ q n, p.retain (fun op => keep op.head) = (q, n) ∧
      q.addressed.map (·.2.head) = (survivorsIn keep p.addressed).map (·.2.head) ∧
      q.ops.map (·.head) = (p.ops.map (·.head)).filter keep ∧
      List.Forall₂ (fun x y => x.2.Thinned keep y.2) (survivorsIn keep p.addressed) q.addressed ∧
      (∀ x ∈ q.addressed, keep x.2.head = true) ∧
      n = (rejectedIn keep p.addressed).length ∧
      p.opCount = q.opCount + Op.countBlock ((rejectedIn keep p.addressed).map (·.2)) ∧
      q.retain (fun op => keep op.head) = (q, 0) ∧
      ∀ h refusal, Provider.builtin h refusal .stripAssertions p = .ok (p.retain fun op =>
        !(["util.assert", "std.assert", "cf.assert"].contains op.head.kind)).1 () := by
  have hsurvivors := p.retain_survivors keep
  have hretains := p.retains keep
  have haccepted := fun x hx => p.accepted_of_retain keep (x := x) hx
  refine ⟨(p.retain fun op => keep op.head).1, (p.retain fun op => keep op.head).2, rfl, ?_,
    Op.heads_retainBlock keep p.ops, hsurvivors, haccepted, (hretains.counted []).symm, ?_,
    retain_self haccepted, fun h refusal => rfl⟩
  · rw [← List.forall₂_eq_eq_eq, List.forall₂_map_left_iff, List.forall₂_map_right_iff]
    exact (hsurvivors.imp fun _ _ hthinned => hthinned.1).flip
  · rw [← length_addressed, ← length_addressed, ← hsurvivors.length_eq]
    exact hretains.parted []

/-- An assertion with an op inside it that would be accepted and one that would not, then a function with an
assertion and an empty block. -/
def assertedTwice : Program :=
  ⟨[⟨{ kind := "cf.assert" }, [[[Op.ofKind "arith.constant", Op.ofKind "util.assert"]]]⟩,
    ⟨{ kind := "func.func" }, [[[Op.ofKind "util.assert"], []], []]⟩]⟩

/-- The function is left with its blocks, two ops are counted, and four are gone. -/
theorem retain_exact_asserted : ∃ q n,
    assertedTwice.retain (fun op => !Pass.assertionKinds.contains op.head.kind) = (q, n) ∧
    q.addressed.map (·.2.head.kind) = ["func.func"] ∧
    q.ops.map (·.regions) = [[[[], []], []]] ∧ n = 2 ∧ assertedTwice.opCount = q.opCount + 4 ∧
    q.retain (fun op => !Pass.assertionKinds.contains op.head.kind) = (q, 0) := by
  obtain ⟨q, n, hretain, hheads, -, -, -, hn, hcount, hagain, -⟩ :=
    retain_exact (fun h => !Pass.assertionKinds.contains h.kind) assertedTwice
  cases hretain
  exact ⟨_, _, rfl, rfl, rfl, hn, hcount, hagain⟩

end Program
end StagedLowering
