import Mathlib.Data.List.Forall2
import Mathlib.Data.List.Infix
import StagedLowering.Pass.Builtin
import StagedLowering.Proofs.Walking

/-! Const-eval folding with hooks that do not grow programs. The walk goes on inside what the hook answers
and not inside what was there, so it does not follow the program; what gets smaller is the number of ops
that are left to fold. -/
namespace StagedLowering

section Answers

variable {α β : Type} {f : α → Option β}

lemma mapM_eq_some_iff {xs : List α} {ys : List β} :
    xs.mapM f = some ys ↔ List.Forall₂ (fun x y => f x = some y) xs ys := by
  induction xs generalizing ys with
  | nil => simp [eq_comm]
  | cons x xs ih =>
    simp only [List.mapM_cons, Option.bind_eq_bind, Option.pure_def, Option.bind_eq_some_iff,
      Option.some.injEq, ih, List.forall₂_cons_left_iff]
    constructor
    · rintro ⟨y, hy, ys, hys, rfl⟩
      exact ⟨y, ys, hy, hys, rfl⟩
    · rintro ⟨y, ys, hy, hys, rfl⟩
      exact ⟨y, hy, ys, hys, rfl⟩

lemma exists_forall₂ {R : α → β → Prop} {xs : List α} (h : ∀ x ∈ xs, ∃ y, R x y) :
    ∃ ys, List.Forall₂ R xs ys := by
  induction xs with
  | nil => exact ⟨[], .nil⟩
  | cons x xs ih =>
    rw [List.forall_mem_cons] at h
    obtain ⟨y, hy⟩ := h.1
    obtain ⟨ys, hys⟩ := ih h.2
    exact ⟨y :: ys, .cons hy hys⟩

/-- Related lists have related elements at the same place. -/
lemma getElem?_of_forall₂ {R : α → β → Prop} {xs : List α} {ys : List β} (h : List.Forall₂ R xs ys)
    {i : Nat} {x : α} (hx : xs[i]? = some x) : ∃ y, ys[i]? = some y ∧ R x y := by
  induction h generalizing i with
  | nil => cases hx
  | cons hr _ ih =>
    cases i with
    | zero =>
      cases hx
      exact ⟨_, rfl, hr⟩
    | succ i => exact ih hx

end Answers

namespace Op

lemma countBlock_append (a b : List Op) : countBlock (a ++ b) = countBlock a + countBlock b := by
  induction a with
  | nil => simp [countBlock]
  | cons op a ih => simp [countBlock, ih, Nat.add_assoc]

lemma countRegion_eq (region : List (List Op)) : countRegion region = countBlock region.flatten := by
  induction region with
  | nil => simp [countRegion, countBlock]
  | cons block region ih => simp [countRegion, ih, countBlock_append]

lemma countRegions_eq (regions : List (List (List Op))) :
    countRegions regions = countBlock regions.flatten.flatten := by
  induction regions with
  | nil => simp [countRegions, countBlock]
  | cons region regions ih => simp [countRegions, ih, countRegion_eq, countBlock_append]

/-- The ops right inside an op, whatever their region and block. -/
def inner (op : Op) : List Op := op.regions.flatten.flatten

lemma count_eq (op : Op) : op.count = 1 + countBlock op.inner := by
  cases op
  rw [count, countRegions_eq, inner]

lemma count_le_countBlock {op : Op} {ops : List Op} (h : op ∈ ops) : op.count ≤ countBlock ops := by
  induction ops with
  | nil => cases h
  | cons x ops ih =>
    rw [countBlock]
    rcases List.mem_cons.1 h with rfl | h
    · exact Nat.le_add_right _ _
    · exact Nat.le_trans (ih h) (Nat.le_add_left _ _)

end Op

namespace Folding

variable {hook : Op → Option Op}

/-- What the folding of an op gives: the op that takes its place, and how often the hook was asked. -/
abbrev Folds (hook : Op → Option Op) (x : Op) (y : Op × Nat) : Prop := foldOp hook x = some y

/-- Folding an op is folding each op right inside what the hook makes of it. -/
lemma foldOp_eq_some {op : Op} {y : Op × Nat} : foldOp hook op = some y ↔
    ∃ regions, List.Forall₂ (List.Forall₂ (List.Forall₂ (Folds hook)))
        (foldHere hook op).1.regions regions ∧
      y = (⟨(foldHere hook op).1.head, regions.map (·.map (·.map (·.1)))⟩,
        regions.flatten.flatten.foldl (fun n x => n + x.2) (foldHere hook op).2) := by
  rw [foldOp]
  simp only [Option.bind_eq_bind, Option.bind_eq_some_iff, Option.pure_def, Option.some.injEq,
    mapM_eq_some_iff, eq_comm (b := y)]

/-- An answer with nothing inside it is what takes the place of the op. -/
lemma foldOp_of_leaf {op leaf : Op} {n : Nat} (hhere : foldHere hook op = (leaf, n))
    (hregions : leaf.regions = []) : foldOp hook op = some (leaf, n) := by
  refine foldOp_eq_some.2 ⟨[], ?_, ?_⟩
  · rw [hhere, hregions]
    exact .nil
  · cases leaf
    cases hregions
    rw [hhere]
    rfl

/-- An answer with a single block is folded op by op. -/
lemma foldOp_of_block {op : Op} {head : OpHead} {block : Block} {n : Nat}
    {results : List (Op × Nat)} (hhere : foldHere hook op = (⟨head, [[block]]⟩, n))
    (hresults : List.Forall₂ (Folds hook) block results) :
    foldOp hook op =
      some (⟨head, [[results.map (·.1)]]⟩, results.foldl (fun n x => n + x.2) n) := by
  refine foldOp_eq_some.2 ⟨[[results]], ?_, ?_⟩
  · rw [hhere]
    exact .cons (.cons hresults .nil) .nil
  · simp [hhere]

/-- An op without the marker is not asked about. -/
lemma foldHere_of_unmarked {op : Op} (h : op.hasAttr marker = false) :
    foldHere hook op = (op, 0) := by
  rw [foldHere, h]
  rfl

section Bounds

variable (hsmall : ∀ op answer, hook op = some answer → answer.count ≤ op.count)

include hsmall in
/-- What the hook makes of an op is no larger, and the op itself takes one question at most. -/
lemma foldHere_bounds (op : Op) :
    (foldHere hook op).1.count ≤ op.count ∧ (foldHere hook op).2 ≤ 1 := by
  rw [foldHere]
  split
  · cases hanswer : hook op with
    | none => exact ⟨Nat.le_refl _, Nat.le_refl _⟩
    | some answer => exact ⟨hsmall op answer hanswer, Nat.le_refl _⟩
  · exact ⟨Nat.le_refl _, Nat.zero_le _⟩

/-- Bounds on each op of a list add up. -/
lemma countBlock_bounds {ops : List Op} {results : List (Op × Nat)}
    (h : List.Forall₂ (fun x y => y.1.count ≤ x.count ∧ y.2 ≤ x.count) ops results) :
    Op.countBlock (results.map (·.1)) ≤ Op.countBlock ops ∧
      ∀ n, results.foldl (fun n x => n + x.2) n ≤ n + Op.countBlock ops := by
  induction h with
  | nil => exact ⟨Nat.le_refl _, fun n => Nat.le_refl n⟩
  | @cons x y ops results hxy _ ih =>
    refine ⟨?_, fun n => ?_⟩
    · rw [List.map_cons, Op.countBlock, Op.countBlock]
      exact Nat.add_le_add hxy.1 ih.1
    · rw [List.foldl_cons, Op.countBlock]
      have hrest := ih.2 (n + y.2)
      omega

include hsmall in
/-- Folding an op comes to an end. The induction is on the number of ops: those inside the answer are
fewer than the answer has, and so fewer than the op had. -/
theorem foldOp_ends (op : Op) :
    ∃ y, foldOp hook op = some y ∧ y.1.count ≤ op.count ∧ y.2 ≤ op.count := by
  induction hcount : op.count using Nat.strongRecOn generalizing op with
  | ind n ih =>
    subst hcount
    obtain ⟨hanswer, hasked⟩ := foldHere_bounds hsmall op
    have hinner := (foldHere hook op).1.count_eq
    have hfold : ∀ region ∈ (foldHere hook op).1.regions, ∀ block ∈ region, ∀ x ∈ block,
        ∃ y, Folds hook x y ∧ y.1.count ≤ x.count ∧ y.2 ≤ x.count := by
      intro region hr block hb x hx
      have hmem : x ∈ (foldHere hook op).1.inner :=
        List.mem_flatten_of_mem (List.mem_flatten_of_mem hr hb) hx
      have hless := Op.count_le_countBlock hmem
      exact ih x.count (by omega) x rfl
    obtain ⟨results, hresults⟩ := exists_forall₂ fun region hr => exists_forall₂ fun block hb =>
      exists_forall₂ (hfold region hr block hb)
    have hbounds := countBlock_bounds (List.rel_flatten (List.rel_flatten
      (hresults.imp fun _ _ h => h.imp fun _ _ h => h.imp fun _ _ h => h.2)))
    refine ⟨_, foldOp_eq_some.2 ⟨results,
      hresults.imp fun _ _ h => h.imp fun _ _ h => h.imp fun _ _ h => h.1, rfl⟩, ?_, ?_⟩
    · rw [Op.count_eq, Op.inner]
      simp only [← List.map_flatten]
      have hcount := hbounds.1
      rw [Op.inner] at hinner
      omega
    · have hquestions := hbounds.2 (foldHere hook op).2
      rw [Op.inner] at hinner
      omega

end Bounds

/-- An op that is found on a way of ops without the marker keeps its place and its head, whatever the hook
makes of the ops beside this way. -/
lemma atIndices_folded {ops : List Op} {results : List (Op × Nat)} {s : List Nat} {x : Op}
    (hfold : List.Forall₂ (Folds hook) ops results) (hx : Op.atIndices ops s = some x)
    (hclear : ∀ t y, t <+: s → Op.atIndices ops t = some y → y.hasAttr marker = false) :
    ∃ y, Op.atIndices (results.map (·.1)) s = some y ∧ y.head = x.head := by
  fun_induction Op.atIndices ops s generalizing results with
  | case1 ops i =>
    obtain ⟨y, hy, hfolds⟩ := getElem?_of_forall₂ hfold hx
    have hunmarked := hclear [i] x (List.prefix_refl _) hx
    obtain ⟨regions, -, rfl⟩ := foldOp_eq_some.1 hfolds
    refine ⟨_, by rw [Op.atIndices, List.getElem?_map, hy]; rfl, ?_⟩
    rw [foldHere_of_unmarked hunmarked]
  | case2 ops i r b rest ih =>
    obtain ⟨op, hop, hx⟩ := Option.bind_eq_some_iff.1 hx
    obtain ⟨region, hregion, hx⟩ := Option.bind_eq_some_iff.1 hx
    obtain ⟨block, hblock, hx⟩ := Option.bind_eq_some_iff.1 hx
    obtain ⟨y, hy, hfolds⟩ := getElem?_of_forall₂ hfold hop
    have hunmarked := hclear [i] op (List.prefix_append [i] _) hop
    obtain ⟨regions, hregions, rfl⟩ := foldOp_eq_some.1 hfolds
    rw [foldHere_of_unmarked hunmarked] at hregions hy
    obtain ⟨region', hregion', hblocks⟩ := getElem?_of_forall₂ hregions hregion
    obtain ⟨block', hblock', hops⟩ := getElem?_of_forall₂ hblocks hblock
    simp only [Op.atIndices, List.getElem?_map, hy, hregion', hblock', Option.map_some,
      Option.bind_eq_bind, Option.bind_some]
    refine ih block hops hx fun t z ht hz => ?_
    -- A path into the block is never empty, so it continues the way that leads to the block.
    cases t with
    | nil => cases hz
    | cons j t =>
      refine hclear (i :: r :: b :: j :: t) z ?_ ?_
      · exact (List.prefix_append_right_inj [i, r, b]).2 ht
      · simpa only [Op.atIndices, hop, hregion, hblock, Option.bind_eq_bind, Option.bind_some] using hz
  | case3 => cases hx

lemma fold_eq_some {p : Program} {results : List (Op × Nat)}
    (h : List.Forall₂ (Folds hook) p.ops results) :
    fold hook p = some (⟨results.map (·.1)⟩, results.foldl (fun n x => n + x.2) 0) := by
  rw [fold, mapM_eq_some_iff.2 h]
  rfl

end Folding

/-- Const-eval with a hook that never answers with more ops than it was asked about comes to an end and
stays where it belongs. It asks at most once for each op of the program, leaves no more ops than there were,
and an op that is no constant expression, and inside none, keeps its place, its kind, its attributes and its
location. -/
theorem constEval_ends_local (hook : Op → Option Op)
    (hsmall : ∀ op answer, hook op = some answer → answer.count ≤ op.count) (p : Program) :
    ∃ q asked, Folding.fold hook p = some (q, asked) ∧
      (∀ refusal hoisting reduction,
        Provider.builtin ⟨some hook⟩ refusal (.highLevelOptimization true hoisting reduction) p =
          .ok q ()) ∧
      asked ≤ p.opCount ∧ q.opCount ≤ p.opCount ∧
      ∀ path op, p.opAt path = some op →
        (∀ path' op', path'.indices <+: path.indices → p.opAt path' = some op' →
          op'.hasAttr "const_expr" = false) →
        ∃ op', q.opAt path = some op' ∧
          op'.kind = op.kind ∧ op'.attrs = op.attrs ∧ op'.location = op.location := by
  obtain ⟨results, hresults⟩ := exists_forall₂ fun op (_ : op ∈ p.ops) => Folding.foldOp_ends hsmall op
  have hfolds : List.Forall₂ (Folding.Folds hook) p.ops results := hresults.imp fun _ _ h => h.1
  obtain ⟨hcount, hasked⟩ := Folding.countBlock_bounds (hresults.imp fun _ _ h => h.2)
  have hfold := Folding.fold_eq_some hfolds
  refine ⟨_, _, hfold, fun refusal hoisting reduction => ?_, ?_, hcount, ?_⟩
  · rw [Provider.builtin, Pass.foldConstants]
    simp only [hfold]
  · simpa [Program.opCount] using hasked 0
  · intro path op hop hclear
    obtain ⟨op', hop', hhead⟩ := Folding.atIndices_folded hfolds hop fun t y ht hy =>
      hclear ⟨t⟩ y ht hy
    exact ⟨op', hop', congrArg OpHead.kind hhead, congrArg OpHead.attrs hhead,
      congrArg OpHead.location hhead⟩

/-- Makes of an op with others inside it a group with one constant expression, which is asked about in
turn. -/
def regroup (op : Op) : Option Op :=
  if 2 ≤ op.count then
    some ⟨{ kind := "arith.group" }, [[[markedOp "arith.sum" "const_expr"]]]⟩
  else none

/-- A sum in front of the end of a function. -/
def sumInFunction : Program :=
  ⟨[⟨{ kind := "func.func" }, [[[markedOp "arith.addi" "const_expr" [[[Op.ofKind "arith.constant"]]],
    Op.ofKind "func.return"]]]⟩]⟩

/-- The function with the group in the place of the sum. -/
def groupInFunction : Program :=
  ⟨[⟨{ kind := "func.func" }, [[[⟨{ kind := "arith.group" }, [[[markedOp "arith.sum" "const_expr"]]]⟩,
    Op.ofKind "func.return"]]]⟩]⟩

lemma fold_sumInFunction : Folding.fold regroup sumInFunction = some (groupInFunction, 2) := by
  have hsum : Folding.foldOp regroup (markedOp "arith.sum" "const_expr") =
      some (markedOp "arith.sum" "const_expr", 1) :=
    Folding.foldOp_of_leaf rfl rfl
  have hadd : Folding.foldOp regroup
      (markedOp "arith.addi" "const_expr" [[[Op.ofKind "arith.constant"]]]) =
      some (⟨{ kind := "arith.group" }, [[[markedOp "arith.sum" "const_expr"]]]⟩, 2) :=
    Folding.foldOp_of_block rfl (.cons hsum .nil)
  have hreturn : Folding.foldOp regroup (Op.ofKind "func.return") =
      some (Op.ofKind "func.return", 0) :=
    Folding.foldOp_of_leaf rfl rfl
  have hfunction : Folding.foldOp regroup ⟨{ kind := "func.func" },
      [[[markedOp "arith.addi" "const_expr" [[[Op.ofKind "arith.constant"]]], Op.ofKind "func.return"]]]⟩ =
      some (⟨{ kind := "func.func" }, [[[⟨{ kind := "arith.group" },
        [[[markedOp "arith.sum" "const_expr"]]]⟩, Op.ofKind "func.return"]]]⟩, 2) :=
    Folding.foldOp_of_block rfl (.cons hadd (.cons hreturn .nil))
  exact Folding.fold_eq_some (.cons hfunction .nil)

/-- The group takes the place of the sum after two questions: one about the sum, and one about the constant
expression in the group, which the hook leaves alone. The end of the function is still behind it. -/
theorem constEval_ends_local_regrouped :
    (∀ op answer, regroup op = some answer → answer.count ≤ op.count) ∧
    Folding.fold regroup sumInFunction = some (groupInFunction, 2) ∧
    2 ≤ sumInFunction.opCount ∧ groupInFunction.opCount ≤ sumInFunction.opCount ∧
    ∃ op, groupInFunction.opAt ⟨[0, 0, 0, 1]⟩ = some op ∧ op.kind = "func.return" := by
  have hsmall : ∀ op answer, regroup op = some answer → answer.count ≤ op.count := by
    intro op answer hanswer
    obtain ⟨hcount, heq⟩ := (Option.ite_none_right_eq_some ..).1 hanswer
    cases heq
    exact hcount
  have hclear : ∀ path op, path.indices <+: [0, 0, 0, 1] → sumInFunction.opAt path = some op →
      op.hasAttr "const_expr" = false := by
    rintro ⟨indices⟩ op hinit hop
    rw [← List.mem_inits] at hinit
    simp only [List.inits, List.map, List.mem_cons, List.not_mem_nil, or_false] at hinit
    rcases hinit with rfl | rfl | rfl | rfl | rfl <;> cases hop <;> rfl
  obtain ⟨q, asked, hfold, -, hasked, hcount, hlocal⟩ :=
    constEval_ends_local regroup hsmall sumInFunction
  cases fold_sumInFunction.symm.trans hfold
  obtain ⟨op, hop, hkind, -, -⟩ := hlocal ⟨[0, 0, 0, 1]⟩ _ rfl hclear
  exact ⟨hsmall, hfold, hasked, hcount, op, hop, hkind⟩

end StagedLowering
