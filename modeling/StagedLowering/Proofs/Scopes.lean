import Mathlib.Data.List.Chain
import StagedLowering.Proofs.Rebasing
import StagedLowering.Proofs.Substitution

/-! The ops that nested sub-pipelines get to. On every level only outermost anchors are entered; still all
ops are reached to which a chain of anchors leads, and in pre-order. -/
namespace StagedLowering

/-- The op at `b` is the op at `a` or inside it. -/
def OpPath.Encloses (a b : OpPath) : Prop := a.indices <+: b.indices

lemma OpPath.Encloses.trans {a b c : OpPath} (hab : a.Encloses b) (hbc : b.Encloses c) :
    a.Encloses c := List.IsPrefix.trans hab hbc

/-- What is inside an op comes before what is inside a later op that the first one does not enclose. -/
lemma OpPath.Precedes.inside {a b a' b' : OpPath} (h : a.Precedes b) (hab : ¬ a.Encloses b)
    (ha : a.Encloses a') (hb : b.Encloses b') : a'.Precedes b' := by
  have hlex : ∀ s t : List Nat, List.Lex (· < ·) s t → ¬ s <+: t →
      ∀ s' t', List.Lex (· < ·) (s ++ s') (t ++ t') := by
    intro s t hst hno s' t'
    induction hst with
    | nil => exact absurd List.nil_prefix hno
    | cons _ ih => exact .cons (ih fun hpre => hno (List.cons_prefix_cons.2 ⟨rfl, hpre⟩))
    | rel hlt => exact .rel hlt
  obtain ⟨s, hs⟩ := ha
  obtain ⟨t, ht⟩ := hb
  rw [Precedes, ← hs, ← ht]
  exact hlex _ _ h hab s t

namespace Program

variable {p : Program} {x y : OpPath × Op}

/-- The ops listed in the subtree of an op are those that its path encloses. -/
lemma mem_subtree (hx : x ∈ p.addressed) :
    y ∈ x.2.addressed x.1.indices ↔ y ∈ p.addressed ∧ x.1.Encloses y.1 := by
  rw [mem_addressed, opAt] at hx
  rw [x.2.lists_addressed.mem_iff, mem_addressed, opAt]
  constructor
  · rintro ⟨s, hs, hl⟩
    rw [OpPath.Encloses, hs, Op.atIndices_append hx]
    exact ⟨hl, List.prefix_append _ _⟩
  · rintro ⟨hy, s, hs⟩
    rw [← hs, Op.atIndices_append hx] at hy
    exact ⟨s, hs.symm, hy⟩

lemma indices_ne_nil (hx : x ∈ p.addressed) : x.1.indices ≠ [] := by
  intro hnil
  rw [mem_addressed, opAt, hnil, Op.atIndices_eq, lookAt] at hx
  cases hx

end Program

/-- Every op of a kind has an outermost one around it. -/
lemma exists_outermostIn {kind : String} {nodes : List (OpPath × Op)} {y : OpPath × Op}
    (hy : y ∈ nodes) (hk : y.2.kind = kind) : ∃ x ∈ outermostIn kind nodes, x.1.Encloses y.1 := by
  induction hn : y.1.indices.length using Nat.strong_induction_on generalizing y with
  | _ n ih =>
    by_cases hout : y ∈ outermostIn kind nodes
    · exact ⟨y, hout, List.prefix_rfl⟩
    · obtain ⟨z, hz, hzk, habove⟩ : ∃ z ∈ nodes, z.2.kind = kind ∧ z.1.IsAbove y.1 := by
        simpa [outermostIn, hy, hk] using hout
      have hshort : z.1.indices.length < n := by
        have hle := habove.1.length_le
        refine lt_of_le_of_ne (hn ▸ hle) fun heq => habove.2 ?_
        exact congrArg OpPath.mk (habove.1.eq_of_length (heq.trans hn.symm))
      obtain ⟨x, hx, hxz⟩ := ih _ hshort hz hzk rfl
      exact ⟨x, hx, hxz.trans habove.1⟩

/-- Outermost ops do not enclose each other. -/
lemma not_encloses_of_outermostIn {kind : String} {nodes : List (OpPath × Op)} {x y : OpPath × Op}
    (hx : x ∈ outermostIn kind nodes) (hy : y ∈ outermostIn kind nodes) (hne : x.1 ≠ y.1) :
    ¬ x.1.Encloses y.1 := by
  intro henc
  obtain ⟨hxn, hxk, -⟩ : x ∈ nodes ∧ x.2.kind = kind ∧ _ := by simpa [outermostIn] using hx
  obtain ⟨-, -, hout⟩ : y ∈ nodes ∧ y.2.kind = kind ∧
      ∀ z ∈ nodes, z.2.kind = kind → ¬ z.1.IsAbove y.1 := by
    simpa only [outermostIn, List.mem_filter, decide_eq_true_eq] using hy
  exact hout x hxn hxk ⟨henc, hne⟩

/-- The ops that sub-pipelines with the given anchors get to, one inside the other: on each level those in
the outermost anchors. -/
def scopedIn : List String → List (OpPath × Op) → List (OpPath × Op)
  | [], nodes => nodes
  | a :: anchors, nodes =>
    (outermostIn a nodes).flatMap fun x => scopedIn anchors (x.2.addressed x.1.indices)

/-- A chain of ops of the given kinds leads to the op at `v`: each encloses the next one, and the last one
encloses `v`. -/
def Program.InScope (p : Program) (anchors : List String) (v : OpPath) : Prop :=
  ∃ chain : List (OpPath × Op), (∀ x ∈ chain, x ∈ p.addressed) ∧ chain.map (·.2.kind) = anchors ∧
    List.IsChain OpPath.Encloses (chain.map (·.1) ++ [v])

section

variable {p : Program} {v : OpPath × Op}

lemma isChain_cons_of_encloses {a b : OpPath} {l : List OpPath} (hab : a.Encloses b)
    (h : List.IsChain OpPath.Encloses (b :: l)) : List.IsChain OpPath.Encloses (a :: l) := by
  cases l with
  | nil => exact .singleton a
  | cons c l =>
    rw [List.isChain_cons_cons] at h ⊢
    exact ⟨hab.trans h.1, h.2⟩

/-- It is enough to search the outermost anchors: those around the ops of a chain are a chain too. -/
lemma mem_scopedIn {anchors : List String} {nodes : List (OpPath × Op)} {base : OpPath}
    (hnodes : ∀ y, y ∈ nodes ↔ y ∈ p.addressed ∧ base.Encloses y.1) :
    v ∈ scopedIn anchors nodes ↔ v ∈ p.addressed ∧ ∃ chain : List (OpPath × Op),
      (∀ x ∈ chain, x ∈ p.addressed) ∧ chain.map (·.2.kind) = anchors ∧
      List.IsChain OpPath.Encloses (base :: (chain.map (·.1) ++ [v.1])) := by
  induction anchors generalizing nodes base with
  | nil =>
    rw [scopedIn, hnodes]
    refine and_congr_right fun _ => ⟨fun hv => ⟨[], by simp, rfl, ?_⟩, ?_⟩
    · simpa using hv
    · rintro ⟨chain, -, hkinds, hchain⟩
      obtain rfl := List.map_eq_nil_iff.1 hkinds
      simpa using hchain
  | cons a anchors ih =>
    rw [scopedIn, List.mem_flatMap]
    constructor
    · rintro ⟨x, hx, hv⟩
      obtain ⟨hxn, hxk⟩ := List.mem_filter.1 hx
      obtain ⟨hxp, hbase⟩ := (hnodes x).1 hxn
      obtain ⟨hvp, chain, hmem, hkinds, hchain⟩ := (ih fun y => Program.mem_subtree hxp).1 hv
      refine ⟨hvp, x :: chain, List.forall_mem_cons.2 ⟨hxp, hmem⟩, ?_, ?_⟩
      · simp only [decide_eq_true_eq] at hxk
        rw [List.map_cons, hkinds, hxk.1]
      · exact List.isChain_cons_cons.2 ⟨hbase, hchain⟩
    · rintro ⟨hvp, chain, hmem, hkinds, hchain⟩
      obtain ⟨y, chain, rfl, hyk, hkinds⟩ := List.map_eq_cons_iff.1 hkinds
      rw [List.forall_mem_cons] at hmem
      obtain ⟨hbase, hchain⟩ := List.isChain_cons_cons.1 hchain
      obtain ⟨x, hx, hxy⟩ := exists_outermostIn ((hnodes y).2 ⟨hmem.1, hbase⟩) hyk
      have hxp := ((hnodes x).1 (mem_of_mem_outermostIn hx)).1
      exact ⟨x, hx, (ih fun z => Program.mem_subtree hxp).2
        ⟨hvp, chain, hmem.2, hkinds, isChain_cons_of_encloses hxy hchain⟩⟩

lemma mem_scopedIn_program {anchors : List String} :
    v ∈ scopedIn anchors p.addressed ↔ v ∈ p.addressed ∧ p.InScope anchors v.1 := by
  have hroot : ∀ a : OpPath, (⟨[]⟩ : OpPath).Encloses a := fun a => List.nil_prefix
  have hnodes : ∀ y, y ∈ p.addressed ↔ y ∈ p.addressed ∧ (⟨[]⟩ : OpPath).Encloses y.1 :=
    fun y => ⟨fun hy => ⟨hy, hroot y.1⟩, And.left⟩
  rw [mem_scopedIn hnodes]
  refine and_congr_right fun _ => exists_congr fun chain => and_congr_right fun _ =>
    and_congr_right fun _ => ⟨fun h => h.tail, fun h => ?_⟩
  exact List.isChain_cons.2 ⟨fun a _ => hroot a, h⟩

end

/-- What is in scope is inside the ops that were listed. -/
lemma encloses_of_mem_scopedIn {anchors : List String} {nodes : List (OpPath × Op)} {base : OpPath}
    {v : OpPath × Op} (hnodes : ∀ y ∈ nodes, base.Encloses y.1) (hv : v ∈ scopedIn anchors nodes) :
    base.Encloses v.1 := by
  induction anchors generalizing nodes base with
  | nil => exact hnodes v hv
  | cons a anchors ih =>
    obtain ⟨x, hx, hv⟩ := List.mem_flatMap.1 hv
    exact (hnodes x (mem_of_mem_outermostIn hx)).trans
      (ih (fun y hy => x.2.lists_addressed.under hy) hv)

/-- The ops in scope are listed in pre-order. -/
lemma scopedIn_ordered (anchors : List String) {nodes : List (OpPath × Op)}
    (h : nodes.Pairwise fun x y => x.1.Precedes y.1) :
    (scopedIn anchors nodes).Pairwise fun x y => x.1.Precedes y.1 := by
  induction anchors generalizing nodes with
  | nil => exact h
  | cons a anchors ih =>
    have hinside : ∀ x v : OpPath × Op, v ∈ scopedIn anchors (x.2.addressed x.1.indices) →
        x.1.Encloses v.1 := fun x v hv =>
      encloses_of_mem_scopedIn (fun y hy => x.2.lists_addressed.under hy) hv
    refine List.pairwise_flatMap.2 ⟨fun x _ => ih (x.2.lists_addressed.ordered _), ?_⟩
    have houter : (outermostIn a nodes).Pairwise fun x y => x.1.Precedes y.1 := h.filter _
    refine houter.imp_of_mem fun {x y} hx hy hxy v hv w hw => ?_
    exact hxy.inside (not_encloses_of_outermostIn hx hy hxy.ne) (hinside x v hv) (hinside y w hw)

/-- A listed op seen from further out: its path goes on from `base`. -/
def below (base : List Nat) (y : OpPath × Op) : OpPath × Op := (⟨base ++ y.1.indices⟩, y.2)

lemma gather_below {α : Type} {f : List Nat → α → List (OpPath × Op)} {xs : List α} {base : List Nat}
    (h : ∀ a ∈ xs, ∀ path, f (base ++ path) a = (f path a).map (below base)) (path : List Nat)
    (i : Nat) : gather f (base ++ path) i xs = (gather f path i xs).map (below base) := by
  induction xs generalizing i with
  | nil => rfl
  | cons a rest ih =>
    rw [List.forall_mem_cons] at h
    rw [gather, gather, List.map_append, ← h.1, ih h.2, List.append_assoc]

theorem Op.addressed_below (base : List Nat) (op : Op) :
    ∀ path, op.addressed (base ++ path) = (op.addressed path).map (below base) := by
  induction op using Op.induction with
  | step h regions ih =>
    intro path
    have hregions : addressedRegions (base ++ path) 0 regions =
        (addressedRegions path 0 regions).map (below base) := by
      simp only [addressedRegions_eq]
      refine gather_below (fun region hr path => ?_) path 0
      simp only [addressedRegion_eq]
      refine gather_below (fun block hb path => ?_) path 0
      simp only [addressedBlock_eq]
      exact gather_below (ih region hr block hb) path 0
    rw [addressed, addressed, hregions, List.map_cons]
    rfl

lemma isAbove_below (base : List Nat) (x y : OpPath × Op) :
    (below base x).1.IsAbove (below base y).1 ↔ x.1.IsAbove y.1 := by
  obtain ⟨⟨s⟩, op⟩ := x
  obtain ⟨⟨t⟩, op'⟩ := y
  simp [below, OpPath.IsAbove, List.prefix_append_right_inj]

lemma outermostIn_below (kind : String) (base : List Nat) (nodes : List (OpPath × Op)) :
    outermostIn kind (nodes.map (below base)) = (outermostIn kind nodes).map (below base) := by
  rw [outermostIn, outermostIn, List.filter_map]
  congr 1
  apply List.filter_congr
  intro x _
  simp only [Function.comp_apply, decide_eq_decide, List.forall_mem_map, isAbove_below]
  rfl

lemma scopedIn_below (anchors : List String) (base : List Nat) (nodes : List (OpPath × Op)) :
    scopedIn anchors (nodes.map (below base)) = (scopedIn anchors nodes).map (below base) := by
  induction anchors generalizing nodes with
  | nil => rfl
  | cons a anchors ih =>
    rw [scopedIn, scopedIn, outermostIn_below, List.flatMap_map, List.map_flatMap]
    refine congrArg (List.flatMap · _) (funext fun x => ?_)
    rw [← ih, ← Op.addressed_below]
    rfl

/-- What is in scope in a subtree is what is in scope in its op alone, with the paths moved. -/
lemma scopedIn_alone (anchors : List String) (x : Op) {path : List Nat} (hpath : path ≠ []) :
    scopedIn anchors (x.addressed path) =
      (scopedIn anchors (Program.mk [x]).addressed).map fun y => (y.1.rebased ⟨path⟩, y.2) := by
  have hbelow : ∀ base, x.addressed base = (x.addressed []).map (below base) := by
    intro base
    rw [← Op.addressed_below, List.append_nil]
  have halone : (Program.mk [x]).addressed = (x.addressed []).map (below [0]) := by
    rw [← hbelow, Program.addressed, Op.addressedBlock_eq, gather, gather, List.append_nil]
    rfl
  rw [hbelow, halone, scopedIn_below, scopedIn_below, List.map_map]
  refine List.map_congr_left fun y _ => ?_
  simp [below, OpPath.rebased, OpPath.shiftLast_zero hpath]

end StagedLowering
