import Mathlib.Data.Option.Defs
import StagedLowering.Pass.Builtin
import StagedLowering.Proofs.Addressing
import StagedLowering.Proofs.Outcome

/-! Changes to the heads of ops. They keep every op in its place, and so does the removal of hints. -/
namespace StagedLowering

namespace Op

lemma mapBlock_eq (f : OpHead → OpHead) (ops : List Op) : mapBlock f ops = ops.map (mapHeads f) := by
  induction ops with
  | nil => rw [mapBlock, List.map_nil]
  | cons op rest ih => rw [mapBlock, ih, List.map_cons]

lemma mapRegion_eq (f : OpHead → OpHead) (region : List (List Op)) :
    mapRegion f region = region.map (mapBlock f) := by
  induction region with
  | nil => rw [mapRegion, List.map_nil]
  | cons block rest ih => rw [mapRegion, ih, List.map_cons]

lemma mapRegions_eq (f : OpHead → OpHead) (regions : List (List (List Op))) :
    mapRegions f regions = regions.map (mapRegion f) := by
  induction regions with
  | nil => rw [mapRegions, List.map_nil]
  | cons region rest ih => rw [mapRegions, ih, List.map_cons]

@[simp] lemma mapHeads_head (f : OpHead → OpHead) (op : Op) : (op.mapHeads f).head = f op.head := by
  cases op
  rw [mapHeads]

@[simp] lemma mapHeads_regions (f : OpHead → OpHead) (op : Op) :
    (op.mapHeads f).regions = op.regions.map (mapRegion f) := by
  cases op
  rw [mapHeads, mapRegions_eq]

lemma mapHeads_mapHeads (f g : OpHead → OpHead) (op : Op) :
    (op.mapHeads g).mapHeads f = op.mapHeads (f ∘ g) := by
  induction op using Op.induction with
  | step h regions ih =>
    simp only [mapHeads, mapRegions_eq, List.map_map, Function.comp_apply]
    congr 1
    refine List.map_congr_left fun region hr => ?_
    simp only [Function.comp_apply, mapRegion_eq, List.map_map]
    refine List.map_congr_left fun block hb => ?_
    simp only [Function.comp_apply, mapBlock_eq, List.map_map]
    exact List.map_congr_left fun op ho => ih region hr block hb op ho

lemma atIndices_mapBlock (f : OpHead → OpHead) (ops : List Op) (s : List Nat) :
    atIndices (mapBlock f ops) s = (atIndices ops s).map (mapHeads f) := by
  fun_induction atIndices ops s with
  | case1 ops i => simp [atIndices, mapBlock_eq]
  | case2 ops i r b rest ih =>
    rw [atIndices, mapBlock_eq, List.getElem?_map]
    cases ops[i]? with
    | none => rfl
    | some op =>
      simp only [Option.map_some, Option.bind_eq_bind, Option.bind_some, mapHeads_regions,
        List.getElem?_map]
      cases op.regions[r]? with
      | none => rfl
      | some region =>
        simp only [Option.map_some, Option.bind_some, mapRegion_eq, List.getElem?_map]
        cases region[b]? with
        | none => rfl
        | some block => exact ih block
  | case3 s ops hone hmore =>
    rw [atIndices, Option.map_none]
    · exact hone
    · exact hmore

end Op

/-- Changes to heads alone keep every op at its path. -/
theorem Program.opAt_mapHeads (f : OpHead → OpHead) (p : Program) (path : OpPath) :
    (p.mapHeads f).opAt path = (p.opAt path).map (Op.mapHeads f) :=
  Op.atIndices_mapBlock f p.ops path.indices

/-- The ops of a program with changed heads are its ops with changed heads. -/
lemma Program.mem_addressed_mapHeads {f : OpHead → OpHead} {p : Program} {x : OpPath × Op} :
    x ∈ (p.mapHeads f).addressed ↔ ∃ y, (x.1, y) ∈ p.addressed ∧ y.mapHeads f = x.2 := by
  simp only [mem_addressed, opAt_mapHeads, Option.map_eq_some_iff]

lemma Program.mapHeads_mapHeads (f g : OpHead → OpHead) (p : Program) :
    (p.mapHeads g).mapHeads f = p.mapHeads (f ∘ g) := by
  simp only [mapHeads, Op.mapBlock_eq, List.map_map]
  congr 1
  exact List.map_congr_left fun op _ => op.mapHeads_mapHeads f g

/-- `q` is `p` without its hints: the same ops stand at the same paths, with all attributes but those
whose key starts with `hint.`. -/
def Program.SameButHints (p q : Program) : Prop :=
  ∀ path, Option.Rel (fun x y => y.kind = x.kind ∧ y.location = x.location ∧
    y.regions.map (·.length) = x.regions.map (·.length) ∧
    ∀ key, y.attrs.get? key =
      if "hint.".toList <+: key.toList then none else x.attrs.get? key) (p.opAt path) (q.opAt path)

lemma Pass.isHint_iff {key : String} : isHint key = true ↔ "hint.".toList <+: key.toList :=
  List.isPrefixOf_iff_prefix

lemma Pass.dropHints_sameButHints (p : Program) : p.SameButHints (dropHints p).state := by
  intro path
  rw [dropHints, edit, Outcome.ok_state, Program.opAt_mapHeads]
  cases p.opAt path with
  | none => exact .none
  | some x =>
    refine .some ⟨by simp [Op.kind], by simp [Op.location], ?_, fun key => ?_⟩
    · simp [Op.mapRegion_eq, Function.comp_def]
    · simp only [Op.attrs, Op.mapHeads_head]
      rw [Dict.get?_filter fun key => !isHint key]
      by_cases hint : isHint key = true
      · rw [if_pos (isHint_iff.1 hint), hint]
        rfl
      · rw [if_neg (mt isHint_iff.2 hint), Bool.eq_false_iff.2 hint]
        rfl

end StagedLowering
