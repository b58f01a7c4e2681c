import Mathlib.Data.List.Lex
import StagedLowering.Program.Walk

/-! The list of all ops with their paths against look-up by path. Every walk runs through lists and
counts the places; `gather` is that loop, so a fact about walks is proved once, for one list. -/
namespace StagedLowering

namespace Op

/-- What holds of an op when it holds of the ops right inside it, holds of every op. -/
theorem induction {P : Op → Prop}
    (step : ∀ h regions, (∀ region ∈ regions, ∀ block ∈ region, ∀ op ∈ block, P op) →
      P ⟨h, regions⟩) : ∀ op, P op
  | ⟨h, regions⟩ => step h regions fun region _ block _ op _ => induction step op
termination_by op => sizeOf op
decreasing_by
  have hop := List.sizeOf_lt_of_mem ‹op ∈ block›
  have hblock := List.sizeOf_lt_of_mem ‹block ∈ region›
  have hregion := List.sizeOf_lt_of_mem ‹region ∈ regions›
  simp only [mk.sizeOf_spec]
  omega

end Op

variable {α β : Type}

/-- What `f` makes of every element and of the path of its place, in order. -/
def gather (f : List Nat → α → List β) (base : List Nat) : Nat → List α → List β
  | _, [] => []
  | i, a :: rest => f (base ++ [i]) a ++ gather f base (i + 1) rest

/-- Looks up the element at the first index and goes on in it with the others. -/
def lookAt (look : α → List Nat → Option Op) (xs : List α) : List Nat → Option Op
  | [] => none
  | i :: rest => xs[i]?.bind (look · rest)

lemma mem_gather {f : List Nat → α → List β} {base : List Nat} {i : Nat} {xs : List α} {x : β} :
    x ∈ gather f base i xs ↔ ∃ j a, xs[j]? = some a ∧ x ∈ f (base ++ [i + j]) a := by
  induction xs generalizing i with
  | nil => simp [gather]
  | cons b rest ih =>
    rw [gather, List.mem_append, ih]
    constructor
    · rintro (h | ⟨j, a, hj, hx⟩)
      · exact ⟨0, b, rfl, h⟩
      · refine ⟨j + 1, a, hj, ?_⟩
        rwa [show i + (j + 1) = i + 1 + j by omega]
    · rintro ⟨j, a, hj, hx⟩
      cases j with
      | zero =>
        cases hj
        exact .inl hx
      | succ j =>
        refine .inr ⟨j, a, hj, ?_⟩
        rwa [show i + 1 + j = i + (j + 1) by omega]

/-- In pre-order the op at `a` comes before the op at `b`. -/
def OpPath.Precedes (a b : OpPath) : Prop := List.Lex (· < ·) a.indices b.indices

lemma OpPath.Precedes.asymm {a b : OpPath} (h : a.Precedes b) : ¬ b.Precedes a :=
  fun h' => (List.Lex.asymm (· < ·)).asymm _ _ h h'

lemma OpPath.Precedes.ne {a b : OpPath} (h : a.Precedes b) : a ≠ b := by
  rintro rfl
  exact h.asymm h

/-- `f` lists exactly what `look` finds in `a`, each under its path and in pre-order. -/
structure Lists (f : List Nat → α → List (OpPath × Op)) (look : α → List Nat → Option Op) (a : α) :
    Prop where
  mem_iff : ∀ path x, x ∈ f path a ↔ ∃ s, x.1.indices = path ++ s ∧ look a s = some x.2
  ordered : ∀ path, (f path a).Pairwise fun x y => x.1.Precedes y.1

namespace Lists

variable {f : List Nat → α → List (OpPath × Op)} {look : α → List Nat → Option Op}

lemma under {a : α} (h : Lists f look a) {path : List Nat} {x : OpPath × Op} (hx : x ∈ f path a) :
    path <+: x.1.indices := by
  obtain ⟨s, hs, _⟩ := (h.mem_iff path x).1 hx
  exact ⟨s, hs.symm⟩

lemma gather_ordered {xs : List α} (h : ∀ a ∈ xs, Lists f look a) (base : List Nat) (i : Nat) :
    (gather f base i xs).Pairwise fun x y => x.1.Precedes y.1 := by
  induction xs generalizing i with
  | nil => exact .nil
  | cons a rest ih =>
    rw [List.forall_mem_cons] at h
    refine List.pairwise_append.2 ⟨h.1.ordered _, ih h.2 (i + 1), ?_⟩
    intro x hx y hy
    obtain ⟨s, hs, _⟩ := (h.1.mem_iff _ x).1 hx
    obtain ⟨j, b, hb, hy⟩ := mem_gather.1 hy
    obtain ⟨t, ht, _⟩ := ((h.2 b (List.mem_of_getElem? hb)).mem_iff _ y).1 hy
    rw [OpPath.Precedes, hs, ht, List.append_assoc, List.append_assoc]
    exact List.Lex.append_left (· < ·) (.rel (by omega)) base

/-- What is listed in the elements is listed in the list. -/
lemma gather {xs : List α} (h : ∀ a ∈ xs, Lists f look a) :
    Lists (fun path xs => StagedLowering.gather f path 0 xs) (lookAt look) xs where
  mem_iff path x := by
    simp only [mem_gather, Nat.zero_add]
    constructor
    · rintro ⟨j, a, ha, hx⟩
      obtain ⟨s, hs, hl⟩ := ((h a (List.mem_of_getElem? ha)).mem_iff _ _).1 hx
      exact ⟨j :: s, by simpa using hs, by simp [lookAt, ha, hl]⟩
    · rintro ⟨s, hs, hl⟩
      cases s with
      | nil => simp [lookAt] at hl
      | cons j s =>
        obtain ⟨a, ha, hl⟩ := Option.bind_eq_some_iff.1 hl
        exact ⟨j, a, ha, ((h a (List.mem_of_getElem? ha)).mem_iff _ _).2 ⟨s, by simpa using hs, hl⟩⟩
  ordered path := gather_ordered h path 0

end Lists

namespace Op

lemma addressedBlock_eq (base : List Nat) (i : Nat) (ops : List Op) :
    addressedBlock base i ops = gather addressed base i ops := by
  induction ops generalizing i with
  | nil => simp [addressedBlock, gather]
  | cons op rest ih => simp [addressedBlock, gather, ih]

lemma addressedRegion_eq (base : List Nat) (i : Nat) (region : List (List Op)) :
    addressedRegion base i region =
      gather (fun path block => addressedBlock path 0 block) base i region := by
  induction region generalizing i with
  | nil => simp [addressedRegion, gather]
  | cons block rest ih => simp [addressedRegion, gather, ih]

lemma addressedRegions_eq (base : List Nat) (i : Nat) (regions : List (List (List Op))) :
    addressedRegions base i regions =
      gather (fun path region => addressedRegion path 0 region) base i regions := by
  induction regions generalizing i with
  | nil => simp [addressedRegions, gather]
  | cons region rest ih => simp [addressedRegions, gather, ih]

/-- The op at the given indices under an op: the op itself, or one inside it. -/
def within (op : Op) : List Nat → Option Op
  | [] => some op
  | r :: rest => lookAt (lookAt atIndices) op.regions (r :: rest)

@[simp] lemma within_nil (op : Op) : op.within [] = some op := rfl

lemma within_of_ne_nil (op : Op) {s : List Nat} (h : s ≠ []) :
    op.within s = lookAt (lookAt atIndices) op.regions s := by
  cases s with
  | nil => contradiction
  | cons r rest => rfl

lemma atIndices_eq (ops : List Op) (s : List Nat) : atIndices ops s = lookAt within ops s := by
  match s with
  | [] => rfl
  | [i] =>
    rw [atIndices, lookAt]
    cases ops[i]? <;> rfl
  | [i, r] =>
    rw [atIndices, lookAt]
    · cases ops[i]? with
      | none => rfl
      | some op =>
        simp only [Option.bind_some, within, lookAt]
        cases op.regions[r]? <;> rfl
    all_goals simp
  | i :: r :: b :: rest =>
    rw [atIndices, lookAt]
    rfl

/-- Look-up goes on inside the op that it has reached. -/
lemma atIndices_append {ops : List Op} {path : List Nat} {x : Op} (h : atIndices ops path = some x)
    (s : List Nat) : atIndices ops (path ++ s) = x.within s := by
  fun_induction atIndices ops path with
  | case1 ops i =>
    rw [List.singleton_append, atIndices_eq, lookAt, h]
    rfl
  | case2 ops i r b rest ih =>
    obtain ⟨op, hop, h⟩ := Option.bind_eq_some_iff.1 h
    obtain ⟨region, hregion, h⟩ := Option.bind_eq_some_iff.1 h
    obtain ⟨block, hblock, h⟩ := Option.bind_eq_some_iff.1 h
    simp only [List.cons_append, atIndices, hop, hregion, hblock, Option.bind_eq_bind,
      Option.bind_some]
    exact ih block h
  | case3 => cases h

lemma block_lists {block : List Op} (h : ∀ op ∈ block, Lists addressed within op) :
    Lists (fun path block => addressedBlock path 0 block) atIndices block := by
  have heq : atIndices = lookAt within := funext fun ops => funext (atIndices_eq ops)
  simpa only [addressedBlock_eq, heq] using Lists.gather h

lemma region_lists {region : List (List Op)}
    (h : ∀ block ∈ region, Lists (fun path block => addressedBlock path 0 block) atIndices block) :
    Lists (fun path region => addressedRegion path 0 region) (lookAt atIndices) region := by
  simpa only [addressedRegion_eq] using Lists.gather h

lemma regions_lists {regions : List (List (List Op))}
    (h : ∀ region ∈ regions,
      Lists (fun path region => addressedRegion path 0 region) (lookAt atIndices) region) :
    Lists (fun path regions => addressedRegions path 0 regions) (lookAt (lookAt atIndices))
      regions := by
  simpa only [addressedRegions_eq] using Lists.gather h

/-- The ops listed in a subtree are those found in it. -/
theorem lists_addressed (op : Op) : Lists addressed within op := by
  induction op using Op.induction with
  | step h regions ih =>
    have hregions := regions_lists fun region hr => region_lists fun block hb =>
      block_lists (ih region hr block hb)
    constructor
    · intro path x
      rw [addressed, List.mem_cons, hregions.mem_iff path x]
      constructor
      · rintro (rfl | ⟨s, hs, hl⟩)
        · exact ⟨[], by simp⟩
        · have hne : s ≠ [] := by
            rintro rfl
            simp [lookAt] at hl
          exact ⟨s, hs, by rwa [within_of_ne_nil _ hne]⟩
      · rintro ⟨s, hs, hl⟩
        cases s with
        | nil =>
          obtain ⟨⟨indices⟩, y⟩ := x
          simp only [List.append_nil, within_nil, Option.some.injEq] at hs hl
          exact .inl (by rw [hs, hl])
        | cons r s => exact .inr ⟨r :: s, hs, hl⟩
    · intro path
      rw [addressed, List.pairwise_cons]
      refine ⟨fun x hx => ?_, hregions.ordered path⟩
      obtain ⟨s, hs, hl⟩ := (hregions.mem_iff path x).1 hx
      cases s with
      | nil => simp [lookAt] at hl
      | cons r s =>
        rw [OpPath.Precedes, hs]
        simpa using List.Lex.append_left (· < ·) (.nil : List.Lex (· < ·) [] (r :: s)) path

end Op

namespace Program

lemma lists_addressed (p : Program) :
    Lists (fun path ops => Op.addressedBlock path 0 ops) Op.atIndices p.ops :=
  Op.block_lists fun op _ => op.lists_addressed

/-- An op is listed under a path exactly when look-up finds it there. -/
theorem mem_addressed {p : Program} {x : OpPath × Op} :
    x ∈ p.addressed ↔ p.opAt x.1 = some x.2 := by
  simpa [addressed, opAt] using p.lists_addressed.mem_iff [] x

/-- The ops are listed in the order of their paths. -/
theorem addressed_ordered (p : Program) :
    p.addressed.Pairwise fun x y => x.1.Precedes y.1 := p.lists_addressed.ordered []

end Program

end StagedLowering
