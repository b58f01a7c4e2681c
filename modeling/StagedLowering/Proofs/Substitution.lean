import StagedLowering.Proofs.Addressing

/-! Ops picked by what is above them, such as the outermost ones of a kind, and the replacement of ops in
their places. -/
namespace StagedLowering

/-- The op at `a` is a proper ancestor of the op at `b`: the path of `b` goes on from `a`. -/
def OpPath.IsAbove (a b : OpPath) : Prop := a.indices <+: b.indices ∧ a ≠ b

instance (a b : OpPath) : Decidable (a.IsAbove b) := inferInstanceAs (Decidable (_ ∧ _))

/-- The listed ops that meet `P` and have none but ops that meet `Q` above them. -/
def selectIn (P Q : Op → Bool) (nodes : List (OpPath × Op)) : List (OpPath × Op) :=
  nodes.filter fun x => P x.2 ∧ ∀ y ∈ nodes, y.1.IsAbove x.1 → Q y.2

section Selection

variable {P Q : Op → Bool} {x : OpPath × Op} {l l' : List (OpPath × Op)}

lemma mem_selectIn : x ∈ selectIn P Q l ↔
    x ∈ l ∧ P x.2 = true ∧ ∀ y ∈ l, y.1.IsAbove x.1 → Q y.2 = true := by
  simp [selectIn]

/-- Ops in branches that lie apart are picked in each branch by itself. -/
lemma selectIn_append (h : ∀ x ∈ l, ∀ y ∈ l', ¬ x.1.IsAbove y.1 ∧ ¬ y.1.IsAbove x.1) :
    selectIn P Q (l ++ l') = selectIn P Q l ++ selectIn P Q l' := by
  rw [selectIn, List.filter_append]
  congr 1
  · apply List.filter_congr
    intro x hx
    simp only [List.mem_append, decide_eq_decide]
    refine and_congr_right fun _ => ⟨fun hall y hy => hall y (.inl hy), fun hall y hy => ?_⟩
    rcases hy with hy | hy
    · exact hall y hy
    · exact fun habove => absurd habove (h x hx y hy).2
  · apply List.filter_congr
    intro x hx
    simp only [List.mem_append, decide_eq_decide]
    refine and_congr_right fun _ => ⟨fun hall y hy => hall y (.inr hy), fun hall y hy => ?_⟩
    rcases hy with hy | hy
    · exact fun habove => absurd habove (h y hy x hx).1
    · exact hall y hy

/-- Below an op that does not meet `Q` nothing is picked, and below any other all that is picked there. -/
lemma selectIn_cons (hl : ∀ y ∈ l, x.1.IsAbove y.1) : selectIn P Q (x :: l) =
    (if P x.2 then [x] else []) ++ if Q x.2 then selectIn P Q l else [] := by
  have hself : ∀ y ∈ x :: l, ¬ y.1.IsAbove x.1 := by
    intro y hy habove
    rcases List.mem_cons.1 hy with rfl | hy
    · exact habove.2 rfl
    · obtain ⟨hp, hne⟩ := hl y hy
      exact hne (congrArg OpPath.mk (hp.eq_of_length_le habove.1.length_le))
  have hbelow : l.filter (fun y => P y.2 ∧ ∀ z ∈ x :: l, z.1.IsAbove y.1 → Q z.2) =
      if Q x.2 then selectIn P Q l else [] := by
    split
    · next hQ =>
      refine List.filter_congr fun y _ => ?_
      simp only [List.forall_mem_cons, hQ, implies_true, true_and]
    · next hQ =>
      refine List.filter_eq_nil_iff.2 fun y hy => ?_
      simp [hl y hy, hQ]
  rw [selectIn, List.filter_cons, hbelow]
  by_cases hP : P x.2 = true
  · rw [if_pos (decide_eq_true ⟨hP, fun y hy habove => absurd habove (hself y hy)⟩), if_pos hP]
    rfl
  · rw [if_neg (by simp [hP]), if_neg hP]
    rfl

end Selection

/-- The listed ops of a kind that no other listed op of the kind is above. -/
def outermostIn (kind : String) (nodes : List (OpPath × Op)) : List (OpPath × Op) :=
  nodes.filter fun x => x.2.kind = kind ∧ ∀ y ∈ nodes, y.2.kind = kind → ¬ y.1.IsAbove x.1

/-- The ops of a kind without a proper ancestor of that kind, in pre-order. -/
def Program.outermost (p : Program) (kind : String) : List (OpPath × Op) :=
  outermostIn kind p.addressed

lemma outermostIn_eq (kind : String) (nodes : List (OpPath × Op)) : outermostIn kind nodes =
    selectIn (fun op => op.kind = kind) (fun op => op.kind ≠ kind) nodes := by
  refine List.filter_congr fun x _ => ?_
  simp only [decide_eq_true_eq, ne_eq, decide_eq_decide]
  exact and_congr_right fun _ => forall₂_congr fun y _ => ⟨fun h ha hk => h hk ha, fun h hk ha => h ha hk⟩

lemma mem_of_mem_outermostIn {kind : String} {nodes : List (OpPath × Op)} {x : OpPath × Op}
    (h : x ∈ outermostIn kind nodes) : x ∈ nodes := (List.mem_filter.1 h).1

lemma outermostIn_append (kind : String) {l l' : List (OpPath × Op)}
    (h : ∀ x ∈ l, ∀ y ∈ l', ¬ x.1.IsAbove y.1 ∧ ¬ y.1.IsAbove x.1) :
    outermostIn kind (l ++ l') = outermostIn kind l ++ outermostIn kind l' := by
  simp only [outermostIn_eq, selectIn_append h]

variable {α β : Type}

lemma gather_congr {f g : List Nat → α → List β} {base : List Nat} {i : Nat} {xs : List α}
    (h : ∀ j a, xs[j]? = some a → f (base ++ [i + j]) a = g (base ++ [i + j]) a) :
    gather f base i xs = gather g base i xs := by
  induction xs generalizing i with
  | nil => rfl
  | cons a rest ih =>
    have hrest : gather f base (i + 1) rest = gather g base (i + 1) rest := by
      refine ih fun j b hb => ?_
      rw [show i + 1 + j = i + (j + 1) by omega]
      exact h (j + 1) b hb
    rw [gather, gather, hrest, show f (base ++ [i]) a = g (base ++ [i]) a from h 0 a rfl]

@[simp] lemma gather_singleton (base : List Nat) (i : Nat) (xs : List α) :
    gather (fun _ a => [a]) base i xs = xs := by
  induction xs generalizing i with
  | nil => rfl
  | cons a rest ih => rw [gather, ih, List.singleton_append]

/-- `g` replaces the ops that `f` lists under `a`: it heeds no other places, and ops put in their own
places change nothing. -/
structure Replaces (φ : Op → List Op) (f : List Nat → α → List (OpPath × Op))
    (g : List OpPath → List Nat → α → List α) (a : α) : Prop where
  congr : ∀ path places places', (∀ x ∈ f path a, x.1 ∈ places ↔ x.1 ∈ places') →
    g places path a = g places' path a
  self : ∀ path places, (∀ x ∈ f path a, x.1 ∈ places → φ x.2 = [x.2]) → g places path a = [a]

namespace Replaces

variable {φ : Op → List Op} {f : List Nat → α → List (OpPath × Op)}
  {g : List OpPath → List Nat → α → List α} {xs : List α}

lemma gather_places (h : ∀ a ∈ xs, Replaces φ f g a) {base : List Nat} {i : Nat}
    {places places' : List OpPath}
    (hp : ∀ x ∈ gather f base i xs, x.1 ∈ places ↔ x.1 ∈ places') :
    gather (g places) base i xs = gather (g places') base i xs :=
  gather_congr fun j a ha => (h a (List.mem_of_getElem? ha)).congr _ _ _ fun x hx =>
    hp x (mem_gather.2 ⟨j, a, ha, hx⟩)

lemma gather_self (h : ∀ a ∈ xs, Replaces φ f g a) {base : List Nat} {i : Nat}
    {places : List OpPath}
    (hp : ∀ x ∈ gather f base i xs, x.1 ∈ places → φ x.2 = [x.2]) :
    gather (g places) base i xs = xs := by
  refine (gather_congr fun j a ha => ?_).trans (gather_singleton base i xs)
  exact (h a (List.mem_of_getElem? ha)).self _ _ fun x hx => hp x (mem_gather.2 ⟨j, a, ha, hx⟩)

/-- What replaces ops in elements replaces them in a list, which stays one list. -/
lemma gather (h : ∀ a ∈ xs, Replaces φ f g a) :
    Replaces φ (fun path xs => StagedLowering.gather f path 0 xs)
      (fun places path xs => [StagedLowering.gather (g places) path 0 xs]) xs where
  congr _ _ _ hp := congrArg ([·]) (gather_places h hp)
  self _ _ hp := congrArg ([·]) (gather_self h hp)

end Replaces

namespace Op

mutual
/-- Puts what `f` makes of an op in its place, for the ops at `places`; all else stays as it is. -/
def substitute (places : List OpPath) (f : Op → List Op) (path : List Nat) : Op → List Op
  | ⟨h, regions⟩ =>
    if ⟨path⟩ ∈ places then f ⟨h, regions⟩
    else [⟨h, substituteRegions places f path 0 regions⟩]

def substituteBlock (places : List OpPath) (f : Op → List Op) (base : List Nat) (i : Nat) :
    List Op → List Op
  | [] => []
  | op :: rest =>
    op.substitute places f (base ++ [i]) ++ substituteBlock places f base (i + 1) rest

def substituteRegion (places : List OpPath) (f : Op → List Op) (base : List Nat) (i : Nat) :
    List (List Op) → List (List Op)
  | [] => []
  | block :: rest =>
    substituteBlock places f (base ++ [i]) 0 block :: substituteRegion places f base (i + 1) rest

def substituteRegions (places : List OpPath) (f : Op → List Op) (base : List Nat) (i : Nat) :
    List (List (List Op)) → List (List (List Op))
  | [] => []
  | region :: rest =>
    substituteRegion places f (base ++ [i]) 0 region :: substituteRegions places f base (i + 1) rest
end

lemma substituteBlock_eq (places : List OpPath) (f : Op → List Op) (base : List Nat) (i : Nat)
    (ops : List Op) :
    substituteBlock places f base i ops = gather (substitute places f) base i ops := by
  induction ops generalizing i with
  | nil => simp [substituteBlock, gather]
  | cons op rest ih => simp [substituteBlock, gather, ih]

lemma substituteRegion_eq (places : List OpPath) (f : Op → List Op) (base : List Nat) (i : Nat)
    (region : List (List Op)) :
    substituteRegion places f base i region =
      gather (fun path block => [substituteBlock places f path 0 block]) base i region := by
  induction region generalizing i with
  | nil => simp [substituteRegion, gather]
  | cons block rest ih => simp [substituteRegion, gather, ih]

lemma substituteRegions_eq (places : List OpPath) (f : Op → List Op) (base : List Nat) (i : Nat)
    (regions : List (List (List Op))) :
    substituteRegions places f base i regions =
      gather (fun path region => [substituteRegion places f path 0 region]) base i regions := by
  induction regions generalizing i with
  | nil => simp [substituteRegions, gather]
  | cons region rest ih => simp [substituteRegions, gather, ih]

lemma block_replaces {φ : Op → List Op} {block : List Op}
    (h : ∀ op ∈ block, Replaces φ addressed (fun places => substitute places φ) op) :
    Replaces φ (fun path block => addressedBlock path 0 block)
      (fun places path block => [substituteBlock places φ path 0 block]) block := by
  simpa only [addressedBlock_eq, substituteBlock_eq] using Replaces.gather h

lemma region_replaces {φ : Op → List Op} {region : List (List Op)}
    (h : ∀ block ∈ region, Replaces φ (fun path block => addressedBlock path 0 block)
      (fun places path block => [substituteBlock places φ path 0 block]) block) :
    Replaces φ (fun path region => addressedRegion path 0 region)
      (fun places path region => [substituteRegion places φ path 0 region]) region := by
  simpa only [addressedRegion_eq, substituteRegion_eq] using Replaces.gather h

lemma regions_replaces {φ : Op → List Op} {regions : List (List (List Op))}
    (h : ∀ region ∈ regions, Replaces φ (fun path region => addressedRegion path 0 region)
      (fun places path region => [substituteRegion places φ path 0 region]) region) :
    Replaces φ (fun path regions => addressedRegions path 0 regions)
      (fun places path regions => [substituteRegions places φ path 0 regions]) regions := by
  simpa only [addressedRegions_eq, substituteRegions_eq] using Replaces.gather h

theorem replaces (φ : Op → List Op) (op : Op) :
    Replaces φ addressed (fun places => substitute places φ) op := by
  induction op using Op.induction with
  | step h regions ih =>
    have hregions := regions_replaces fun region hr => region_replaces fun block hb =>
      block_replaces (ih region hr block hb)
    constructor
    · intro path places places' hp
      have hhere : ⟨path⟩ ∈ places ↔ ⟨path⟩ ∈ places' :=
        hp (⟨path⟩, ⟨h, regions⟩) (by simp [addressed])
      have hinside := hregions.congr path places places' fun x hx => hp x (by simp [addressed, hx])
      simp only [substitute, hhere, List.singleton_inj.1 hinside]
    · intro path places hp
      have hinside := hregions.self path places fun x hx => hp x (by simp [addressed, hx])
      rw [substitute, List.singleton_inj.1 hinside]
      split
      · next hmem => exact hp (⟨path⟩, ⟨h, regions⟩) (by simp [addressed]) hmem
      · rfl

/-- An op is above everything inside it. -/
lemma isAbove_of_mem_addressedRegions {path : List Nat} {regions : List (List (List Op))}
    {x : OpPath × Op} (h : x ∈ addressedRegions path 0 regions) :
    (⟨path⟩ : OpPath).IsAbove x.1 := by
  have hregions := regions_lists fun region (_ : region ∈ regions) => region_lists fun block _ =>
    block_lists fun op _ => op.lists_addressed
  obtain ⟨s, hs, hl⟩ := (hregions.mem_iff path x).1 h
  cases s with
  | nil => simp [lookAt] at hl
  | cons r s =>
    refine ⟨⟨r :: s, hs.symm⟩, ?_⟩
    intro heq
    rw [← heq] at hs
    simp at hs

/-- What is picked in an op and inside it. -/
lemma selectIn_addressed (P Q : Op → Bool) (path : List Nat) (h : OpHead)
    (regions : List (List (List Op))) : selectIn P Q (addressed path ⟨h, regions⟩) =
      (if P ⟨h, regions⟩ then [(⟨path⟩, ⟨h, regions⟩)] else []) ++
        if Q ⟨h, regions⟩ then selectIn P Q (addressedRegions path 0 regions) else [] := by
  rw [addressed]
  exact selectIn_cons fun y hy => isAbove_of_mem_addressedRegions hy

/-- An op of the kind is the only outermost one of its subtree. -/
lemma outermostIn_addressed_self {kind : String} {h : OpHead} (hk : h.kind = kind) (path : List Nat)
    (regions : List (List (List Op))) :
    outermostIn kind (addressed path ⟨h, regions⟩) = [(⟨path⟩, ⟨h, regions⟩)] := by
  rw [outermostIn_eq, selectIn_addressed]
  simp [Op.kind, hk]

/-- In an op of another kind the outermost ones are inside. -/
lemma outermostIn_addressed_of_ne {kind : String} {h : OpHead} (hk : h.kind ≠ kind) (path : List Nat)
    (regions : List (List (List Op))) :
    outermostIn kind (addressed path ⟨h, regions⟩) =
      outermostIn kind (addressedRegions path 0 regions) := by
  simp only [outermostIn_eq, selectIn_addressed]
  simp [Op.kind, hk]

end Op

/-- The program with what `f` makes of them in the place of the ops at `places`. -/
def Program.substitute (p : Program) (places : List OpPath) (f : Op → List Op) : Program :=
  ⟨Op.substituteBlock places f [] 0 p.ops⟩

namespace Program

lemma mem_addressed_of_mem_outermost {p : Program} {kind : String} {x : OpPath × Op}
    (h : x ∈ p.outermost kind) : x ∈ p.addressed := mem_of_mem_outermostIn h

lemma eq_of_mem_addressed {p : Program} {x y : OpPath × Op} (hx : x ∈ p.addressed)
    (hy : y ∈ p.addressed) (h : x.1 = y.1) : x.2 = y.2 := by
  rw [mem_addressed] at hx hy
  rw [h, hy] at hx
  exact (Option.some.inj hx).symm

/-- Replacing outermost ops by themselves changes nothing. -/
lemma substitute_outermost_self {p : Program} {kind : String} {f : Op → List Op}
    (h : ∀ x ∈ p.outermost kind, f x.2 = [x.2]) :
    p.substitute ((p.outermost kind).map (·.1)) f = p := by
  have hreplaces := Op.block_replaces fun op (_ : op ∈ p.ops) => op.replaces f
  refine congrArg mk (List.singleton_inj.1 (hreplaces.self [] _ fun x hx hmem => ?_))
  obtain ⟨y, hy, heq⟩ := List.mem_map.1 hmem
  rw [← eq_of_mem_addressed (mem_addressed_of_mem_outermost hy) hx heq]
  exact h y hy

/-- No op is outermost twice. -/
lemma outermost_ordered (p : Program) (kind : String) :
    (p.outermost kind).Pairwise fun x y => x.1.Precedes y.1 := p.addressed_ordered.filter _

end Program
end StagedLowering
