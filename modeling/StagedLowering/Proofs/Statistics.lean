import Mathlib.Algebra.BigOperators.Group.List.Lemmas
import Mathlib.Algebra.GroupWithZero.Nat
import Mathlib.Data.List.Dedup
import Mathlib.Order.Bounds.Basic
import StagedLowering.Proofs.Folding
import StagedLowering.Proofs.Visiting
import StagedLowering.Statistics

/-! Statistics are an exact histogram. The walk counts each kind as often as it occurs, the order of the
entries is strict and so leaves no choice to whatever order they are counted in, and the greatest depth,
which is read off the paths, is the length of the longest way down. -/
namespace StagedLowering

section

variable {β : Type} {k : String} {v : β}

lemma Dict.mem_of_lookup {l : List (String × β)} (h : lookup k l = some v) : (k, v) ∈ l := by
  induction l with
  | nil => cases h
  | cons e l ih =>
    obtain ⟨k', v'⟩ := e
    rw [lookup] at h
    split at h
    · next hk =>
      cases h
      exact hk ▸ List.mem_cons_self
    · exact List.mem_cons_of_mem _ (ih h)

lemma Dict.lookup_of_mem {l : List (String × β)} (hl : l.Pairwise fun a b => a.1 < b.1)
    (h : (k, v) ∈ l) : lookup k l = some v := by
  induction l with
  | nil => cases h
  | cons e l ih =>
    obtain ⟨k', v'⟩ := e
    obtain ⟨hfirst, hl⟩ := List.pairwise_cons.1 hl
    rw [lookup]
    rcases List.mem_cons.1 h with h | h
    · cases h
      exact if_pos rfl
    · have hne : k' ≠ k := fun hk => String.lt_irrefl k (hk ▸ hfirst (k, v) h)
      rw [if_neg hne, ih hl h]

/-- The entries of a dictionary are what can be looked up in it. -/
lemma Dict.mem_entries {d : Dict β} : (k, v) ∈ d.entries ↔ d.get? k = some v :=
  ⟨lookup_of_mem d.sorted, mem_of_lookup⟩

lemma Dict.nodup_keys (d : Dict β) : (d.entries.map (·.1)).Nodup := by
  refine List.pairwise_map.2 (d.sorted.imp ?_)
  intro a b hlt heq
  rw [heq] at hlt
  exact String.lt_irrefl b.1 hlt

end

/-- A way down from some ops: each op of the chain is right inside the one before it. -/
inductive Descends : List Op → List Op → Prop
  | stop (ops : List Op) : Descends ops []
  | down {ops chain : List Op} {x : Op} (h : x ∈ ops) (hs : Descends x.inner chain) :
    Descends ops (x :: chain)

namespace Op

lemma mem_inner {x y : Op} : y ∈ x.inner ↔ ∃ region ∈ x.regions, ∃ block ∈ region, y ∈ block := by
  simp only [inner, List.mem_flatten]
  constructor
  · rintro ⟨block, ⟨region, hregion, hblock⟩, hy⟩
    exact ⟨region, hregion, block, hblock, hy⟩
  · rintro ⟨region, hregion, block, hblock, hy⟩
    exact ⟨block, ⟨region, hregion, hblock⟩, hy⟩

/-- To the op at a path there is a way down of as many ops as the path has steps. -/
lemma exists_descends {ops : List Op} {s : List Nat} {x : Op} (h : atIndices ops s = some x) :
    ∃ chain, Descends ops chain ∧ chain.length = (s.length + 2) / 3 := by
  fun_induction atIndices ops s with
  | case1 ops i => exact ⟨[x], .down (List.mem_of_getElem? h) (.stop _), by simp⟩
  | case2 ops i r b rest ih =>
    obtain ⟨op, hop, h⟩ := Option.bind_eq_some_iff.1 h
    obtain ⟨region, hregion, h⟩ := Option.bind_eq_some_iff.1 h
    obtain ⟨block, hblock, h⟩ := Option.bind_eq_some_iff.1 h
    obtain ⟨chain, hchain, hlength⟩ := ih block h
    refine ⟨op :: chain, .down (List.mem_of_getElem? hop) ?_, ?_⟩
    · cases hchain with
      | stop => exact .stop _
      | down hx hs =>
        exact .down (mem_inner.2 ⟨region, List.mem_of_getElem? hregion, block,
          List.mem_of_getElem? hblock, hx⟩) hs
    · simp only [List.length_cons]
      omega
  | case3 => cases h

/-- A way down ends at a path with as many steps. -/
lemma exists_atIndices {ops chain : List Op} (h : Descends ops chain) (hne : chain ≠ []) :
    ∃ s x, atIndices ops s = some x ∧ (s.length + 2) / 3 = chain.length := by
  induction chain generalizing ops with
  | nil => exact absurd rfl hne
  | cons x chain ih =>
    cases h with
    | down hx hs =>
      obtain ⟨i, hi⟩ := List.getElem?_of_mem hx
      cases hs with
      | stop => exact ⟨[i], x, hi, by simp⟩
      | @down _ chain y hy hs =>
        obtain ⟨region, hregion, block, hblock, hy⟩ := mem_inner.1 hy
        obtain ⟨r, hr⟩ := List.getElem?_of_mem hregion
        obtain ⟨b, hb⟩ := List.getElem?_of_mem hblock
        obtain ⟨s, z, hz, hlength⟩ := ih (.down hy hs) (List.cons_ne_nil _ _)
        refine ⟨i :: r :: b :: s, z, ?_, ?_⟩
        · simp only [atIndices, hi, hr, hb, Option.bind_eq_bind, Option.bind_some, hz]
        · simp only [List.length_cons] at hlength ⊢
          omega

end Op

namespace Statistics

/-- The counts after the listed ops. -/
def tallyOf (l : List (OpPath × Op)) : Tally := l.foldl (fun t x => t.add x.1 x.2) {}

/-- The walk never stops, so it counts all ops. -/
lemma tally_eq (p : Program) : tally p = tallyOf p.addressed := by
  have hcontinues : Visitor.Continues (fun t path op => (Tally.add t path op, (none : Option Unit)))
      {} p.addressed := fun _ _ _ _ => rfl
  rw [tally, Program.walk_eq, Visitor.visitAll_of_continues hcontinues]
  rfl

lemma tallyOf_append (l : List (OpPath × Op)) (x : OpPath × Op) :
    tallyOf (l ++ [x]) = (tallyOf l).add x.1 x.2 := by
  rw [tallyOf, List.foldl_append]
  rfl

/-- The kinds of the listed ops. -/
def kinds (l : List (OpPath × Op)) : List String := l.map (·.2.kind)

lemma kinds_append (l : List (OpPath × Op)) (x : OpPath × Op) :
    kinds (l ++ [x]) = kinds l ++ [x.2.kind] := List.map_append

/-- A kind that occurs is counted as often as it occurs. -/
lemma get?_tallyOf (l : List (OpPath × Op)) (kind : String) :
    (tallyOf l).counts.get? kind =
      if kind ∈ kinds l then some ((kinds l).count kind) else none := by
  induction l using List.reverseRecOn with
  | nil => rfl
  | append_singleton l x ih =>
    rw [tallyOf_append, Tally.add, kinds_append]
    by_cases hk : kind = x.2.kind
    · subst hk
      rw [Dict.get?_insert_self, ih]
      by_cases hmem : x.2.kind ∈ kinds l
      · simp [hmem]
      · simp [hmem, List.count_eq_zero_of_not_mem hmem]
    · rw [Dict.get?_insert_ne _ _ hk, ih]
      simp [hk, Ne.symm hk]

/-- The entries in some order: each kind that occurs, with its number. -/
lemma entries_perm (l : List (OpPath × Op)) :
    (tallyOf l).counts.entries.Perm ((kinds l).dedup.map fun kind => (kind, (kinds l).count kind)) := by
  have hentries : (tallyOf l).counts.entries.Nodup := (tallyOf l).counts.nodup_keys.of_map
  have hdedup : ((kinds l).dedup.map fun kind => (kind, (kinds l).count kind)).Nodup :=
    (List.nodup_dedup _).map fun _ _ h => (Prod.mk.inj h).1
  refine (List.perm_ext_iff_of_nodup hentries hdedup).2 fun ⟨kind, n⟩ => ?_
  rw [Dict.mem_entries, get?_tallyOf]
  by_cases hmem : kind ∈ kinds l <;> simp [hmem]

lemma total_tallyOf (l : List (OpPath × Op)) : (tallyOf l).total = l.length := by
  induction l using List.reverseRecOn with
  | nil => rfl
  | append_singleton l x ih => rw [tallyOf_append, Tally.add, ih, List.length_append, List.length_singleton]

/-- The greatest depth is the depth of a listed op, if there is one, and no listed op is deeper. -/
lemma maxDepth_tallyOf (l : List (OpPath × Op)) :
    ((tallyOf l).maxDepth = 0 ∨ ∃ x ∈ l, x.1.depth = (tallyOf l).maxDepth) ∧
      ∀ x ∈ l, x.1.depth ≤ (tallyOf l).maxDepth := by
  induction l using List.reverseRecOn with
  | nil => exact ⟨.inl rfl, by simp⟩
  | append_singleton l x ih =>
    obtain ⟨hattained, hbound⟩ := ih
    rw [tallyOf_append, Tally.add]
    refine ⟨?_, fun y hy => ?_⟩
    · rcases Nat.le_total (tallyOf l).maxDepth x.1.depth with h | h
      · exact .inr ⟨x, by simp, (Nat.max_eq_right h).symm⟩
      · rw [Nat.max_eq_left h]
        refine hattained.imp_right ?_
        rintro ⟨y, hy, hdepth⟩
        exact ⟨y, List.mem_append_left _ hy, hdepth⟩
    · rcases List.mem_append.1 hy with hy | hy
      · exact (hbound y hy).trans (Nat.le_max_left _ _)
      · rw [List.mem_singleton.1 hy]
        exact Nat.le_max_right _ _

/-- The depth read off the paths is the length of the longest way down. -/
lemma maxDepth_isGreatest (p : Program) :
    IsGreatest {n | ∃ chain, Descends p.ops chain ∧ chain.length = n}
      (tallyOf p.addressed).maxDepth := by
  obtain ⟨hattained, hbound⟩ := maxDepth_tallyOf p.addressed
  constructor
  · rcases hattained with h | ⟨x, hx, hdepth⟩
    · exact ⟨[], .stop _, h.symm⟩
    · rw [← hdepth]
      exact Op.exists_descends (Program.mem_addressed.1 hx)
  · rintro n ⟨chain, hchain, rfl⟩
    by_cases hne : chain = []
    · rw [hne]
      exact Nat.zero_le _
    · obtain ⟨s, x, hs, hlength⟩ := Op.exists_atIndices hchain hne
      have hle := hbound (⟨s⟩, x) (Program.mem_addressed.2 hs)
      rwa [← hlength]

/-- The entry of a kind comes first: it has the greater number, or the same number and the smaller kind. -/
def Before (a b : String × Nat) : Prop := b.2 < a.2 ∨ a.2 = b.2 ∧ a.1 < b.1

section Order

variable {a b c : String × Nat}

lemma precedes_iff : precedes a b = true ↔ b.2 < a.2 ∨ a.2 = b.2 ∧ a.1 ≤ b.1 := by
  simp [precedes]

lemma precedes_trans (hab : precedes a b = true) (hbc : precedes b c = true) :
    precedes a c = true := by
  rw [precedes_iff] at hab hbc ⊢
  rcases hab with hab | ⟨hab, hk⟩
  · exact .inl (by omega)
  · rcases hbc with hbc | ⟨hbc, hk'⟩
    · exact .inl (by omega)
    · exact .inr ⟨hab.trans hbc, String.le_trans hk hk'⟩

lemma precedes_total (a b : String × Nat) : (precedes a b || precedes b a) = true := by
  rw [Bool.or_eq_true, precedes_iff, precedes_iff]
  rcases Nat.lt_trichotomy a.2 b.2 with h | h | h
  · exact .inr (.inl h)
  · exact (String.le_total a.1 b.1).imp (fun hk => .inr ⟨h, hk⟩) fun hk => .inr ⟨h.symm, hk⟩
  · exact .inl (.inl h)

lemma precedes_antisymm (hab : precedes a b = true) (hba : precedes b a = true) : a = b := by
  rw [precedes_iff] at hab hba
  have hn : a.2 = b.2 := by omega
  have hk : a.1 ≤ b.1 := (hab.resolve_left (by omega)).2
  have hk' : b.1 ≤ a.1 := (hba.resolve_left (by omega)).2
  exact Prod.ext (String.le_antisymm hk hk') hn

lemma before_of_precedes (h : precedes a b = true) (hne : a.1 ≠ b.1) : Before a b := by
  refine (precedes_iff.1 h).imp_right fun ⟨hn, hk⟩ => ⟨hn, ?_⟩
  exact Std.not_le.1 fun hk' => hne (String.le_antisymm hk hk')

end Order

lemma mergeSort_ordered (l : List (String × Nat)) :
    (l.mergeSort precedes).Pairwise (precedes · · = true) := by
  have htrans (a b c : String × Nat) : precedes a b = true → precedes b c = true →
      precedes a c = true := precedes_trans
  exact List.pairwise_mergeSort htrans precedes_total l

/-- Sorting leaves no choice: the same entries in another order give the same list. -/
lemma mergeSort_eq_of_perm {l l' : List (String × Nat)} (h : l.Perm l') :
    l.mergeSort precedes = l'.mergeSort precedes := by
  have hperm : (l.mergeSort precedes).Perm (l'.mergeSort precedes) :=
    (List.mergeSort_perm l _).trans (h.trans (List.mergeSort_perm l' _).symm)
  exact hperm.eq_of_pairwise (fun _ _ _ _ => precedes_antisymm) (mergeSort_ordered l) (mergeSort_ordered l')

variable (p : Program)

lemma counts_perm : (collect p).counts.Perm
    ((kinds p.addressed).dedup.map fun kind => (kind, (kinds p.addressed).count kind)) := by
  have hentries := entries_perm p.addressed
  rw [← tally_eq] at hentries
  exact (List.mergeSort_perm _ _).trans hentries

lemma nodup_counts : ((collect p).counts.map (·.1)).Nodup := by
  rw [((counts_perm p).map _).nodup_iff, List.map_map]
  exact (List.map_id _).symm ▸ List.nodup_dedup _

lemma mem_counts {kind : String} {n : Nat} :
    (kind, n) ∈ (collect p).counts ↔ 0 < n ∧ n = (kinds p.addressed).count kind := by
  rw [(counts_perm p).mem_iff, List.mem_map]
  constructor
  · rintro ⟨k, hk, hkn⟩
    obtain ⟨rfl, rfl⟩ := Prod.mk.inj hkn
    exact ⟨List.count_pos_iff.2 (List.mem_dedup.1 hk), rfl⟩
  · rintro ⟨hpos, rfl⟩
    exact ⟨kind, List.mem_dedup.2 (List.count_pos_iff.1 hpos), rfl⟩

lemma sum_counts : ((collect p).counts.map (·.2)).sum = p.addressed.length := by
  rw [((counts_perm p).map _).sum_eq, List.map_map]
  exact (List.sum_map_count_dedup_eq_length _).trans (List.length_map _)

lemma counts_ordered : (collect p).counts.Pairwise Before := by
  have hsorted : (collect p).counts.Pairwise (precedes · · = true) := mergeSort_ordered _
  have hdistinct : (collect p).counts.Pairwise fun a b => a.1 ≠ b.1 := List.pairwise_map.1 (nodup_counts p)
  exact hsorted.imp₂ (fun _ _ => before_of_precedes) hdistinct

/-- Statistics of a program: its number of ops; each kind that occurs, once and with the number of its
ops, so that the numbers add up; the entries in strict order, the same in whatever order they were counted;
and the length of the longest way down from a root op. -/
theorem collect_histogram (p : Program) :
    (collect p).total = p.opCount ∧
    ((collect p).counts.map (·.1)).Nodup ∧
    (∀ kind n, (kind, n) ∈ (collect p).counts ↔
      0 < n ∧ n = p.addressed.countP fun x => x.2.kind = kind) ∧
    ((collect p).counts.map (·.2)).sum = (collect p).total ∧
    (collect p).counts.Pairwise (fun a b => b.2 < a.2 ∨ a.2 = b.2 ∧ a.1 < b.1) ∧
    (∀ entries : List (String × Nat), entries.Perm (tally p).counts.entries →
      entries.mergeSort precedes = (collect p).counts) ∧
    IsGreatest {n | ∃ chain, Descends p.ops chain ∧ chain.length = n} (collect p).maxDepth ∧
    (p.ops = [] → (collect p).maxDepth = 0) := by
  have htotal : (collect p).total = p.addressed.length := by
    rw [collect, tally_eq, total_tallyOf]
  have hdepth := maxDepth_isGreatest p
  rw [← tally_eq] at hdepth
  refine ⟨htotal.trans p.length_addressed, nodup_counts p, fun kind n => ?_, ?_, counts_ordered p,
    fun entries h => mergeSort_eq_of_perm h, hdepth, fun hempty => ?_⟩
  · rw [mem_counts, kinds, List.count, List.countP_map]
    exact Iff.rfl
  · rw [sum_counts, htotal]
  · obtain ⟨⟨chain, hchain, hlength⟩, -⟩ := hdepth
    rw [hempty] at hchain
    cases hchain with
    | stop => exact hlength.symm
    | down hx => cases hx

/-- Three kinds, two of them with one op. -/
def nestedKinds : Program := ⟨[⟨{ kind := "b" }, [[[.ofKind "a", .ofKind "c"]]]⟩, .ofKind "c"]⟩

/-- Entries that came in another order, and a program without ops. -/
theorem collect_histogram_nestedKinds :
    [("c", 2), ("b", 1), ("a", 1)].Perm (tally nestedKinds).counts.entries ∧
    [("c", 2), ("b", 1), ("a", 1)].mergeSort precedes = (collect nestedKinds).counts ∧
    (collect ⟨[]⟩).maxDepth = 0 := by
  have hperm : [("c", 2), ("b", 1), ("a", 1)].Perm (tally nestedKinds).counts.entries := by decide
  obtain ⟨-, -, -, -, -, hsorted, -⟩ := collect_histogram nestedKinds
  obtain ⟨-, -, -, -, -, -, -, hempty⟩ := collect_histogram ⟨[]⟩
  exact ⟨hperm, hsorted _ hperm, hempty rfl⟩

end Statistics
end StagedLowering
