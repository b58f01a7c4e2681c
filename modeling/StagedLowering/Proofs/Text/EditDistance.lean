import StagedLowering.ConfigError
import StagedLowering.Proofs.Text.Edits

/-! The table of distances. It is filled in place, first along its borders and then row by row; every
entry that is filled holds the distance of two beginnings, and no step reaches outside. So the last entry
is the least number of edits, and suggestions are chosen by it. -/
namespace StagedLowering

namespace Text

/-- The distance of the first `i` characters of `s` from the first `j` of `t`. The characters that come
last are those that the recursion takes first. -/
def startDistance (s t : List Char) (i j : Nat) : Nat :=
  distance (s.take i).reverse (t.take j).reverse

section

variable {s t : List Char} {i j : Nat}

lemma startDistance_zero_left (h : j ≤ t.length) : startDistance s t 0 j = j := by
  simp [startDistance, h]

lemma startDistance_zero_right (h : i ≤ s.length) : startDistance s t i 0 = i := by
  simp [startDistance, distance_right_nil, h]

lemma startDistance_succ {a b : Char} (ha : s[i]? = some a) (hb : t[j]? = some b) :
    startDistance s t (i + 1) (j + 1) =
      min (min (startDistance s t i (j + 1) + 1) (startDistance s t (i + 1) j + 1))
        (startDistance s t i j + if a = b then 0 else 1) := by
  simp only [startDistance, List.take_add_one, ha, hb, Option.toList_some, List.reverse_append,
    List.reverse_singleton, List.singleton_append]
  exact distance_cons_cons a b _ _

/-- What is left of a text starts with the character at that place. -/
lemma of_drop_eq_cons {a : Char} {rest : List Char} (h : s.drop i = a :: rest) :
    s[i]? = some a ∧ s.drop (i + 1) = rest := by
  rw [← List.head?_drop, ← List.tail_drop, h]
  exact ⟨rfl, rfl⟩

end

namespace DistanceTable

/-- Inside the table a number is put at its place and nowhere else. -/
lemma get?_of_set? {m : DistanceTable} {i j : Nat} (h : (m.get? i j).isSome) (n : Nat) :
    ∃ m', m.set? i j n = some m' ∧
      ∀ a b, m'.get? a b = if a = i ∧ b = j then some n else m.get? a b := by
  refine ⟨_, if_pos h, fun a b => ?_⟩
  obtain ⟨k, hk⟩ := Option.isSome_iff_exists.1 h
  obtain ⟨row, hrow, hentry⟩ := Option.bind_eq_some_iff.1 hk
  by_cases ha : a = i
  · subst ha
    by_cases hb : b = j
    · subst hb
      have hlt : b < row.size := (Array.getElem?_eq_some_iff.1 hentry).1
      simp [get?, Array.getElem?_modify, hrow, hlt]
    · simp [get?, Array.getElem?_modify, hrow, hb, Array.getElem?_setIfInBounds_ne (Ne.symm hb)]
  · simp [get?, Array.getElem?_modify, ha, Ne.symm ha]

lemma get?_zeros (height width i j : Nat) :
    ((zeros height width).get? i j).isSome ↔ i < height ∧ j < width := by
  by_cases hi : i < height <;> by_cases hj : j < width <;> simp [get?, zeros, hi, hj]

/-- The table has an entry for every two beginnings of the texts, and the entries in `done` hold their
distances. -/
structure Holds (s t : List Char) (done : Nat → Nat → Prop) (m : DistanceTable) : Prop where
  shape : ∀ i j, (m.get? i j).isSome ↔ i ≤ s.length ∧ j ≤ t.length
  value : ∀ i j n, done i j → m.get? i j = some n → n = startDistance s t i j

namespace Holds

variable {s t : List Char} {done done' : Nat → Nat → Prop} {m : DistanceTable} {i j : Nat}

lemma mono (h : Holds s t done m)
    (hdone : ∀ i j, i ≤ s.length → j ≤ t.length → done' i j → done i j) : Holds s t done' m where
  shape := h.shape
  value i j n hij hn := by
    have hplace := (h.shape i j).1 (Option.isSome_iff_exists.2 ⟨n, hn⟩)
    exact h.value i j n (hdone i j hplace.1 hplace.2 hij) hn

/-- An entry that is filled can be read. -/
lemma get? (h : Holds s t done m) (hi : i ≤ s.length) (hj : j ≤ t.length) (hij : done i j) :
    m.get? i j = some (startDistance s t i j) := by
  obtain ⟨n, hn⟩ := Option.isSome_iff_exists.1 ((h.shape i j).2 ⟨hi, hj⟩)
  rw [hn, h.value i j n hij hn]

/-- One more entry is filled. -/
lemma set? (h : Holds s t done m) (hi : i ≤ s.length) (hj : j ≤ t.length) :
    ∃ m', m.set? i j (startDistance s t i j) = some m' ∧
      Holds s t (fun a b => done a b ∨ a = i ∧ b = j) m' := by
  obtain ⟨m', hset, hget⟩ := get?_of_set? ((h.shape i j).2 ⟨hi, hj⟩) (startDistance s t i j)
  refine ⟨m', hset, ⟨fun a b => ?_, fun a b n hab hn => ?_⟩⟩
  · rw [hget a b]
    split
    · next hplace => simp [hplace, hi, hj]
    · exact h.shape a b
  · rw [hget a b] at hn
    split at hn
    · next hplace =>
      rw [hplace.1, hplace.2]
      exact (Option.some.inj hn).symm
    · next hplace => exact h.value a b n (hab.resolve_right hplace) hn

/-- A loop counts up from entry to entry. -/
lemma countEach (h : Holds s t done m) (place : Nat → Nat × Nat) (k : Nat)
    (hplace : ∀ x < k, (place x).1 ≤ s.length ∧ (place x).2 ≤ t.length ∧
      startDistance s t (place x).1 (place x).2 = x) :
    ∃ m', (List.range k).foldlM (fun m x => m.set? (place x).1 (place x).2 x) m = some m' ∧
      Holds s t (fun a b => done a b ∨ ∃ x < k, place x = (a, b)) m' := by
  induction k with
  | zero => exact ⟨m, rfl, h.mono fun a b _ _ hab => by simpa using hab⟩
  | succ k ih =>
    obtain ⟨m₁, hm₁, hholds⟩ := ih fun x hx => hplace x (by omega)
    obtain ⟨hrow, hcolumn, hvalue⟩ := hplace k (by omega)
    obtain ⟨m₂, hm₂, hholds₂⟩ := hholds.set? hrow hcolumn
    refine ⟨m₂, ?_, hholds₂.mono ?_⟩
    · rw [hvalue] at hm₂
      rw [List.range_succ, List.foldlM_append, hm₁]
      simpa using hm₂
    · rintro a b - - (hab | ⟨x, hx, hab⟩)
      · exact .inl (.inl hab)
      · by_cases hxk : x = k
        · rw [hxk] at hab
          exact .inr ⟨by rw [hab], by rw [hab]⟩
        · exact .inl (.inr ⟨x, by omega, hab⟩)

/-- Both borders are filled before any row is. -/
lemma countBorders (h : Holds s t done m) :
    ∃ m', m.countBorders (s.length + 1) (t.length + 1) = some m' ∧
      Holds s t (fun a b => a = 0 ∨ b = 0) m' := by
  obtain ⟨m₁, hm₁, hcolumn⟩ := h.countEach (fun i => (i, 0)) (s.length + 1) fun i hi =>
    ⟨Nat.le_of_lt_succ hi, Nat.zero_le _, startDistance_zero_right (Nat.le_of_lt_succ hi)⟩
  obtain ⟨m₂, hm₂, hrow⟩ := hcolumn.countEach (fun j => (0, j)) (t.length + 1) fun j hj =>
    ⟨Nat.zero_le _, Nat.le_of_lt_succ hj, startDistance_zero_left (Nat.le_of_lt_succ hj)⟩
  refine ⟨m₂, ?_, hrow.mono ?_⟩
  · rw [DistanceTable.countBorders, hm₁]
    exact hm₂
  · rintro a b ha hb (rfl | rfl)
    · exact .inr ⟨b, by omega, rfl⟩
    · exact .inl (.inr ⟨a, by omega, rfl⟩)

end Holds

/-- The places that are filled when the row below row `i` is filled up to column `j`. -/
def Reached (i j a b : Nat) : Prop := a ≤ i ∨ b = 0 ∨ a = i + 1 ∧ b ≤ j

namespace Holds

variable {s t : List Char} {m : DistanceTable} {i j : Nat}

/-- One step: the entries that it reads are filled, and the one that it writes is the next. -/
lemma fillEntry {a b : Char} (h : Holds s t (Reached i j) m) (ha : s[i]? = some a)
    (hb : t[j]? = some b) :
    ∃ m', m.fillEntry a b i j = some m' ∧ Holds s t (Reached i (j + 1)) m' := by
  have hi : i < s.length := (List.getElem?_eq_some_iff.1 ha).1
  have hj : j < t.length := (List.getElem?_eq_some_iff.1 hb).1
  have habove := h.get? (i := i) (j := j + 1) (by omega) (by omega) (.inl (by omega))
  have hleft := h.get? (i := i + 1) (j := j) (by omega) (by omega) (.inr (.inr ⟨rfl, by omega⟩))
  have hdiagonal := h.get? (i := i) (j := j) (by omega) (by omega) (.inl (by omega))
  obtain ⟨m', hset, hholds⟩ := h.set? (i := i + 1) (j := j + 1) (by omega) (by omega)
  refine ⟨m', ?_, hholds.mono ?_⟩
  · rw [startDistance_succ ha hb] at hset
    simp only [DistanceTable.fillEntry, habove, hleft, hdiagonal, Option.bind_eq_bind,
      Option.bind_some]
    exact hset
  · intro x y _ _ hxy
    simp only [Reached] at hxy ⊢
    omega

lemma fillRow {a : Char} (h : Holds s t (Reached i j) m) (ha : s[i]? = some a) (hj : j ≤ t.length) :
    ∃ m', m.fillRow a i j (t.drop j) = some m' ∧ Holds s t (Reached i t.length) m' := by
  induction hrest : t.drop j generalizing j m with
  | nil =>
    have hlength : t.length ≤ j := List.drop_eq_nil_iff.1 hrest
    refine ⟨m, rfl, h.mono fun x y _ _ hxy => ?_⟩
    simp only [Reached] at hxy ⊢
    omega
  | cons b rest ih =>
    obtain ⟨hb, hnext⟩ := of_drop_eq_cons hrest
    have hlt : j < t.length := (List.getElem?_eq_some_iff.1 hb).1
    obtain ⟨m₁, hm₁, hholds⟩ := h.fillEntry ha hb
    obtain ⟨m₂, hm₂, hholds₂⟩ := ih hholds (by omega) hnext
    refine ⟨m₂, ?_, hholds₂⟩
    rw [DistanceTable.fillRow, hm₁]
    exact hm₂

/-- A row that is full is the border of the next. -/
lemma fillRows (h : Holds s t (Reached i 0) m) (hi : i ≤ s.length) :
    ∃ m', m.fillRows t i (s.drop i) = some m' ∧ Holds s t (Reached s.length 0) m' := by
  induction hrest : s.drop i generalizing i m with
  | nil =>
    have hlength : s.length ≤ i := List.drop_eq_nil_iff.1 hrest
    refine ⟨m, rfl, h.mono fun x y _ _ hxy => ?_⟩
    simp only [Reached] at hxy ⊢
    omega
  | cons a rest ih =>
    obtain ⟨ha, hnext⟩ := of_drop_eq_cons hrest
    have hlt : i < s.length := (List.getElem?_eq_some_iff.1 ha).1
    obtain ⟨m₁, hm₁, hholds⟩ := h.fillRow ha (Nat.zero_le _)
    have hbelow : Holds s t (Reached (i + 1) 0) m₁ := by
      refine hholds.mono fun x y _ hy hxy => ?_
      simp only [Reached] at hxy ⊢
      omega
    obtain ⟨m₂, hm₂, hholds₂⟩ := ih hbelow (by omega) hnext
    refine ⟨m₂, ?_, hholds₂⟩
    rw [List.drop_zero] at hm₁
    rw [DistanceTable.fillRows, hm₁]
    exact hm₂

end Holds
end DistanceTable

open DistanceTable

/-- The table is filled to its end, and the last entry is about the whole texts. -/
theorem editDistance?_eq (s t : List Char) :
    editDistance? s t = some (distance s.reverse t.reverse) := by
  have hzeros : Holds s t (fun _ _ => False) (zeros (s.length + 1) (t.length + 1)) := by
    refine ⟨fun i j => ?_, fun _ _ _ hnone => hnone.elim⟩
    rw [get?_zeros]
    omega
  obtain ⟨m₁, hm₁, hborders⟩ := hzeros.countBorders
  have hstart : Holds s t (Reached 0 0) m₁ := by
    refine hborders.mono fun x y _ _ hxy => ?_
    simp only [Reached] at hxy
    omega
  obtain ⟨m₂, hm₂, hfilled⟩ := hstart.fillRows (Nat.zero_le _)
  have hlast := hfilled.get? (le_refl s.length) (le_refl t.length) (.inl (le_refl _))
  rw [List.drop_zero] at hm₂
  simp only [editDistance?, hm₁, hm₂, Option.bind_eq_bind, Option.bind_some, hlast, startDistance,
    List.take_length]

lemma editDistance_eq (s t : String) :
    editDistance s t = distance s.toList.reverse t.toList.reverse := by
  rw [editDistance, editDistance?_eq, Option.getD_some]

/-- No fewer edits turn one text into the other. Edits read backwards are edits of the texts backwards. -/
theorem isLeast_editDistance (s t : String) :
    IsLeast {n | Edits n s.toList t.toList} (editDistance s t) := by
  rw [editDistance_eq]
  simpa only [Edits.reverse_iff] using isLeast_distance s.toList.reverse t.toList.reverse

lemma editDistance_comm (s t : String) : editDistance s t = editDistance t s := by
  have hle (s t : String) : editDistance s t ≤ editDistance t s :=
    (isLeast_editDistance s t).2 (isLeast_editDistance t s).1.symm
  exact le_antisymm (hle s t) (hle t s)

lemma editDistance_eq_zero {s t : String} : editDistance s t = 0 ↔ s = t := by
  constructor
  · intro h
    have hedits := (isLeast_editDistance s t).1
    rw [h] at hedits
    exact String.toList_inj.1 (Edits.eq_of_zero hedits)
  · rintro rfl
    exact Nat.le_zero.1 ((isLeast_editDistance s s).2 (Edits.refl s.toList))

lemma editDistance_triangle (s t u : String) :
    editDistance s u ≤ editDistance s t + editDistance t u :=
  (isLeast_editDistance s u).2
    ((isLeast_editDistance s t).1.trans (isLeast_editDistance t u).1)

lemma closest?_eq_none {target : String} {cs : List String} : closest? target cs = none ↔ cs = [] := by
  cases cs with
  | nil => simp [closest?]
  | cons c cs =>
    simp only [closest?, reduceCtorEq, iff_false]
    split
    · simp
    · split <;> simp

/-- The candidates in front of the chosen one are further away, and none behind it is nearer. -/
lemma closest?_eq_some {target c : String} {cs : List String} (h : closest? target cs = some c) :
    ∃ before after, cs = before ++ c :: after ∧
      (∀ d ∈ before, editDistance target c < editDistance target d) ∧
      ∀ d ∈ after, editDistance target c ≤ editDistance target d := by
  induction cs generalizing c with
  | nil => cases h
  | cons first rest ih =>
    rw [closest?] at h
    cases hrest : closest? target rest with
    | none =>
      rw [hrest] at h
      cases h
      exact ⟨[], rest, rfl, by simp, by simp [closest?_eq_none.1 hrest]⟩
    | some d =>
      obtain ⟨before, after, hsplit, hbefore, hafter⟩ := ih hrest
      simp only [hrest] at h
      by_cases hless : editDistance target d < editDistance target first
      · rw [if_pos hless] at h
        cases h
        exact ⟨first :: before, after, by rw [hsplit, List.cons_append],
          List.forall_mem_cons.2 ⟨hless, hbefore⟩, hafter⟩
      · rw [if_neg hless] at h
        cases h
        refine ⟨[], rest, rfl, by simp, fun e he => ?_⟩
        rw [hsplit, List.mem_append, List.mem_cons] at he
        rcases he with he | rfl | he
        · have hbehind := hbefore e he
          omega
        · omega
        · have hbehind := hafter e he
          omega

end Text

open Text

/-- Suggestions go by the least number of edits. The table from which it is read is never left, the number
of edits is a distance between texts, and of several candidates the earliest one at the least distance is
proposed. -/
theorem suggestion_by_least_edits :
    (∀ s t : String, editDistance? s.toList t.toList = some (editDistance s t) ∧
      IsLeast {n | Edits n s.toList t.toList} (editDistance s t)) ∧
    (∀ s t : String, editDistance s t = editDistance t s) ∧
    (∀ s t : String, editDistance s t = 0 ↔ s = t) ∧
    (∀ s t u : String, editDistance s u ≤ editDistance s t + editDistance t u) ∧
    ∀ (target : String) (candidates : List String), candidates ≠ [] →
      ∃ before c after, candidates = before ++ c :: after ∧
        suggestion target candidates = "Did you mean '" ++ c ++ "'?" ∧
        (∀ d ∈ before, editDistance target c < editDistance target d) ∧
        ∀ d ∈ after, editDistance target c ≤ editDistance target d := by
  refine ⟨fun s t => ⟨?_, isLeast_editDistance s t⟩, editDistance_comm, fun _ _ => editDistance_eq_zero,
    editDistance_triangle, fun target candidates hne => ?_⟩
  · rw [editDistance?_eq, editDistance_eq]
  · obtain ⟨c, hc⟩ := Option.ne_none_iff_exists'.1 (mt closest?_eq_none.1 hne)
    obtain ⟨before, after, hsplit, hbefore, hafter⟩ := closest?_eq_some hc
    exact ⟨before, c, after, hsplit, by rw [suggestion, hc], hbefore, hafter⟩

/-- Two of the candidates are one edit away, and the first of them is proposed. -/
theorem suggestion_by_least_edits_tie :
    IsLeast {n | Edits n "kitten".toList "sitting".toList} 3 ∧
    editDistance "cat" "cut" = 1 ∧ editDistance "cat" "car" = 1 ∧
    suggestion "cat" ["dog", "cut", "car"] = "Did you mean 'cut'?" := by
  obtain ⟨hleast, -, -, -, hclosest⟩ := suggestion_by_least_edits
  have hthree : editDistance "kitten" "sitting" = 3 := by decide
  have hkitten := (hleast "kitten" "sitting").2
  rw [hthree] at hkitten
  refine ⟨hkitten, by decide, by decide, ?_⟩
  obtain ⟨before, c, after, hsplit, hsuggestion, hbefore, hafter⟩ :=
    hclosest "cat" ["dog", "cut", "car"] (by decide)
  rw [hsuggestion]
  rcases before with _ | ⟨_, _ | ⟨_, _ | ⟨_, before⟩⟩⟩
  · cases hsplit
    exact absurd (hafter "cut" (by simp)) (by decide)
  · cases hsplit
    rfl
  · cases hsplit
    exact absurd (hbefore "cut" (by simp)) (by decide)
  · simp at hsplit

end StagedLowering
