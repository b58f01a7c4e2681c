import Mathlib.Data.List.Forall2
import Mathlib.Data.List.Pairwise
import StagedLowering.Proofs.Json.Reading

/-! Values up to the order of the fields in their objects. A record is read field by field, so it is read
the same in any order when fields with different names set different parts of it. -/
namespace StagedLowering.Json

/-- The same value, except that the fields of objects may stand in another order. -/
inductive Reorders : Json → Json → Prop where
  | refl (v : Json) : Reorders v v
  | arr {items items' : List Json} (h : List.Forall₂ Reorders items items') :
    Reorders (.arr items) (.arr items')
  | obj {fields same fields' : List (String × Json)} (names : same.map (·.1) = fields.map (·.1))
    (values : List.Forall₂ Reorders (fields.map (·.2)) (same.map (·.2)))
    (perm : same.Perm fields') : Reorders (.obj fields) (.obj fields')

/-- The fields of an object and of a reordered one: the same names, each with a reordered value. -/
structure ReordersFields (fields fields' : List (String × Json)) : Prop where
  names : (fields'.map (·.1)).Perm (fields.map (·.1))
  values : ∀ f ∈ fields', ∃ v, (f.1, v) ∈ fields ∧ Reorders v f.2

namespace Reorders

lemma of_arr {items : List Json} {w : Json} (h : Reorders (.arr items) w) :
    ∃ items', w = .arr items' ∧ List.Forall₂ Reorders items items' := by
  cases h with
  | refl => exact ⟨items, rfl, List.forall₂_same.2 fun v _ => .refl v⟩
  | arr h => exact ⟨_, rfl, h⟩

/-- Each field is paired with the one of its name. -/
lemma value_of_mem {fields same : List (String × Json)} (names : same.map (·.1) = fields.map (·.1))
    (values : List.Forall₂ Reorders (fields.map (·.2)) (same.map (·.2))) {f : String × Json}
    (hf : f ∈ same) : ∃ v, (f.1, v) ∈ fields ∧ Reorders v f.2 := by
  induction same generalizing fields with
  | nil => cases hf
  | cons g same ih =>
    cases fields with
    | nil => cases names
    | cons e fields =>
      rw [List.map_cons, List.map_cons, List.cons.injEq] at names
      rw [List.map_cons, List.map_cons, List.forall₂_cons] at values
      rcases List.mem_cons.1 hf with rfl | hf
      · refine ⟨e.2, ?_, values.1⟩
        rw [names.1]
        exact List.mem_cons_self
      · obtain ⟨v, hv, hreorders⟩ := ih names.2 values.2 hf
        exact ⟨v, List.mem_cons_of_mem e hv, hreorders⟩

lemma of_obj {fields : List (String × Json)} {w : Json} (h : Reorders (.obj fields) w) :
    ∃ fields', w = .obj fields' ∧ ReordersFields fields fields' := by
  cases h with
  | refl => exact ⟨fields, rfl, .refl _, fun f hf => ⟨f.2, hf, .refl f.2⟩⟩
  | obj names values perm =>
    refine ⟨_, rfl, ?_, fun f hf => value_of_mem names values (perm.mem_iff.2 hf)⟩
    rw [← names]
    exact (perm.map _).symm

/-- There is nothing to reorder in a list of texts. -/
lemma of_strs {texts : List String} {w : Json} (h : Reorders (.strs texts) w) : w = .strs texts := by
  obtain ⟨items, rfl, hitems⟩ := of_arr h
  refine congrArg Json.arr ?_
  clear h
  induction texts generalizing items with
  | nil => exact List.forall₂_nil_left_iff.1 hitems
  | cons t texts ih =>
    rw [List.map_cons, List.forall₂_cons_left_iff] at hitems
    obtain ⟨v, rest, hv, hrest, rfl⟩ := hitems
    cases hv
    rw [List.map_cons, ih rest hrest]

end Reorders

variable {ρ : Type}

/-- A field of a reordered object with one field. -/
lemma ReordersFields.of_singleton {name : String} {v : Json} {fields : List (String × Json)}
    (h : ReordersFields [(name, v)] fields) : ∃ w, fields = [(name, w)] ∧ Reorders v w := by
  have hnames := List.perm_singleton.1 h.names
  obtain ⟨f, rfl, rfl⟩ := List.map_eq_singleton_iff.1 hnames
  obtain ⟨v', hv', hreorders⟩ := h.values f List.mem_cons_self
  cases List.mem_singleton.1 hv'
  exact ⟨f.2, rfl, hreorders⟩

/-- A record with all its fields is read the same in any order, when the field of each name can be read
and what it sets does not depend on what the others set. -/
lemma readRecord_reordered {names : List String} (hnodup : names.Nodup) {set : FieldReader ρ}
    {fields : List (String × Json)} (hnames : (fields.map (·.1)).Perm names) (update : String → ρ → ρ)
    (hset : ∀ f ∈ fields, ∀ r, set f.1 f.2.toScan r = .ok (update f.1 r))
    (hcomm : names.Pairwise fun a b => ∀ r, update a (update b r) = update b (update a r)) (r : ρ) :
    readRecord names set r (Json.obj fields).toScan =
      .ok (names.foldl (fun r name => update name r) r) := by
  have hfields : ∀ r, setFields set fields r =
      .ok ((fields.map (·.1)).foldl (fun r name => update name r) r) := by
    clear hnames
    induction fields with
    | nil => exact fun r => rfl
    | cons f fields ih =>
      intro r
      rw [List.forall_mem_cons] at hset
      rw [setFields, List.foldlM_cons, hset.1 r]
      exact ih hset.2 (update f.1 r)
  have hswap := hcomm.forall_of_forall_of_flip (fun _ _ _ => rfl) (hcomm.imp fun h r => (h r).symm)
  rw [toScan, readRecord, readRecord_toFields, hfields]
  · refine congrArg Except.ok (hnames.foldl_eq' (fun a ha b hb r => ?_) r)
    exact hswap (hnames.mem_iff.1 hb) (hnames.mem_iff.1 ha) r
  · exact fun f hf => hnames.mem_iff.1 (List.mem_map_of_mem hf)
  · exact fun _ _ => List.not_mem_nil
  · exact hnames.nodup_iff.2 hnodup

/-- A record of two fields, each of which fills one place. -/
lemma readRecord_pair {α β : Type} {first second : String} (hne : first ≠ second)
    {set : FieldReader (Option α × Option β)} {fields : List (String × Json)}
    (hnames : (fields.map (·.1)).Perm [first, second]) {a : α} {b : β}
    (hfirst : ∀ v, (first, v) ∈ fields → ∀ d, set first v.toScan d = .ok (some a, d.2))
    (hsecond : ∀ v, (second, v) ∈ fields → ∀ d, set second v.toScan d = .ok (d.1, some b)) :
    readRecord [first, second] set (none, none) (Json.obj fields).toScan = .ok (some a, some b) := by
  rw [readRecord_reordered (by simpa using hne) hnames fun name d =>
    if name = first then (some a, d.2) else (d.1, some b)]
  · simp [hne.symm]
  · intro f hf d
    have hmem : f.1 ∈ [first, second] := hnames.mem_iff.1 (List.mem_map_of_mem hf)
    obtain ⟨name, v⟩ := f
    rcases List.mem_pair.1 hmem with rfl | rfl
    · rw [if_pos rfl]
      exact hfirst v hf d
    · rw [if_neg hne.symm]
      exact hsecond v hf d
  · simp [hne.symm]

end StagedLowering.Json
