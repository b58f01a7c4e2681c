import Mathlib.Tactic.Lemma
import StagedLowering.Json.Read

/-! Typed reading of values: each reader on the scan of a value it knows. -/
namespace StagedLowering

/-- A key above all others goes to the end. -/
lemma Dict.place_last {β : Type} {k : String} (v : β) {l : List (String × β)}
    (h : ∀ e ∈ l, e.1 < k) : place k v l = l ++ [(k, v)] := by
  induction l with
  | nil => rfl
  | cons e l ih =>
    obtain ⟨k', v'⟩ := e
    have hlt : k' < k := h (k', v') List.mem_cons_self
    have hne : k ≠ k' := fun heq => String.lt_irrefl k (heq ▸ hlt)
    rw [place, if_neg (String.lt_asymm hlt), if_neg hne,
      ih fun e he => h e (List.mem_cons_of_mem _ he)]
    rfl

namespace Json

lemma height_le_heightItems {v : Json} {items : List Json} (h : v ∈ items) :
    v.height ≤ heightItems items := by
  induction items with
  | nil => cases h
  | cons w items ih =>
    rw [heightItems]
    rcases List.mem_cons.1 h with rfl | h
    · exact Nat.le_max_left _ _
    · exact Nat.le_trans (ih h) (Nat.le_max_right _ _)

lemma height_le_heightFields {f : String × Json} {fields : List (String × Json)}
    (h : f ∈ fields) : f.2.height ≤ heightFields fields := by
  induction fields with
  | nil => cases h
  | cons g fields ih =>
    rw [heightFields]
    rcases List.mem_cons.1 h with rfl | h
    · exact Nat.le_max_left _ _
    · exact Nat.le_trans (ih h) (Nat.le_max_right _ _)

/-- An array takes one level, and its elements have what is left. -/
lemma height_arr_le {items : List Json} {n : Nat} (h : (Json.arr items).height ≤ n) :
    ∃ m, n = m + 1 ∧ ∀ v ∈ items, v.height ≤ m := by
  rw [height] at h
  refine ⟨n - 1, by omega, fun v hv => ?_⟩
  have hle := height_le_heightItems hv
  omega

lemma height_obj_le {fields : List (String × Json)} {n : Nat} (h : (Json.obj fields).height ≤ n) :
    ∃ m, n = m + 1 ∧ ∀ f ∈ fields, f.2.height ≤ m := by
  rw [height] at h
  refine ⟨n - 1, by omega, fun f hf => ?_⟩
  have hle := height_le_heightFields hf
  omega

lemma values_toItems {levels : Nat} {items : List Json}
    (h : ∀ v ∈ items, v.toScan.value levels = .ok v) :
    (toItems items).values levels = .ok items := by
  induction items with
  | nil => rfl
  | cons v items ih =>
    rw [toItems, Items.values, h v List.mem_cons_self,
      ih fun w hw => h w (List.mem_cons_of_mem v hw)]
    rfl

lemma values_toFields {levels : Nat} {fields : List (String × Json)}
    (h : ∀ f ∈ fields, f.2.toScan.value levels = .ok f.2) :
    (toFields fields).values levels = .ok fields := by
  induction fields with
  | nil => rfl
  | cons f fields ih =>
    rw [toFields, Fields.values, h f List.mem_cons_self,
      ih fun g hg => h g (List.mem_cons_of_mem f hg)]
    rfl

/-- A value is read back when there are levels for all its arrays and objects. -/
lemma value_toScan : ∀ (v : Json) {levels : Nat}, v.height ≤ levels →
    v.toScan.value levels = .ok v
  | .null, _, _ => rfl
  | .bool _, _, _ => rfl
  | .int _, _, _ => rfl
  | .float _, _, _ => rfl
  | .str _, _, _ => rfl
  | .arr items, levels, h => by
    obtain ⟨m, rfl, hm⟩ := height_arr_le h
    rw [toScan, Scan.value, if_neg (Nat.succ_ne_zero m), Nat.add_sub_cancel,
      values_toItems fun v hv => value_toScan v (hm v hv)]
    rfl
  | .obj fields, levels, h => by
    obtain ⟨m, rfl, hm⟩ := height_obj_le h
    rw [toScan, Scan.value, if_neg (Nat.succ_ne_zero m), Nat.add_sub_cancel,
      values_toFields fun f hf => value_toScan f.2 (hm f hf)]
    rfl

lemma readUInt32_nat (n : UInt32) : readUInt32 (Json.nat n.toNat).toScan = .ok n := by
  change (if n.toNat < UInt32.size then Except.ok n.toNat else .error .shape : Result Nat).map
    UInt32.ofNat = _
  rw [if_pos n.toNat_lt_size]
  exact congrArg Except.ok UInt32.ofNat_toNat

section Readers

variable {α ρ : Type}

lemma readItems_map {read : Reader α} {f : α → Json} {xs : List α}
    (h : ∀ x ∈ xs, read (f x).toScan = .ok x) :
    readItems read (Json.arr (xs.map f)).toScan = .ok xs := by
  rw [toScan, readItems]
  induction xs with
  | nil => rfl
  | cons x xs ih =>
    rw [List.map_cons, toItems, Items.read, h x List.mem_cons_self,
      ih fun y hy => h y (List.mem_cons_of_mem x hy)]
    rfl

/-- Entries that are read in key order go to the end of the map, one after the other. -/
lemma readDict_entries {read : Reader α} {f : α → Json} {d d' : Dict α}
    {entries : List (String × α)} (h : ∀ e ∈ entries, read (f e.2).toScan = .ok e.2)
    (hd : d'.entries = d.entries ++ entries) :
    (toFields (entries.map fun e => (e.1, f e.2))).readDict read d = .ok d' := by
  induction entries generalizing d with
  | nil =>
    rw [List.append_nil] at hd
    exact congrArg Except.ok (Dict.ext hd.symm)
  | cons e entries ih =>
    have hsorted := d'.sorted
    rw [hd, List.pairwise_append] at hsorted
    have hlast : (d.insert e.1 e.2).entries = d.entries ++ [e] :=
      Dict.place_last e.2 fun e' he' => hsorted.2.2 e' he' e List.mem_cons_self
    rw [List.map_cons, toFields, Fields.readDict, h e List.mem_cons_self]
    refine ih (fun e' he' => h e' (List.mem_cons_of_mem e he')) ?_
    rw [hd, hlast, List.append_assoc, List.singleton_append]

lemma readDict_map {read : Nat → Reader α} {f : α → Json} {d : Dict α} {levels : Nat}
    (h : ∀ e ∈ d.entries, read levels (f e.2).toScan = .ok e.2) :
    Json.readDict read (levels + 1) (Json.obj (d.entries.map fun e => (e.1, f e.2))).toScan =
      .ok d := by
  rw [toScan, Json.readDict]
  exact readDict_entries h rfl

/-- Reads the fields of a record one after the other. -/
def setFields (set : FieldReader ρ) (fields : List (String × Json)) (r : ρ) : Result ρ :=
  fields.foldlM (fun r f => set f.1 f.2.toScan r) r

lemma readRecord_toFields {names seen : List String} {set : FieldReader ρ}
    {fields : List (String × Json)} (hknown : ∀ f ∈ fields, f.1 ∈ names)
    (hnew : ∀ f ∈ fields, f.1 ∉ seen) (hnodup : (fields.map (·.1)).Nodup) (r : ρ) :
    (toFields fields).readRecord names set seen r = setFields set fields r := by
  induction fields generalizing seen r with
  | nil => rfl
  | cons f fields ih =>
    rw [List.forall_mem_cons] at hknown hnew
    rw [List.map_cons, List.nodup_cons] at hnodup
    rw [toFields, Fields.readRecord, setFields, List.foldlM_cons]
    change (if f.1 ∈ names then _ else _) = _
    rw [if_pos hknown.1, if_neg hnew.1]
    refine congrArg (set f.1 f.2.toScan r >>= ·) (funext fun r' => ih hknown.2 ?_ hnodup.2 r')
    intro g hg hseen
    rcases List.mem_cons.1 hseen with heq | hseen
    · exact hnodup.1 (heq ▸ List.mem_map_of_mem hg)
    · exact hnew.2 g hg hseen

/-- A record in which some fields may be missing, but those that are there stand in order. -/
lemma readRecord_obj {names : List String} (hnames : names.Nodup) {set : FieldReader ρ}
    {fields : List (String × Json)} (hfields : (fields.map (·.1)).Sublist names) (r : ρ) :
    readRecord names set r (Json.obj fields).toScan = setFields set fields r := by
  rw [toScan, readRecord]
  exact readRecord_toFields (fun f hf => hfields.subset (List.mem_map_of_mem hf))
    (fun _ _ => List.not_mem_nil) (hnames.sublist hfields) r

lemma setFields_append (set : FieldReader ρ) (fields more : List (String × Json)) (r : ρ) :
    setFields set (fields ++ more) r = setFields set fields r >>= setFields set more :=
  List.foldlM_append

end Readers

end Json
end StagedLowering
