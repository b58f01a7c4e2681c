import StagedLowering.Program.Json
import StagedLowering.Proofs.Addressing
import StagedLowering.Proofs.Json.Reading
import StagedLowering.Proofs.Json.Scanning

/-! Programs and their JSON text. Each kind of node is read back from the form it is written in, and
that form holds nothing that its text would not give back. -/
namespace StagedLowering

open Json

namespace Attr

mutual
/-- No double occurs in the value. -/
def floatFree : Attr → Bool
  | .float _ => false
  | .list items => floatFreeList items
  | _ => true

def floatFreeList : List Attr → Bool
  | [] => true
  | a :: rest => a.floatFree && floatFreeList rest
end

lemma floatFreeList_eq (items : List Attr) : floatFreeList items = items.all floatFree := by
  induction items with
  | nil => rfl
  | cons a items ih => rw [floatFreeList, ih, List.all_cons]

lemma toJsonList_eq (items : List Attr) : toJsonList items = items.map toJson := by
  induction items with
  | nil => rfl
  | cons a items ih => rw [toJsonList, ih, List.map_cons]

lemma exact_int64 (n : Int64) : (Json.int n.toInt).Exact := by
  have hlow := n.le_toInt
  have hhigh := n.toInt_lt
  cases hn : n.toInt with
  | ofNat m =>
    refine .nonneg ?_
    simp only [hn, Int.ofNat_eq_natCast] at hhigh
    change m < 2 ^ 64
    omega
  | negSucc m =>
    refine .negative ?_
    rw [hn] at hlow
    change m < 2 ^ 63
    omega

lemma exact_toJson : ∀ a : Attr, a.floatFree = true → a.toJson.Exact
  | .unit, _ => .null
  | .bool b, _ => .bool b
  | .int n, _ => exact_int64 n
  | .str s, _ => .str s
  | .list items, h => by
    rw [floatFree, floatFreeList_eq, List.all_eq_true] at h
    rw [toJson, toJsonList_eq]
    refine .arr fun v hv => ?_
    obtain ⟨a, ha, rfl⟩ := List.mem_map.1 hv
    exact exact_toJson a (h a ha)

lemma ofJsonList?_map {items : List Attr} (h : ∀ a ∈ items, ofJson? a.toJson = some a) :
    ofJsonList? (items.map toJson) = some items := by
  induction items with
  | nil => rfl
  | cons a items ih =>
    rw [List.map_cons, ofJsonList?, h a List.mem_cons_self,
      ih fun b hb => h b (List.mem_cons_of_mem a hb)]
    rfl

/-- The shape of the JSON value tells the cases apart. -/
lemma ofJson?_toJson : ∀ a : Attr, ofJson? a.toJson = some a
  | .unit => rfl
  | .bool _ => rfl
  | .int n => by
    rw [toJson, ofJson?, if_pos ⟨n.minValue_le_toInt, n.toInt_le⟩, Int64.ofInt_toInt]
  | .float _ => rfl
  | .str _ => rfl
  | .list items => by
    rw [toJson, toJsonList_eq, ofJson?, ofJsonList?_map fun a _ => ofJson?_toJson a]
    rfl

lemma read_toJson {a : Attr} {levels : Nat} (h : a.toJson.height ≤ levels) :
    read levels a.toJson.toScan = .ok a := by
  rw [read, value_toScan _ h]
  change required (ofJson? a.toJson) = _
  rw [ofJson?_toJson]
  rfl

end Attr

namespace Location

lemma exact_toJson (l : Location) : l.toJson.Exact := by
  have hnat (n : UInt32) : (Json.nat n.toNat).Exact :=
    .nonneg (Nat.lt_trans n.toNat_lt_size (by decide))
  refine .obj fun f hf => ?_
  simp only [List.mem_cons, List.not_mem_nil, or_false] at hf
  rcases hf with rfl | rfl | rfl
  · exact .str l.file
  · exact hnat l.line
  · exact hnat l.column

lemma read_toJson (l : Location) (n : Nat) : read (n + 1) l.toJson.toScan = .ok l := by
  have hline (d : Draft) : setField "line" (Json.nat l.line.toNat).toScan d =
      .ok { d with line := some l.line } := by
    simp only [setField, readUInt32_nat]
    rfl
  have hcolumn (d : Draft) : setField "column" (Json.nat l.column.toNat).toScan d =
      .ok { d with column := some l.column } := by
    simp only [setField, readUInt32_nat]
    rfl
  have hdraft : readRecord ["file", "line", "column"] setField {} l.toJson.toScan =
      .ok ⟨some l.file, some l.line, some l.column⟩ := by
    rw [toJson, readRecord_obj]
    · simp only [setFields, List.foldlM, hline, hcolumn]
      rfl
    · decide
    · exact List.Sublist.refl _
  rw [read, hdraft]
  rfl

end Location

section ListField

variable {α : Type} {name : String} {f : α → Json} {xs : List α}

/-- The form of blocks, regions and programs: one field with a list. -/
def listField (name : String) (f : α → Json) (xs : List α) : Json := .obj [(name, .arr (xs.map f))]

lemma exact_listField (name : String) (h : ∀ x ∈ xs, (f x).Exact) :
    (listField name f xs).Exact := by
  refine .obj fun field hfield => ?_
  obtain rfl := List.mem_singleton.1 hfield
  refine .arr fun v hv => ?_
  obtain ⟨x, hx, rfl⟩ := List.mem_map.1 hv
  exact h x hx

/-- The object and the list take a level each. -/
lemma height_listField_le {n : Nat} (h : (listField name f xs).height ≤ n) :
    ∃ m, n = m + 2 ∧ ∀ x ∈ xs, (f x).height ≤ m := by
  obtain ⟨k, rfl, hk⟩ := height_obj_le h
  obtain ⟨m, rfl, hm⟩ := height_arr_le (hk _ List.mem_cons_self)
  exact ⟨m, rfl, fun x hx => hm _ (List.mem_map_of_mem hx)⟩

lemma readListField_listField {read : Reader α} (h : ∀ x ∈ xs, read (f x).toScan = .ok x) :
    readListField name (readItems read) (listField name f xs).toScan = .ok xs := by
  rw [readListField, listField, readRecord_obj (List.pairwise_singleton _ name)]
  · rw [setFields, List.foldlM_cons, readItems_map h]
    rfl
  · exact List.Sublist.refl [name]

end ListField

namespace Op

def blockJson : List Op → Json := listField "operations" toJson

def regionJson : List (List Op) → Json := listField "blocks" blockJson

lemma blockToJson_eq (block : List Op) : blockToJson block = block.map toJson := by
  induction block with
  | nil => rfl
  | cons op block ih => rw [blockToJson, ih, List.map_cons]

lemma blocksToJson_eq (region : List (List Op)) : blocksToJson region = region.map blockJson := by
  induction region with
  | nil => rfl
  | cons block region ih =>
    rw [blocksToJson, ih, blockToJson_eq]
    rfl

lemma regionsToJson_eq (regions : List (List (List Op))) :
    regionsToJson regions = regions.map regionJson := by
  induction regions with
  | nil => rfl
  | cons region regions ih =>
    rw [regionsToJson, ih, blocksToJson_eq]
    rfl

/-- Regions are written when there are some. -/
def regionFields (regions : List (List (List Op))) : List (String × Json) :=
  if regions.isEmpty then [] else [("regions", .arr (regions.map regionJson))]

lemma toJson_eq (h : OpHead) (regions : List (List (List Op))) :
    toJson ⟨h, regions⟩ = .obj (headFields h ++ (regionFields regions ++ tailFields h)) := by
  rw [toJson, regionsToJson_eq, List.append_assoc]
  rfl

lemma read_blockJson {block : List Op} {n : Nat} (hn : (blockJson block).height ≤ n)
    (h : ∀ op ∈ block, ∀ m, op.toJson.height ≤ m → read m op.toJson.toScan = .ok op) :
    readBlock n (blockJson block).toScan = .ok block := by
  obtain ⟨m, rfl, hm⟩ := height_listField_le hn
  simp only [readBlock, readOps]
  exact readListField_listField fun op hop => h op hop m (hm op hop)

lemma read_regionJson {region : List (List Op)} {n : Nat} (hn : (regionJson region).height ≤ n)
    (h : ∀ block ∈ region, ∀ op ∈ block, ∀ m, op.toJson.height ≤ m →
      read m op.toJson.toScan = .ok op) :
    readRegion n (regionJson region).toScan = .ok region := by
  obtain ⟨m, rfl, hm⟩ := height_listField_le hn
  simp only [readRegion, readBlocks]
  exact readListField_listField fun block hb => read_blockJson (hm block hb) (h block hb)

section Fields

variable {n : Nat} {regions : List (List (List Op))} {reader : Reader (List Region)}

/-- The fields that are written stand in the order of the names; the empty ones are missing. -/
lemma fieldNames_sublist (h : OpHead) (regions : List (List (List Op))) :
    ((headFields h ++ (regionFields regions ++ tailFields h)).map (·.1)).Sublist
      ["kind", "attributes", "regions", "location"] := by
  have hhead : ((headFields h).map (·.1)).Sublist ["kind", "attributes"] := by
    unfold headFields
    split <;> simp
  have hregions : ((regionFields regions).map (·.1)).Sublist ["regions"] := by
    unfold regionFields
    split <;> simp
  have htail : ((tailFields h).map (·.1)).Sublist ["location"] := by
    unfold tailFields
    split <;> simp
  rw [List.map_append, List.map_append]
  exact hhead.append (hregions.append htail)

lemma setFields_head {h : OpHead} (hn : ∀ f ∈ headFields h, f.2.height ≤ n) :
    setFields (setField n reader) (headFields h) {} =
      .ok { kind := some h.kind, attrs := h.attrs } := by
  unfold headFields at hn ⊢
  split at hn
  · next hempty =>
    have hattrs : h.attrs = .empty := Dict.ext (List.isEmpty_iff.1 hempty)
    rw [if_pos hempty, hattrs]
    rfl
  · next hsome =>
    obtain ⟨m, rfl, hm⟩ := height_obj_le (hn _ (List.mem_cons_of_mem _ List.mem_cons_self))
    have hread : readDict Attr.read (m + 1) (Json.obj (attrFields h.attrs)).toScan = .ok h.attrs :=
      readDict_map fun e he => Attr.read_toJson (hm _ (List.mem_map_of_mem he))
    rw [if_neg hsome]
    simp only [setFields, List.foldlM, setField, hread]
    rfl

lemma setFields_regions {d : Draft} (hd : d.regions = [])
    (h : regions ≠ [] → reader (Json.arr (regions.map regionJson)).toScan = .ok regions) :
    setFields (setField n reader) (regionFields regions) d = .ok { d with regions } := by
  unfold regionFields
  split
  · next hempty =>
    rw [List.isEmpty_iff.1 hempty, ← hd]
    rfl
  · next hsome =>
    simp only [setFields, List.foldlM, setField, h (mt List.isEmpty_iff.2 hsome)]
    rfl

lemma setFields_tail {h : OpHead} (hn : ∀ f ∈ tailFields h, f.2.height ≤ n) {d : Draft}
    (hd : d.location = none) :
    setFields (setField n reader) (tailFields h) d = .ok { d with location := h.location } := by
  unfold tailFields at hn ⊢
  cases hl : h.location with
  | none =>
    obtain ⟨kind, attrs, regions, location⟩ := d
    cases hd
    rfl
  | some l =>
    rw [hl] at hn
    obtain ⟨m, rfl, -⟩ := height_obj_le (hn _ List.mem_cons_self)
    have hread : readOption (Location.read (m + 1)) l.toJson.toScan = .ok (some l) := by
      change some <$> Location.read (m + 1) l.toJson.toScan = _
      rw [Location.read_toJson]
      rfl
    simp only [setFields, List.foldlM, setField, hread]
    rfl

end Fields

/-- An op is read back from its JSON form. -/
theorem read_toJson (op : Op) :
    ∀ n, op.toJson.height ≤ n → read n op.toJson.toScan = .ok op := by
  induction op using Op.induction with
  | step h regions ih =>
    intro n hn
    rw [toJson_eq] at hn ⊢
    obtain ⟨m, rfl, hm⟩ := height_obj_le hn
    simp only [List.forall_mem_append] at hm
    obtain ⟨hhead, hregions, htail⟩ := hm
    -- An op without regions may stand on the last level, where a list could not be read.
    have hread (hsome : regions ≠ []) :
        readRegions m (Json.arr (regions.map regionJson)).toScan = .ok regions := by
      rw [regionFields, if_neg (mt List.isEmpty_iff.1 hsome)] at hregions
      obtain ⟨k, rfl, hk⟩ := height_arr_le (hregions _ List.mem_cons_self)
      rw [readRegions]
      exact readItems_map fun region hr =>
        read_regionJson (hk _ (List.mem_map_of_mem hr)) (ih region hr)
    have hfields := fieldNames_sublist h regions
    rw [read, readRecord_obj (by decide) hfields, setFields_append, setFields_head hhead]
    change (setFields _ (regionFields regions ++ tailFields h) _ >>= _) = _
    rw [setFields_append, setFields_regions rfl hread]
    change (setFields _ (tailFields h) _ >>= _) = _
    rw [setFields_tail htail rfl]
    rfl

/-- Look-up in a block goes on in the op at the first index. -/
lemma atIndices_of_mem {block : List Op} {op : Op} (h : op ∈ block) :
    ∃ i, ∀ s, atIndices block (i :: s) = op.within s := by
  obtain ⟨i, hi⟩ := List.getElem?_of_mem h
  refine ⟨i, fun s => ?_⟩
  rw [atIndices_eq, lookAt, hi]
  rfl

/-- What holds of all ops in a subtree holds of the op itself and in all that is right inside it. -/
lemma forall_within {P : Op → Prop} {h : OpHead} {regions : List (List (List Op))}
    (hall : ∀ s x, within ⟨h, regions⟩ s = some x → P x) :
    P ⟨h, regions⟩ ∧ ∀ region ∈ regions, ∀ block ∈ region, ∀ op ∈ block,
      ∀ s x, op.within s = some x → P x := by
  refine ⟨hall [] _ rfl, fun region hr block hb op ho s x hx => ?_⟩
  obtain ⟨r, hr⟩ := List.getElem?_of_mem hr
  obtain ⟨b, hb⟩ := List.getElem?_of_mem hb
  obtain ⟨o, ho⟩ := atIndices_of_mem ho
  refine hall (r :: b :: o :: s) x ?_
  rw [within, lookAt, hr, Option.bind_some, lookAt, hb, Option.bind_some, ho, hx]

/-- None of the op's own attributes holds a double. -/
def FloatFree (op : Op) : Prop := ∀ e ∈ op.attrs.entries, e.2.floatFree = true

instance (op : Op) : Decidable op.FloatFree :=
  inferInstanceAs (Decidable (∀ e ∈ op.attrs.entries, e.2.floatFree = true))

lemma exact_headFields {h : OpHead} (hfree : ∀ e ∈ h.attrs.entries, e.2.floatFree = true) :
    ∀ f ∈ headFields h, f.2.Exact := by
  rw [headFields, List.forall_mem_cons]
  refine ⟨.str h.kind, fun f hf => ?_⟩
  split at hf
  · cases hf
  · obtain rfl := List.mem_singleton.1 hf
    refine .obj fun e he => ?_
    obtain ⟨a, ha, rfl⟩ := List.mem_map.1 he
    exact a.2.exact_toJson (hfree a ha)

lemma exact_tailFields (h : OpHead) : ∀ f ∈ tailFields h, f.2.Exact := by
  unfold tailFields
  split
  · exact fun _ hf => nomatch hf
  · next l _ => exact List.forall_mem_singleton.2 l.exact_toJson

lemma exact_toJson {op : Op} (h : ∀ s x, op.within s = some x → x.FloatFree) :
    op.toJson.Exact := by
  induction op using Op.induction with
  | step head regions ih =>
    obtain ⟨hself, hinside⟩ := forall_within h
    have hregions : ∀ f ∈ regionFields regions, f.2.Exact := by
      intro f hf
      unfold regionFields at hf
      split at hf
      · cases hf
      · obtain rfl := List.mem_singleton.1 hf
        refine .arr fun v hv => ?_
        obtain ⟨region, hr, rfl⟩ := List.mem_map.1 hv
        exact exact_listField "blocks" fun block hb => exact_listField "operations" fun op ho =>
          ih region hr block hb op ho (hinside region hr block hb op ho)
    rw [toJson_eq]
    refine .obj ?_
    simp only [List.forall_mem_append]
    exact ⟨exact_headFields hself, hregions, exact_tailFields head⟩

end Op

namespace Program

/-- No attribute in the program holds a double. -/
def FloatFree (p : Program) : Prop := ∀ x ∈ p.addressed, x.2.FloatFree

instance (p : Program) : Decidable p.FloatFree :=
  inferInstanceAs (Decidable (∀ x ∈ p.addressed, x.2.FloatFree))

lemma toJson_eq (p : Program) : p.toJson = Op.blockJson p.ops := by
  rw [toJson, Op.blockToJson_eq]
  rfl

lemma exact_toJson {p : Program} (h : p.FloatFree) : p.toJson.Exact := by
  rw [toJson_eq]
  refine exact_listField "operations" fun op hop => Op.exact_toJson fun s x hx => ?_
  obtain ⟨i, hi⟩ := Op.atIndices_of_mem hop
  exact h (⟨i :: s⟩, x) (mem_addressed.2 ((hi s).trans hx))

lemma read_toJson {p : Program} {n : Nat} (h : p.toJson.height ≤ n) :
    read n p.toJson.toScan = .ok p := by
  rw [toJson_eq] at h ⊢
  obtain ⟨m, rfl, hm⟩ := height_listField_le h
  simp only [read, Op.readOps]
  rw [Op.blockJson, readListField_listField fun op hop => Op.read_toJson op m (hm op hop)]
  rfl

lemma ofText_of_exact {p : Program} (hexact : p.toJson.Exact) (hdeep : p.toJson.height ≤ 127) :
    ofText p.pretty = .ok p := by
  rw [ofText, readText, pretty, scan_pretty hexact]
  change (read 127 p.toJson.toScan >>= _) = _
  rw [read_toJson hdeep]
  rfl

/-- A program without doubles is read back from its text if the text is not nested too deeply. -/
theorem ofText_pretty (p : Program) (hfloat : p.FloatFree) (hdeep : p.toJson.height ≤ 127) :
    ofText p.pretty = .ok p :=
  ofText_of_exact (exact_toJson hfloat) hdeep

/-- Every kind of node and of value, with texts that need escapes and numbers at the ends of their
ranges. -/
def everyShape : Program :=
  ⟨[⟨⟨"a\"b\\c\n\x01é", .ofList [("", .unit), ("b", .bool false), ("high", .int Int64.maxValue),
        ("low", .int Int64.minValue), ("nested", .list [.list [], .str "\t\x7f", .int 0])],
      some ⟨"/", 4294967295, 0⟩⟩, [[], [[]], [[.ofKind ""], [.ofKind "x", .ofKind "y"]]]⟩,
    .ofKind "last"]⟩

theorem ofText_pretty_everyShape :
    everyShape.FloatFree ∧ everyShape.toJson.height ≤ 127 ∧
      ofText everyShape.pretty = .ok everyShape :=
  ⟨by decide, by decide, ofText_pretty everyShape (by decide) (by decide)⟩

end Program

end StagedLowering
