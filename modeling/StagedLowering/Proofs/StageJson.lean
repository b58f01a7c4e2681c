import StagedLowering.Proofs.Json.Reordering
import StagedLowering.Stage.Json

/-! Stage lists and their JSON form. Passes carry their tag among their options and stages are wrapped in
an object that tells passes from sub-pipelines; the two forms alternate down to any depth. -/
namespace StagedLowering

open Json

lemma Json.readValue_eq_ok {α : Type} {read : Nat → Reader α} {v : Json} {a : α}
    (h : read v.height v.toScan = .ok a) : readValue read v = .ok a := by
  rw [readValue, h]
  rfl

namespace StageKind

/-- The tag and the names of the options differ. -/
lemma fieldNames_nodup (k : StageKind) : ("stage" :: k.optionFields.map (·.1)).Nodup := by
  cases k <;> simp [optionFields, BytecodeTarget.group, FieldKind.toJson]

lemma tag_mem_tags (k : StageKind) : k.tag ∈ tags := by
  cases k <;> simp [tag, name, tags, plain]

variable {levels : Nat} {fields : List (String × Json)}

/-- Fields that are no tag are kept as they are. -/
lemma splitTag_options (tag : Option String) (hname : ∀ f ∈ fields, f.1 ≠ "stage")
    (hlevel : ∀ f ∈ fields, f.2.height ≤ levels) :
    splitTag levels tag (toFields fields) = .ok (tag, fields) := by
  induction fields with
  | nil => rfl
  | cons f fields ih =>
    rw [List.forall_mem_cons] at hname hlevel
    rw [toFields, splitTag]
    change (if f.1 = "stage" then _ else _) = _
    rw [if_neg hname.1, value_toScan f.2 hlevel.1]
    change (splitTag levels tag (toFields fields) >>= _) = _
    rw [ih hname.2 hlevel.2]
    rfl

/-- The tag is found wherever it stands. -/
lemma splitTag_tagged {before after : List (String × Json)} {tag : String} (htag : tag ∈ tags)
    (hname : ∀ f ∈ before ++ after, f.1 ≠ "stage")
    (hlevel : ∀ f ∈ before ++ after, f.2.height ≤ levels) :
    splitTag levels none (toFields (before ++ ("stage", .str tag) :: after)) =
      .ok (some tag, before ++ after) := by
  induction before with
  | nil =>
    have hread : readTag (Json.str tag).toScan = .ok tag := by
      change (if tag ∈ tags then _ else _) = _
      rw [if_pos htag]
      rfl
    rw [List.nil_append, toFields, splitTag, hread]
    exact splitTag_options (some tag) hname hlevel
  | cons f before ih =>
    rw [List.cons_append, List.forall_mem_cons] at hname hlevel
    rw [List.cons_append, toFields, splitTag]
    change (if f.1 = "stage" then _ else _) = _
    rw [if_neg hname.1, value_toScan f.2 hlevel.1]
    change (splitTag levels none (toFields (before ++ _)) >>= _) = _
    rw [ih hname.2 hlevel.2]
    rfl

/-- Of a pass in any order, the tag comes out, and the options are left in some order. -/
lemma readTagged_reordered {k : StageKind} {w : Json} (h : k.toJson.Reorders w)
    (hlevel : w.height ≤ levels) : ∃ others, ReordersFields k.optionFields others ∧
      readTagged levels w.toScan = .ok (k.tag, .obj others) := by
  obtain ⟨fields, rfl, hfields⟩ := h.of_obj
  obtain ⟨m, rfl, hm⟩ := height_obj_le hlevel
  have hnodup := List.nodup_cons.1 k.fieldNames_nodup
  have htag : "stage" ∈ fields.map (·.1) := hfields.names.mem_iff.2 List.mem_cons_self
  obtain ⟨f, hf, hfname⟩ := List.mem_map.1 htag
  obtain ⟨before, after, rfl⟩ := List.append_of_mem hf
  -- The only field of this name that was written is the tag, and a text cannot be reordered.
  obtain rfl : f = ("stage", .str k.tag) := by
    obtain ⟨v, hv, hreorders⟩ := hfields.values f hf
    rw [hfname] at hv
    rcases List.mem_cons.1 hv with heq | hoption
    · cases heq
      obtain ⟨name, w⟩ := f
      cases hfname
      cases hreorders
      rfl
    · exact absurd (List.mem_map_of_mem hoption) hnodup.1
  have hnames : ((before ++ after).map (·.1)).Perm (k.optionFields.map (·.1)) := by
    refine List.Perm.cons_inv (a := "stage") (List.Perm.trans ?_ hfields.names)
    simpa using (List.perm_middle (a := ("stage", Json.str k.tag))).symm.map (·.1)
  have hmem : ∀ g ∈ before ++ after, g ∈ before ++ ("stage", .str k.tag) :: after := by
    intro g hg
    rw [List.mem_append] at hg ⊢
    exact hg.imp_right (List.mem_cons_of_mem _)
  have hname : ∀ g ∈ before ++ after, g.1 ≠ "stage" := by
    intro g hg heq
    exact hnodup.1 (heq ▸ hnames.mem_iff.1 (List.mem_map_of_mem hg))
  refine ⟨before ++ after, ⟨hnames, fun g hg => ?_⟩, ?_⟩
  · obtain ⟨v, hv, hreorders⟩ := hfields.values g (hmem g hg)
    rcases List.mem_cons.1 hv with heq | hoption
    · exact absurd (congrArg Prod.fst heq) (hname g hg)
    · exact ⟨v, hoption, hreorders⟩
  · rw [toScan, readTagged, splitTag_tagged k.tag_mem_tags hname fun g hg => hm g (hmem g hg)]
    rfl

section Options

variable {others : List (String × Json)}

/-- The three switches, each in its place. -/
def setSwitch (constEval hoisting reduction : Bool) (name : String)
    (d : Option Bool × Option Bool × Option Bool) : Option Bool × Option Bool × Option Bool :=
  match name with
  | "const_eval" => (some constEval, d.2)
  | "const_expr_hoisting" => (d.1, some hoisting, d.2.2)
  | _ => (d.1, d.2.1, some reduction)

lemma readOptimization_reordered {constEval hoisting reduction : Bool}
    (h : ReordersFields (highLevelOptimization constEval hoisting reduction).optionFields others) :
    readOptimization levels (Json.obj others).toScan =
      .ok (.highLevelOptimization constEval hoisting reduction) := by
  have hnames : (others.map (·.1)).Perm
      ["const_eval", "const_expr_hoisting", "numeric_precision_reduction"] := h.names
  rw [readOptimization, readRecord_reordered (by decide) hnames
    (setSwitch constEval hoisting reduction)]
  · rfl
  · rintro ⟨name, w⟩ hf d
    obtain ⟨v, hv, hreorders⟩ := h.values _ hf
    simp only [optionFields, List.mem_cons, Prod.mk.injEq, List.not_mem_nil, or_false] at hv
    rcases hv with ⟨rfl, rfl⟩ | ⟨rfl, rfl⟩ | ⟨rfl, rfl⟩ <;> cases hreorders <;> rfl
  · simp [setSwitch]

lemma readScheduling_reordered {format : StatisticsFormat} {file : Option String}
    (h : ReordersFields (schedulingLowering format file).optionFields others) :
    readScheduling levels (Json.obj others).toScan = .ok (.schedulingLowering format file) := by
  have hnames : (others.map (·.1)).Perm ["dump_statistics_format", "dump_statistics_file"] := h.names
  rw [readScheduling, readRecord_pair (by decide) hnames]
  · rfl
  · intro w hw d
    obtain ⟨v, hv, hreorders⟩ := h.values _ hw
    obtain rfl : v = .str (Choice.name format) := by simpa [optionFields] using hv
    cases hreorders
    cases format <;> rfl
  · intro w hw d
    obtain ⟨v, hv, hreorders⟩ := h.values _ hw
    obtain rfl : v = .ofOption .str file := by simpa [optionFields] using hv
    cases file <;> cases hreorders <;> rfl

lemma readHardware_reordered {variant : DeviceVariant} {targets : List String}
    (h : ReordersFields (hardwareAbstraction variant targets).optionFields others)
    (hlevel : 0 < levels) :
    readHardware levels (Json.obj others).toScan = .ok (.hardwareAbstraction variant targets) := by
  have hnames : (others.map (·.1)).Perm ["variant", "targets"] := h.names
  rw [readHardware, readRecord_pair (by decide) hnames]
  · rfl
  · intro w hw d
    obtain ⟨v, hv, hreorders⟩ := h.values _ hw
    obtain rfl : v = .str (Choice.name variant) := by simpa [optionFields] using hv
    cases hreorders
    cases variant <;> rfl
  · intro w hw d
    obtain ⟨v, hv, hreorders⟩ := h.values _ hw
    obtain rfl : v = .strs targets := by simpa [optionFields] using hv
    obtain rfl := hreorders.of_strs
    obtain ⟨m, rfl⟩ := Nat.exists_eq_add_one_of_ne_zero (Nat.ne_of_gt hlevel)
    have hread : readList (fun _ => readString) (m + 1) (Json.strs targets).toScan = .ok targets :=
      readItems_map fun _ _ => rfl
    rw [hread]
    rfl

lemma readGate_reordered {rule : LegalityRule}
    (h : ReordersFields (verifyLegality rule).optionFields others) :
    readGate levels (Json.obj others).toScan = .ok (.verifyLegality rule) := by
  have hnames : (others.map (·.1)).Perm ["op_kind", "marker"] := h.names
  rw [readGate, readRecord_pair (by decide) hnames]
  · rfl
  · intro w hw d
    obtain ⟨v, hv, hreorders⟩ := h.values _ hw
    obtain rfl : v = .str rule.opKind := by simpa [optionFields] using hv
    cases hreorders
    rfl
  · intro w hw d
    obtain ⟨v, hv, hreorders⟩ := h.values _ hw
    obtain rfl : v = .str rule.marker := by simpa [optionFields] using hv
    cases hreorders
    rfl

/-- Takes over the value of one field. -/
def takeOver (target : BytecodeTarget) (name : String) (o : BytecodeTarget) : BytecodeTarget :=
  match BytecodeTarget.group.field? name with
  | some f => f.set o (f.get target)
  | none => o

lemma readTarget_reordered {target : BytecodeTarget}
    (h : ReordersFields (vmLowering target).optionFields others) :
    BytecodeTarget.group.read true (levels + 1) (Json.obj others).toScan = .ok target := by
  have hnames : (others.map (·.1)).Perm BytecodeTarget.group.fieldNames := h.names
  rw [Group.read, readRecord_reordered (by decide) hnames (takeOver target)]
  · rfl
  · rintro ⟨name, w⟩ hf o
    obtain ⟨v, hv, hreorders⟩ := h.values _ hf
    simp only [optionFields, BytecodeTarget.group, FieldKind.toJson, List.filterMap_cons,
      Option.map_some, List.filterMap_nil, List.mem_cons, Prod.mk.injEq, List.not_mem_nil, or_false]
      at hv
    rcases hv with ⟨rfl, rfl⟩ | ⟨rfl, rfl⟩ | ⟨rfl, rfl⟩ | ⟨rfl, rfl⟩ | ⟨rfl, rfl⟩ <;>
      cases hreorders
    · change (readUInt32 (Json.nat target.indexBits.toNat).toScan >>= _) = _
      rw [readUInt32_nat]
      rfl
    all_goals rfl
  · simp [Group.fieldNames, BytecodeTarget.group, takeOver, Group.field?]

/-- The tag says how the options are read, and the options of that pass are read back. -/
lemma ofTagged_reordered {k : StageKind} (h : ReordersFields k.optionFields others) :
    ofTagged k.tag (.obj others) = .ok k := by
  have hlevel : 0 < (Json.obj others).height := by
    rw [Json.height]
    omega
  cases k with
  | highLevelOptimization constEval hoisting reduction =>
    exact readValue_eq_ok (readOptimization_reordered h)
  | schedulingLowering format file => exact readValue_eq_ok (readScheduling_reordered h)
  | hardwareAbstraction variant targets => exact readValue_eq_ok (readHardware_reordered h hlevel)
  | verifyLegality rule => exact readValue_eq_ok (readGate_reordered h)
  | vmLowering target =>
    obtain ⟨m, hm⟩ := Nat.exists_eq_add_one_of_ne_zero (Nat.ne_of_gt hlevel)
    change StageKind.vmLowering <$> readValue _ (Json.obj others) = _
    rw [readValue_eq_ok (a := target) (by rw [hm]; exact readTarget_reordered h)]
    rfl
  | _ => rfl

end Options

/-- A pass is read back from its JSON form in any order. -/
theorem read_reordered {k : StageKind} {w : Json} (h : k.toJson.Reorders w)
    (hlevel : w.height ≤ levels) : read levels w.toScan = .ok k := by
  obtain ⟨others, hothers, htagged⟩ := readTagged_reordered h hlevel
  rw [read, htagged]
  exact ofTagged_reordered hothers

end StageKind

namespace Stage

/-- A list takes one level, and its elements have what is left. -/
lemma readStages_reordered {inText : Bool} {stages : List Stage}
    (hitems : ∀ {items : List Json} {levels : Nat}, List.Forall₂ Reorders (toJsonList stages) items →
      (∀ v ∈ items, v.height ≤ levels) →
      (toItems items).read (read inText levels) = .ok stages)
    {w : Json} {levels : Nat} (h : (Json.arr (toJsonList stages)).Reorders w)
    (hlevel : w.height ≤ levels) : readStages inText levels w.toScan = .ok stages := by
  obtain ⟨items, rfl, hreorders⟩ := h.of_arr
  obtain ⟨m, rfl, hm⟩ := height_arr_le hlevel
  rw [toScan, readStages, readItems]
  exact hitems hreorders hm

mutual
/-- A stage is read back from its JSON form in any order. -/
theorem read_reordered (inText : Bool) : ∀ (s : Stage) {w : Json} {levels : Nat},
    s.toJson.Reorders w → w.height ≤ levels → read inText levels w.toScan = .ok s
  | .pass kind, w, levels, h, hlevel => by
    rw [toJson] at h
    obtain ⟨fields, rfl, hfields⟩ := h.of_obj
    obtain ⟨v, rfl, hv⟩ := hfields.of_singleton
    obtain ⟨m, rfl, hm⟩ := height_obj_le hlevel
    have hread := StageKind.read_reordered hv (hm _ List.mem_cons_self)
    rw [toScan, toFields, read]
    change ((Stage.pass <$> StageKind.read m v.toScan) >>= _) = _
    rw [hread]
    rfl
  | .nested anchor stages, w, levels, h, hlevel => by
    rw [toJson] at h
    obtain ⟨fields, rfl, hfields⟩ := h.of_obj
    obtain ⟨v, rfl, hv⟩ := hfields.of_singleton
    obtain ⟨m, rfl, hm⟩ := height_obj_le hlevel
    obtain ⟨details, rfl, hdetails⟩ := hv.of_obj
    obtain ⟨n, rfl, hn⟩ := height_obj_le (hm _ List.mem_cons_self)
    have hnames : (details.map (·.1)).Perm ["anchor", "stages"] := hdetails.names
    have hread : readNested inText (n + 1) (Json.obj details).toScan = .ok (.nested anchor stages) := by
      rw [readNested, readRecord_pair (by decide) hnames]
      · rfl
      · intro w hw d
        obtain ⟨v, hv, hreorders⟩ := hdetails.values _ hw
        obtain rfl : v = .str anchor := by simpa using hv
        cases hreorders
        rfl
      · intro w hw d
        obtain ⟨v, hv, hreorders⟩ := hdetails.values _ hw
        obtain rfl : v = .arr (toJsonList stages) := by simpa using hv
        rw [readStages_reordered (items_reordered inText stages) hreorders (hn _ hw)]
        rfl
      · intro items heq
        cases heq
    rw [toScan, toFields, read]
    change (readNested inText (n + 1) (Json.obj details).toScan >>= _) = _
    rw [hread]
    rfl

theorem items_reordered (inText : Bool) : ∀ (stages : List Stage) {items : List Json} {levels : Nat},
    List.Forall₂ Reorders (toJsonList stages) items → (∀ v ∈ items, v.height ≤ levels) →
      (toItems items).read (read inText levels) = .ok stages
  | [], items, levels, h, hlevel => by
    rw [toJsonList, List.forall₂_nil_left_iff] at h
    rw [h]
    rfl
  | s :: rest, items, levels, h, hlevel => by
    rw [toJsonList, List.forall₂_cons_left_iff] at h
    obtain ⟨v, items, hv, hrest, rfl⟩ := h
    rw [List.forall_mem_cons] at hlevel
    rw [toItems, Items.read, read_reordered inText s hv hlevel.1,
      items_reordered inText rest hrest hlevel.2]
    rfl
end

/-- Stage lists survive their JSON form. Whatever stages a list holds, nested to whatever depth and with
whatever options, the list is read back from the value that it is written as, in whatever order the objects
of that value keep their fields; so its names, its labels and its text are those of the list that was
written. -/
theorem listOfJson_toJsonList (stages : List Stage) (v : Json)
    (hv : (Json.arr (toJsonList stages)).Reorders v) :
    listOfJson v = .ok stages ∧
    (listOfJson v).map names = .ok (names stages) ∧
    (listOfJson v).map labels = .ok (labels stages) ∧
    (listOfJson v).map pipelineText = .ok (pipelineText stages) := by
  have hread : listOfJson v = .ok stages :=
    readValue_eq_ok (readStages_reordered (items_reordered false stages) hv (Nat.le_refl _))
  rw [hread]
  exact ⟨rfl, rfl, rfl, rfl⟩

/-- Sub-pipelines in each other, with options of every form: switches, a missing file, a list of texts that
need care, and the largest number of index bits. -/
def everyForm : List Stage :=
  [.nested "builtin.module"
    [.nested "func.func" [.pass (.hardwareAbstraction .inlineStatic ["llvm-cpu", "", "a\"b"])],
      .pass (.schedulingLowering .csv none), .pass (.highLevelOptimization true false true)],
    .pass (.vmLowering { indexBits := 4294967295 }), .pass .dropCompilerHints]

/-- Its form with the tags behind the options and the stages in front of their anchors. -/
def everyFormTurned : Json :=
  .arr [
    .obj [("Nested", .obj [
      ("stages", .arr [
        .obj [("Nested", .obj [
          ("stages", .arr [.obj [("Pass", .obj [("variant", .str "inline-static"),
            ("targets", .arr [.str "llvm-cpu", .str "", .str "a\"b"]),
            ("stage", .str "hardware-abstraction")])]]),
          ("anchor", .str "func.func")])],
        .obj [("Pass", .obj [("dump_statistics_format", .str "csv"), ("dump_statistics_file", .null),
          ("stage", .str "scheduling-lowering")])],
        .obj [("Pass", .obj [("const_eval", .bool true), ("const_expr_hoisting", .bool false),
          ("numeric_precision_reduction", .bool true), ("stage", .str "high-level-optimization")])]]),
      ("anchor", .str "builtin.module")])],
    .obj [("Pass", .obj [("index_bits", .int 4294967295), ("f32_extension", .bool true),
      ("f64_extension", .bool false), ("truncate_unsupported_floats", .bool true),
      ("optimize_for_stack_size", .bool true), ("stage", .str "vm-lowering")])],
    .obj [("Pass", .obj [("stage", .str "drop-compiler-hints")])]]

theorem listOfJson_toJsonList_turned :
    (Json.arr (toJsonList everyForm)).Reorders everyFormTurned ∧
      listOfJson everyFormTurned = .ok everyForm := by
  have hwrapped {name : String} {v w : Json} (h : v.Reorders w) :
      (Json.obj [(name, v)]).Reorders (.obj [(name, w)]) :=
    @Reorders.obj [(name, v)] [(name, w)] _ rfl (.cons h .nil) (.refl _)
  have hpass {f : String × Json} {fields : List (String × Json)} :
      (Json.obj [("Pass", .obj (f :: fields))]).Reorders (.obj [("Pass", .obj (fields ++ [f]))]) :=
    hwrapped (.obj rfl (List.forall₂_same.2 fun v _ => .refl v)
      (List.perm_append_singleton f fields).symm)
  have hnested {anchor : Json} {items items' : List Json} (h : List.Forall₂ Reorders items items') :
      (Json.obj [("Nested", .obj [("anchor", anchor), ("stages", .arr items)])]).Reorders
        (.obj [("Nested", .obj [("stages", .arr items'), ("anchor", anchor)])]) :=
    hwrapped (@Reorders.obj _ [("anchor", anchor), ("stages", .arr items')] _ rfl
      (.cons (.refl anchor) (.cons (.arr h) .nil)) (.swap _ _ _))
  have hturned : (Json.arr (toJsonList everyForm)).Reorders everyFormTurned :=
    .arr (.cons (hnested (.cons (hnested (.cons hpass .nil)) (.cons hpass (.cons hpass .nil))))
      (.cons hpass (.cons hpass .nil)))
  exact ⟨hturned, (listOfJson_toJsonList everyForm everyFormTurned hturned).1⟩

end Stage
end StagedLowering
