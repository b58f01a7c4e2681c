import StagedLowering.Proofs.Options.Variables

/-! The environment layer as a whole: which variables it knows, and how the options it gives depend on
the variables, field by field. -/
namespace StagedLowering

/-- The source of a field: its own record, or else that of its group. -/
lemma Provenance.source_fieldPath (p : Provenance) (k : GroupKey) (field : String) :
    p.source (k.fieldPath field) =
      ((p.get? (k.fieldPath field)).or (p.get? (groupPath k.name))).getD .default := by
  rw [source, GroupKey.groupOf?_fieldPath]
  cases p.get? (k.fieldPath field) <;> rfl

lemma Provenance.source_strictPath (p : Provenance) :
    p.source Options.strictPath = (p.get? Options.strictPath).getD .default := by
  rw [source]
  cases p.get? Options.strictPath <;> rfl

lemma invalid_of_parseFlag {field text : String} {e : ConfigError}
    (h : parseFlag field text = .error e) : ∃ fault, e = .invalidValue field text fault := by
  unfold parseFlag at h
  dsimp only at h
  split at h
  · cases h
  · split at h
    · cases h
    · cases h
      exact ⟨_, rfl⟩

lemma Choice.invalid_of_parse {α : Type} [Choice α] {field text : String} {e : ConfigError}
    (h : (Choice.parse field text : Checked α) = .error e) :
    ∃ fault, e = .invalidValue field text fault := by
  unfold Choice.parse at h
  split at h
  · cases h
  · cases h
    exact ⟨_, rfl⟩

/-- A text that is no value of its field is reported under the field's name. -/
lemma FieldKind.invalid_of_parse {k : FieldKind} {field text : String} {e : ConfigError}
    (h : k.parse field text = .error e) : ∃ fault, e = .invalidValue field text fault := by
  cases k with
  | flag =>
    rw [parse] at h
    exact invalid_of_parseFlag h
  | word =>
    rw [parse, parseWord] at h
    split at h
    · cases h
    · cases h
      exact ⟨_, rfl⟩
  | text => cases h
  | optionalText => cases h
  | texts => cases h
  | dialect =>
    rw [parse] at h
    exact Choice.invalid_of_parse h
  | model =>
    rw [parse] at h
    exact Choice.invalid_of_parse h
  | format =>
    rw [parse] at h
    exact Choice.invalid_of_parse h

lemma Slot.invalid_of_parse {s : Slot} {text : String} {e : ConfigError}
    (h : s.parse text = .error e) : ∃ fault, e = .invalidValue s.path text fault := by
  cases s with
  | mode =>
    rw [Slot.parse] at h
    exact invalid_of_parseFlag h
  | field k f hf =>
    rw [Slot.parse] at h
    exact FieldKind.invalid_of_parse h

namespace Options

/-- A variable with this name sets the field: behind the start common to all variables, and in lower
case, it is the group and the field with a double underscore between them. -/
def SetsField (name : String) (k : GroupKey) (field : String) : Prop :=
  ∃ setting, name = variableStart ++ setting ∧ Text.lower setting = k.name ++ "__" ++ field

lemma Names.isSome {name : String} {s : Slot} (h : Names name s) : (settingOf? name).isSome := by
  obtain ⟨setting, hname, _⟩ := h
  rw [settingOf?_eq_some.2 hname]
  rfl

lemma Refused.isSome {v : String × String} {e : ConfigError} (h : Refused v e) :
    (settingOf? v.1).isSome := by
  obtain ⟨setting, hname, _⟩ := h
  rw [settingOf?_eq_some.2 hname]
  rfl

/-- A slot of options from the environment is as the variable with the greatest name among those that
name it says, or has its default. -/
lemma ofVariables_slot {vars : List (String × String)} {o : Options} (h : ofVariables vars = .ok o)
    (s : Slot) :
    ((∀ v ∈ vars, ¬Names v.1 s) ∧ s.get o = s.get {} ∧ o.provenance.get? s.path = none) ∨
      ∃ v ∈ vars, Names v.1 s ∧ (∀ w ∈ vars, Names w.1 s → w.1 ≤ v.1) ∧
        s.parse v.2 = .ok (s.get o) ∧ o.provenance.get? s.path = some (.env v.1) := by
  -- A variable may give way to a later one of the same name, but the name stays.
  have hkept {w : String × String} (hw : w ∈ vars) (hnames : Names w.1 s) :
      ∃ u ∈ (Dict.ofList (vars.filter fun v => (settingOf? v.1).isSome)).entries, u.1 = w.1 := by
    have hmem : w.1 ∈ (vars.filter fun v => (settingOf? v.1).isSome).map (·.1) :=
      List.mem_map_of_mem (List.mem_filter.2 ⟨hw, hnames.isSome⟩)
    rw [← Dict.mem_keys_ofList] at hmem
    exact List.mem_map.1 hmem
  rcases applyVariables_slot (Dict.sorted _) h s with ⟨hnone, hget, hsource⟩ | ⟨v, hv, hnames, hlast, hset⟩
  · refine .inl ⟨fun w hw hnames => ?_, hget, hsource⟩
    obtain ⟨u, hu, hname⟩ := hkept hw hnames
    exact hnone u hu (hname ▸ hnames)
  · refine .inr ⟨v, List.mem_of_mem_filter (Dict.mem_of_mem_ofList hv), hnames, ?_, hset⟩
    intro w hw hw'
    obtain ⟨u, hu, hname⟩ := hkept hw hw'
    exact hname ▸ hlast u hu (hname ▸ hw')

/-- The layer fails with the error of the variable with the least name among those that are refused. -/
lemma ofVariables_error {vars : List (String × String)} {e : ConfigError}
    (hdistinct : (vars.map (·.1)).Nodup) :
    ofVariables vars = .error e ↔
      ∃ v ∈ vars, Refused v e ∧ ∀ w ∈ vars, ∀ e', Refused w e' → v.1 ≤ w.1 := by
  have hentries : ∀ v, v ∈ (Dict.ofList (vars.filter fun v => (settingOf? v.1).isSome)).entries ↔
      v ∈ vars ∧ (settingOf? v.1).isSome := by
    intro v
    have hfiltered : ((vars.filter fun v => (settingOf? v.1).isSome).map (·.1)).Nodup :=
      hdistinct.sublist (List.filter_sublist.map _)
    rw [(Dict.ofList_perm hfiltered).mem_iff, List.mem_filter]
  rw [ofVariables, applyVariables_error (Dict.sorted _)]
  constructor
  · rintro ⟨v, hv, hrefused, hleast⟩
    refine ⟨v, ((hentries v).1 hv).1, hrefused, fun w hw e' hw' => ?_⟩
    exact hleast w ((hentries w).2 ⟨hw, hw'.isSome⟩) e' hw'
  · rintro ⟨v, hv, hrefused, hleast⟩
    refine ⟨v, (hentries v).2 ⟨hv, hrefused.isSome⟩, hrefused, fun w hw e' hw' => ?_⟩
    exact hleast w ((hentries w).1 hw).1 e' hw'

lemma ofVariables_groupPath {vars : List (String × String)} {o : Options}
    (h : ofVariables vars = .ok o) (k : GroupKey) :
    o.provenance.get? (Provenance.groupPath k.name) = none :=
  applyVariables_groupPath h k

/-- Without records for whole groups, every slot has the source of its own record. -/
lemma ofVariables_source {vars : List (String × String)} {o : Options}
    (h : ofVariables vars = .ok o) (s : Slot) :
    o.provenance.source s.path = (o.provenance.get? s.path).getD .default := by
  cases s with
  | mode => exact Provenance.source_strictPath _
  | field k f hf =>
    rw [Slot.path, Provenance.source_fieldPath, ofVariables_groupPath h k, Option.or_none]

/-- Options from the environment, whose names are different: the order of the variables does not matter,
and neither do those of other programs; each field has the value of the variable with the greatest name
among those that set it and remembers that name, or has its default; and an error is that of the
variable with the least name among those that are refused. -/
theorem ofVariables_fieldwise (vars : List (String × String))
    (hdistinct : (vars.map (·.1)).Nodup) :
    (∀ vars', vars.Perm vars' → ofVariables vars' = ofVariables vars) ∧
    (∀ before after name value, (∀ setting, name ≠ variableStart ++ setting) →
      ofVariables (before ++ (name, value) :: after) = ofVariables (before ++ after)) ∧
    (∀ o, ofVariables vars = .ok o → ∀ (k : GroupKey), ∀ f ∈ k.group.fields,
      ((∀ v ∈ vars, ¬SetsField v.1 k f.name) ∧
        f.get (o.groups.get k) = f.get k.group.initial ∧
        o.provenance.source (k.fieldPath f.name) = .default) ∨
      ∃ v ∈ vars, SetsField v.1 k f.name ∧ (∀ w ∈ vars, SetsField w.1 k f.name → w.1 ≤ v.1) ∧
        f.kind.parse (k.fieldPath f.name) v.2 = .ok (f.get (o.groups.get k)) ∧
        o.provenance.source (k.fieldPath f.name) = .env v.1) ∧
    ∀ e, ofVariables vars = .error e ↔
      ∃ v ∈ vars, Refused v e ∧ ∀ w ∈ vars, ∀ e', Refused w e' → v.1 ≤ w.1 := by
  refine ⟨fun vars' hperm => ?_, fun before after name value hother => ?_, ?_,
    fun e => ofVariables_error hdistinct⟩
  · have hfiltered : ((vars.filter fun v => (settingOf? v.1).isSome).map (·.1)).Nodup :=
      hdistinct.sublist (List.filter_sublist.map _)
    rw [ofVariables, ofVariables, Dict.ofList_eq_of_perm hfiltered (hperm.filter _)]
  · have hskipped : (settingOf? name).isSome = false := by
      rw [Option.isSome_eq_false_iff, Option.isNone_iff_eq_none, Option.eq_none_iff_forall_ne_some]
      exact fun setting h => hother setting (settingOf?_eq_some.1 h)
    simp [ofVariables, hskipped]
  · intro o h k f hf
    have hrecord : o.provenance.source (k.fieldPath f.name) = _ := ofVariables_source h (.field k f hf)
    rcases ofVariables_slot h (.field k f hf) with
      ⟨hnone, hget, hsource⟩ | ⟨v, hv, hnames, hlast, hparse, hsource⟩
    · refine .inl ⟨?_, ?_, ?_⟩
      · exact fun v hv hsets => hnone v hv (names_field.2 hsets)
      · cases k <;> exact hget
      · rw [hrecord, hsource]
        rfl
    · refine .inr ⟨v, hv, names_field.1 hnames, ?_, ?_, ?_⟩
      · exact fun w hw hsets => hlast w hw (names_field.2 hsets)
      · rwa [Slot.parse] at hparse
      · rw [hrecord, hsource]
        rfl

/-- Two spellings of one field, a variable of another program, and the mode. -/
def spelledTwice : List (String × String) :=
  [("TENSORVM__binding__tflite", "on"), ("PATH", "/usr/bin"), ("TENSORVM__STRICT_MODE", "yes"),
    ("TENSORVM__BINDING__TFLITE", "0")]

/-- Lower case comes behind upper case, so the first spelling wins, and it does so in either order. -/
theorem ofVariables_fieldwise_spelledTwice :
    (spelledTwice.map (·.1)).Nodup ∧
    ofVariables spelledTwice.reverse = ofVariables spelledTwice ∧
    ∃ o, ofVariables spelledTwice = .ok o ∧ o.groups.binding.tflite = true ∧
      o.provenance.source (GroupKey.binding.fieldPath "tflite") =
        .env "TENSORVM__binding__tflite" := by
  have hdistinct : (spelledTwice.map (·.1)).Nodup := by decide
  obtain ⟨hperm, _, hfields, _⟩ := ofVariables_fieldwise spelledTwice hdistinct
  obtain ⟨o, ho⟩ : ∃ o, ofVariables spelledTwice = .ok o := ⟨_, rfl⟩
  have hlower : SetsField "TENSORVM__binding__tflite" .binding "tflite" :=
    ⟨"binding__tflite", rfl, rfl⟩
  refine ⟨hdistinct, hperm _ (List.reverse_perm _).symm, o, ho, ?_⟩
  rcases hfields o ho .binding _ (List.mem_cons_of_mem _ List.mem_cons_self) with
    ⟨hnone, _⟩ | ⟨v, hv, _, hlast, hparse, hsource⟩
  · exact absurd hlower (hnone _ List.mem_cons_self)
  · have hgreatest : ∀ w ∈ spelledTwice, "TENSORVM__binding__tflite" ≤ w.1 →
        w = ("TENSORVM__binding__tflite", "on") := by decide
    cases hgreatest v hv (hlast _ List.mem_cons_self hlower)
    exact ⟨(Except.ok.inj hparse).symm, hsource⟩

lemma ofVariables_singleton (setting value : String) :
    ofVariables [(variableStart ++ setting, value)] =
      applyVariable {} (variableStart ++ setting) setting value := by
  have hsetting : settingOf? (variableStart ++ setting) = some setting :=
    settingOf?_eq_some.2 rfl
  have hentries : (Dict.ofList [(variableStart ++ setting, value)]).entries =
      [(variableStart ++ setting, value)] := rfl
  simp only [ofVariables, List.filter_cons, List.filter_nil, hsetting, Option.isSome_some, if_true,
    hentries, applyVariables]
  cases applyVariable {} (variableStart ++ setting) setting value with
  | error e => rfl
  | ok o => rfl

/-- The settings that name a slot. -/
lemma slotOf_isOk {setting : String} :
    (∃ s, slotOf setting = .ok s) ↔
      Text.lower setting = "strict_mode" ∨ Text.lower setting = "strict_mode__" ∨
        ∃ k : GroupKey, ∃ field ∈ k.group.fieldNames,
          Text.lower setting = k.name ++ "__" ++ field := by
  constructor
  · rintro ⟨s, hs⟩
    cases s with
    | mode => exact (slotOf_eq_mode.1 hs).imp_right .inl
    | field k f hf =>
      exact .inr (.inr ⟨k, f.name, List.mem_map_of_mem hf, slotOf_eq_field.1 hs⟩)
  · rintro (h | h | ⟨k, field, hfield, h⟩)
    · exact ⟨.mode, slotOf_eq_mode.2 (.inl h)⟩
    · exact ⟨.mode, slotOf_eq_mode.2 (.inr h)⟩
    · obtain ⟨f, hf, rfl⟩ := List.mem_map.1 hfield
      exact ⟨.field k f hf, slotOf_eq_field.2 h⟩

/-- A variable of the program is unknown unless its name, in lower case, is that of the mode or of a field
of a group. The mode also goes by its name with a double underscore behind it. -/
theorem unknownField_iff (setting value : String) :
    (∃ field group valid, ofVariables [(variableStart ++ setting, value)] =
        .error (.unknownField field group valid)) ↔
      ¬(Text.lower setting = "strict_mode" ∨ Text.lower setting = "strict_mode__" ∨
        ∃ k : GroupKey, ∃ field ∈ k.group.fieldNames,
          Text.lower setting = k.name ++ "__" ++ field) := by
  rw [← slotOf_isOk, ofVariables_singleton, applyVariable_eq]
  cases hslot : slotOf setting with
  | error e =>
    obtain ⟨field, group, valid, rfl⟩ := unknown_of_slotOf hslot
    simp
  | ok s =>
    refine ⟨fun ⟨field, group, valid, h⟩ => ?_, fun h => absurd ⟨s, rfl⟩ h⟩
    rw [Checked.ok_bind, Checked.bind_fails] at h
    rcases h with h | ⟨v, _, h⟩
    · -- The value may be refused, but not as an unknown field.
      obtain ⟨fault, hfault⟩ := Slot.invalid_of_parse h
      cases hfault
    · cases h

/-- The name of the mode with a double underscore behind it is accepted, though it is neither the name of
the mode nor that of a field. -/
theorem mode_accepted_with_separator :
    (∃ o, ofVariables [("TENSORVM__STRICT_MODE__", "true")] = .ok o ∧ o.strict = true) ∧
      "TENSORVM__STRICT_MODE__" = variableStart ++ "STRICT_MODE__" ∧
      Text.lower "STRICT_MODE__" ≠ "strict_mode" ∧
      ∀ k : GroupKey, ∀ field ∈ k.group.fieldNames,
        Text.lower "STRICT_MODE__" ≠ k.name ++ "__" ++ field := by
  have hlower : Text.lower "STRICT_MODE__" = "strict_mode__" := rfl
  refine ⟨⟨_, rfl, rfl⟩, rfl, ?_, fun k => ?_⟩
  · rw [hlower]
    decide
  · rw [hlower]
    cases k <;> decide

end Options
end StagedLowering
