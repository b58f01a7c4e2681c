import StagedLowering.Proofs.Options.Environment
import StagedLowering.Proofs.Options.Overlay
import StagedLowering.Proofs.Yaml.Documents

/-! Options survive their file format: what is written is read back field by field, and it is refused
exactly when the groups do not pass their own checks. -/
namespace StagedLowering

namespace Yaml

lemma key_of_allowsPlain {name : String} (h : name.toList ≠ [] ∧ allowsPlain name.toList = true ∧
    name.toList.length ≤ 1024) : Key name :=
  ⟨plain_of_allowsPlain h.1 h.2.1, h.2.2⟩

namespace Value

/-- A text is never taken for a missing value: what could be is written in quotes. -/
lemma absent?_textValue (s : String) : (textValue s).absent? = some false := by
  rw [textValue, textStyle]
  split
  · next h =>
    simp only [Bool.and_eq_true, Bool.not_eq_true', isAmbiguous, Bool.or_eq_false_iff] at h
    obtain ⟨_, ⟨⟨hempty, hnull⟩, _⟩, _⟩ := h
    rw [absent?, hempty, hnull]
    rfl
  · rfl

lemma absent?_map (fields : List (String × Doc)) : (Doc.map fields).value.absent? = some false := by
  rw [Doc.value]
  rfl

lemma option?_eq {α : Type} {read : Value → Option α} {v : Value} (h : v.absent? = some false) :
    v.option? read = (read v).map some := by
  rw [option?, h, Option.map_eq_bind]
  rfl

lemma mapM_text? (items : List String) : (items.map textValue).mapM text? = some items := by
  induction items with
  | nil => rfl
  | cons s items ih =>
    rw [List.map_cons, List.mapM_cons, ih]
    rfl

/-- One entry of a record is read. -/
lemma record?_cons {ρ : Type} {others : Bool} {set : String → Option (Value → ρ → Option ρ)}
    {seen : List String} {name : String} {v : Value} {rest : List (Value × Value)} {r r' : ρ}
    {put : Value → ρ → Option ρ} (hset : set name = some put) (hnew : name ∉ seen)
    (hput : put v r = some r') :
    record? others set seen ((.scalar none .plain name, v) :: rest) r =
      record? others set (name :: seen) rest r' := by
  rw [record?]
  simp only [text?, Option.bind_eq_bind, Option.bind_some, hset, if_neg hnew, hput]

end Value

end Yaml

namespace FieldKind

/-- The texts of a value that users choose. -/
def ownTexts : (k : FieldKind) → k.Value → List String
  | .text, s => [s]
  | .optionalText, s => s.toList
  | .texts, ss => ss
  | _, _ => []

lemma ofYaml?_toYaml {k : FieldKind} {v : k.Value} {d : Yaml.Doc} (h : k.toYaml v = some d) :
    k.ofYaml? d.value = some v := by
  cases k with
  | flag =>
    cases h
    cases v <;> rfl
  | word =>
    cases h
    have hsize : v.toNat < UInt32.size := v.toNat_lt
    change ((some v.toNat.repr).bind Yaml.unsigned?).bind _ = _
    rw [Option.bind_some, Yaml.unsigned?_repr, Option.bind_some, if_pos hsize, UInt32.ofNat_toNat]
    rfl
  | text =>
    cases h
    rfl
  | optionalText =>
    cases v with
    | none => cases h
    | some s =>
      cases h
      exact Yaml.Value.option?_eq (Yaml.Value.absent?_textValue s)
  | texts =>
    cases h
    exact Yaml.Value.mapM_text? v
  | dialect =>
    cases h
    cases v <;> rfl
  | model =>
    cases h
    cases v <;> rfl
  | format =>
    cases h
    cases v <;> rfl

lemma writable_toYaml {k : FieldKind} {v : k.Value} {d : Yaml.Doc} (h : k.toYaml v = some d)
    (htexts : ∀ s ∈ k.ownTexts v, Yaml.Inline s.toList) : d.Writable := by
  cases k with
  | flag =>
    cases h
    cases v <;> exact .word (Yaml.plain_of_allowsPlain (by decide) (by decide))
  | word =>
    cases h
    refine .word ?_
    rw [Nat.toList_repr]
    exact Yaml.plain_of_digits Nat.toDigits_ne_nil fun c hc =>
      Nat.isDigit_of_mem_toDigits (by decide) (by decide) hc
  | text =>
    cases h
    exact .text (htexts v (by simp [ownTexts]))
  | optionalText =>
    cases v with
    | none => cases h
    | some s =>
      cases h
      exact .text (htexts s (by simp [ownTexts]))
  | texts =>
    cases h
    exact .texts htexts
  | dialect =>
    cases h
    cases v <;> exact .text (by decide)
  | model =>
    cases h
    cases v <;> exact .text (by decide)
  | format =>
    cases h
    cases v <;> exact .text (by decide)

end FieldKind

namespace GroupKey

lemma options_ext (k : GroupKey) {o o' : k.Options} (h : ∀ f ∈ k.group.fields, f.get o = f.get o') :
    o = o' := by
  cases k <;> cases o <;> cases o' <;> simpa [group, Bindings.group, InputOptions.group,
    Optimization.group, Scheduling.group, TargetBackend.group, BytecodeTarget.group] using h

/-- A value that is left out is the default of its field. -/
lemma get_initial (k : GroupKey) :
    ∀ f ∈ k.group.fields, ∀ v, f.kind.toYaml v = none → f.get k.group.initial = v := by
  cases k <;> simp [group, Bindings.group, InputOptions.group, Optimization.group, Scheduling.group,
    TargetBackend.group, BytecodeTarget.group, FieldKind.toYaml]

lemma key_name (k : GroupKey) : Yaml.Key k.name := by
  cases k <;> exact Yaml.key_of_allowsPlain (by decide)

lemma key_fieldName (k : GroupKey) : ∀ name ∈ k.group.fieldNames, Yaml.Key name := by
  have hcheck : ∀ name ∈ k.group.fieldNames, name.toList ≠ [] ∧
      Yaml.allowsPlain name.toList = true ∧ name.toList.length ≤ 1024 := by
    cases k <;> decide
  exact fun name hname => Yaml.key_of_allowsPlain (hcheck name hname)

/-- Every group has a field that is always written. -/
lemma toYaml_ne_nil (k : GroupKey) (o : k.Options) : k.group.toYaml o ≠ [] := by
  cases k <;> exact List.cons_ne_nil _ _

end GroupKey

namespace Group

variable {γ : Type} {g : Group γ}

/-- What is written of some fields sets these fields and no others. -/
lemma record?_toYaml (hg : g.Lawful) (o : γ) {fields : List (Field γ)} (seen : List String) (r : γ)
    (hsub : ∀ f ∈ fields, f ∈ g.fields) (hnodup : (fields.map (·.name)).Nodup)
    (hseen : ∀ f ∈ fields, f.name ∉ seen)
    (habsent : ∀ f ∈ fields, f.kind.toYaml (f.get o) = none → f.get r = f.get o) :
    ∃ r', Yaml.Value.record? true
        (fun name => (g.field? name).map fun f v o => (f.kind.ofYaml? v).map (f.set o)) seen
        (Yaml.Doc.fieldValues
          (fields.filterMap fun f => (f.kind.toYaml (f.get o)).map fun d => (f.name, d))) r = some r' ∧
      (∀ f ∈ fields, f.get r' = f.get o) ∧
      ∀ f ∈ g.fields, f.name ∉ fields.map (·.name) → f.get r' = f.get r := by
  induction fields generalizing seen r with
  | nil => exact ⟨r, rfl, fun _ hf => (nomatch hf), fun _ _ _ => rfl⟩
  | cons f fields ih =>
    rw [List.map_cons, List.nodup_cons] at hnodup
    rw [List.forall_mem_cons] at hsub hseen habsent
    obtain ⟨hname, hnodup⟩ := hnodup
    cases hd : f.kind.toYaml (f.get o) with
    | none =>
      -- The field is left out. Nothing later in the record sets it, so it keeps the value that it has.
      obtain ⟨r', hread, hset, hkept⟩ := ih seen r hsub.2 hnodup hseen.2 habsent.2
      refine ⟨r', ?_, List.forall_mem_cons.2 ⟨?_, hset⟩, ?_⟩
      · rw [List.filterMap_cons_none (by rw [hd, Option.map_none])]
        exact hread
      · rw [hkept f hsub.1 hname, habsent.1 hd]
      · intro f' hf' hne
        rw [List.map_cons, List.mem_cons, not_or] at hne
        exact hkept f' hf' hne.2
    | some d =>
      -- The field is set here, and nothing later in the record sets it again.
      have hother {f' : Field γ} (hf' : f' ∈ g.fields) (hne : f'.name ≠ f.name) :
          f'.get (f.set r (f.get o)) = f'.get r :=
        hg.get_set_of_ne f hsub.1 f' hf' hne r (f.get o)
      have hlater {f' : Field γ} (hf' : f' ∈ fields) : f'.name ≠ f.name := fun h =>
        hname (h ▸ List.mem_map_of_mem hf')
      obtain ⟨r', hread, hset, hkept⟩ := ih (f.name :: seen) (f.set r (f.get o)) hsub.2 hnodup
        (fun f' hf' => List.not_mem_cons_of_ne_of_not_mem (hlater hf') (hseen.2 f' hf'))
        (fun f' hf' hnone => (hother (hsub.2 f' hf') (hlater hf')).trans (habsent.2 f' hf' hnone))
      refine ⟨r', ?_, List.forall_mem_cons.2 ⟨?_, hset⟩, ?_⟩
      · rw [List.filterMap_cons_some (by rw [hd, Option.map_some]), Yaml.Doc.fieldValues,
          Yaml.Value.record?_cons (by rw [hg.field?_name hsub.1, Option.map_some]) hseen.1
            (by rw [FieldKind.ofYaml?_toYaml hd, Option.map_some])]
        exact hread
      · rw [hkept f hsub.1 hname, hg.get_set f hsub.1]
      · intro f' hf' hne
        rw [List.map_cons, List.mem_cons, not_or] at hne
        rw [hkept f' hf' hne.2, hother hf' hne.1]

end Group

namespace GroupKey

/-- A group is read back from what is written of it. -/
lemma ofYaml?_toYaml (k : GroupKey) (o : k.Options) :
    k.group.ofYaml? (Yaml.Doc.map (k.group.toYaml o)).value = some o := by
  obtain ⟨o', hread, hset, _⟩ := Group.record?_toYaml k.lawful o [] k.group.initial
    (fun _ hf => hf) k.lawful.nodup (fun _ _ => List.not_mem_nil)
    (fun f hf hnone => k.get_initial f hf (f.get o) hnone)
  obtain rfl : o' = o := k.options_ext hset
  rw [Yaml.Doc.value, Group.ofYaml?, Group.toYaml]
  exact hread

end GroupKey

namespace GivenGroups

/-- A file that gives all groups. -/
def ofGroups (o : OptionGroups) : GivenGroups where
  binding := some o.binding
  inputDialect := some o.inputDialect
  optimization := some o.optimization
  scheduling := some o.scheduling
  targetBackend := some o.targetBackend
  bytecodeTarget := some o.bytecodeTarget

lemma get_ofGroups (o : OptionGroups) (k : GroupKey) : (ofGroups o).get k = some (o.get k) := by
  cases k <;> rfl

lemma validate_ofGroups (o : OptionGroups) : (ofGroups o).validate = o.validate := by
  simp only [validate, OptionGroups.validate, get_ofGroups, Group.validateSome]

/-- What is written of some groups gives these groups. -/
lemma record?_toYaml (o : OptionGroups) {keys : List GroupKey} (seen : List String) (g : GivenGroups)
    (hnodup : keys.Nodup) (hseen : ∀ k ∈ keys, k.name ∉ seen) :
    Yaml.Value.record? false
        (fun name => (GroupKey.ofName? name).map fun k v g =>
          (Yaml.Value.option? k.group.ofYaml? v).map (g.set k)) seen
        (Yaml.Doc.fieldValues (keys.map fun k => (k.name, .map (k.group.toYaml (o.get k))))) g =
      some (keys.foldl (fun g k => g.set k (some (o.get k))) g) := by
  induction keys generalizing seen g with
  | nil => rfl
  | cons k keys ih =>
    rw [List.nodup_cons] at hnodup
    rw [List.forall_mem_cons] at hseen
    have hlater {k' : GroupKey} (hk' : k' ∈ keys) : k'.name ≠ k.name := fun h =>
      hnodup.1 (GroupKey.name_injective h ▸ hk')
    have hread : Yaml.Value.option? k.group.ofYaml? (Yaml.Doc.map (k.group.toYaml (o.get k))).value =
        some (some (o.get k)) := by
      rw [Yaml.Value.option?_eq (Yaml.Value.absent?_map _), k.ofYaml?_toYaml, Option.map_some]
    rw [List.map_cons, Yaml.Doc.fieldValues,
      Yaml.Value.record?_cons (by rw [GroupKey.ofName?_name, Option.map_some]) hseen.1
        (by rw [hread, Option.map_some]),
      ih _ _ hnodup.2 fun k' hk' =>
        List.not_mem_cons_of_ne_of_not_mem (hlater hk') (hseen.2 k' hk')]
    rfl

lemma ofYaml?_toYaml (o : OptionGroups) :
    ofYaml? (Yaml.Doc.map (GroupKey.all.map fun k => (k.name, .map (k.group.toYaml (o.get k))))).value =
      some (ofGroups o) := by
  rw [Yaml.Doc.value, ofYaml?]
  exact record?_toYaml o [] {} (by decide) fun _ _ => List.not_mem_nil

end GivenGroups

namespace Options

/-- What is written of options. -/
def document (o : Options) : List (String × Yaml.Doc) := [
  ("version", .word "1"),
  ("strict_mode", .word (flagText o.strict)),
  ("options", .map (GroupKey.all.map fun k => (k.name, .map (k.group.toYaml (o.groups.get k)))))]

lemma toYaml_eq (o : Options) : o.toYaml = Yaml.write o.document := rfl

lemma ofYaml?_document (o : Options) :
    OptionsFile.ofYaml? (Yaml.Doc.map o.document).value =
      some ⟨1, some o.strict, .ofGroups o.groups⟩ := by
  have hgroups : Yaml.Value.option? GivenGroups.ofYaml? (Yaml.Doc.map
      (GroupKey.all.map fun k => (k.name, .map (k.group.toYaml (o.groups.get k))))).value =
        some (some (.ofGroups o.groups)) := by
    rw [Yaml.Value.option?_eq (Yaml.Value.absent?_map _), GivenGroups.ofYaml?_toYaml, Option.map_some]
  have hstrict : Yaml.Value.option? Yaml.Value.flag? (Yaml.Doc.word (flagText o.strict)).value =
      some (some o.strict) := by
    cases o.strict <;> rfl
  have hversion : (Yaml.Doc.word "1").value.word? = some 1 := rfl
  rw [Yaml.Doc.value, document, Yaml.Doc.fieldValues, Yaml.Doc.fieldValues, Yaml.Doc.fieldValues,
    Yaml.Doc.fieldValues, OptionsFile.ofYaml?]
  simp only [Yaml.Value.pairs?, Option.bind_eq_bind, Option.bind_some]
  rw [Yaml.Value.record?_cons rfl (by decide) (by rw [hversion]; rfl),
    Yaml.Value.record?_cons rfl (by decide) (by rw [hstrict]; rfl),
    Yaml.Value.record?_cons rfl (by decide) (by rw [hgroups]; rfl)]
  rfl

end Options

namespace OptionsFile

variable (origin : String) (g : OptionGroups)

/-- What a file with all groups and the mode gives. -/
lemma load_ofGroups (strict : Bool) : load ⟨1, some strict, .ofGroups g⟩ origin = do
    g.validate
    return GroupKey.all.foldl (overlay origin (.ofGroups g))
      (({ strict } : Options).track Options.strictPath (.yaml origin)) := by
  rw [load, GivenGroups.validate_ofGroups]
  rfl

end OptionsFile

namespace Options

variable {o : Options}

/-- The texts that options hold. -/
def texts (o : Options) : List String :=
  o.groups.targetBackend.targets ++
    [o.groups.targetBackend.legalityKind, o.groups.targetBackend.legalityMarker] ++
    o.groups.scheduling.statisticsFile.toList

lemma mem_texts (k : GroupKey) :
    ∀ f ∈ k.group.fields, ∀ s ∈ f.kind.ownTexts (f.get (o.groups.get k)), s ∈ o.texts := by
  cases k <;> simp +contextual [GroupKey.group, Bindings.group, InputOptions.group, Optimization.group,
    Scheduling.group, TargetBackend.group, BytecodeTarget.group, FieldKind.ownTexts, texts,
    OptionGroups.get]

lemma writable_group (htexts : ∀ s ∈ o.texts, Yaml.Inline s.toList) (k : GroupKey) :
    (Yaml.Doc.map (k.group.toYaml (o.groups.get k))).Writable := by
  have hfield : ∀ p ∈ k.group.toYaml (o.groups.get k), ∃ f ∈ k.group.fields,
      f.kind.toYaml (f.get (o.groups.get k)) = some p.2 ∧ f.name = p.1 := by
    intro p hp
    obtain ⟨f, hf, hentry⟩ := List.mem_filterMap.1 hp
    obtain ⟨d, hd, rfl⟩ := Option.map_eq_some_iff.1 hentry
    exact ⟨f, hf, hd, rfl⟩
  refine .map (k.toYaml_ne_nil _) (fun p hp => ?_) (fun p hp => ?_)
  · obtain ⟨f, hf, _, hname⟩ := hfield p hp
    exact hname ▸ k.key_fieldName f.name (List.mem_map_of_mem hf)
  · obtain ⟨f, hf, hd, _⟩ := hfield p hp
    exact FieldKind.writable_toYaml hd fun s hs => htexts s (mem_texts k f hf s hs)

lemma writable_document (htexts : ∀ s ∈ o.texts, Yaml.Inline s.toList) :
    (Yaml.Doc.map o.document).Writable := by
  have hgroups : (Yaml.Doc.map
      (GroupKey.all.map fun k => (k.name, .map (k.group.toYaml (o.groups.get k))))).Writable := by
    refine .map (List.cons_ne_nil _ _) ?_ ?_
    · intro p hp
      obtain ⟨k, _, rfl⟩ := List.mem_map.1 hp
      exact k.key_name
    · intro p hp
      obtain ⟨k, _, rfl⟩ := List.mem_map.1 hp
      exact writable_group htexts k
  have hstrict : (Yaml.Doc.word (flagText o.strict)).Writable := by
    cases o.strict <;> exact .word (Yaml.plain_of_allowsPlain (by decide) (by decide))
  refine .map (List.cons_ne_nil _ _) ?_ ?_
  · have hcheck : ∀ name ∈ o.document.map Prod.fst, name.toList ≠ [] ∧
        Yaml.allowsPlain name.toList = true ∧ name.toList.length ≤ 1024 := by
      change ∀ name ∈ ["version", "strict_mode", "options"], _
      decide
    exact fun p hp => Yaml.key_of_allowsPlain (hcheck p.1 (List.mem_map_of_mem hp))
  · rw [document, List.forall_mem_cons, List.forall_mem_cons, List.forall_mem_singleton]
    exact ⟨.word (Yaml.plain_of_allowsPlain (by decide) (by decide)), hstrict, hgroups⟩

/-- Options that are written and loaded again: the groups are checked, and each value has the file as
its source. -/
lemma ofYaml_toYaml_eq (origin : String) (htexts : ∀ s ∈ o.texts, Yaml.Inline s.toList) :
    ofYaml o.toYaml origin = do
      o.groups.validate
      return GroupKey.all.foldl (OptionsFile.overlay origin (.ofGroups o.groups))
        (({ strict := o.strict } : Options).track strictPath (.yaml origin)) := by
  rw [ofYaml, toYaml_eq, Yaml.read_write (writable_document htexts), Option.bind_some,
    ofYaml?_document]
  exact OptionsFile.load_ofGroups origin o.groups o.strict

/-- Every value of options that were loaded from a whole file has that file as its source. -/
lemma source_foldl_overlay (origin : String) (g : OptionGroups) (strict : Bool) (s : Slot) :
    (GroupKey.all.foldl (OptionsFile.overlay origin (.ofGroups g))
      (({ strict } : Options).track strictPath (.yaml origin))).provenance.source s.path =
        .yaml origin := by
  cases s with
  | mode =>
    have hown : ¬∃ k ∈ GroupKey.all, ((GivenGroups.ofGroups g).get k).isSome = true ∧
        strictPath = Provenance.groupPath k.name := by
      rintro ⟨k, -, -, h⟩
      exact Slot.mode.path_ne_groupPath k h
    change Provenance.source _ strictPath = _
    rw [Provenance.source_strictPath, OptionsFile.get?_foldl_overlay, if_neg hown, track,
      Dict.get?_insert_self, Option.getD_some]
  | field k f hf =>
    have hown : ¬∃ k' ∈ GroupKey.all, ((GivenGroups.ofGroups g).get k').isSome = true ∧
        k.fieldPath f.name = Provenance.groupPath k'.name := by
      rintro ⟨k', -, -, h⟩
      exact (Slot.field k f hf).path_ne_groupPath k' h
    have hgroup : ∃ k' ∈ GroupKey.all, ((GivenGroups.ofGroups g).get k').isSome = true ∧
        Provenance.groupPath k.name = Provenance.groupPath k'.name :=
      ⟨k, k.mem_all, by rw [GivenGroups.get_ofGroups, Option.isSome_some], rfl⟩
    change Provenance.source _ (k.fieldPath f.name) = _
    rw [Provenance.source_fieldPath, OptionsFile.get?_foldl_overlay, if_neg hown,
      OptionsFile.get?_foldl_overlay, if_pos hgroup, track,
      Dict.get?_insert_ne _ _ (k.fieldPath_ne_strictPath f.name)]
    rfl

/-- Options survive their file format, and a file is refused for the reason for which resolution
refuses the options. -/
theorem ofYaml_toYaml (o : Options) (origin : String)
    (htexts : ∀ s ∈ o.texts, ∀ c ∈ s.toList, 0x20 ≤ c.toNat ∧ c.toNat ≤ 0x7E) :
    ((∃ loaded, ofYaml o.toYaml origin = .ok loaded) ↔
      ∀ k : GroupKey, k.group.validate (o.groups.get k) = .ok ()) ∧
    (∀ loaded, ofYaml o.toYaml origin = .ok loaded → loaded.strict = o.strict ∧
      loaded.groups = o.groups ∧ ∀ s : Slot, loaded.provenance.source s.path = .yaml origin) ∧
    ∀ e, ofYaml o.toYaml origin = .error e →
      o.groups.validate = .error e ∧ ∀ h c, o.resolve h c = .error e := by
  rw [ofYaml_toYaml_eq origin fun s hs => Yaml.inline_of_ascii (htexts s hs)]
  refine ⟨?_, fun loaded h => ?_, fun e h => ?_⟩
  · simp only [Checked.bind_passes]
    rw [← OptionGroups.validate_eq_ok]
    exact ⟨fun ⟨_, _, h, _⟩ => h, fun h => ⟨_, (), h, rfl⟩⟩
  · obtain ⟨_, _, h⟩ := Checked.bind_passes.1 h
    rw [← Except.ok.inj h]
    refine ⟨?_, ?_, source_foldl_overlay origin o.groups o.strict⟩
    · rw [OptionsFile.strict_foldl_overlay]
      rfl
    · rw [OptionsFile.groups_foldl_overlay]
      rfl
  · have hvalidate : o.groups.validate = .error e := by
      rcases Checked.bind_fails.1 h with h | ⟨_, _, h⟩
      · exact h
      · cases h
    refine ⟨hvalidate, fun h c => ?_⟩
    rw [resolve, hvalidate]
    rfl

/-- Texts that would mean something else without quotes. -/
def quoted : Options where
  strict := true
  groups.scheduling.statisticsFile := some "~"
  groups.targetBackend.targets := ["null", "0x1f", "- a", "a: b", "x #y", "tail:", " it's \""]
  groups.targetBackend.legalityKind := "true"
  groups.targetBackend.legalityMarker := "'"

/-- A file without a name does not pass. -/
def nameless : Options where
  groups.scheduling.statisticsFile := some ""

theorem ofYaml_toYaml_quoted :
    (∃ loaded, ofYaml quoted.toYaml "a.yaml" = .ok loaded ∧ loaded.strict = true ∧
      loaded.groups = quoted.groups) ∧
    ∃ e, ofYaml nameless.toYaml "a.yaml" = .error e ∧ nameless.groups.validate = .error e := by
  have hascii {o : Options} (h : o.texts.all (fun s => s.toList.all fun c =>
      0x20 ≤ c.toNat && c.toNat ≤ 0x7E) = true) :
      ∀ s ∈ o.texts, ∀ c ∈ s.toList, 0x20 ≤ c.toNat ∧ c.toNat ≤ 0x7E := by
    simpa only [List.all_eq_true, Bool.and_eq_true, decide_eq_true_eq] using h
  have hquoted := ofYaml_toYaml quoted "a.yaml" (hascii (by decide))
  have hnameless := ofYaml_toYaml nameless "a.yaml" (hascii (by decide))
  obtain ⟨loaded, hloaded⟩ := hquoted.1.2 fun k => by cases k <;> rfl
  obtain ⟨hstrict, hgroups, _⟩ := hquoted.2.1 loaded hloaded
  refine ⟨⟨loaded, hloaded, hstrict, hgroups⟩, ?_⟩
  cases hrefused : ofYaml nameless.toYaml "a.yaml" with
  | error e => exact ⟨e, rfl, (hnameless.2.2 e hrefused).1⟩
  | ok loaded =>
    have hpassed := hnameless.1.1 ⟨loaded, hrefused⟩ .scheduling
    exact absurd hpassed (by decide)

end Options

end StagedLowering
