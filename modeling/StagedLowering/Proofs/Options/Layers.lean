import Mathlib.Data.List.Induction
import StagedLowering.Proofs.Options.Environment

/-! The sources of options that come from the environment and are then changed in code. A call in code
leaves one record for all fields of its group, and such a record stands behind those of single fields. -/
namespace StagedLowering.Options

/-- A change made in code. -/
inductive Call where
  | strict (on : Bool)
  | group (k : GroupKey) (f : k.Options → k.Options)

namespace Call

def make (o : Options) : Call → Options
  | .strict on => o.withStrict on
  | .group k f => o.update k f

/-- Makes changes one after the other. -/
def makeAll (o : Options) (calls : List Call) : Options := calls.foldl make o

/-- Where a change leaves its record. -/
def path : Call → String
  | .strict _ => strictPath
  | .group k _ => Provenance.groupPath k.name

lemma make_provenance (o : Options) (c : Call) :
    (c.make o).provenance = o.provenance.insert c.path .builder := by
  cases c <;> rfl

lemma get?_makeAll_of_mem {o : Options} {calls : List Call} {path : String}
    (h : ∃ c ∈ calls, c.path = path) :
    (makeAll o calls).provenance.get? path = some .builder := by
  -- From the last call on, since a later record replaces an earlier one.
  induction calls using List.reverseRecOn with
  | nil => simp at h
  | append_singleton calls c ih =>
    rw [makeAll, List.foldl_append, List.foldl_cons, List.foldl_nil, make_provenance]
    by_cases hc : path = c.path
    · rw [hc, Dict.get?_insert_self]
    · rw [Dict.get?_insert_ne _ _ hc]
      obtain ⟨c', hc', hpath⟩ := h
      rcases List.mem_append.1 hc' with hc' | hc'
      · exact ih ⟨c', hc', hpath⟩
      · rw [List.mem_singleton.1 hc'] at hpath
        exact absurd hpath.symm hc

lemma get?_makeAll_of_not_mem {o : Options} {calls : List Call} {path : String}
    (h : ∀ c ∈ calls, c.path ≠ path) :
    (makeAll o calls).provenance.get? path = o.provenance.get? path := by
  induction calls generalizing o with
  | nil => rfl
  | cons c calls ih =>
    obtain ⟨hc, hcalls⟩ := List.forall_mem_cons.1 h
    rw [makeAll, List.foldl_cons]
    change (makeAll (c.make o) calls).provenance.get? path = _
    rw [ih hcalls, make_provenance, Dict.get?_insert_ne _ _ hc.symm]

/-- No change in code leaves a record for a single field. -/
lemma path_ne_field (c : Call) (k : GroupKey) {f : Field k.Options} (hf : f ∈ k.group.fields) :
    c.path ≠ k.fieldPath f.name := by
  cases c with
  | strict on => exact (k.fieldPath_ne_strictPath f.name).symm
  | group k' g => exact ((Slot.field k f hf).path_ne_groupPath k').symm

lemma path_eq_groupPath {c : Call} {k : GroupKey} :
    c.path = Provenance.groupPath k.name ↔ ∃ f, c = .group k f := by
  constructor
  · intro h
    cases c with
    | strict on =>
      rw [GroupKey.groupPath_eq] at h
      exact absurd h.symm (k.fieldPath_ne_strictPath "*")
    | group k' f =>
      rw [path, GroupKey.groupPath_eq, GroupKey.groupPath_eq] at h
      obtain ⟨rfl, _⟩ := GroupKey.fieldPath_inj.1 h
      exact ⟨f, rfl⟩
  · rintro ⟨f, rfl⟩
    rfl

/-- A change to a group leaves a record for it. -/
lemma get?_makeAll_group (o : Options) {calls : List Call} {k : GroupKey}
    (h : ∃ g, Call.group k g ∈ calls) :
    (makeAll o calls).provenance.get? (Provenance.groupPath k.name) = some .builder := by
  obtain ⟨g, hg⟩ := h
  exact get?_makeAll_of_mem ⟨_, hg, rfl⟩

lemma path_eq_strictPath {c : Call} : c.path = strictPath ↔ ∃ on, c = .strict on := by
  constructor
  · intro h
    cases c with
    | strict on => exact ⟨on, rfl⟩
    | group k f =>
      rw [path, GroupKey.groupPath_eq] at h
      exact absurd h (k.fieldPath_ne_strictPath "*")
  · rintro ⟨on, rfl⟩
    rfl

end Call

/-- A variable with this name sets the mode. -/
def SetsMode (name : String) : Prop :=
  ∃ setting, name = variableStart ++ setting ∧
    (Text.lower setting = "strict_mode" ∨ Text.lower setting = "strict_mode__")

section Calls

variable {vars : List (String × String)} {o : Options} (h : ofVariables vars = .ok o)
  (calls : List Call)
include h

/-- A field that a variable set keeps that source, whatever is changed in code; the others have the
source of their group. -/
lemma source_field (k : GroupKey) {f : Field k.Options} (hf : f ∈ k.group.fields) :
    (∃ v ∈ vars, SetsField v.1 k f.name ∧ (∀ w ∈ vars, SetsField w.1 k f.name → w.1 ≤ v.1) ∧
        (Call.makeAll o calls).provenance.source (k.fieldPath f.name) = .env v.1) ∨
      (∀ v ∈ vars, ¬SetsField v.1 k f.name) ∧
        (Call.makeAll o calls).provenance.source (k.fieldPath f.name) =
          ((Call.makeAll o calls).provenance.get? (Provenance.groupPath k.name)).getD .default := by
  -- Changes in code leave records for whole groups, and the field's own record comes before them.
  have hown : (Call.makeAll o calls).provenance.get? (k.fieldPath f.name) =
      o.provenance.get? (k.fieldPath f.name) :=
    Call.get?_makeAll_of_not_mem fun c _ => c.path_ne_field k hf
  rw [Provenance.source_fieldPath, hown]
  rcases ofVariables_slot h (.field k f hf) with
    ⟨hnone, _, hsource⟩ | ⟨v, hv, hnames, hlast, _, hsource⟩
  · refine .inr ⟨fun v hv hsets => hnone v hv (names_field.2 hsets), ?_⟩
    rw [Slot.path] at hsource
    rw [hsource, Option.none_or]
  · refine .inl ⟨v, hv, names_field.1 hnames, ?_, ?_⟩
    · exact fun w hw hsets => hlast w hw (names_field.2 hsets)
    · rw [Slot.path] at hsource
      rw [hsource]
      rfl

lemma get?_makeAll_not_group {k : GroupKey} (hcalled : ∀ g, Call.group k g ∉ calls) :
    (Call.makeAll o calls).provenance.get? (Provenance.groupPath k.name) = none := by
  rw [Call.get?_makeAll_of_not_mem, ofVariables_groupPath h k]
  intro c hc hpath
  obtain ⟨g, rfl⟩ := Call.path_eq_groupPath.1 hpath
  exact hcalled g hc

/-- The mode has the source of the last layer that set it. -/
lemma source_mode :
    ((∃ on, Call.strict on ∈ calls) →
        (Call.makeAll o calls).provenance.source strictPath = .builder) ∧
      ((∀ on, Call.strict on ∉ calls) →
        (∃ v ∈ vars, SetsMode v.1 ∧ (∀ w ∈ vars, SetsMode w.1 → w.1 ≤ v.1) ∧
          (Call.makeAll o calls).provenance.source strictPath = .env v.1) ∨
        (∀ v ∈ vars, ¬SetsMode v.1) ∧
          (Call.makeAll o calls).provenance.source strictPath = .default) := by
  rw [Provenance.source_strictPath]
  constructor
  · rintro ⟨on, hon⟩
    have hown : (Call.makeAll o calls).provenance.get? strictPath = some .builder :=
      Call.get?_makeAll_of_mem ⟨_, hon, rfl⟩
    rw [hown]
    rfl
  · intro hcalled
    have hown : (Call.makeAll o calls).provenance.get? strictPath =
        o.provenance.get? strictPath := by
      refine Call.get?_makeAll_of_not_mem fun c hc hpath => ?_
      obtain ⟨on, rfl⟩ := Call.path_eq_strictPath.1 hpath
      exact hcalled on hc
    rw [hown]
    rcases ofVariables_slot h .mode with ⟨hnone, _, hsource⟩ | ⟨v, hv, hnames, hlast, _, hsource⟩
    · refine .inr ⟨fun v hv hsets => hnone v hv (names_mode.2 hsets), ?_⟩
      rw [Slot.path] at hsource
      rw [hsource]
      rfl
    · refine .inl ⟨v, hv, names_mode.1 hnames, ?_, ?_⟩
      · exact fun w hw hsets => hlast w hw (names_mode.2 hsets)
      · rw [Slot.path] at hsource
        rw [hsource]
        rfl

end Calls

/-- Sources after variables and then changes in code. A field that variables set has the greatest of their
names as its source; another one has the code as its source if its group was changed there, and the
default if not. The mode has the code as its source if it was set there, or else the greatest name of a
variable that set it, or else the default. So a field that variables set and the code then set anew has its
value from the code, but its source is a variable. -/
theorem source_after_calls (vars : List (String × String)) (o : Options)
    (h : ofVariables vars = .ok o) (calls : List Call) :
    (∀ (k : GroupKey), ∀ field ∈ k.group.fieldNames,
      (∃ v ∈ vars, SetsField v.1 k field ∧ (∀ w ∈ vars, SetsField w.1 k field → w.1 ≤ v.1) ∧
        (Call.makeAll o calls).provenance.source (k.fieldPath field) = .env v.1) ∨
      (∀ v ∈ vars, ¬SetsField v.1 k field) ∧
        ((∃ g, Call.group k g ∈ calls) →
          (Call.makeAll o calls).provenance.source (k.fieldPath field) = .builder) ∧
        ((∀ g, Call.group k g ∉ calls) →
          (Call.makeAll o calls).provenance.source (k.fieldPath field) = .default)) ∧
    ((∃ on, Call.strict on ∈ calls) →
      (Call.makeAll o calls).provenance.source strictPath = .builder) ∧
    ((∀ on, Call.strict on ∉ calls) →
      (∃ v ∈ vars, SetsMode v.1 ∧ (∀ w ∈ vars, SetsMode w.1 → w.1 ≤ v.1) ∧
        (Call.makeAll o calls).provenance.source strictPath = .env v.1) ∨
      (∀ v ∈ vars, ¬SetsMode v.1) ∧
        (Call.makeAll o calls).provenance.source strictPath = .default) := by
  refine ⟨fun k field hfield => ?_, source_mode h calls⟩
  obtain ⟨f, hf, rfl⟩ := List.mem_map.1 hfield
  refine (source_field h calls k hf).imp_right fun ⟨hnone, hsource⟩ => ⟨hnone, ?_, ?_⟩
  · intro hcalled
    rw [hsource, Call.get?_makeAll_group o hcalled]
    rfl
  · intro hcalled
    rw [hsource, get?_makeAll_not_group h calls hcalled]
    rfl

/-- The model set by a variable, and then in code together with the mode: the value is that of the code,
and only the mode says so. -/
theorem source_after_calls_model :
    ∃ o, ofVariables [("TENSORVM__SCHEDULING__EXECUTION_MODEL", "host-only")] = .ok o ∧
      let changed := Call.makeAll o
        [.group .scheduling fun s => { s with model := .inlineStatic }, .strict true]
      changed.groups.scheduling.model = .inlineStatic ∧
      changed.provenance.source strictPath = .builder ∧
      changed.provenance.source (GroupKey.scheduling.fieldPath "execution_model") =
        .env "TENSORVM__SCHEDULING__EXECUTION_MODEL" := by
  obtain ⟨o, ho⟩ : ∃ o, ofVariables
      [("TENSORVM__SCHEDULING__EXECUTION_MODEL", "host-only")] = .ok o := ⟨_, rfl⟩
  have hsets : SetsField "TENSORVM__SCHEDULING__EXECUTION_MODEL" .scheduling "execution_model" :=
    ⟨"SCHEDULING__EXECUTION_MODEL", rfl, rfl⟩
  obtain ⟨hfields, hmode, _⟩ := source_after_calls _ o ho
    [.group .scheduling fun s => { s with model := .inlineStatic }, .strict true]
  refine ⟨o, ho, rfl, hmode ⟨true, by simp⟩, ?_⟩
  rcases hfields .scheduling "execution_model" List.mem_cons_self with
    ⟨v, hv, _, _, hsource⟩ | ⟨hnone, _⟩
  · rwa [List.mem_singleton.1 hv] at hsource
  · exact absurd hsets (hnone _ List.mem_cons_self)

/-- The source of a field is not always the layer that set it last: behind a change in code, a variable that
set the field before is still its source. -/
theorem variable_outlasts_call :
    ¬∀ (vars : List (String × String)) (o : Options) (calls : List Call) (k : GroupKey),
      ∀ field ∈ k.group.fieldNames, ofVariables vars = .ok o → (∃ g, Call.group k g ∈ calls) →
        (Call.makeAll o calls).provenance.source (k.fieldPath field) = .builder := by
  intro hall
  have hbuilder := hall [("TENSORVM__SCHEDULING__EXECUTION_MODEL", "host-only")] _
    [.group .scheduling fun s => { s with model := .inlineStatic }] .scheduling "execution_model"
    List.mem_cons_self rfl ⟨_, List.mem_singleton_self _⟩
  exact absurd hbuilder (by decide)

end StagedLowering.Options
