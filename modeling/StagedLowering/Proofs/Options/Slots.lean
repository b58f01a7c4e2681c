import Mathlib.Data.List.Nodup
import StagedLowering.Options.Basic

/-! Slots: the values of options that are set one at a time, which are the mode and the fields of the
groups. Each has a path of its own, and setting one leaves the others as they are. -/
namespace StagedLowering

/-- The path of a field. -/
def GroupKey.fieldPath (k : GroupKey) (field : String) : String := k.name ++ "." ++ field

namespace Group

variable {γ : Type}

/-- Fields with different names hold different parts of a group. -/
structure Lawful (g : Group γ) : Prop where
  nodup : g.fieldNames.Nodup
  get_set : ∀ f ∈ g.fields, ∀ (o : γ) (v : f.kind.Value), f.get (f.set o v) = v
  get_set_of_ne : ∀ f ∈ g.fields, ∀ f' ∈ g.fields, f'.name ≠ f.name →
    ∀ (o : γ) (v : f.kind.Value), f'.get (f.set o v) = f'.get o

lemma field?_eq_some {g : Group γ} {name : String} {f : Field γ} (h : g.field? name = some f) :
    f ∈ g.fields ∧ f.name = name :=
  ⟨List.mem_of_find?_eq_some h, by simpa using List.find?_some h⟩

lemma Lawful.eq_of_name_eq {g : Group γ} (hg : g.Lawful) {f f' : Field γ} (hf : f ∈ g.fields)
    (hf' : f' ∈ g.fields) (h : f.name = f'.name) : f = f' :=
  List.inj_on_of_nodup_map hg.nodup hf hf' h

lemma Lawful.field?_name {g : Group γ} (hg : g.Lawful) {f : Field γ} (hf : f ∈ g.fields) :
    g.field? f.name = some f := by
  cases hfound : g.field? f.name with
  | none =>
    have hnone := List.find?_eq_none.1 hfound f hf
    simp at hnone
  | some f' =>
    obtain ⟨hf', hname⟩ := field?_eq_some hfound
    rw [hg.eq_of_name_eq hf' hf hname]

end Group

namespace GroupKey

lemma lawful (k : GroupKey) : k.group.Lawful := by
  cases k <;> constructor <;> simp [group, Group.fieldNames, Bindings.group, InputOptions.group,
    Optimization.group, Scheduling.group, TargetBackend.group, BytecodeTarget.group]

lemma mem_all (k : GroupKey) : k ∈ all := by
  cases k <;> decide

@[simp] lemma ofName?_name (k : GroupKey) : ofName? k.name = some k := by
  cases k <;> rfl

lemma ofName?_eq_some {s : String} {k : GroupKey} : ofName? s = some k ↔ s = k.name := by
  constructor
  · intro h
    have hname := List.find?_some h
    exact (by simpa using hname : k.name = s).symm
  · rintro rfl
    exact ofName?_name k

lemma name_injective {k k' : GroupKey} (h : k.name = k'.name) : k = k' := by
  have hk := ofName?_name k
  rw [h, ofName?_name] at hk
  exact (Option.some.inj hk).symm

lemma point_not_mem_name (k : GroupKey) : '.' ∉ k.name.toList := by
  cases k <;> decide

/-- No field has the name that stands for all of them. -/
lemma star_not_mem (k : GroupKey) : "*" ∉ k.group.fieldNames := by
  cases k <;> decide

lemma blank_not_mem (k : GroupKey) : "" ∉ k.group.fieldNames := by
  cases k <;> decide

lemma groupOf?_fieldPath (k : GroupKey) (field : String) :
    Provenance.groupOf? (k.fieldPath field) = some k.name := by
  have hstop : ∀ c ∈ k.name.toList, decide (c ≠ '.') = true := fun c hc =>
    decide_eq_true fun h => k.point_not_mem_name (h ▸ hc)
  simp only [Provenance.groupOf?, fieldPath, String.toList_append]
  rw [if_pos (by simp), List.append_assoc, List.takeWhile_append_of_pos hstop]
  simp

lemma fieldPath_inj {k k' : GroupKey} {field field' : String} :
    k.fieldPath field = k'.fieldPath field' ↔ k = k' ∧ field = field' := by
  constructor
  · intro h
    have hgroup := congrArg Provenance.groupOf? h
    rw [groupOf?_fieldPath, groupOf?_fieldPath] at hgroup
    obtain rfl := name_injective (Option.some.inj hgroup)
    exact ⟨rfl, by simpa [fieldPath] using h⟩
  · rintro ⟨rfl, rfl⟩
    rfl

/-- The record of a whole group has the form of a field's. -/
lemma groupPath_eq (k : GroupKey) : Provenance.groupPath k.name = k.fieldPath "*" := by
  rw [fieldPath, String.append_assoc]
  rfl

lemma fieldPath_ne_strictPath (k : GroupKey) (field : String) :
    k.fieldPath field ≠ Options.strictPath := by
  intro h
  have hgroup := congrArg Provenance.groupOf? h
  rw [groupOf?_fieldPath] at hgroup
  exact absurd hgroup (by simp [Provenance.groupOf?, Options.strictPath])

end GroupKey

namespace OptionGroups

@[simp] lemma get_set (o : OptionGroups) (k : GroupKey) (v : k.Options) :
    (o.set k v).get k = v := by
  cases k <;> rfl

lemma get_set_of_ne (o : OptionGroups) {k k' : GroupKey} (h : k' ≠ k) (v : k.Options) :
    (o.set k v).get k' = o.get k' := by
  cases k <;> cases k' <;> trivial

end OptionGroups

/-- A value that is set by itself: the mode, or a field of a group. -/
inductive Slot where
  | mode
  | field (k : GroupKey) (f : Field k.Options) (h : f ∈ k.group.fields)

namespace Slot

@[reducible] def Value : Slot → Type
  | .mode => Bool
  | .field _ f _ => f.kind.Value

def path : Slot → String
  | .mode => Options.strictPath
  | .field k f _ => k.fieldPath f.name

def get (o : Options) : (s : Slot) → s.Value
  | .mode => o.strict
  | .field k f _ => f.get (o.groups.get k)

def set (o : Options) : (s : Slot) → s.Value → Options
  | .mode, v => { o with strict := v }
  | .field k f _, v => { o with groups := o.groups.set k (f.set (o.groups.get k) v) }

/-- The value that a text given by hand means. -/
def parse (text : String) : (s : Slot) → Checked s.Value
  | .mode => parseFlag Options.strictPath text
  | .field k f _ => f.kind.parse (k.fieldPath f.name) text

lemma path_injective {s s' : Slot} (h : s.path = s'.path) : s = s' := by
  cases s with
  | mode =>
    cases s' with
    | mode => rfl
    | field k f hf => exact absurd h.symm (k.fieldPath_ne_strictPath f.name)
  | field k f hf =>
    cases s' with
    | mode => exact absurd h (k.fieldPath_ne_strictPath f.name)
    | field k' f' hf' =>
      obtain ⟨rfl, hname⟩ := GroupKey.fieldPath_inj.1 h
      obtain rfl := k.lawful.eq_of_name_eq hf hf' hname
      rfl

/-- The record of a whole group belongs to no slot. -/
lemma path_ne_groupPath (s : Slot) (k : GroupKey) : s.path ≠ Provenance.groupPath k.name := by
  intro h
  rw [GroupKey.groupPath_eq] at h
  cases s with
  | mode => exact absurd h.symm (k.fieldPath_ne_strictPath "*")
  | field k' f hf =>
    have hname : f.name = "*" := (GroupKey.fieldPath_inj.1 h).2
    exact k'.star_not_mem (hname ▸ List.mem_map_of_mem hf)

@[simp] lemma get_track (o : Options) (path : String) (source : OptionSource) (s : Slot) :
    s.get (o.track path source) = s.get o := by
  cases s <;> rfl

lemma get_set (o : Options) (s : Slot) (v : s.Value) : s.get (s.set o v) = v := by
  cases s with
  | mode => rfl
  | field k f hf =>
    change f.get ((o.groups.set k _).get k) = v
    rw [OptionGroups.get_set]
    exact k.lawful.get_set f hf _ v

lemma get_set_of_ne (o : Options) {s s' : Slot} (h : s' ≠ s) (v : s.Value) :
    s'.get (s.set o v) = s'.get o := by
  cases s with
  | mode =>
    cases s' with
    | mode => exact absurd rfl h
    | field k' f' hf' => rfl
  | field k f hf =>
    cases s' with
    | mode => rfl
    | field k' f' hf' =>
      change f'.get ((o.groups.set k _).get k') = f'.get (o.groups.get k')
      by_cases hk : k' = k
      · -- Within one group, slots differ only in the names of their fields.
        subst hk
        have hname : f'.name ≠ f.name := fun hname =>
          h (path_injective (congrArg k'.fieldPath hname))
        rw [OptionGroups.get_set]
        exact k'.lawful.get_set_of_ne f hf f' hf' hname _ v
      · rw [OptionGroups.get_set_of_ne _ hk]

end Slot
end StagedLowering
