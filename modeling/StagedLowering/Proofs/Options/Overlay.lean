import StagedLowering.Options.Yaml
import StagedLowering.Proofs.Options.Slots
import StagedLowering.Proofs.Resolution

/-! Files over defaults. A file gives some of the groups, which are checked when it is loaded; the others
keep their defaults, which pass their own checks. So options from a file can only be refused for what
they ask of the installation or of each other. -/
namespace StagedLowering

namespace GroupKey

/-- A check of every group passes when each of them does. -/
lemma forM_eq_ok {check : GroupKey → Checked Unit} :
    all.forM check = .ok () ↔ ∀ k, check k = .ok () := by
  have hall (keys : List GroupKey) : keys.forM check = .ok () ↔ ∀ k ∈ keys, check k = .ok () := by
    induction keys with
    | nil => exact ⟨fun _ _ hk => (nomatch hk), fun _ => rfl⟩
    | cons k keys ih =>
      rw [List.forM_eq_forM, List.forM_cons, Checked.bind_passes, List.forall_mem_cons]
      exact ⟨fun ⟨_, h, hs⟩ => ⟨h, ih.1 hs⟩, fun ⟨h, hs⟩ => ⟨(), h, ih.2 hs⟩⟩
  rw [hall]
  exact ⟨fun h k => h k k.mem_all, fun h k _ => h k⟩

/-- Defaults pass their own checks. -/
lemma validate_initial (k : GroupKey) : k.group.validate k.group.initial = .ok () := by
  cases k <;> decide

end GroupKey

/-- The groups pass together when each passes. -/
lemma OptionGroups.validate_eq_ok {g : OptionGroups} :
    g.validate = .ok () ↔ ∀ k : GroupKey, k.group.validate (g.get k) = .ok () :=
  GroupKey.forM_eq_ok

/-- The given groups pass together when each passes. -/
lemma GivenGroups.validate_eq_ok {g : GivenGroups} :
    g.validate = .ok () ↔ ∀ (k : GroupKey) (v : k.Options), g.get k = some v →
      k.group.validate v = .ok () := by
  rw [validate, GroupKey.forM_eq_ok]
  refine forall_congr' fun k => ?_
  cases g.get k with
  | none => simp [Group.validateSome]
  | some v => simp [Group.validateSome]

namespace OptionsFile

section Overlay

variable (origin : String) (g : GivenGroups)

lemma strict_foldl_overlay (keys : List GroupKey) (o : Options) :
    (keys.foldl (overlay origin g) o).strict = o.strict := by
  induction keys generalizing o with
  | nil => rfl
  | cons k keys ih =>
    rw [List.foldl_cons, ih, overlay]
    cases g.get k <;> rfl

lemma groups_foldl_overlay (keys : List GroupKey) (o : Options) :
    (keys.foldl (overlay origin g) o).groups =
      keys.foldl (fun a k => (g.get k).elim a (a.set k)) o.groups := by
  induction keys generalizing o with
  | nil => rfl
  | cons k keys ih =>
    rw [List.foldl_cons, ih, overlay]
    cases hk : g.get k <;> simp [hk, Options.track]

/-- A given group takes the place of what was there. -/
lemma get_elim_set (a : OptionGroups) (k k' : GroupKey) : ((g.get k').elim a (a.set k')).get k =
    if k = k' then (g.get k).getD (a.get k) else a.get k := by
  by_cases hk : k = k'
  · subst hk
    cases g.get k <;> simp
  · rw [if_neg hk]
    cases g.get k' with
    | none => rfl
    | some v => exact a.get_set_of_ne hk v

lemma get_foldl_elim (keys : List GroupKey) (a : OptionGroups) (k : GroupKey) :
    (keys.foldl (fun a k => (g.get k).elim a (a.set k)) a).get k =
      if k ∈ keys then (g.get k).getD (a.get k) else a.get k := by
  induction keys generalizing a with
  | nil => simp
  | cons k' keys ih =>
    rw [List.foldl_cons, ih, get_elim_set]
    by_cases hk : k = k'
    · cases g.get k <;> simp [hk]
    · simp [hk]

/-- Overlaying a group records it if it is given. -/
lemma get?_overlay (o : Options) (k : GroupKey) (path : String) :
    (overlay origin g o k).provenance.get? path =
      if (g.get k).isSome = true ∧ path = Provenance.groupPath k.name then some (.yaml origin)
      else o.provenance.get? path := by
  rw [overlay]
  cases g.get k with
  | none => simp
  | some v =>
    by_cases hpath : path = Provenance.groupPath k.name
    · simp [Options.track, hpath, Dict.get?_insert_self]
    · simp [Options.track, hpath, Dict.get?_insert_ne]

/-- Overlaying groups records each that is given, and nothing else. -/
lemma get?_foldl_overlay (keys : List GroupKey) (o : Options) (path : String) :
    (keys.foldl (overlay origin g) o).provenance.get? path =
      if ∃ k ∈ keys, (g.get k).isSome = true ∧ path = Provenance.groupPath k.name then
        some (.yaml origin)
      else o.provenance.get? path := by
  induction keys generalizing o with
  | nil => simp
  | cons k keys ih =>
    rw [List.foldl_cons, ih, get?_overlay]
    by_cases hk : (g.get k).isSome = true ∧ path = Provenance.groupPath k.name
    · simp [hk]
    · simp [hk]

end Overlay

variable (f : OptionsFile) (origin : String)

/-- The defaults with the mode, if the file gives one. -/
def start : Options :=
  match f.strict with
  | some strict => ({ strict } : Options).track Options.strictPath (.yaml origin)
  | none => {}

/-- The options of a file whose groups pass. -/
def overlaid : Options := GroupKey.all.foldl (overlay origin f.groups) (f.start origin)

lemma load_eq : f.load origin =
    if f.version = 1 then f.groups.validate >>= fun _ => .ok (f.overlaid origin)
    else .error (.unsupportedVersion f.version supported) := by
  by_cases hversion : f.version = 1
  · rw [if_pos hversion, load, if_neg (by simp [hversion, supported])]
    rfl
  · rw [if_neg hversion, load, if_pos (by simp [hversion, supported])]
    rfl

/-- A file is loaded when it has the version that is known and the groups it gives pass. -/
lemma load_eq_ok {o : Options} : f.load origin = .ok o ↔
    (f.version = 1 ∧ ∀ (k : GroupKey) (v : k.Options), f.groups.get k = some v →
      k.group.validate v = .ok ()) ∧ o = f.overlaid origin := by
  rw [load_eq, ← GivenGroups.validate_eq_ok]
  by_cases hversion : f.version = 1
  · rw [if_pos hversion, Checked.bind_passes]
    constructor
    · rintro ⟨_, hvalid, ho⟩
      exact ⟨⟨hversion, hvalid⟩, (Except.ok.inj ho).symm⟩
    · rintro ⟨⟨-, hvalid⟩, rfl⟩
      exact ⟨(), hvalid, rfl⟩
  · rw [if_neg hversion]
    exact ⟨fun h => (nomatch h), fun h => absurd h.1.1 hversion⟩

lemma get_overlaid (k : GroupKey) :
    (f.overlaid origin).groups.get k = (f.groups.get k).getD k.group.initial := by
  have hstart : (f.start origin).groups.get k = k.group.initial := by
    rw [start]
    cases f.strict <;> cases k <;> rfl
  rw [overlaid, groups_foldl_overlay, get_foldl_elim, if_pos k.mem_all, hstart]

lemma strict_overlaid : (f.overlaid origin).strict = f.strict.getD false := by
  rw [overlaid, strict_foldl_overlay, start]
  cases f.strict <;> rfl

lemma get?_overlaid {path : String} {s : OptionSource} :
    (f.overlaid origin).provenance.get? path = some s ↔ s = .yaml origin ∧
      (f.strict.isSome = true ∧ path = Options.strictPath ∨
        ∃ k, (f.groups.get k).isSome = true ∧ path = Provenance.groupPath k.name) := by
  have hstart : (f.start origin).provenance.get? path =
      if f.strict.isSome = true ∧ path = Options.strictPath then some (.yaml origin) else none := by
    rw [start]
    cases f.strict with
    | none => rfl
    | some strict =>
      by_cases hpath : path = Options.strictPath
      · simp [Options.track, hpath, Dict.get?_insert_self]
      · simp [Options.track, hpath, Dict.get?_insert_ne, Dict.get?_empty]
  rw [overlaid, get?_foldl_overlay, hstart]
  by_cases hgiven : ∃ k, (f.groups.get k).isSome = true ∧ path = Provenance.groupPath k.name
  · obtain ⟨k, hk⟩ := hgiven
    rw [if_pos ⟨k, k.mem_all, hk⟩, Option.some_inj, eq_comm]
    exact ⟨fun h => ⟨h, .inr ⟨k, hk⟩⟩, And.left⟩
  · have hnone : ¬∃ k ∈ GroupKey.all,
        (f.groups.get k).isSome = true ∧ path = Provenance.groupPath k.name := by
      rintro ⟨k, -, hk⟩
      exact hgiven ⟨k, hk⟩
    rw [if_neg hnone, or_iff_left hgiven]
    by_cases hmode : f.strict.isSome = true ∧ path = Options.strictPath
    · rw [if_pos hmode, Option.some_inj, eq_comm]
      exact ⟨fun h => ⟨h, hmode⟩, And.left⟩
    · rw [if_neg hmode]
      exact ⟨fun h => (nomatch h), fun h => absurd h.2 hmode⟩

/-- Whatever a file leaves out, all groups of the loaded options pass. -/
lemma validate_overlaid (hvalid : ∀ (k : GroupKey) (v : k.Options), f.groups.get k = some v →
    k.group.validate v = .ok ()) : (f.overlaid origin).groups.validate = .ok () := by
  rw [OptionGroups.validate_eq_ok]
  intro k
  rw [get_overlaid]
  cases hk : f.groups.get k with
  | none => exact k.validate_initial
  | some v => exact hvalid k v hk

end OptionsFile

/-- When all groups pass, resolution can only miss what a feature needs, a converter or a target. -/
lemma Options.resolve_refuses {o : Options} {h : Hooks} {c : Converters} {e : ConfigError}
    (hvalid : o.groups.validate = .ok ()) (he : o.resolve h c = .error e) :
    (o.strict = true ∧ ∃ feature needs hint, e = .missingPrerequisite feature needs hint) ∨
    (∃ dialect available, e = .unavailableDialect dialect available) ∨
    ∃ issue fix, e = .conflict issue fix := by
  have hgroups := (o.groups.validate_tests.eq_ok_iff.1 hvalid).1
  have hunmet : FirstUnmet [o.hookRequirement h, o.formatRequirement, o.dialectRequirement c,
      o.deviceRequirement] e := ((o.resolve_tests h c).eq_error_iff.1 he).of_append hgroups
  cases hunmet with
  | here hhook => exact .inl ⟨(Classical.not_imp.1 hhook).1, _, _, _, rfl⟩
  | later _ hunmet =>
  cases hunmet with
  | here hformat => exact .inl ⟨(Classical.not_imp.1 hformat).1, _, _, _, rfl⟩
  | later _ hunmet =>
  cases hunmet with
  | here => exact .inr (.inl ⟨_, _, rfl⟩)
  | later _ hunmet =>
  cases hunmet with
  | here => exact .inr (.inr ⟨_, _, rfl⟩)
  | later _ hunmet => cases hunmet

namespace OptionsFile

/-- A file overlays the defaults, and what it gives is not refused by a group later on. Its version is
checked before its groups. -/
theorem load_overlays (f : OptionsFile) (origin : String) :
    (∀ text, (Yaml.read text).bind OptionsFile.ofYaml? = some f →
      Options.ofYaml text origin = f.load origin) ∧
    (f.version ≠ 1 → f.load origin = .error (.unsupportedVersion f.version [1])) ∧
    ((∃ o, f.load origin = .ok o) ↔ f.version = 1 ∧ ∀ (k : GroupKey) (v : k.Options),
      f.groups.get k = some v → k.group.validate v = .ok ()) ∧
    ∀ o, f.load origin = .ok o →
      (∀ k, o.groups.get k = (f.groups.get k).getD k.group.initial) ∧
      o.strict = f.strict.getD false ∧
      (∀ path s, o.provenance.get? path = some s ↔ s = .yaml origin ∧
        (f.strict.isSome = true ∧ path = Options.strictPath ∨
          ∃ k, (f.groups.get k).isSome = true ∧ path = Provenance.groupPath k.name)) ∧
      ∀ h c e, o.resolve h c = .error e →
        (o.strict = true ∧ ∃ feature needs hint, e = .missingPrerequisite feature needs hint) ∨
        (∃ dialect available, e = .unavailableDialect dialect available) ∨
        ∃ issue fix, e = .conflict issue fix := by
  refine ⟨?_, ?_, ?_, ?_⟩
  · intro text htext
    rw [Options.ofYaml, htext]
  · intro hversion
    rw [load_eq, if_neg hversion]
    rfl
  · simp only [load_eq_ok, exists_and_left, exists_eq, and_true]
  · intro o ho
    obtain ⟨⟨-, hvalid⟩, rfl⟩ := (f.load_eq_ok origin).1 ho
    refine ⟨f.get_overlaid origin, f.strict_overlaid origin, fun path s => f.get?_overlaid origin, ?_⟩
    intro h c e he
    exact Options.resolve_refuses (f.validate_overlaid origin hvalid) he

/-- A statistics file without a format, in strict mode. -/
def formatless : String :=
  "version: 1\nstrict_mode: true\noptions:\n  scheduling:\n    dump_statistics_file: ops.txt\n"

/-- A version that is not known, and a group that does not pass. -/
def unknownVersion : OptionsFile where
  version := 2
  groups.bytecodeTarget := some { indexBits := 16 }

theorem load_overlays_formatless :
    (∃ o, Options.ofYaml formatless "a.yaml" = .ok o ∧ o.strict = true ∧
      o.groups.get .scheduling = { statisticsFile := some "ops.txt" } ∧
      o.groups.get .targetBackend = {} ∧
      o.provenance.get? "scheduling.*" = some (.yaml "a.yaml")) ∧
    unknownVersion.groups.validate ≠ .ok () ∧
    unknownVersion.load "a.yaml" = .error (.unsupportedVersion 2 [1]) := by
  let f : OptionsFile := ⟨1, some true, { scheduling := some { statisticsFile := some "ops.txt" } }⟩
  have hread : (Yaml.read formatless).bind OptionsFile.ofYaml? = some f := by decide +kernel
  obtain ⟨htext, -, hloads, hloaded⟩ := load_overlays f "a.yaml"
  have hvalid : f.groups.validate = .ok () := by decide
  obtain ⟨o, ho⟩ := hloads.2 ⟨rfl, GivenGroups.validate_eq_ok.1 hvalid⟩
  obtain ⟨hgroups, hstrict, hsource, -⟩ := hloaded o ho
  obtain ⟨-, hversion, -⟩ := load_overlays unknownVersion "a.yaml"
  refine ⟨⟨o, (htext _ hread).trans ho, hstrict, hgroups .scheduling, hgroups .targetBackend, ?_⟩,
    by decide, hversion (by decide)⟩
  exact (hsource _ _).2 ⟨rfl, .inr ⟨.scheduling, rfl, by decide⟩⟩

end OptionsFile
end StagedLowering
