import Mathlib.Data.List.Perm.Basic
import StagedLowering.Options.Environment
import StagedLowering.Proofs.Options.Slots
import StagedLowering.Proofs.Resolution

/-! What variables do. The name of a variable alone decides which slot it sets, and its value alone
whether it is accepted, so that a run of variables is known from the last one for each slot and from
the first one that is refused. -/
namespace StagedLowering

namespace Dict

variable {β : Type}

lemma mem_keys_place {k n : String} {v : β} {l : List (String × β)} :
    n ∈ (place k v l).map (·.1) ↔ n = k ∨ n ∈ l.map (·.1) := by
  induction l with
  | nil => simp [place]
  | cons e l ih =>
    obtain ⟨k', v'⟩ := e
    rw [place]
    split
    · simp
    · split
      · next heq => simp [heq]
      · simp only [List.map_cons, List.mem_cons, ih]
        exact or_left_comm

lemma place_perm {k : String} (v : β) {l : List (String × β)} (h : k ∉ l.map (·.1)) :
    (place k v l).Perm ((k, v) :: l) := by
  induction l with
  | nil => exact .refl _
  | cons e l ih =>
    obtain ⟨k', v'⟩ := e
    rw [List.map_cons, List.mem_cons, not_or] at h
    rw [place]
    split
    · exact .refl _
    · rw [if_neg h.1]
      exact ((ih h.2).cons _).trans (.swap _ _ _)

lemma mem_keys_insertAll {n : String} {l : List (String × β)} {d : Dict β} :
    n ∈ (l.foldl (fun d e => d.insert e.1 e.2) d).entries.map (·.1) ↔
      n ∈ l.map (·.1) ∨ n ∈ d.entries.map (·.1) := by
  induction l generalizing d with
  | nil => simp
  | cons e l ih =>
    rw [List.foldl_cons, ih, entries_insert, mem_keys_place, List.map_cons, List.mem_cons]
    tauto

lemma mem_keys_ofList {n : String} {l : List (String × β)} :
    n ∈ (ofList l).entries.map (·.1) ↔ n ∈ l.map (·.1) := by
  rw [ofList, mem_keys_insertAll]
  simp

lemma mem_of_mem_insertAll {e : String × β} {l : List (String × β)} {d : Dict β}
    (h : e ∈ (l.foldl (fun d e => d.insert e.1 e.2) d).entries) : e ∈ l ∨ e ∈ d.entries := by
  induction l generalizing d with
  | nil => exact .inr h
  | cons e' l ih =>
    rcases ih h with h | h
    · exact .inl (List.mem_cons_of_mem e' h)
    · rcases mem_place h with rfl | h
      · exact .inl List.mem_cons_self
      · exact .inr h

lemma mem_of_mem_ofList {e : String × β} {l : List (String × β)} (h : e ∈ (ofList l).entries) :
    e ∈ l := by
  simpa using mem_of_mem_insertAll h

lemma insertAll_perm {l : List (String × β)} {d : Dict β}
    (h : ((l ++ d.entries).map (·.1)).Nodup) :
    (l.foldl (fun d e => d.insert e.1 e.2) d).entries.Perm (l ++ d.entries) := by
  induction l generalizing d with
  | nil => exact .refl _
  | cons e l ih =>
    rw [List.cons_append, List.map_cons, List.nodup_cons] at h
    have hfresh : e.1 ∉ d.entries.map (·.1) := fun hmem =>
      h.1 (by rw [List.map_append]; exact List.mem_append_right _ hmem)
    have hplace : (d.insert e.1 e.2).entries.Perm (e :: d.entries) := place_perm e.2 hfresh
    have hmoved : (l ++ (d.insert e.1 e.2).entries).Perm (e :: (l ++ d.entries)) :=
      (hplace.append_left l).trans List.perm_middle
    -- The pair that was placed counts as one of the dictionary from here on.
    refine (ih ?_).trans hmoved
    rw [(hmoved.map _).nodup_iff]
    exact List.nodup_cons.2 h

/-- Pairs with different keys all stay. -/
lemma ofList_perm {l : List (String × β)} (h : (l.map (·.1)).Nodup) :
    (ofList l).entries.Perm l := by
  have hall := insertAll_perm (l := l) (d := empty) (by simpa using h)
  simpa [ofList] using hall

/-- The order in which pairs with different keys come does not matter. -/
lemma ofList_eq_of_perm {l l' : List (String × β)} (h : (l.map (·.1)).Nodup) (hl : l.Perm l') :
    ofList l = ofList l' := by
  have hl' : (l'.map (·.1)).Nodup := (hl.map _).nodup_iff.1 h
  have hperm : (ofList l).entries.Perm (ofList l').entries :=
    (ofList_perm h).trans (hl.trans (ofList_perm hl').symm)
  refine Dict.ext (hperm.eq_of_pairwise ?_ (ofList l).sorted (ofList l').sorted)
  intro a b _ _ hab hba
  exact absurd hba (String.lt_asymm hab)

end Dict

namespace Options

lemma dropStart?_eq_some {start cs rest : List Char} :
    dropStart? start cs = some rest ↔ cs = start ++ rest := by
  induction start generalizing cs with
  | nil => simp [dropStart?]
  | cons a start ih =>
    cases cs with
    | nil => simp [dropStart?]
    | cons c cs =>
      rw [dropStart?]
      split
      · next h => simp [h, ih]
      · next h => simp [Ne.symm h]

lemma settingOf?_eq_some {name setting : String} :
    settingOf? name = some setting ↔ name = variableStart ++ setting := by
  rw [settingOf?, Option.map_eq_some_iff]
  constructor
  · rintro ⟨cs, hcs, rfl⟩
    rw [dropStart?_eq_some] at hcs
    rw [← String.toList_inj, hcs, String.toList_append, String.toList_ofList]
  · rintro rfl
    refine ⟨setting.toList, ?_, String.ofList_toList⟩
    rw [dropStart?_eq_some, String.toList_append]

lemma splitAtDouble_cases (cs : List Char) :
    cs = (splitAtDouble cs).1 ++ '_' :: '_' :: (splitAtDouble cs).2 ∨
      cs = (splitAtDouble cs).1 ∧ (splitAtDouble cs).2 = [] := by
  fun_induction splitAtDouble cs with
  | case1 => exact .inr ⟨rfl, rfl⟩
  | case2 rest => exact .inl rfl
  | case3 c rest _ a b hsplit ih =>
    rw [hsplit] at ih
    refine ih.imp (fun h => ?_) (fun h => ⟨?_, h.2⟩)
    · exact congrArg (c :: ·) h
    · exact congrArg (c :: ·) h.1

/-- The setting of a field is split behind its group. -/
lemma splitAtDouble_name (k : GroupKey) (cs : List Char) :
    splitAtDouble (k.name.toList ++ '_' :: '_' :: cs) = (k.name.toList, cs) := by
  cases k <;> rfl

lemma targetOf_eq {setting group field : String} :
    targetOf setting = (group, field) ↔
      splitAtDouble (Text.lower setting).toList = (group.toList, field.toList) := by
  rw [targetOf]
  constructor
  · intro h
    obtain ⟨rfl, rfl⟩ := Prod.mk.inj h
    rw [String.toList_ofList, String.toList_ofList]
  · intro h
    rw [h]
    exact Prod.ext String.ofList_toList String.ofList_toList

/-- A setting has the name of a group and some field behind it exactly if it is these two with a double
underscore between them. -/
lemma targetOf_eq_field {setting : String} {k : GroupKey} {field : String} (hfield : field ≠ "") :
    targetOf setting = (k.name, field) ↔ Text.lower setting = k.name ++ "__" ++ field := by
  have hjoined : Text.lower setting = k.name ++ "__" ++ field ↔
      (Text.lower setting).toList = k.name.toList ++ '_' :: '_' :: field.toList := by
    rw [← String.toList_inj, String.toList_append, String.toList_append, List.append_assoc]
    rfl
  rw [hjoined, targetOf_eq]
  constructor
  · intro h
    rcases splitAtDouble_cases (Text.lower setting).toList with hcs | ⟨_, hnone⟩
    · rwa [h] at hcs
    · -- Without a double underscore nothing is left for the field.
      rw [h] at hnone
      exact absurd (String.toList_eq_nil_iff.1 hnone) hfield
  · intro h
    rw [h, splitAtDouble_name]

/-- A setting is taken for the mode with nothing behind its name or with a double underscore alone. -/
lemma targetOf_eq_mode {setting : String} :
    targetOf setting = (strictPath, "") ↔
      Text.lower setting = "strict_mode" ∨ Text.lower setting = "strict_mode__" := by
  rw [targetOf_eq]
  constructor
  · intro h
    rcases splitAtDouble_cases (Text.lower setting).toList with hcs | ⟨hcs, _⟩
    · rw [h] at hcs
      exact .inr (String.toList_inj.1 hcs)
    · rw [h] at hcs
      exact .inl (String.toList_inj.1 hcs)
  · rintro (h | h) <;> rw [h] <;> rfl

/-- The slot that a setting names. -/
def slotOf (setting : String) : Checked Slot :=
  let (group, field) := targetOf setting
  if group = strictPath ∧ field = "" then .ok .mode
  else
    match GroupKey.ofName? group with
    | some k =>
      match h : k.group.field? field with
      | some f => .ok (.field k f (Group.field?_eq_some h).1)
      | none => .error (.unknownField field k.name k.group.fieldNames)
    | none => .error (.unknownField group "<root>" settings)

/-- A variable reads its value for the slot it names, sets the slot and leaves its name there. -/
lemma applyVariable_eq (o : Options) (name setting value : String) :
    o.applyVariable name setting value = (do
      let s ← slotOf setting
      let v ← s.parse value
      return (s.set o v).track s.path (.env name)) := by
  unfold applyVariable slotOf
  generalize targetOf setting = target
  obtain ⟨group, field⟩ := target
  by_cases hmode : group = strictPath ∧ field = ""
  · simp only [if_pos hmode, Checked.ok_bind, Slot.parse]
    rfl
  · simp only [if_neg hmode]
    cases hk : GroupKey.ofName? group with
    | none => rfl
    | some k =>
      obtain rfl := GroupKey.ofName?_eq_some.1 hk
      simp only [setField]
      split
      · next h =>
        split
        · next f h' => simp [h] at h'
        · rfl
      · next f h =>
        obtain ⟨_, rfl⟩ := Group.field?_eq_some h
        split
        · next f' h' =>
          obtain rfl : f = f' := Option.some.inj (h.symm.trans h')
          simp only [bind_assoc, pure_bind, Checked.ok_bind, Slot.parse]
          rfl
        · next h' => simp [h] at h'

lemma slotOf_eq_mode {setting : String} :
    slotOf setting = .ok .mode ↔
      Text.lower setting = "strict_mode" ∨ Text.lower setting = "strict_mode__" := by
  rw [← targetOf_eq_mode, slotOf]
  generalize targetOf setting = target
  obtain ⟨group, field⟩ := target
  dsimp only
  split
  · next hmode => simp [hmode.1, hmode.2]
  · next hmode =>
    have hother : (group, field) ≠ (strictPath, "") := fun h => hmode (Prod.mk.inj h)
    simp only [hother, iff_false]
    split
    · split <;> simp
    · simp

lemma slotOf_eq_field {setting : String} {k : GroupKey} {f : Field k.Options}
    {hf : f ∈ k.group.fields} :
    slotOf setting = .ok (.field k f hf) ↔ Text.lower setting = k.name ++ "__" ++ f.name := by
  have hnamed : f.name ≠ "" := fun h => k.blank_not_mem (h ▸ List.mem_map_of_mem hf)
  rw [← targetOf_eq_field hnamed, slotOf]
  generalize targetOf setting = target
  obtain ⟨group, field⟩ := target
  dsimp only
  constructor
  · intro h
    split at h
    · cases h
    · split at h
      · next k' hk =>
        split at h
        · next f' hf' =>
          cases h
          rw [GroupKey.ofName?_eq_some.1 hk, (Group.field?_eq_some hf').2]
        · cases h
      · cases h
  · intro h
    obtain ⟨rfl, rfl⟩ := Prod.mk.inj h
    rw [if_neg fun hmode => hnamed hmode.2]
    split
    · next k' hk =>
      obtain rfl : k = k' := Option.some.inj ((GroupKey.ofName?_name k).symm.trans hk)
      split
      · next f' hf' =>
        obtain rfl : f = f' := Option.some.inj ((k.lawful.field?_name hf).symm.trans hf')
        rfl
      · next hnone => simp [k.lawful.field?_name hf] at hnone
    · next hnone => simp at hnone

/-- A setting that names no slot is called unknown. -/
lemma unknown_of_slotOf {setting : String} {e : ConfigError} (h : slotOf setting = .error e) :
    ∃ field group valid, e = .unknownField field group valid := by
  unfold slotOf at h
  generalize targetOf setting = target at h
  obtain ⟨group, field⟩ := target
  dsimp only at h
  split at h
  · cases h
  · split at h
    · split at h
      · cases h
      · cases h
        exact ⟨_, _, _, rfl⟩
    · cases h
      exact ⟨_, _, _, rfl⟩

/-- A variable with this name sets the slot. -/
def Names (name : String) (s : Slot) : Prop :=
  ∃ setting, name = variableStart ++ setting ∧ slotOf setting = .ok s

lemma names_mode {name : String} :
    Names name .mode ↔ ∃ setting, name = variableStart ++ setting ∧
      (Text.lower setting = "strict_mode" ∨ Text.lower setting = "strict_mode__") := by
  simp only [Names, slotOf_eq_mode]

lemma names_field {name : String} {k : GroupKey} {f : Field k.Options} {hf : f ∈ k.group.fields} :
    Names name (.field k f hf) ↔ ∃ setting, name = variableStart ++ setting ∧
      Text.lower setting = k.name ++ "__" ++ f.name := by
  simp only [Names, slotOf_eq_field]

/-- An accepted variable sets the slot it names, and no other. -/
lemma applyVariable_ok {o o' : Options} {name setting value : String}
    (h : o.applyVariable name setting value = .ok o') :
    ∃ s, slotOf setting = .ok s ∧ s.parse value = .ok (s.get o') ∧
      (∀ s' ≠ s, s'.get o' = s'.get o) ∧
      o'.provenance = o.provenance.insert s.path (.env name) := by
  rw [applyVariable_eq, Checked.bind_passes] at h
  obtain ⟨s, hs, h⟩ := h
  obtain ⟨v, hv, h⟩ := Checked.bind_passes.1 h
  cases h
  refine ⟨s, hs, ?_, fun s' hne => ?_, ?_⟩
  · rw [hv, Slot.get_track, Slot.get_set]
  · rw [Slot.get_track, Slot.get_set_of_ne o hne]
  · cases s <;> rfl

/-- Whether a variable is refused, and with what error, does not depend on the options. -/
lemma applyVariable_error {o : Options} {name setting value : String} {e : ConfigError}
    (h : o.applyVariable name setting value = .error e) (o' : Options) :
    o'.applyVariable name setting value = .error e := by
  rw [applyVariable_eq, Checked.bind_fails] at h ⊢
  refine h.imp_right fun ⟨s, hs, h⟩ => ⟨s, hs, ?_⟩
  rw [Checked.bind_fails] at h ⊢
  refine h.imp_right fun ⟨v, hv, h⟩ => ?_
  cases h

/-- The first variable of a run leaves a slot as it is or sets it; the rest follows. -/
lemma applyVariables_cons {o o' : Options} {v : String × String} {vars : List (String × String)}
    (h : o.applyVariables (v :: vars) = .ok o') :
    ∃ o₁, o₁.applyVariables vars = .ok o' ∧
      (∀ k : GroupKey, o₁.provenance.get? (Provenance.groupPath k.name) =
        o.provenance.get? (Provenance.groupPath k.name)) ∧
      ∀ s : Slot, (¬Names v.1 s ∧ s.get o₁ = s.get o ∧
          o₁.provenance.get? s.path = o.provenance.get? s.path) ∨
        (Names v.1 s ∧ s.parse v.2 = .ok (s.get o₁) ∧
          o₁.provenance.get? s.path = some (.env v.1)) := by
  obtain ⟨name, value⟩ := v
  rw [applyVariables] at h
  cases hname : settingOf? name with
  | none =>
    rw [hname] at h
    refine ⟨o, h, fun _ => rfl, fun s => .inl ⟨?_, rfl, rfl⟩⟩
    rintro ⟨setting, hsetting, _⟩
    rw [settingOf?_eq_some.2 hsetting] at hname
    cases hname
  | some setting =>
    rw [hname] at h
    have hstart := settingOf?_eq_some.1 hname
    obtain ⟨o₁, h₁, h⟩ := Checked.bind_passes.1 h
    obtain ⟨s₁, hs₁, hvalue, hothers, hprovenance⟩ := applyVariable_ok h₁
    refine ⟨o₁, h, fun k => ?_, fun s => ?_⟩
    · rw [hprovenance, Dict.get?_insert_ne _ _ (s₁.path_ne_groupPath k).symm]
    · by_cases hs : s = s₁
      · subst hs
        exact .inr ⟨⟨setting, hstart, hs₁⟩, hvalue, by rw [hprovenance, Dict.get?_insert_self]⟩
      · refine .inl ⟨?_, hothers s hs, ?_⟩
        · rintro ⟨setting', hstart', hs'⟩
          obtain rfl : setting = setting' :=
            Option.some.inj (hname.symm.trans (settingOf?_eq_some.2 hstart'))
          exact hs (Except.ok.inj (hs'.symm.trans hs₁))
        · rw [hprovenance,
            Dict.get?_insert_ne _ _ fun hpath => hs (Slot.path_injective hpath)]

/-- After a run of variables in the order of their names, a slot is as the last variable that names it
left it, or as before if there is none. -/
lemma applyVariables_slot {vars : List (String × String)} {o o' : Options}
    (hsorted : vars.Pairwise fun a b => a.1 < b.1) (h : o.applyVariables vars = .ok o') (s : Slot) :
    ((∀ v ∈ vars, ¬Names v.1 s) ∧ s.get o' = s.get o ∧
        o'.provenance.get? s.path = o.provenance.get? s.path) ∨
      ∃ v ∈ vars, Names v.1 s ∧ (∀ w ∈ vars, Names w.1 s → w.1 ≤ v.1) ∧
        s.parse v.2 = .ok (s.get o') ∧ o'.provenance.get? s.path = some (.env v.1) := by
  induction vars generalizing o with
  | nil =>
    cases h
    exact .inl ⟨by simp, rfl, rfl⟩
  | cons v vars ih =>
    obtain ⟨hfirst, hsorted⟩ := List.pairwise_cons.1 hsorted
    obtain ⟨o₁, h, _, hstep⟩ := applyVariables_cons h
    -- The first variable counts only where none of the rest names the slot.
    rcases ih hsorted h with ⟨hnone, hget, hsource⟩ | ⟨w, hw, hnames, hlast, hset⟩
    · rcases hstep s with ⟨hv, hget₁, hsource₁⟩ | ⟨hv, hparse, hsource₁⟩
      · exact .inl ⟨List.forall_mem_cons.2 ⟨hv, hnone⟩, hget.trans hget₁, hsource.trans hsource₁⟩
      · refine .inr ⟨v, List.mem_cons_self, hv, List.forall_mem_cons.2 ⟨fun _ => String.le_refl _, ?_⟩, ?_, ?_⟩
        · exact fun w hw hnames => absurd hnames (hnone w hw)
        · rw [hparse, hget]
        · rw [hsource, hsource₁]
    · refine .inr ⟨w, List.mem_cons_of_mem v hw, hnames, List.forall_mem_cons.2 ⟨?_, hlast⟩, hset⟩
      exact fun _ => Std.le_of_lt (hfirst w hw)

/-- Variables leave no record for a whole group. -/
lemma applyVariables_groupPath {vars : List (String × String)} {o o' : Options}
    (h : o.applyVariables vars = .ok o') (k : GroupKey) :
    o'.provenance.get? (Provenance.groupPath k.name) =
      o.provenance.get? (Provenance.groupPath k.name) := by
  induction vars generalizing o with
  | nil =>
    cases h
    rfl
  | cons v vars ih =>
    obtain ⟨o₁, h, hgroup, _⟩ := applyVariables_cons h
    rw [ih h, hgroup]

/-- A variable that is refused with an error, whatever the options. -/
def Refused (v : String × String) (e : ConfigError) : Prop :=
  ∃ setting, v.1 = variableStart ++ setting ∧
    ∀ o : Options, o.applyVariable v.1 setting v.2 = .error e

lemma Refused.unique {v : String × String} {e e' : ConfigError} (h : Refused v e)
    (h' : Refused v e') : e = e' := by
  obtain ⟨setting, hname, h⟩ := h
  obtain ⟨setting', hname', h'⟩ := h'
  obtain rfl : setting = setting' := by
    have hsame := (settingOf?_eq_some.2 hname).symm.trans (settingOf?_eq_some.2 hname')
    exact Option.some.inj hsame
  exact Except.error.inj ((h {}).symm.trans (h' {}))

/-- A run of variables goes on behind one that is not refused, and ends at one that is. -/
lemma applyVariables_cons_error (o : Options) (v : String × String) (vars : List (String × String)) :
    (∃ e, Refused v e ∧ o.applyVariables (v :: vars) = .error e) ∨
      (∀ e, ¬Refused v e) ∧ ∃ o₁ : Options, o.applyVariables (v :: vars) = o₁.applyVariables vars := by
  obtain ⟨name, value⟩ := v
  rw [applyVariables]
  cases hname : settingOf? name with
  | none =>
    refine .inr ⟨?_, o, rfl⟩
    rintro e ⟨setting, hstart, _⟩
    rw [settingOf?_eq_some.2 hstart] at hname
    cases hname
  | some setting =>
    have hstart := settingOf?_eq_some.1 hname
    cases happly : o.applyVariable name setting value with
    | error e => exact .inl ⟨e, ⟨setting, hstart, applyVariable_error happly⟩, by simp [happly]⟩
    | ok o₁ =>
      refine .inr ⟨?_, o₁, by simp [happly]⟩
      rintro e ⟨setting', hstart', hrefused⟩
      obtain rfl : setting = setting' :=
        Option.some.inj (hname.symm.trans (settingOf?_eq_some.2 hstart'))
      rw [hrefused o] at happly
      cases happly

/-- A run of variables in the order of their names fails with the error of the first one that is
refused. -/
lemma applyVariables_error {vars : List (String × String)} {o : Options} {e : ConfigError}
    (hsorted : vars.Pairwise fun a b => a.1 < b.1) :
    o.applyVariables vars = .error e ↔
      ∃ v ∈ vars, Refused v e ∧ ∀ w ∈ vars, ∀ e', Refused w e' → v.1 ≤ w.1 := by
  induction vars generalizing o with
  | nil => simp [applyVariables]
  | cons v vars ih =>
    obtain ⟨hfirst, hsorted⟩ := List.pairwise_cons.1 hsorted
    rcases applyVariables_cons_error o v vars with
      ⟨e₁, hrefused, h⟩ | ⟨haccepted, o₁, h⟩
    · rw [h]
      constructor
      · intro he
        cases he
        refine ⟨v, List.mem_cons_self, hrefused, List.forall_mem_cons.2 ⟨fun _ _ => String.le_refl _, ?_⟩⟩
        exact fun w hw _ _ => Std.le_of_lt (hfirst w hw)
      · rintro ⟨w, hw, hwe, hleast⟩
        -- The first variable is refused, so none behind it has the least such name.
        have hle : w.1 ≤ v.1 := hleast v List.mem_cons_self e₁ hrefused
        rcases List.mem_cons.1 hw with rfl | hw
        · rw [hrefused.unique hwe]
        · exact absurd (hfirst w hw) (Std.not_lt.2 hle)
    · rw [h, ih hsorted]
      constructor
      · rintro ⟨w, hw, hwe, hleast⟩
        refine ⟨w, List.mem_cons_of_mem v hw, hwe, List.forall_mem_cons.2 ⟨?_, hleast⟩⟩
        exact fun e' he' => absurd he' (haccepted e')
      · rintro ⟨w, hw, hwe, hleast⟩
        rcases List.mem_cons.1 hw with rfl | hw
        · exact absurd hwe (haccepted e)
        · exact ⟨w, hw, hwe, (List.forall_mem_cons.1 hleast).2⟩

end Options
end StagedLowering
