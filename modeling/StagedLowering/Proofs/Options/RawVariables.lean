import StagedLowering.Proofs.Options.Variables
import StagedLowering.Proofs.Text.Utf8

/-! Variables as a process has them: names and values are bytes, and not all of them are texts. The first
bytes of a name alone decide whether a variable is looked at, and all that are looked at have to be
texts before any of them is applied. -/
namespace StagedLowering.Options

open Text.Utf8

/-- A name and a value. -/
abbrev RawVariable := List UInt8 × List UInt8

/-- The name starts as the names of the program's variables do. -/
def isOwn (v : RawVariable) : Bool := (encode variableStart).isPrefixOf v.1

/-- The variable with these texts. -/
def toRaw (v : String × String) : RawVariable := (encode v.1, encode v.2)

/-- The texts of a variable, or an error with the part that is no text, the name before the value. -/
def decodeVariable (v : RawVariable) : Checked (String × String) :=
  match decode? v.1, decode? v.2 with
  | some name, some value => .ok (name, value)
  | some _, none => .error (.invalidValue (decodeLossy v.1) (decodeLossy v.2) .notUtf8)
  | none, _ => .error (.invalidValue (decodeLossy v.1) (decodeLossy v.1) .notUtf8)

/-- Decoding, with whatever replacements, does not change whether a name is one of the program's. -/
lemma settingOf?_decodeLossy (v : RawVariable) :
    (settingOf? (decodeLossy v.1)).isSome = isOwn v := by
  rw [Bool.eq_iff_iff, isOwn, List.isPrefixOf_iff_prefix, encode,
    ← isPrefix_decodeLossy (by decide), Option.isSome_iff_exists]
  constructor
  · rintro ⟨setting, h⟩
    rw [settingOf?_eq_some.1 h, String.toList_append]
    exact List.prefix_append _ _
  · rintro ⟨rest, h⟩
    refine ⟨String.ofList rest, settingOf?_eq_some.2 ?_⟩
    rw [← String.toList_inj, ← h, String.toList_append, String.toList_ofList]

/-- The loop looks at the program's variables one by one. -/
lemma decodeVariables_eq (vars : List RawVariable) :
    decodeVariables vars = (vars.filter isOwn).mapM decodeVariable := by
  induction vars with
  | nil => rfl
  | cons v rest ih =>
    obtain ⟨name, value⟩ := v
    have hown := settingOf?_decodeLossy (name, value)
    rw [decodeVariables, List.filter_cons, ← hown]
    cases hname : decode? name with
    | none =>
      dsimp only
      split
      · rw [List.mapM_cons, decodeVariable, hname]
        rfl
      · exact ih
    | some text =>
      have htext : decodeLossy name = text := by
        rw [decode?_eq_some.1 hname, decodeLossy_encode]
      rw [htext]
      dsimp only
      split
      · cases hvalue : decode? value with
        | none =>
          rw [List.mapM_cons, decodeVariable, hname, hvalue, htext]
          rfl
        | some text' =>
          rw [List.mapM_cons, decodeVariable, hname, hvalue, ih]
          rfl
      · exact ih

lemma decodeVariable_toRaw (v : String × String) : decodeVariable (toRaw v) = .ok v := by
  rw [decodeVariable, decode?_eq_some.2 (show (toRaw v).1 = encode v.1 from rfl),
    decode?_eq_some.2 (show (toRaw v).2 = encode v.2 from rfl)]

/-- The name, or else the value, is no text. -/
lemma decodeVariable_bad {v : RawVariable} (h : ¬(IsText v.1 ∧ IsText v.2)) :
    ∃ part, (part = v.1 ∨ part = v.2 ∧ IsText v.1) ∧ ¬IsText part ∧
      decodeVariable v = .error (.invalidValue (decodeLossy v.1) (decodeLossy part) .notUtf8) := by
  by_cases hname : IsText v.1
  · have hvalue : ¬IsText v.2 := fun hvalue => h ⟨hname, hvalue⟩
    obtain ⟨name, hdecoded⟩ := hname
    refine ⟨v.2, .inr ⟨rfl, name, hdecoded⟩, hvalue, ?_⟩
    rw [decodeVariable, decode?_eq_some.2 hdecoded, decode?_eq_none.2 hvalue]
  · refine ⟨v.1, .inl rfl, hname, ?_⟩
    rw [decodeVariable, decode?_eq_none.2 hname]

lemma mapM_decodeVariable_texts (texts : List (String × String)) :
    (texts.map toRaw).mapM decodeVariable = .ok texts := by
  induction texts with
  | nil => rfl
  | cons v texts ih =>
    rw [List.map_cons, List.mapM_cons, decodeVariable_toRaw, ih]
    rfl

/-- Texts in front of a variable that is refused do not matter, nor does what comes behind it. -/
lemma mapM_decodeVariable_bad {v : RawVariable} {e : ConfigError} (hv : decodeVariable v = .error e)
    (texts : List (String × String)) (after : List RawVariable) :
    (texts.map toRaw ++ v :: after).mapM decodeVariable = .error e := by
  induction texts with
  | nil =>
    rw [List.map_nil, List.nil_append, List.mapM_cons, hv]
    rfl
  | cons w texts ih =>
    rw [List.map_cons, List.cons_append, List.mapM_cons, decodeVariable_toRaw, ih]
    rfl

/-- Variables that are texts have texts. -/
lemma exists_texts {vars : List RawVariable}
    (h : ∀ v ∈ vars, isOwn v = true → IsText v.1 ∧ IsText v.2) :
    ∃ texts : List (String × String), vars.filter isOwn = texts.map toRaw := by
  induction vars with
  | nil => exact ⟨[], rfl⟩
  | cons v vars ih =>
    obtain ⟨texts, htexts⟩ := ih fun w hw => h w (List.mem_cons_of_mem v hw)
    rw [List.filter_cons, htexts]
    split
    · next hown =>
      obtain ⟨⟨name, hname⟩, ⟨value, hvalue⟩⟩ := h v List.mem_cons_self hown
      exact ⟨(name, value) :: texts, by rw [List.map_cons, toRaw, ← hname, ← hvalue]⟩
    · exact ⟨texts, rfl⟩

/-- The first of the program's variables that is no text, if there is one. -/
lemma exists_first_bad {vars : List RawVariable}
    (h : ¬∀ v ∈ vars, isOwn v = true → IsText v.1 ∧ IsText v.2) :
    ∃ before v after, vars = before ++ v :: after ∧ isOwn v = true ∧ ¬(IsText v.1 ∧ IsText v.2) ∧
      ∀ w ∈ before, isOwn w = true → IsText w.1 ∧ IsText w.2 := by
  induction vars with
  | nil => simp at h
  | cons v vars ih =>
    by_cases hv : isOwn v = true → IsText v.1 ∧ IsText v.2
    · have hrest : ¬∀ w ∈ vars, isOwn w = true → IsText w.1 ∧ IsText w.2 := by
        intro hrest
        exact h (List.forall_mem_cons.2 ⟨hv, hrest⟩)
      obtain ⟨before, w, after, rfl, hw⟩ := ih hrest
      exact ⟨v :: before, w, after, rfl, hw.1, hw.2.1, List.forall_mem_cons.2 ⟨hv, hw.2.2⟩⟩
    · rw [Classical.not_imp] at hv
      exact ⟨[], v, vars, rfl, hv.1, hv.2, by simp⟩

/-- Options from the environment of a process. They depend only on the variables whose names start with
the bytes of the program's variables. If these are UTF-8 in name and value, their texts give the
options; otherwise the first that is not is the error, whatever the others are. -/
theorem ofEnvironment_own (vars : List RawVariable) :
    (∀ vars' : List RawVariable, vars'.filter isOwn = vars.filter isOwn →
      ofEnvironment vars' = ofEnvironment vars) ∧
    ((∀ v ∈ vars, isOwn v = true → IsText v.1 ∧ IsText v.2) →
      ∃ texts : List (String × String), vars.filter isOwn = texts.map toRaw ∧
        ofEnvironment vars = ofVariables texts) ∧
    ((¬∀ v ∈ vars, isOwn v = true → IsText v.1 ∧ IsText v.2) →
      ∃ before v after, vars = before ++ v :: after ∧ isOwn v = true ∧
        (∀ w ∈ before, isOwn w = true → IsText w.1 ∧ IsText w.2) ∧
        ∃ part, (part = v.1 ∨ part = v.2 ∧ IsText v.1) ∧ ¬IsText part ∧
          ofEnvironment vars =
            .error (.invalidValue (decodeLossy v.1) (decodeLossy part) .notUtf8)) := by
  simp only [ofEnvironment, decodeVariables_eq]
  refine ⟨fun vars' h => ?_, fun h => ?_, fun h => ?_⟩
  · rw [h]
  · obtain ⟨texts, htexts⟩ := exists_texts h
    refine ⟨texts, htexts, ?_⟩
    rw [htexts, mapM_decodeVariable_texts, Checked.ok_bind]
  · obtain ⟨before, v, after, rfl, hown, hbad, hbefore⟩ := exists_first_bad h
    obtain ⟨part, hpart, hnot, herror⟩ := decodeVariable_bad hbad
    obtain ⟨texts, htexts⟩ := exists_texts hbefore
    refine ⟨before, v, after, rfl, hown, hbefore, part, hpart, hnot, ?_⟩
    rw [List.filter_append, List.filter_cons, if_pos hown, htexts,
      mapM_decodeVariable_bad herror, Checked.error_bind]

/-- A variable of another program that is no text, one whose value is refused, one whose value is no text,
and one whose name is none. -/
def undecodable : List RawVariable :=
  [([0x50, 0xFF], [0xFE]), toRaw ("TENSORVM__BINDING__TFLITE", "maybe"),
    (encode "TENSORVM__INPUT_DIALECT__DIALECT", [0x6D, 0x68, 0xFF]),
    (encode variableStart ++ [0xC0], [])]

/-- The first variable does not count, the second alone is refused as a value, and the third is the error of
all, before the second is applied. -/
theorem ofEnvironment_own_undecodable :
    ofEnvironment undecodable.tail = ofEnvironment undecodable ∧
    (∃ texts : List (String × String), (undecodable.take 2).filter isOwn = texts.map toRaw ∧
      ofEnvironment (undecodable.take 2) = ofVariables texts) ∧
    ∃ before v after part, undecodable = before ++ v :: after ∧ isOwn v = true ∧ ¬IsText part ∧
      decodeLossy v.1 = "TENSORVM__INPUT_DIALECT__DIALECT" ∧
      ofEnvironment undecodable =
        .error (.invalidValue (decodeLossy v.1) (decodeLossy part) .notUtf8) := by
  obtain ⟨hother, -, hfirst⟩ := ofEnvironment_own undecodable
  obtain ⟨-, htexts, -⟩ := ofEnvironment_own (undecodable.take 2)
  have hgood : ∀ v ∈ undecodable.take 2, isOwn v = true → IsText v.1 ∧ IsText v.2 := by
    intro v hv hown
    simp only [undecodable, List.take_succ_cons, List.take_zero, List.mem_cons, List.not_mem_nil,
      or_false] at hv
    rcases hv with rfl | rfl
    · cases hown
    · exact ⟨⟨_, rfl⟩, ⟨_, rfl⟩⟩
  have hbad : ¬∀ v ∈ undecodable, isOwn v = true → IsText v.1 ∧ IsText v.2 := by
    intro h
    exact decode?_eq_none.1 rfl (h _ (List.mem_of_getElem? (i := 2) rfl) rfl).2
  obtain ⟨before, v, after, hsplit, hown, -, part, -, hnot, herror⟩ := hfirst hbad
  have hname : ofEnvironment undecodable = .error (.invalidValue "TENSORVM__INPUT_DIALECT__DIALECT"
    (decodeLossy [0x6D, 0x68, 0xFF]) .notUtf8) := rfl
  refine ⟨hother _ rfl, htexts hgood, before, v, after, part, hsplit, hown, hnot, ?_, herror⟩
  have hsame := Except.error.inj (herror.symm.trans hname)
  rw [ConfigError.invalidValue.injEq] at hsame
  exact hsame.1

end StagedLowering.Options
