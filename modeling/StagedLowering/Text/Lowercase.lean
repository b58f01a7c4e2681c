import StagedLowering.Text.Casing

/-! Lower case of texts, with the final form of sigma at the end of a word. -/
namespace StagedLowering.Text

/-- The lower-case form of one character standing alone. Only the capital I with a dot becomes
two characters. -/
def lowerChar (c : Char) : List Char :=
  if c.toNat < 0x80 then [c.toLower]
  else if c = 'İ' then ['i', Char.ofNat 0x307]
  else
    match caseRuns.find? (fun r =>
        r.first ≤ c.toNat && c.toNat ≤ r.last && (c.toNat - r.first) % r.stride == 0) with
    | some r => [Char.ofNat ((c.toNat : Int) + r.shift).toNat]
    | none => [c]

/-- Each run lies in one range of cased characters, or all its characters do one by one. -/
theorem caseRuns_cased : caseRuns.all (fun r =>
    casedRanges.any (fun s => s.1 ≤ r.first && r.last ≤ s.2) ||
      (List.range (r.last + 1 - r.first)).all fun i => i % r.stride != 0 ||
        casedRanges.any fun s => s.1 ≤ r.first + i && r.first + i ≤ s.2) = true := by
  decide +kernel

theorem isCased_iff {c : Char} :
    isCased c = true ↔ ∃ s ∈ casedRanges, s.1 ≤ c.toNat ∧ c.toNat ≤ s.2 := by
  simp only [isCased, within, List.any_eq_true, Bool.and_eq_true, decide_eq_true_eq]

theorem isCased_of_run {r : CaseRun} (hr : r ∈ caseRuns) {c : Char} (hfirst : r.first ≤ c.toNat)
    (hlast : c.toNat ≤ r.last) (hstride : (c.toNat - r.first) % r.stride = 0) :
    isCased c = true := by
  rw [isCased_iff]
  have hcased := List.all_eq_true.1 caseRuns_cased r hr
  simp only [Bool.or_eq_true, List.any_eq_true, List.all_eq_true, Bool.and_eq_true,
    decide_eq_true_eq] at hcased
  rcases hcased with ⟨s, hs, hsub⟩ | heach
  · exact ⟨s, hs, by omega, by omega⟩
  · have hone := heach (c.toNat - r.first) (List.mem_range.2 (by omega))
    rwa [hstride, Nat.add_sub_cancel' hfirst, or_iff_right (by decide)] at hone

/-- A character that lower case changes is a cased one. -/
theorem isCased_of_lowerChar_ne {c : Char} (h : lowerChar c ≠ [c]) : isCased c = true := by
  unfold lowerChar at h
  split at h
  · -- The lower case of the library changes the first run only.
    by_cases hupper : c.val ≥ 'A'.val ∧ c.val ≤ 'Z'.val
    · exact isCased_of_run (r := ⟨0x41, 0x5A, 1, 32⟩) List.mem_cons_self hupper.1 hupper.2
        (Nat.mod_one _)
    · exact absurd (congrArg (fun c => [c]) (dif_neg hupper)) h
  split at h
  · next hdot =>
    rw [hdot]
    decide
  split at h
  · next r hfind =>
    have hrun := List.find?_some hfind
    simp only [Bool.and_eq_true, decide_eq_true_eq, beq_iff_eq] at hrun
    exact isCased_of_run (List.mem_of_find?_eq_some hfind) hrun.1.1 hrun.1.2 hrun.2
  · exact absurd rfl h

/-- Is the first character that is not passed over a cased one? -/
def startsCased (cs : List Char) : Bool :=
  match cs.dropWhile isCaseIgnorable with
  | c :: _ => isCased c
  | [] => false

/-- Lower case of `cs`, where `before` holds the characters in front of it, nearest first. A capital
sigma that ends a word takes its final form. -/
def lowerAfter (before : List Char) : List Char → List Char
  | [] => []
  | c :: rest =>
    (if c = 'Σ' then
      if startsCased before && !startsCased rest then ['ς'] else ['σ']
    else lowerChar c) ++ lowerAfter (c :: before) rest

def lower (s : String) : String := String.ofList (lowerAfter [] s.toList)

end StagedLowering.Text
