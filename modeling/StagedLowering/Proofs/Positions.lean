import StagedLowering.Diagnostic
import StagedLowering.Proofs.Json.Token
import StagedLowering.Proofs.Visiting

/-! Paths in words. Every index stands behind a label and is written in digits, and no label but the first
one starts without a slash, so the indices can be read off one after the other. A message ends with such
a path, behind its last quote, and so it names one op only. -/
namespace StagedLowering

namespace OpPath

/-- What follows an index starts with a slash. -/
lemma stepsText_head {position : Nat} {l : List Nat} {c : Char}
    (h : c ∈ (stepsText (position + 1) l).head?) : c = '/' := by
  cases l with
  | nil => cases h
  | cons n rest =>
    rw [stepsText, stepText] at h
    split at h
    · rw [if_neg (Nat.succ_ne_zero position)] at h
      cases h
      rfl
    · cases h
      rfl
    · cases h
      rfl

lemma endsNumber_stepsText (position : Nat) (l : List Nat) :
    Json.EndsNumber (stepsText (position + 1) l) := by
  intro c hc
  rw [stepsText_head hc]
  decide

/-- The index and what comes behind it can be read off. -/
lemma stepText_cancel {position m n : Nat} {l l' : List Nat}
    (h : stepText position m ++ stepsText (position + 1) l =
      stepText position n ++ stepsText (position + 1) l') :
    m = n ∧ stepsText (position + 1) l = stepsText (position + 1) l' := by
  simp only [stepText, List.append_assoc, List.append_cancel_left_eq] at h
  have hspan := congrArg Json.spanDigits h
  rw [Json.spanDigits_toDigits (endsNumber_stepsText position l),
    Json.spanDigits_toDigits (endsNumber_stepsText position l'), Prod.mk.injEq] at hspan
  obtain ⟨hdigits, hrest⟩ := hspan
  refine ⟨?_, hrest⟩
  calc
    m = Nat.ofDigitChars 10 (Nat.toDigits 10 m) 0 := Nat.ofDigitChars_ten_toDigits.symm
    _ = Nat.ofDigitChars 10 (Nat.toDigits 10 n) 0 := by rw [hdigits]
    _ = n := Nat.ofDigitChars_ten_toDigits

lemma stepText_ne_nil (position n : Nat) : stepText position n ≠ [] :=
  List.append_ne_nil_of_right_ne_nil _ Nat.toDigits_ne_nil

lemma stepsText_injective {position : Nat} {l l' : List Nat}
    (h : stepsText position l = stepsText position l') : l = l' := by
  induction l generalizing position l' with
  | nil =>
    cases l' with
    | nil => rfl
    | cons n rest => simp [stepsText, stepText_ne_nil] at h
  | cons m l ih =>
    cases l' with
    | nil => simp [stepsText, stepText_ne_nil] at h
    | cons n l' =>
      obtain ⟨rfl, hrest⟩ := stepText_cancel h
      rw [ih hrest]

/-- A path is known from its text. -/
lemma text_injective : Function.Injective text := by
  rintro ⟨l⟩ ⟨l'⟩ h
  have hindices : l = l' := stepsText_injective (String.ofList_inj.1 h)
  rw [hindices]

lemma quote_not_mem_stepText (position n : Nat) : '\'' ∉ stepText position n := by
  rw [stepText, List.mem_append, not_or]
  refine ⟨?_, fun hdigit => ?_⟩
  · split
    · split <;> decide
    · decide
    · decide
  · exact absurd (Nat.isDigit_of_mem_toDigits (by decide) (by decide) hdigit) (by decide)

lemma quote_not_mem_stepsText (position : Nat) (l : List Nat) : '\'' ∉ stepsText position l := by
  induction l generalizing position with
  | nil => simp [stepsText]
  | cons n rest ih =>
    rw [stepsText, List.mem_append, not_or]
    exact ⟨quote_not_mem_stepText position n, ih (position + 1)⟩

lemma quote_not_mem_text (p : OpPath) : '\'' ∉ p.text.toList := by
  rw [text, String.toList_ofList]
  exact quote_not_mem_stepsText 0 p.indices

end OpPath

/-- What comes behind the last quote can be read off. -/
lemma quote_cancel {front front' back back' : List Char} (hback : '\'' ∉ back) (hback' : '\'' ∉ back')
    (h : front ++ '\'' :: back = front' ++ '\'' :: back') : back = back' := by
  have hshorter {s back back' : List Char} (hback : '\'' ∉ back)
      (hs : '\'' :: back = s ++ '\'' :: back') : back = back' := by
    cases s with
    | nil => exact (List.cons.inj hs).2
    | cons c s =>
      obtain ⟨-, rfl⟩ := List.cons.inj hs
      simp at hback
  rcases List.append_eq_append_iff.1 h with ⟨s, -, hs⟩ | ⟨s, -, hs⟩
  · exact hshorter hback hs
  · exact (hshorter hback' hs).symm

namespace Diagnostic

variable {d d' : Diagnostic} {op op' : Op} {path path' : OpPath}

/-- The last quote stands right in front of the path. -/
lemma toList_append_position (front : String) (d : Diagnostic) (op : Op) (path : OpPath) :
    (front ++ (d.atOp op path).position).toList =
      (front.toList ++ " ['".toList ++ op.kind.toList) ++
        '\'' :: (" at ".toList ++ path.text.toList ++ [']']) := by
  simp [position, atOp]

/-- The path is known from the position, whatever stands in front of it and whatever the kinds are. -/
lemma path_eq_of_position (front front' : String)
    (h : front ++ (d.atOp op path).position = front' ++ (d'.atOp op' path').position) :
    path = path' := by
  -- A message or a kind may hold quotes as well, so only what is behind the last one can be compared.
  have hquote (path : OpPath) : '\'' ∉ " at ".toList ++ path.text.toList ++ [']'] := by
    simp [path.quote_not_mem_text]
  have hchars := congrArg String.toList h
  rw [toList_append_position, toList_append_position] at hchars
  have hback := quote_cancel (hquote path) (hquote path') hchars
  rw [List.append_cancel_right_eq, List.append_cancel_left_eq, String.toList_inj] at hback
  exact OpPath.text_injective hback

lemma position_ne (hne : path ≠ path') :
    (d.atOp op path).position ≠ (d'.atOp op' path').position :=
  fun h => hne (path_eq_of_position "" "" (congrArg ("" ++ ·) h))

lemma text_ne (hne : path ≠ path') : (d.atOp op path).text ≠ (d'.atOp op' path').text :=
  fun h => hne (path_eq_of_position _ _ h)

end Diagnostic

/-- A path is known from its text. So messages about two ops that a walk comes to, with whatever kinds,
name them by different positions, and the messages as a whole differ too. -/
theorem position_unambiguous {σ β : Type} :
    Function.Injective OpPath.text ∧
    ∀ (p : Program) (visit : Visitor σ β) (s : σ),
      (p.calls visit s).Pairwise fun x y => ∀ d d' : Diagnostic,
        (d.atOp x.2 x.1).position ≠ (d'.atOp y.2 y.1).position ∧
        (d.atOp x.2 x.1).text ≠ (d'.atOp y.2 y.1).text := by
  refine ⟨OpPath.text_injective, fun p visit s => ?_⟩
  refine (p.addressed_ordered.sublist (p.calls_sublist visit s)).imp ?_
  intro x y hprecedes d d'
  exact ⟨Diagnostic.position_ne hprecedes.ne, Diagnostic.text_ne hprecedes.ne⟩

end StagedLowering
