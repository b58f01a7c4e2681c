import Mathlib.Data.List.TakeDrop
import StagedLowering.Json.Print
import StagedLowering.Json.Scan

/-! Printed texts and whole numbers are scanned back, whatever follows them. -/
namespace StagedLowering.Json

lemma hexWord?_control : ∀ n < 0x20,
    hexWord? '0' '0' (hexDigit (n / 16)) (hexDigit (n % 16)) = some n := by
  decide

lemma eq_ofNat_of_toNat_eq {c : Char} {n : Nat} (h : c.toNat = n) : c = Char.ofNat n := by
  rw [← h, Char.ofNat_toNat]

/-- The escaped form of a character is scanned as the character. -/
lemma scanText_escapeChar (c : Char) (rest : List Char) :
    scanText none (escapeChar c ++ rest) = (scanText none rest).push c := by
  unfold escapeChar
  split
  · next h => subst h; rfl
  split
  · next h => subst h; rfl
  split
  · next hquote hslash hprintable =>
    rw [List.singleton_append, scanText]
    · rw [if_neg (Nat.not_lt.2 hprintable)]
      rfl
    · exact hquote
    · exact fun h => absurd h hslash
    · exact fun _ _ _ _ _ h => absurd h hslash
    · exact fun _ h => absurd h hslash
    · exact fun _ _ h => absurd h hslash
  split
  · next h => rw [eq_ofNat_of_toNat_eq h]; rfl
  split
  · next h => rw [eq_ofNat_of_toNat_eq h]; rfl
  split
  · next h => subst h; rfl
  split
  · next h => subst h; rfl
  split
  · next h => subst h; rfl
  · next hprintable _ _ _ _ _ =>
    have hcontrol : c.toNat < 0x20 := Nat.not_le.1 hprintable
    have hlow : isLowSurrogate c.toNat = false := by
      simp only [isLowSurrogate, Bool.and_eq_false_iff, decide_eq_false_iff_not]
      omega
    have hhigh : isHighSurrogate c.toNat = false := by
      simp only [isHighSurrogate, Bool.and_eq_false_iff, decide_eq_false_iff_not]
      omega
    simp [scanText, hexWord?_control c.toNat hcontrol, hlow, hhigh]

/-- The characters of a text are scanned up to the quote that closes it. -/
lemma scanText_escaped (cs rest : List Char) :
    scanText none (cs.flatMap escapeChar ++ '"' :: rest) = ⟨.ok cs, .ok rest⟩ := by
  induction cs with
  | nil => rfl
  | cons c cs ih =>
    rw [List.flatMap_cons, List.append_assoc, scanText_escapeChar, ih]
    rfl

/-- Nothing at the front of `rest` goes on with a number before it. -/
def EndsNumber (rest : List Char) : Prop :=
  ∀ c ∈ rest.head?, c.isDigit = false ∧ c ≠ '.' ∧ c ≠ 'e' ∧ c ≠ 'E'

/-- Digits fit in 64 bits as long as the number they all make does. -/
lemma takeDigits_of_lt {cs : List Char} {n : Nat} (h : Nat.ofDigitChars 10 cs n < UInt64.size) :
    takeDigits n cs = (Nat.ofDigitChars 10 cs n, 0) := by
  induction cs generalizing n with
  | nil => rfl
  | cons c cs ih =>
    rw [Nat.ofDigitChars_cons, Nat.mul_comm] at h ⊢
    have hle : n * 10 + digitValue c ≤ Nat.ofDigitChars 10 cs (n * 10 + digitValue c) := by
      rw [Nat.ofDigitChars_eq_ofDigitChars_zero]
      exact Nat.le_add_right_of_le (Nat.le_mul_of_pos_left _ (Nat.pow_pos (by decide)))
    have hfits : fits n c = true := decide_eq_true (Nat.lt_of_le_of_lt hle h)
    rw [takeDigits, if_pos hfits]
    exact ih h

lemma takeDigits_toDigits {n : Nat} (h : n < UInt64.size) :
    takeDigits 0 (Nat.toDigits 10 n) = (n, 0) := by
  have hn : Nat.ofDigitChars 10 (Nat.toDigits 10 n) 0 = n :=
    Nat.ofDigitChars_toDigits (by decide) (by decide)
  rw [takeDigits_of_lt (by rwa [hn]), hn]

/-- Only zero starts with the digit zero. -/
lemma toDigits_head {n : Nat} (h : n ≠ 0) : ∃ d ds, Nat.toDigits 10 n = d :: ds ∧ d ≠ '0' := by
  induction n using Nat.strongRecOn with
  | ind n ih =>
    by_cases hn : n < 10
    · refine ⟨n.digitChar, [], Nat.toDigits_of_lt_base hn, ?_⟩
      have hdigit : ∀ m < 10, m ≠ 0 → m.digitChar ≠ '0' := by decide
      exact hdigit n hn h
    · obtain ⟨d, ds, hds, hd⟩ := ih (n / 10) (by omega) (by omega)
      rw [Nat.toDigits_of_base_le (by decide) (Nat.not_lt.1 hn), hds]
      exact ⟨d, ds ++ [(n % 10).digitChar], rfl, hd⟩

section Printed

variable {rest : List Char} (hrest : EndsNumber rest)
include hrest

lemma spanDigits_toDigits (n : Nat) :
    spanDigits (Nat.toDigits 10 n ++ rest) = (Nat.toDigits 10 n, rest) := by
  have hall : ∀ c ∈ Nat.toDigits 10 n, c.isDigit = true := fun c hc =>
    Nat.isDigit_of_mem_toDigits (by decide) (by decide) hc
  have hnone : rest.takeWhile Char.isDigit = [] ∧ rest.dropWhile Char.isDigit = rest := by
    cases rest with
    | nil => exact ⟨rfl, rfl⟩
    | cons c rest => simp [(hrest c rfl).1]
  rw [spanDigits, List.span_eq_takeWhile_dropWhile, List.takeWhile_append_of_pos hall,
    List.dropWhile_append_of_pos hall, hnone.1, hnone.2, List.append_nil]

lemma needDigits_toDigits (n : Nat) :
    needDigits (Nat.toDigits 10 n ++ rest) = .ok (Nat.toDigits 10 n, rest) := by
  unfold needDigits
  rw [spanDigits_toDigits hrest]
  cases hds : Nat.toDigits 10 n with
  | nil => exact absurd hds Nat.toDigits_ne_nil
  | cons d ds => rfl

lemma wholePart_toDigits (n : Nat) :
    wholePart (Nat.toDigits 10 n ++ rest) = .ok (Nat.toDigits 10 n, rest) := by
  by_cases hn : n = 0
  · subst hn
    cases rest with
    | nil => rfl
    | cons c rest => simp [wholePart, (hrest c rfl).1]
  · obtain ⟨d, ds, hds, hd⟩ := toDigits_head hn
    have hneed := needDigits_toDigits hrest n
    rw [hds] at hneed ⊢
    unfold wholePart
    split
    · next h => exact absurd (List.cons.inj h).1 hd
    · exact hneed

lemma numeral_toDigits (negative : Bool) (n : Nat) :
    numeral negative (Nat.toDigits 10 n ++ rest) =
      .ok (⟨negative, Nat.toDigits 10 n, none, none⟩, rest) := by
  have hfraction : fractionPart rest = .ok (none, rest) := by
    unfold fractionPart
    split
    · exact absurd rfl (hrest _ rfl).2.1
    · rfl
  have hexponent : exponentPart rest = .ok (none, rest) := by
    cases rest with
    | nil => rfl
    | cons c rest => exact if_neg (not_or.2 (hrest c rfl).2.2)
  unfold numeral
  rw [wholePart_toDigits hrest]
  change (fractionPart rest >>= _) = _
  rw [hfraction]
  change (exponentPart rest >>= _) = _
  rw [hexponent]
  rfl

lemma scanNumber_nat {n : Nat} (h : n < UInt64.size) :
    scanNumber false (Nat.toDigits 10 n ++ rest) = (.int n, some rest) := by
  simp [scanNumber, numeral_toDigits hrest, Numeral.value?, takeDigits_toDigits h]

lemma scanNumber_negative {n : Nat} (hpos : 0 < n) (h : n ≤ Nat.pow 2 63) :
    scanNumber true (Nat.toDigits 10 n ++ rest) = (.int (-n), some rest) := by
  have hsize : n < UInt64.size := Nat.lt_of_le_of_lt h (by decide)
  have hrange : ¬(n = 0 ∨ n > Nat.pow 2 63) := by omega
  simp [scanNumber, numeral_toDigits hrest, Numeral.value?, takeDigits_toDigits hsize, hrange]

end Printed

end StagedLowering.Json
