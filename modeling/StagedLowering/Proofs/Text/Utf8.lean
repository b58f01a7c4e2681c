import Mathlib.Tactic.Lemma
import StagedLowering.Text.Utf8

/-! Decoding undoes encoding: a byte string is UTF-8 when it is the encoding of a text, and that is when
all its units are characters. Bytes that are no characters neither make nor hide a start: a text decoded
with replacement characters starts with a text that has none exactly when the bytes do. -/
namespace StagedLowering.Text.Utf8

/-- The bytes of a text. -/
def encode (s : String) : List UInt8 := s.toList.flatMap String.utf8EncodeChar

/-- A byte string that is UTF-8. -/
def IsText (bytes : List UInt8) : Prop := ∃ s, bytes = encode s

lemma isTail_iff {b : UInt8} : isTail b = true ↔ 0x80 ≤ b.toNat ∧ b.toNat ≤ 0xBF := by
  simp [isTail, UInt8.le_iff_toNat_le]

lemma between_iff {low high b : UInt8} :
    (low ≤ b && b ≤ high) = true ↔ low.toNat ≤ b.toNat ∧ b.toNat ≤ high.toNat := by
  simp [UInt8.le_iff_toNat_le]

section

variable {a : UInt8}

lemma lead_one (h : a.toNat < 0x80) : lead a = some (0, 0x80, 0xBF) := by
  have ha : a < 0x80 := h
  rw [lead, if_pos ha]

lemma lead_two (h : 0xC2 ≤ a.toNat) (h' : a.toNat < 0xE0) : lead a = some (1, 0x80, 0xBF) := by
  simp only [lead, UInt8.lt_iff_toNat_lt, UInt8.reduceToNat]
  rw [if_neg (by omega), if_neg (by omega), if_pos h']

lemma lead_three (h : 0xE0 ≤ a.toNat) (h' : a.toNat < 0xF0) :
    lead a = some (2, if a.toNat = 0xE0 then 0xA0 else 0x80, if a.toNat = 0xED then 0x9F else 0xBF) := by
  simp only [lead, UInt8.lt_iff_toNat_lt, ← UInt8.toNat_inj, UInt8.reduceToNat]
  rw [if_neg (by omega), if_neg (by omega), if_neg (by omega), if_pos h']
  split
  · rw [if_neg (by omega)]
  · split <;> rfl

lemma lead_four (h : 0xF0 ≤ a.toNat) (h' : a.toNat < 0xF5) :
    lead a = some (3, if a.toNat = 0xF0 then 0x90 else 0x80, if a.toNat = 0xF4 then 0x8F else 0xBF) := by
  simp only [lead, UInt8.lt_iff_toNat_lt, ← UInt8.toNat_inj, UInt8.reduceToNat]
  rw [if_neg (by omega), if_neg (by omega), if_neg (by omega), if_neg (by omega), if_neg (by omega),
    if_neg (by omega)]
  split
  · rw [if_neg (by omega)]
  · split
    · rw [if_neg (by omega)]
    · rw [if_pos (by omega), if_pos (by omega)]

lemma lead_none (h : 0x80 ≤ a.toNat) (h' : a.toNat < 0xC2 ∨ 0xF5 ≤ a.toNat) : lead a = none := by
  simp only [lead, UInt8.lt_iff_toNat_lt, ← UInt8.toNat_inj, UInt8.reduceToNat]
  rw [if_neg (by omega)]
  split
  · rfl
  · rw [if_neg (by omega), if_neg (by omega), if_neg (by omega), if_neg (by omega), if_neg (by omega),
      if_neg (by omega), if_neg (by omega)]

/-- What a first byte that begins a character says about itself and the second one. -/
lemma lead_eq_some {n : Nat} {low high : UInt8} (h : lead a = some (n, low, high)) :
    0x80 ≤ low.toNat ∧ high.toNat ≤ 0xBF ∧
      ((n = 0 ∧ a.toNat < 0x80) ∨ (n = 1 ∧ 0xC2 ≤ a.toNat ∧ a.toNat < 0xE0) ∨
      (n = 2 ∧ 0xE0 ≤ a.toNat ∧ a.toNat < 0xF0 ∧ (a.toNat = 0xE0 → 0xA0 ≤ low.toNat) ∧
        (a.toNat = 0xED → high.toNat ≤ 0x9F)) ∨
      (n = 3 ∧ 0xF0 ≤ a.toNat ∧ a.toNat < 0xF5 ∧ (a.toNat = 0xF0 → 0x90 ≤ low.toNat) ∧
        (a.toNat = 0xF4 → high.toNat ≤ 0x8F))) := by
  by_cases h₁ : a.toNat < 0x80
  · cases (lead_one h₁).symm.trans h
    simp [h₁]
  by_cases h₂ : a.toNat < 0xC2 ∨ 0xF5 ≤ a.toNat
  · cases (lead_none (by omega) h₂).symm.trans h
  by_cases h₃ : a.toNat < 0xE0
  · cases (lead_two (by omega) h₃).symm.trans h
    exact ⟨by decide, by decide, .inr (.inl ⟨rfl, by omega, h₃⟩)⟩
  by_cases h₄ : a.toNat < 0xF0
  · cases (lead_three (by omega) h₄).symm.trans h
    by_cases hlow : a.toNat = 0xE0 <;> by_cases hhigh : a.toNat = 0xED <;> simp [hlow, hhigh]; omega
  · cases (lead_four (by omega) (by omega)).symm.trans h
    by_cases hlow : a.toNat = 0xF0 <;> by_cases hhigh : a.toNat = 0xF4 <;> simp [hlow, hhigh]; omega

end

/-- `tails` complete the character that `a` begins. -/
inductive Completes (a : UInt8) : List UInt8 → Prop
  | one {low high : UInt8} (h : lead a = some (0, low, high)) : Completes a []
  | two {low high b : UInt8} (h : lead a = some (1, low, high))
    (hb : (low ≤ b && b ≤ high) = true) : Completes a [b]
  | three {low high b c : UInt8} (h : lead a = some (2, low, high))
    (hb : (low ≤ b && b ≤ high) = true) (hc : isTail c = true) : Completes a [b, c]
  | four {low high b c d : UInt8} (h : lead a = some (3, low, high))
    (hb : (low ≤ b && b ≤ high) = true) (hc : isTail c = true) (hd : isTail d = true) :
    Completes a [b, c, d]

/-- A completed character is one unit. -/
lemma Completes.units_eq {a : UInt8} {tails : List UInt8} (h : Completes a tails)
    (rest : List UInt8) : units (a :: (tails ++ rest)) = some (compose a tails) :: units rest := by
  rw [units.eq_def]
  cases h with
  | one h => simp only [h, List.nil_append]
  | two h hb => simp only [h, hb, List.cons_append, List.nil_append, if_true]
  | three h hb hc => simp only [h, hb, hc, List.cons_append, List.nil_append, if_true]
  | four h hb hc hd => simp only [h, hb, hc, hd, List.cons_append, List.nil_append, if_true]

/-- Bytes begin with a character or with a part that is none. -/
lemma completes_or_bad (a : UInt8) (s : List UInt8) :
    (∃ tails rest, s = tails ++ rest ∧ Completes a tails) ∨
      ∃ rest, units (a :: s) = none :: units rest := by
  rw [units.eq_def]
  dsimp only
  split
  · exact .inr ⟨s, rfl⟩
  · next h => exact .inl ⟨[], s, rfl, .one h⟩
  next n low high h =>
  split
  · exact .inr ⟨[], by rw [units]⟩
  next b s₁ =>
  split
  case isFalse => exact .inr ⟨b :: s₁, rfl⟩
  next hb =>
  split
  · exact .inl ⟨[b], s₁, rfl, .two h hb⟩
  next n =>
  split
  · exact .inr ⟨[], by rw [units]⟩
  next c s₂ =>
  split
  case isFalse => exact .inr ⟨c :: s₂, rfl⟩
  next hc =>
  split
  · exact .inl ⟨[b, c], s₂, rfl, .three h hb hc⟩
  next n =>
  split
  · exact .inr ⟨[], by rw [units]⟩
  next d s₃ =>
  split
  case isFalse => exact .inr ⟨d :: s₃, rfl⟩
  next hd =>
  -- No first byte asks for more than three others.
  obtain rfl : n = 0 := by
    have hfacts := lead_eq_some h
    omega
  exact .inl ⟨[b, c, d], s₃, rfl, .four h hb hc hd⟩

lemma val_ofNat {n : Nat} (h : n.isValidChar) : (Char.ofNat n).val.toNat = n := by
  rw [Char.ofNat, dif_pos h]
  rfl

lemma ofNat_eq {n : Nat} {b : UInt8} (h : n = b.toNat) : UInt8.ofNat n = b := by
  rw [h, UInt8.ofNat_toNat]

lemma toNat_byte {n : Nat} (h : n < 0x100) : (UInt8.ofNat n).toNat = n :=
  UInt8.toNat_ofNat_of_lt' h

section

variable (a b c d : UInt8)

lemma compose_one : compose a [] = Char.ofNat a.toNat := rfl

lemma compose_two : compose a [b] = Char.ofNat (a.toNat % 0x20 * 64 + b.toNat % 64) := rfl

lemma compose_three : compose a [b, c] =
    Char.ofNat ((a.toNat % 0x10 * 64 + b.toNat % 64) * 64 + c.toNat % 64) := rfl

lemma compose_four : compose a [b, c, d] =
    Char.ofNat (((a.toNat % 0x08 * 64 + b.toNat % 64) * 64 + c.toNat % 64) * 64 + d.toNat % 64) := rfl

end

/-- The character that bytes complete is written with these bytes. -/
lemma Completes.encode_eq {a : UInt8} {tails : List UInt8} (h : Completes a tails) :
    String.utf8EncodeChar (compose a tails) = a :: tails := by
  cases h with
  | one h =>
    have hfacts := lead_eq_some h
    rw [compose_one, String.utf8EncodeChar, val_ofNat (.inl (by omega))]
    rw [if_pos (by omega), UInt8.ofNat_toNat]
  | @two low high b h hb =>
    have hfacts := lead_eq_some h
    rw [between_iff] at hb
    rw [compose_two, String.utf8EncodeChar, val_ofNat (.inl (by omega))]
    rw [if_neg (by omega), if_pos (by omega), ofNat_eq (b := a) (by omega), ofNat_eq (b := b) (by omega)]
  | @three low high b c h hb hc =>
    have hfacts := lead_eq_some h
    rw [between_iff] at hb
    rw [isTail_iff] at hc
    rw [compose_three, String.utf8EncodeChar, val_ofNat (by unfold Nat.isValidChar; omega)]
    rw [if_neg (by omega), if_neg (by omega), if_pos (by omega), ofNat_eq (b := a) (by omega),
      ofNat_eq (b := b) (by omega), ofNat_eq (b := c) (by omega)]
  | @four low high b c d h hb hc hd =>
    have hfacts := lead_eq_some h
    rw [between_iff] at hb
    rw [isTail_iff] at hc hd
    rw [compose_four, String.utf8EncodeChar, val_ofNat (by unfold Nat.isValidChar; omega)]
    rw [if_neg (by omega), if_neg (by omega), if_neg (by omega), ofNat_eq (b := a) (by omega),
      ofNat_eq (b := b) (by omega), ofNat_eq (b := c) (by omega), ofNat_eq (b := d) (by omega)]

/-- Every character is written with bytes that complete it. -/
lemma exists_completes (c : Char) : ∃ a tails,
    String.utf8EncodeChar c = a :: tails ∧ Completes a tails ∧ compose a tails = c := by
  have hvalid : c.val.toNat < 0xD800 ∨ 0xDFFF < c.val.toNat ∧ c.val.toNat < 0x110000 := c.valid
  have hchar {n : Nat} (h : n = c.val.toNat) : Char.ofNat n = c := by
    rw [h]
    exact Char.ofNat_toNat c
  unfold String.utf8EncodeChar
  dsimp only
  split
  · have ha := toNat_byte (n := c.val.toNat) (by omega)
    exact ⟨_, _, rfl, .one (lead_one (by omega)), hchar ha⟩
  split
  · have ha := toNat_byte (n := c.val.toNat / 64 % 0x20 + 0xc0) (by omega)
    have hb := toNat_byte (n := c.val.toNat % 0x40 + 0x80) (by omega)
    refine ⟨_, _, rfl, .two (lead_two (by omega) (by omega)) (isTail_iff.2 (by omega)), ?_⟩
    rw [compose_two]
    exact hchar (by omega)
  split
  · have ha := toNat_byte (n := c.val.toNat / 4096 % 0x10 + 0xe0) (by omega)
    have hb := toNat_byte (n := c.val.toNat / 64 % 0x40 + 0x80) (by omega)
    have hc := toNat_byte (n := c.val.toNat % 0x40 + 0x80) (by omega)
    refine ⟨_, _, rfl, .three (lead_three (by omega) (by omega)) ?_ (isTail_iff.2 (by omega)), ?_⟩
    · -- A character that would fit into two bytes or is a surrogate is excluded by the second byte.
      rw [between_iff, ha, hb]
      constructor <;> split <;> simp only [UInt8.reduceToNat] <;> omega
    · rw [compose_three]
      exact hchar (by omega)
  · have ha := toNat_byte (n := c.val.toNat / 262144 % 0x08 + 0xf0) (by omega)
    have hb := toNat_byte (n := c.val.toNat / 4096 % 0x40 + 0x80) (by omega)
    have hc := toNat_byte (n := c.val.toNat / 64 % 0x40 + 0x80) (by omega)
    have hd := toNat_byte (n := c.val.toNat % 0x40 + 0x80) (by omega)
    refine ⟨_, _, rfl, .four (lead_four (by omega) (by omega)) ?_ (isTail_iff.2 (by omega))
      (isTail_iff.2 (by omega)), ?_⟩
    · rw [between_iff, ha, hb]
      constructor <;> split <;> simp only [UInt8.reduceToNat] <;> omega
    · rw [compose_four]
      exact hchar (by omega)

/-- The bytes of a character are one unit, whatever follows. -/
lemma units_encodeChar (c : Char) (rest : List UInt8) :
    units (String.utf8EncodeChar c ++ rest) = some c :: units rest := by
  obtain ⟨a, tails, hbytes, hcompletes, hchar⟩ := exists_completes c
  rw [hbytes, List.cons_append, hcompletes.units_eq, hchar]

/-- What a byte string begins with: a character's bytes, or a part that is no character. -/
lemma units_cons (a : UInt8) (s : List UInt8) :
    (∃ c rest, a :: s = String.utf8EncodeChar c ++ rest) ∨
      ∃ rest, units (a :: s) = none :: units rest := by
  refine (completes_or_bad a s).imp_left ?_
  rintro ⟨tails, rest, rfl, h⟩
  exact ⟨compose a tails, rest, by rw [h.encode_eq, List.cons_append]⟩

/-- The units of a text's bytes are its characters, and no other bytes have these units. -/
lemma units_eq_iff {bytes : List UInt8} {cs : List Char} :
    units bytes = cs.map some ↔ bytes = cs.flatMap String.utf8EncodeChar := by
  constructor
  · intro h
    induction cs generalizing bytes with
    | nil =>
      cases bytes with
      | nil => rfl
      | cons a s =>
        rcases units_cons a s with ⟨c, rest, heq⟩ | ⟨rest, hbad⟩
        · rw [heq, units_encodeChar] at h
          cases h
        · rw [hbad] at h
          cases h
    | cons c cs ih =>
      cases bytes with
      | nil =>
        rw [units] at h
        cases h
      | cons a s =>
        rcases units_cons a s with ⟨c', rest, heq⟩ | ⟨rest, hbad⟩
        · rw [heq, units_encodeChar, List.map_cons, List.cons.injEq, Option.some.injEq] at h
          rw [heq, List.flatMap_cons, h.1, ih h.2]
        · rw [hbad] at h
          cases h
  · rintro rfl
    induction cs with
    | nil => rw [List.flatMap_nil, units, List.map_nil]
    | cons c cs ih => rw [List.flatMap_cons, units_encodeChar, ih, List.map_cons]

lemma mapM_id_eq_some {l : List (Option Char)} {cs : List Char} :
    l.mapM id = some cs ↔ l = cs.map some := by
  induction l generalizing cs with
  | nil => cases cs <;> simp
  | cons u l ih =>
    cases u with
    | none => cases cs <;> simp
    | some c => cases cs <;> simp [Option.bind_eq_some_iff, ih, and_comm, and_assoc]

/-- Bytes are decoded to a text exactly if they are its encoding. -/
theorem decode?_eq_some {bytes : List UInt8} {s : String} :
    decode? bytes = some s ↔ bytes = encode s := by
  rw [decode?, Option.map_eq_some_iff, encode, ← units_eq_iff]
  constructor
  · rintro ⟨cs, hcs, rfl⟩
    rw [String.toList_ofList]
    exact mapM_id_eq_some.1 hcs
  · intro h
    exact ⟨s.toList, mapM_id_eq_some.2 h, String.ofList_toList⟩

theorem decode?_eq_none {bytes : List UInt8} : decode? bytes = none ↔ ¬IsText bytes := by
  simp only [Option.eq_none_iff_forall_ne_some, ne_eq, decode?_eq_some, IsText, not_exists]

/-- What is UTF-8 has no need of replacement characters. -/
theorem decodeLossy_encode (s : String) : decodeLossy (encode s) = s := by
  have hunits : units (encode s) = s.toList.map some := units_eq_iff.2 rfl
  simp [decodeLossy, hunits, Function.comp_def]

/-- Parts that are no UTF-8 neither make nor hide what a text starts with. -/
theorem isPrefix_decodeLossy {start : List Char} (hstart : Char.ofNat 0xFFFD ∉ start)
    {bytes : List UInt8} :
    start <+: (decodeLossy bytes).toList ↔ start.flatMap String.utf8EncodeChar <+: bytes := by
  rw [decodeLossy, String.toList_ofList]
  induction start generalizing bytes with
  | nil => simp
  | cons c start ih =>
    rw [List.mem_cons, not_or] at hstart
    constructor
    · intro h
      cases bytes with
      | nil => simp [units] at h
      | cons a s =>
        rcases units_cons a s with ⟨c', rest, heq⟩ | ⟨rest, hbad⟩
        · rw [heq, units_encodeChar, List.map_cons, List.cons_prefix_cons] at h
          rw [heq, List.flatMap_cons, h.1]
          exact (List.prefix_append_right_inj _).2 ((ih hstart.2).1 h.2)
        · rw [hbad, List.map_cons, List.cons_prefix_cons] at h
          exact absurd h.1.symm hstart.1
    · rintro ⟨rest, rfl⟩
      rw [List.flatMap_cons, List.append_assoc, units_encodeChar, List.map_cons,
        List.cons_prefix_cons]
      exact ⟨rfl, (ih hstart.2).2 (List.prefix_append _ _)⟩

end StagedLowering.Text.Utf8
