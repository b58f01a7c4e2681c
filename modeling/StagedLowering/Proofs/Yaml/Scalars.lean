import Mathlib.Tactic.Lemma
import StagedLowering.Proofs.Json.Token
import StagedLowering.Yaml.Reader
import StagedLowering.Yaml.Writer

/-! Scalars of one line are read back: plain ones up to a colon or the end of their line, and quoted ones
up to the closing quote. Rows of digits are read back as numbers. -/
namespace StagedLowering.Yaml

/-- At the end of the text, or at a character that is no blank, no line end and no comment. -/
def Settled (rest : List Char) : Prop :=
  ∀ c ∈ rest.head?, isBlank c = false ∧ isBreak c = false ∧ c ≠ '#'

lemma settled_cons {c : Char} (h : isBlank c = false ∧ isBreak c = false ∧ c ≠ '#') (rest : List Char) :
    Settled (c :: rest) := by
  rintro _ ⟨⟩
  exact h

namespace Cursor

variable {line column : Nat} {fresh : Bool} {rest : List Char}

lemma skipFrom_spaces (m : Nat) :
    skipFrom false (spaces m ++ rest) line column fresh false =
      skipFrom false rest line (column + m) fresh false := by
  induction m generalizing column with
  | zero => rfl
  | succ m ih =>
    change skipFrom false (spaces m ++ rest) line (column + 1) fresh false = _
    rw [ih, Nat.add_right_comm, Nat.add_assoc]

lemma skipFrom_settled (h : Settled rest) :
    skipFrom false rest line column fresh false = ⟨rest, line, column, fresh⟩ := by
  cases rest with
  | nil => rfl
  | cons c rest =>
    obtain ⟨hblank, hbreak, hhash⟩ := h c rfl
    have hspace : (c = ' ' || (c = '\t' && (false || !fresh))) = false := by
      simp only [isBlank, Bool.or_eq_false_iff, decide_eq_false_iff_not] at hblank
      simp [hblank.1, hblank.2]
    rw [skipFrom, hbreak, hspace]
    simp [hhash]

lemma skip_settled (h : Settled rest) :
    skip ⟨rest, line, column, fresh⟩ = ⟨rest, line, column, fresh⟩ :=
  skipFrom_settled h

/-- A space in front of a value is passed over. -/
lemma skip_space (h : Settled rest) :
    skip ⟨' ' :: rest, line, column, fresh⟩ = ⟨rest, line, column + 1, fresh⟩ :=
  skipFrom_settled h

/-- Behind a line end follows a fresh place, at the indentation of the next line. -/
lemma skip_line (h : Settled rest) (m : Nat) :
    skip ⟨'\n' :: (spaces m ++ rest), line, column, fresh⟩ = ⟨rest, line + 1, m, true⟩ := by
  change skipFrom false (spaces m ++ rest) (line + 1) 0 (fresh || !false) false = _
  rw [skipFrom_spaces, skipFrom_settled h, Nat.zero_add, Bool.not_false, Bool.or_true]

lemma atIndicator_cons {c : Cursor} {m a : Char} (h : c.rest = a :: rest) :
    c.atIndicator m = (a = m && isEdge rest) := by
  rw [atIndicator, h]

end Cursor

/-- A text of one line that needs no escapes. -/
def Inline (cs : List Char) : Prop := ∀ c ∈ cs, isPrintable c = true ∧ isBreak c = false

instance (cs : List Char) : Decidable (Inline cs) :=
  List.decidableBAll (fun c => isPrintable c = true ∧ isBreak c = false) cs

/-- Printable ASCII characters need no escapes. -/
lemma inline_of_ascii {cs : List Char} (h : ∀ c ∈ cs, 0x20 ≤ c.toNat ∧ c.toNat ≤ 0x7E) : Inline cs := by
  intro c hc
  obtain ⟨hlow, hhigh⟩ := h c hc
  have hline : c ≠ '\n' := by
    rintro rfl
    exact absurd hlow (by decide)
  simp only [isPrintable, isBreak, Bool.or_eq_true, Bool.and_eq_true, decide_eq_true_eq,
    Bool.or_eq_false_iff, decide_eq_false_iff_not]
  exact ⟨by omega, ⟨hline, by omega⟩, by omega⟩

/-- A text that may stand without quotes. -/
structure Plain (cs : List Char) : Prop where
  ne_nil : cs ≠ []
  unmarked : startsMarked cs = false
  markFree : holdsMark false cs = false
  inline : Inline cs
  head : cs.head?.any isSpace = false
  last : cs.getLast?.any isSpace = false

lemma plain_of_allowsPlain {cs : List Char} (hne : cs ≠ []) (h : allowsPlain cs = true) :
    Plain cs := by
  simp only [allowsPlain, Bool.and_eq_true, Bool.not_eq_true', List.all_eq_true] at h
  obtain ⟨⟨⟨⟨hunmarked, hfree⟩, hinline⟩, hhead⟩, hlast⟩ := h
  exact ⟨hne, hunmarked, hfree, hinline, hhead, hlast⟩

/-- Blanks other than spaces need escapes. -/
lemma eq_space_of_isBlank {c : Char} (h : isPrintable c = true) (hblank : isBlank c = true) :
    c = ' ' := by
  simp only [isBlank, Bool.or_eq_true, decide_eq_true_eq] at hblank
  rcases hblank with rfl | rfl
  · rfl
  · exact absurd h (by decide)

lemma isEdge_append {cs : List Char} (h : isEdge cs = false) (rest : List Char) :
    isEdge (cs ++ rest) = false := by
  cases cs with
  | nil => cases h
  | cons c cs => exact h

namespace Plain

variable {c : Char} {cs : List Char}

lemma not_isBlank (h : Plain (c :: cs)) : isBlank c = false := by
  rw [← Bool.not_eq_true]
  intro hblank
  obtain rfl := eq_space_of_isBlank (h.inline c List.mem_cons_self).1 hblank
  exact absurd h.head (by simp [isSpace])

lemma not_isBreak (h : Plain (c :: cs)) : isBreak c = false :=
  (h.inline c List.mem_cons_self).2

/-- A mark at the start of a plain scalar is followed by more of its word. -/
lemma not_isEdge (h : Plain (c :: cs)) (hc : c = '?' ∨ c = ':' ∨ c = '-') (tail : List Char) :
    isEdge (cs ++ tail) = false := by
  have hmark := h.unmarked
  simp only [startsMarked, Bool.or_eq_false_iff] at hmark
  have hedge : isEdge cs = false := by
    rcases hc with rfl | rfl | rfl <;> exact hmark.1.1.2
  exact isEdge_append hedge tail

lemma ne_indicator {d : Char} (h : Plain (c :: cs)) (hd : isIndicator d = true) : c ≠ d := by
  rintro rfl
  have hmark := h.unmarked
  simp only [startsMarked, Bool.or_eq_false_iff, hd] at hmark
  exact absurd hmark.1.1.1 (by decide)

end Plain

lemma isTriple_of_ne {m c : Char} (h : c ≠ m) (rest : List Char) : isTriple m (c :: rest) = false := by
  match rest with
  | [] => rfl
  | [_] => rfl
  | _ :: _ :: _ => simp [isTriple, h]

namespace Gap

lemma text_addBlank {gap : Gap} (h : gap.hasBreak = false) (c : Char) :
    (gap.addBlank c).text = gap.text ++ [c] := by
  cases gap with
  | none => rfl
  | blanks cs => rfl
  | breaks first more => cases h

lemma hasBreak_addBlank {gap : Gap} (h : gap.hasBreak = false) (c : Char) :
    (gap.addBlank c).hasBreak = false := by
  cases gap with
  | none => rfl
  | blanks cs => rfl
  | breaks first more => cases h

/-- Whether anything stands between the words. -/
def isOpen : Gap → Bool
  | .none => false
  | _ => true

lemma isOpen_addBlank (gap : Gap) (c : Char) : (gap.addBlank c).isOpen = true := by
  cases gap <;> rfl

end Gap

section Plain

variable {floor line column : Nat} {text : List Char} {gap : Gap}

lemma scanPlain_space (hgap : gap.hasBreak = false) (rest : List Char) :
    scanPlain false floor (' ' :: rest) line column gap text =
      scanPlain false floor rest line (column + 1) (gap.addBlank ' ') text := by
  cases gap with
  | none => rfl
  | blanks cs => rfl
  | breaks first more => cases hgap

/-- A character that has no meaning where it stands belongs to the scalar. -/
lemma scanPlain_char {c : Char} {rest : List Char} (hblank : isBlank c = false)
    (hbreak : isBreak c = false) (hword : gap.isOpen = true → floor ≤ column ∧ c ≠ '#')
    (hdash : column = 0 → isTriple '-' (c :: rest) = false)
    (hdots : column = 0 → isTriple '.' (c :: rest) = false)
    (hcolon : c = ':' → isEdge rest = false) :
    scanPlain false floor (c :: rest) line column gap text =
      scanPlain false floor rest line (column + 1) .none (text ++ gap.text ++ [c]) := by
  have hmarker : (column = 0 && (isTriple '-' (c :: rest) || isTriple '.' (c :: rest))) = false := by
    by_cases hzero : column = 0
    · simp [hdash hzero, hdots hzero]
    · simp [hzero]
  have hcolon' : (c = ':' && isEdge rest) = false := by
    by_cases hc : c = ':'
    · simp [hcolon hc]
    · simp [hc]
  rw [scanPlain.eq_def]
  simp only [hbreak, hblank, hmarker, hcolon', Bool.false_eq_true, if_false, Bool.and_false,
    Bool.false_and]
  cases gap with
  | none => rfl
  | blanks cs => exact if_neg (by simpa using hword rfl)
  | breaks first more => exact if_neg (by simpa using hword rfl)

/-- The words of a plain scalar are taken over with the blanks between them. -/
lemma scanPlain_words {cs : List Char} (tail : List Char) (hinline : Inline cs)
    (hfree : holdsMark gap.isOpen cs = false) (hlast : cs.getLast?.any isSpace = false)
    (hgap : gap.hasBreak = false) (hclosed : cs = [] → gap = .none) (hfloor : floor ≤ column)
    (hcolumn : 0 < column) :
    scanPlain false floor (cs ++ tail) line column gap text =
      scanPlain false floor tail line (column + cs.length) .none (text ++ gap.text ++ cs) := by
  -- The gap holds the blanks since the last word. They come into the text with the next word, and there
  -- is one: the scalar does not end with a blank.
  induction cs generalizing column gap text with
  | nil =>
    obtain rfl := hclosed rfl
    simp [Gap.text]
  | cons c cs ih =>
    obtain ⟨⟨hprintable, hbreak⟩, hcs⟩ := List.forall_mem_cons.1 hinline
    rw [holdsMark, Bool.or_eq_false_iff, Bool.or_eq_false_iff] at hfree
    obtain ⟨⟨hcolon, hhash⟩, hfree⟩ := hfree
    have hlast' : cs.getLast?.any isSpace = false := by
      cases cs with
      | nil => rfl
      | cons d cs => rwa [List.getLast?_cons_cons] at hlast
    have hlength : column + (c :: cs).length = column + 1 + cs.length := by
      rw [List.length_cons]
      omega
    rw [List.cons_append, hlength]
    by_cases hblank : isBlank c = true
    · obtain rfl := eq_space_of_isBlank hprintable hblank
      have hne : cs ≠ [] := by
        rintro rfl
        cases hlast
      rw [scanPlain_space hgap, ih hcs ?_ hlast' (Gap.hasBreak_addBlank hgap ' ')
        (fun h => absurd h hne) (by omega) (by omega), Gap.text_addBlank hgap]
      · simp
      · rw [Gap.isOpen_addBlank]
        exact hfree
    · rw [Bool.not_eq_true] at hblank
      have hclear : holdsMark Gap.none.isOpen cs = false := by rwa [hblank, hbreak] at hfree
      rw [scanPlain_char hblank hbreak, ih hcs hclear hlast' rfl (fun _ => rfl) (by omega)
        (by omega)]
      · simp [Gap.text]
      · intro hopen
        refine ⟨hfloor, ?_⟩
        rintro rfl
        rw [hopen] at hhash
        cases hhash
      · exact fun hzero => absurd hzero (by omega)
      · exact fun hzero => absurd hzero (by omega)
      · rintro rfl
        exact isEdge_append hcolon tail

/-- A plain scalar ends at a colon that stands by itself. -/
lemma scanPlain_colon {rest : List Char} (h : isEdge rest = true) :
    scanPlain false floor (':' :: rest) line column .none text =
      some (text, ⟨':' :: rest, line, column, false⟩) := by
  rw [scanPlain.eq_def]
  simp [isBreak, isBlank, isTriple_of_ne, h, Gap.hasBreak]

/-- The indentation of the next line does not belong to a plain scalar. -/
lemma scanPlain_indent {first : Option Char} {more : List Char} (m : Nat) (rest : List Char) :
    scanPlain false floor (spaces m ++ rest) line column (.breaks first more) text =
      scanPlain false floor rest line (column + m) (.breaks first more) text := by
  induction m generalizing column with
  | zero => rfl
  | succ m ih =>
    have hstep : scanPlain false floor (' ' :: (spaces m ++ rest)) line column (.breaks first more) text =
        scanPlain false floor (spaces m ++ rest) line (column + 1) (.breaks first more) text := rfl
    rw [spaces, List.replicate_succ, List.cons_append]
    change scanPlain false floor (' ' :: (spaces m ++ rest)) line column (.breaks first more) text = _
    rw [hstep, ih, Nat.add_right_comm, Nat.add_assoc]

/-- A plain scalar ends with its line if the next line stands further left. -/
lemma scanPlain_line {m : Nat} {rest : List Char} (hrest : Settled rest)
    (hm : rest = [] ∨ m < floor) :
    scanPlain false floor ('\n' :: (spaces m ++ rest)) line column .none text =
      some (text, ⟨rest, line + 1, m, true⟩) := by
  change scanPlain false floor (spaces m ++ rest) (line + 1) 0 (.breaks (some '\n') []) text = _
  rw [scanPlain_indent, Nat.zero_add]
  cases rest with
  | nil => rfl
  | cons c rest =>
    obtain ⟨hblank, hbreak, _⟩ := hrest c rfl
    have hleft : m < floor := hm.resolve_left (List.cons_ne_nil _ _)
    rw [scanPlain.eq_def]
    simp [hbreak, hblank, hleft, Gap.hasBreak]

/-- A plain scalar is read up to its end. -/
lemma scanPlain_append {cs : List Char} (h : Plain cs) (tail : List Char) (hfloor : floor ≤ column + 1)
    (hdash : column = 0 → isTriple '-' (cs ++ tail) = false)
    (hdots : column = 0 → isTriple '.' (cs ++ tail) = false) :
    scanPlain false floor (cs ++ tail) line column .none [] =
      scanPlain false floor tail line (column + cs.length) .none cs := by
  cases cs with
  | nil => exact absurd rfl h.ne_nil
  | cons c cs =>
    obtain ⟨⟨hprintable, hbreak⟩, hcs⟩ := List.forall_mem_cons.1 h.inline
    have hfree := h.markFree
    rw [holdsMark, Bool.or_eq_false_iff, Bool.or_eq_false_iff] at hfree
    obtain ⟨⟨hcolon, _⟩, hfree⟩ := hfree
    have hblank := h.not_isBlank
    have hclear : holdsMark Gap.none.isOpen cs = false := by rwa [hblank, hbreak] at hfree
    have hlast : cs.getLast?.any isSpace = false := by
      cases cs with
      | nil => rfl
      | cons d cs => simpa [List.getLast?_cons_cons] using h.last
    have hlength : column + 1 + cs.length = column + (c :: cs).length := by
      rw [List.length_cons]
      omega
    rw [List.cons_append] at hdash hdots ⊢
    rw [scanPlain_char hblank hbreak ?_ hdash hdots,
      scanPlain_words tail hcs hclear hlast rfl (fun _ => rfl) hfloor (Nat.succ_pos _), hlength]
    · simp [Gap.text]
    · rintro rfl
      exact isEdge_append hcolon tail
    · rintro ⟨⟩

end Plain

section Quoted

/-- A character inside single quotes. -/
def quoteChar (c : Char) : List Char := if c = '\'' then ['\'', '\''] else [c]

lemma singleBody_inline {cs : List Char} (h : Inline cs) (indent : Nat) :
    singleBody indent false cs = cs.flatMap quoteChar := by
  induction cs with
  | nil => rfl
  | cons c cs ih =>
    obtain ⟨⟨_, hbreak⟩, hcs⟩ := List.forall_mem_cons.1 h
    simp [singleBody, hbreak, ih hcs, quoteChar]

variable {line column : Nat} {text : List Char} {gap : Gap}

lemma scanSingle_space (rest : List Char) :
    scanSingle (' ' :: rest) line column gap text =
      scanSingle rest line (column + 1) (gap.addBlank ' ') text :=
  rfl

lemma scanSingle_char {c : Char} {rest : List Char} (hquote : c ≠ '\'') (hblank : isBlank c = false)
    (hbreak : isBreak c = false) (hcolumn : 0 < column) :
    scanSingle (c :: rest) line column gap text =
      scanSingle rest line (column + 1) .none (text ++ gap.text ++ [c]) := by
  have hzero : column ≠ 0 := by omega
  rw [scanSingle]
  · simp [hbreak, hblank, hquote, hzero]
  · exact fun _ h => absurd h hquote

/-- A text in single quotes is read up to the closing quote. -/
lemma scanSingle_body {cs : List Char} (rest : List Char) (hinline : Inline cs)
    (hgap : gap.hasBreak = false) (hcolumn : 0 < column) (hrest : rest.head? ≠ some '\'') :
    scanSingle (cs.flatMap quoteChar ++ '\'' :: rest) line column gap text =
      some (text ++ gap.text ++ cs, ⟨rest, line, column + (cs.flatMap quoteChar).length + 1, false⟩) := by
  induction cs generalizing column gap text with
  | nil =>
    rw [List.flatMap_nil, List.nil_append, scanSingle]
    · simp [isBreak, isBlank]
    · rintro r _ rfl
      exact hrest rfl
  | cons c cs ih =>
    obtain ⟨⟨hprintable, hbreak⟩, hcs⟩ := List.forall_mem_cons.1 hinline
    rw [List.flatMap_cons, List.append_assoc, List.length_append, ← Nat.add_assoc, quoteChar]
    by_cases hquote : c = '\''
    · subst hquote
      rw [if_pos rfl]
      change scanSingle (cs.flatMap quoteChar ++ '\'' :: rest) line (column + 2) .none _ = _
      rw [ih hcs rfl (by omega)]
      simp [Gap.text]
    · rw [if_neg hquote, List.singleton_append]
      by_cases hblank : isBlank c = true
      · obtain rfl := eq_space_of_isBlank hprintable hblank
        rw [scanSingle_space, ih hcs (Gap.hasBreak_addBlank hgap ' ') (by omega),
          Gap.text_addBlank hgap]
        simp
      · rw [Bool.not_eq_true] at hblank
        rw [scanSingle_char hquote hblank hbreak hcolumn, ih hcs rfl (by omega)]
        simp [Gap.text]

end Quoted

/-- Where a scalar or a key may begin: none of the characters that have a meaning there. -/
structure Begins (cs : List Char) : Prop where
  settled : Settled cs
  dash : ∀ c : Cursor, c.rest = cs → c.atIndicator '-' = false
  question : ∀ c : Cursor, c.rest = cs → c.atIndicator '?' = false
  start : isTriple '-' cs = false
  stop : isTriple '.' cs = false
  bare : ∀ c ∈ cs.head?, c ∉ ['&', '!', '|', '>', '%']

/-- Quotes and brackets begin a node, whatever follows them. -/
lemma begins_cons {c : Char} (h : c = '\'' ∨ c = '[') (tail : List Char) : Begins (c :: tail) where
  settled := by rcases h with rfl | rfl <;> exact settled_cons (by decide) tail
  dash p hp := by rcases h with rfl | rfl <;> simp [Cursor.atIndicator_cons hp]
  question p hp := by rcases h with rfl | rfl <;> simp [Cursor.atIndicator_cons hp]
  start := by rcases h with rfl | rfl <;> exact isTriple_of_ne (by decide) tail
  stop := by rcases h with rfl | rfl <;> exact isTriple_of_ne (by decide) tail
  bare := by rcases h with rfl | rfl <;> simp

/-- How a text of one line is written: as it is, or in single quotes. -/
inductive Written : List Char → Style → String → Prop
  | plain {s : String} : Plain s.toList → Written s.toList .plain s
  | quoted {s : String} :
    Inline s.toList → Written ('\'' :: (s.toList.flatMap quoteChar ++ ['\''])) .quoted s

lemma isTriple_append {m d : Char} {cs : List Char} (h : [m, m, m].isPrefixOf cs = false) (hd : d ≠ m)
    (tail : List Char) : isTriple m (cs ++ d :: tail) = false := by
  match cs with
  | [] => exact isTriple_of_ne hd tail
  | [a] => cases tail <;> simp [isTriple, hd]
  | [a, b] => simp [isTriple, hd]
  | a :: b :: c :: cs =>
    have hne : ¬(a = m ∧ b = m ∧ c = m) := by
      rintro ⟨rfl, rfl, rfl⟩
      simp at h
    simp only [List.cons_append, isTriple, Bool.and_eq_false_iff, decide_eq_false_iff_not]
    grind

namespace Plain

variable {cs : List Char}

lemma begins (h : Plain cs) {d : Char} (hdash : d ≠ '-') (hdot : d ≠ '.') (tail : List Char) :
    Begins (cs ++ d :: tail) := by
  cases cs with
  | nil => exact absurd rfl h.ne_nil
  | cons c cs =>
    have hmark := h.unmarked
    simp only [startsMarked, Bool.or_eq_false_iff] at hmark
    have halone {m : Char} (hm : m = '?' ∨ m = ':' ∨ m = '-') (p : Cursor)
        (hp : p.rest = c :: (cs ++ d :: tail)) : p.atIndicator m = false := by
      rw [Cursor.atIndicator_cons hp, Bool.and_eq_false_iff, decide_eq_false_iff_not]
      by_cases hcm : c = m
      · exact .inr (h.not_isEdge (hcm ▸ hm) _)
      · exact .inl hcm
    have hbare : ∀ x ∈ ['&', '!', '|', '>', '%'], isIndicator x = true :=
      List.all_eq_true.1 (by decide)
    refine ⟨?_, halone (by decide), halone (by decide), isTriple_append hmark.1.2 hdash tail,
      isTriple_append hmark.2 hdot tail, ?_⟩
    · exact settled_cons ⟨h.not_isBlank, h.not_isBreak, h.ne_indicator (by decide)⟩ _
    · rintro _ ⟨⟩ hmem
      exact h.ne_indicator (hbare c hmem) rfl

end Plain

namespace Written

variable {body : List Char} {style : Style} {s : String}

lemma begins_line (h : Written body style s) (tail : List Char) : Begins (body ++ '\n' :: tail) := by
  cases h with
  | plain h => exact h.begins (by decide) (by decide) tail
  | quoted h => exact begins_cons (.inl rfl) _

end Written

section Content

variable {floor fuel line column : Nat} {fresh : Bool}

lemma startsPlain_cons {c : Char} {cs : List Char} (h : Plain (c :: cs)) (tail : List Char) :
    startsPlain false c (cs ++ tail) = true := by
  rw [startsPlain]
  by_cases hdash : c = '-'
  · rw [if_pos hdash, h.not_isEdge (.inr (.inr hdash)), Bool.not_false]
  rw [if_neg hdash]
  by_cases hmark : c = '?' ∨ c = ':'
  · have hedge : isEdge (cs ++ tail) = false := h.not_isEdge (hmark.imp_right .inl) tail
    rw [if_pos (by simpa using hmark), hedge]
    rfl
  · have hflow : isFlowMark c = false := by
      have hall : ∀ x ∈ [',', '[', ']', '\x7b', '\x7d'], isIndicator x = true :=
        List.all_eq_true.1 (by decide)
      have hmarks : ∀ x ∈ [',', '[', ']', '\x7b', '\x7d'], c ≠ x := fun x hx =>
        h.ne_indicator (hall x hx)
      simpa [isFlowMark, and_assoc] using hmarks
    have hfree : c ∉ "#&*!|>'\"%@`".toList := by
      have hall : ∀ x ∈ "#&*!|>'\"%@`".toList, isIndicator x = true :=
        List.all_eq_true.1 (by decide)
      exact fun hmem => h.ne_indicator (hall c hmem) rfl
    rw [if_neg (by simpa using hmark), h.not_isBlank, h.not_isBreak, hflow, decide_eq_true hfree]
    rfl

/-- A plain scalar is read, wherever it ends. -/
lemma scanContent_plain {cs tail : List Char} {c' : Cursor} (h : Plain cs) (hfloor : floor ≤ column + 1)
    (hbegins : Begins (cs ++ tail))
    (hstop : scanPlain false floor tail line (column + cs.length) .none cs = some (cs, c')) :
    scanContent floor fuel {} ⟨cs ++ tail, line, column, fresh⟩ =
      some (.scalar {} .plain (String.ofList cs), c') := by
  have hplain : scanPlain false floor (cs ++ tail) line column .none [] = some (cs, c') := by
    rw [scanPlain_append h tail hfloor (fun _ => hbegins.start) (fun _ => hbegins.stop), hstop]
  cases cs with
  | nil => exact absurd rfl h.ne_nil
  | cons c cs =>
    have hinline : scanInline false floor {} ⟨c :: (cs ++ tail), line, column, fresh⟩ =
        some (.scalar {} .plain (String.ofList (c :: cs)), c') := by
      -- Quotes are indicators, with which a plain scalar does not start.
      rw [scanInline.eq_def]
      split
      · next heq => exact absurd (List.cons.inj heq).1 (h.ne_indicator (by decide))
      · next heq => exact absurd (List.cons.inj heq).1 (h.ne_indicator (by decide))
      · next heq =>
        obtain ⟨rfl, rfl⟩ := List.cons.inj heq
        rw [if_pos (startsPlain_cons h tail)]
        change (scanPlain false floor (c :: cs ++ tail) line column .none [] >>= _) = _
        rw [hplain]
        rfl
      · next heq => cases heq
    -- So are the marks of aliases, blocks of lines and brackets.
    rw [scanContent.eq_def]
    split
    case h_6 => exact hinline
    all_goals next heq => exact absurd (List.cons.inj heq).1 (h.ne_indicator (by decide))

lemma scanContent_quoted {cs : List Char} (h : Inline cs) {tail : List Char}
    (htail : tail.head? ≠ some '\'') :
    scanContent floor fuel {} ⟨'\'' :: (cs.flatMap quoteChar ++ '\'' :: tail), line, column, fresh⟩ =
      some (.scalar {} .quoted (String.ofList cs),
        ⟨tail, line, column + 1 + (cs.flatMap quoteChar).length + 1, false⟩) := by
  change ((scanSingle (cs.flatMap quoteChar ++ '\'' :: tail) line (column + 1) .none []).bind fun r =>
    some (Node.scalar {} .quoted (String.ofList r.1), r.2)) = _
  rw [scanSingle_body tail h rfl (Nat.succ_pos _) htail]
  rfl

/-- A scalar in front of a line that stands further left is read, and then that line follows. -/
lemma Written.scanContent_eq {body rest : List Char} {style : Style} {s : String} {m : Nat}
    (h : Written body style s) (hfloor : floor ≤ column + 1) (hrest : Settled rest)
    (hm : rest = [] ∨ m < floor) :
    ∃ c, scanContent floor fuel {} ⟨body ++ '\n' :: (spaces m ++ rest), line, column, fresh⟩ =
        some (.scalar {} style s, c) ∧ c.skip = ⟨rest, line + 1, m, true⟩ := by
  cases h with
  | plain h =>
    refine ⟨_, ?_, Cursor.skip_settled hrest⟩
    rw [scanContent_plain h hfloor ((Written.plain h).begins_line _) (scanPlain_line hrest hm),
      String.ofList_toList]
  | quoted h =>
    rw [List.cons_append, List.append_assoc, List.singleton_append,
      scanContent_quoted h (by simp), String.ofList_toList]
    exact ⟨_, rfl, Cursor.skip_line hrest m⟩

end Content

section Text

/-- How a text is written on its line. -/
def scalarBody (s : String) : List Char :=
  if allowsPlain s.toList && !isAmbiguous s then s.toList
  else '\'' :: (s.toList.flatMap quoteChar ++ ['\''])

def textStyle (s : String) : Style :=
  if allowsPlain s.toList && !isAmbiguous s then .plain else .quoted

lemma holdsPair_eq_false {p q : Char → Bool} {cs : List Char}
    (h : (∀ c ∈ cs, p c = false) ∨ ∀ c ∈ cs, q c = false) : holdsPair p q cs = false := by
  match cs with
  | [] => rfl
  | [_] => rfl
  | a :: b :: rest =>
    have hrest : holdsPair p q (b :: rest) = false :=
      holdsPair_eq_false (h.imp (fun hp c hc => hp c (List.mem_cons_of_mem _ hc))
        (fun hq c hc => hq c (List.mem_cons_of_mem _ hc)))
    have hhead : (p a && q b) = false := by
      rcases h with hp | hq
      · rw [hp a (by simp), Bool.false_and]
      · rw [hq b (by simp), Bool.and_false]
    rw [holdsPair, hhead, hrest, Bool.or_false]

lemma allowsSingle_of_inline {cs : List Char} (h : Inline cs) : allowsSingle cs = true := by
  have hbreaks : ∀ c ∈ cs, isBreak c = false := fun c hc => (h c hc).2
  have hprintable : cs.all isPrintable = true := List.all_eq_true.2 fun c hc => (h c hc).1
  rw [allowsSingle, hprintable, holdsPair_eq_false (.inl hbreaks), holdsPair_eq_false (.inr hbreaks)]
  rfl

/-- A text of one line is written on one line. -/
lemma scalarText_inline {s : String} (h : Inline s.toList) (indent : Nat) :
    scalarText indent s = scalarBody s ++ ['\n'] := by
  have hline : '\n' ∉ s.toList := fun hmem => absurd (h _ hmem).2 (by decide)
  rw [scalarText, scalarBody, if_neg hline]
  split
  · rfl
  · rw [if_pos (allowsSingle_of_inline h), singleBody_inline h]
    simp

lemma written_text {s : String} (h : Inline s.toList) : Written (scalarBody s) (textStyle s) s := by
  rw [scalarBody, textStyle]
  split
  · next hplain =>
    rw [Bool.and_eq_true, Bool.not_eq_true'] at hplain
    refine .plain (plain_of_allowsPlain ?_ hplain.1)
    intro hnil
    rw [String.toList_eq_nil_iff] at hnil
    subst hnil
    exact absurd hplain.2 (by decide)
  · exact .quoted h

end Text

section Digits

lemma ne_of_isDigit {c d : Char} (h : c.isDigit = true) (hd : d.isDigit = false) : c ≠ d := by
  rintro rfl
  rw [h] at hd
  cases hd

lemma inline_of_digits {cs : List Char} (h : ∀ c ∈ cs, c.isDigit = true) : Inline cs := by
  refine inline_of_ascii fun c hc => ?_
  have hrange : 48 ≤ c.toNat ∧ c.toNat ≤ 57 := Char.isDigit_iff_toNat.1 (h c hc)
  omega

lemma holdsMark_of_digits {cs : List Char} (h : ∀ c ∈ cs, c.isDigit = true) (afterBlank : Bool) :
    holdsMark afterBlank cs = false := by
  induction cs generalizing afterBlank with
  | nil => rfl
  | cons c cs ih =>
    rw [List.forall_mem_cons] at h
    have hcolon : c ≠ ':' := ne_of_isDigit h.1 (by decide)
    have hhash : c ≠ '#' := ne_of_isDigit h.1 (by decide)
    rw [holdsMark, ih h.2]
    simp [hcolon, hhash]

/-- Rows of digits need no quotes to be read as they are. -/
lemma plain_of_digits {cs : List Char} (hne : cs ≠ []) (h : ∀ c ∈ cs, c.isDigit = true) : Plain cs := by
  have hspace {x : Option Char} (hx : ∀ c ∈ x, c ∈ cs) : x.any isSpace = false := by
    cases x with
    | none => rfl
    | some c => exact decide_eq_false (ne_of_isDigit (h c (hx c rfl)) (by decide))
  have hunmarked : startsMarked cs = false := by
    cases cs with
    | nil => rfl
    | cons c cs =>
      rw [List.forall_mem_cons] at h
      have hindicator : isIndicator c = false := by
        have hall : ∀ x ∈ "#,[]\x7b\x7d&*!|>'\"%@`".toList, ¬x.isDigit = true :=
          List.any_eq_false.1 (by decide)
        exact decide_eq_false fun hmem => hall c hmem h.1
      have hne {d : Char} (hd : d.isDigit = false) : c ≠ d := ne_of_isDigit h.1 hd
      have hdash : ("---".toList.isPrefixOf (c :: cs)) = false := by
        simp [List.isPrefixOf, (hne (d := '-') (by decide)).symm]
      have hdots : ("...".toList.isPrefixOf (c :: cs)) = false := by
        simp [List.isPrefixOf, (hne (d := '.') (by decide)).symm]
      rw [startsMarked, hindicator, hdash, hdots]
      simp [hne (d := '?') (by decide), hne (d := ':') (by decide), hne (d := '-') (by decide)]
  exact ⟨hne, hunmarked, holdsMark_of_digits h false, inline_of_digits h,
    hspace fun _ hc => List.mem_of_head? hc, hspace fun _ hc => List.mem_of_getLast? hc⟩

lemma digit?_of_isDigit {c : Char} (h : c.isDigit = true) :
    digit? 10 c = some (c.toNat - '0'.toNat) := by
  have hrange : 48 ≤ c.toNat ∧ c.toNat ≤ 57 := Char.isDigit_iff_toNat.1 h
  have hsmall : c.toNat - '0'.toNat < 10 := by
    change c.toNat - 48 < 10
    omega
  rw [digit?, if_pos h, if_pos hsmall]

lemma digits?_of_digits {cs : List Char} (hne : cs ≠ []) (h : ∀ c ∈ cs, c.isDigit = true) :
    digits? 10 cs = some (Nat.ofDigitChars 10 cs 0) := by
  have hfold (n : Nat) : cs.foldlM (fun n c => (digit? 10 c).map (10 * n + ·)) n =
      some (Nat.ofDigitChars 10 cs n) := by
    clear hne
    induction cs generalizing n with
    | nil => rfl
    | cons c cs ih =>
      rw [List.forall_mem_cons] at h
      rw [List.foldlM_cons, digit?_of_isDigit h.1, Nat.ofDigitChars_cons]
      exact ih h.2 _
  rw [digits?, List.isEmpty_eq_false_iff.2 hne, hfold]
  rfl

lemma unsigned?_repr (n : Nat) : unsigned? n.repr = some n := by
  have hdigits : ∀ c ∈ Nat.toDigits 10 n, c.isDigit = true := fun c hc =>
    Nat.isDigit_of_mem_toDigits (by decide) (by decide) hc
  have hread := digits?_of_digits Nat.toDigits_ne_nil hdigits
  rw [Nat.ofDigitChars_toDigits (by decide) (by decide)] at hread
  rw [unsigned?, Nat.toList_repr]
  by_cases hn : n = 0
  · subst hn
    rfl
  · obtain ⟨d, ds, hds, hd⟩ := Json.toDigits_head hn
    rw [hds] at hdigits hread ⊢
    have hplus : d ≠ '+' := ne_of_isDigit (hdigits d List.mem_cons_self) (by decide)
    have hminus : d ≠ '-' := ne_of_isDigit (hdigits d List.mem_cons_self) (by decide)
    have hpadded : isPadded (d :: ds) = false := by
      simp [isPadded, dropSign, hplus, hminus, hd]
    have hmarked : marked? (dropPlus (d :: ds)) = digits? 10 (d :: ds) := by
      simp [marked?, dropPlus, hplus, hd]
    rw [hpadded, hmarked, hread]
    rfl

end Digits

end StagedLowering.Yaml
