import StagedLowering.Proofs.Json.Token

/-! The scan of the indented text of a value is the value. -/
namespace StagedLowering.Json

/-- Values whose text gives them back: no doubles, and whole numbers of 64 bits only. -/
inductive Exact : Json → Prop
  | null : Exact .null
  | bool (b : Bool) : Exact (.bool b)
  | nonneg {n : Nat} (h : n < UInt64.size) : Exact (.int (.ofNat n))
  | negative {n : Nat} (h : n < Nat.pow 2 63) : Exact (.int (.negSucc n))
  | str (s : String) : Exact (.str s)
  | arr {items : List Json} (h : ∀ v ∈ items, Exact v) : Exact (.arr items)
  | obj {fields : List (String × Json)} (h : ∀ f ∈ fields, Exact f.2) : Exact (.obj fields)

/-- Two steps for each character are enough to scan the text of `v`, wherever it stands. -/
def Scans (v : Json) : Prop :=
  ∀ (level n : Nat) (rest : List Char), EndsNumber rest → 2 * (prettyAt level v).length ≤ n →
    scanValue n (prettyAt level v ++ rest) = (v.toScan, some rest)

lemma endsNumber_of_separator {c : Char} (h : c = ',' ∨ c = '\n') (rest : List Char) :
    EndsNumber (c :: rest) := by
  rintro d ⟨⟩
  rcases h with rfl | rfl <;> decide

lemma skipSpace_blanks {blanks : List Char} (h : ∀ c ∈ blanks, isSpace c = true) (s : List Char) :
    skipSpace (blanks ++ s) = skipSpace s :=
  List.dropWhile_append_of_pos h

lemma skipSpace_cons {c : Char} (h : isSpace c = false) (s : List Char) :
    skipSpace (c :: s) = c :: s :=
  List.dropWhile_cons_of_neg (by simp [h])

lemma isSpace_of_mem_newline {level : Nat} {c : Char} (h : c ∈ newline level) :
    isSpace c = true := by
  rcases List.mem_cons.1 h with rfl | h
  · rfl
  · rw [List.eq_of_mem_replicate h]
    rfl

lemma skipSpace_newline (level : Nat) (s : List Char) :
    skipSpace (newline level ++ s) = skipSpace s :=
  skipSpace_blanks (fun _ => isSpace_of_mem_newline) s

lemma scanValue_blanks {blanks : List Char} (h : ∀ c ∈ blanks, isSpace c = true) (n : Nat)
    (s : List Char) : scanValue n (blanks ++ s) = scanValue n s := by
  cases n with
  | zero => rfl
  | succ n => simp only [scanValue, skipSpace_blanks h]

lemma scanValue_space (n : Nat) (s : List Char) : scanValue n (' ' :: s) = scanValue n s :=
  scanValue_blanks (List.forall_mem_singleton.2 rfl) n s

lemma scanItems_newline (level n : Nat) (s : List Char) :
    scanItems n (newline level ++ s) = scanItems n s := by
  cases n with
  | zero => rfl
  | succ n => simp only [scanItems, scanValue_blanks fun _ => isSpace_of_mem_newline]

lemma scanFields_newline (level n : Nat) (s : List Char) :
    scanFields n (newline level ++ s) = scanFields n s := by
  cases n with
  | zero => rfl
  | succ n => simp only [scanFields, skipSpace_newline]

/-- The text of a field's name, in front of the value. -/
def printName (k : String) (s : List Char) : List Char := printStr k ++ (':' :: ' ' :: s)

lemma printName_eq (k : String) (s : List Char) :
    printName k s = '"' :: (k.toList.flatMap escapeChar ++ '"' :: ':' :: ' ' :: s) := by
  simp [printName, printStr]

lemma skipSpace_printName (k : String) (s : List Char) :
    skipSpace (printName k s) =
      '"' :: (k.toList.flatMap escapeChar ++ '"' :: ':' :: ' ' :: s) := by
  rw [printName_eq]
  exact skipSpace_cons rfl _

lemma ne_of_isDigit {c d : Char} (hc : c.isDigit = true) (hd : d.isDigit = false) : c ≠ d := by
  rintro rfl
  rw [hc] at hd
  cases hd

lemma isSpace_of_isDigit {c : Char} (h : c.isDigit = true) : isSpace c = false := by
  have hne {d : Char} (hd : d.isDigit = false) : c ≠ d := ne_of_isDigit h hd
  simp [isSpace, hne (d := ' ') rfl, hne (d := '\n') rfl, hne (d := '\t') rfl,
    hne (d := '\r') rfl]

section Steps

variable {n : Nat} {s t rest : List Char} {v : Scan}

lemma scanValue_digit {c : Char} (h : c.isDigit = true) (s : List Char) :
    scanValue (n + 1) (c :: s) = scanNumber false (c :: s) := by
  have hquote : c ≠ '"' := ne_of_isDigit h rfl
  have hminus : c ≠ '-' := ne_of_isDigit h rfl
  simp [scanValue, skipSpace_cons (isSpace_of_isDigit h), hquote, hminus, h]

/-- An array is not empty when something other than its end comes first. -/
lemma scanValue_array {c : Char} {items : Scanned Items} (h : skipSpace s = c :: t) (hc : c ≠ ']')
    (hitems : scanItems n (c :: t) = items) :
    scanValue (n + 1) ('[' :: s) = (.arr items.1, items.2) := by
  have hopen : skipSpace ('[' :: s) = '[' :: s := skipSpace_cons rfl s
  simp [scanValue, hopen, h, hc, hitems]

lemma scanItems_last (hv : scanValue n s = (v, some t)) (ht : skipSpace t = ']' :: rest) :
    scanItems (n + 1) s = (.cons v .done, some rest) := by
  simp [scanItems, hv, ht]

lemma scanItems_more (hv : scanValue n s = (v, some t)) (ht : skipSpace t = ',' :: rest) :
    scanItems (n + 1) s = (.cons v (scanItems n rest).1, (scanItems n rest).2) := by
  simp [scanItems, hv, ht]

/-- An object is not empty when something other than its end comes first. -/
lemma scanValue_object {c : Char} {fields : Scanned Fields} (h : skipSpace s = c :: t)
    (hc : c.toNat ≠ 0x7D) (hfields : scanFields n (c :: t) = fields) :
    scanValue (n + 1) (Char.ofNat 0x7B :: s) = (.obj fields.1, fields.2) := by
  have hopen : skipSpace (Char.ofNat 0x7B :: s) = Char.ofNat 0x7B :: s := skipSpace_cons rfl s
  simp [scanValue, hopen, h, hc, hfields]

lemma scanFields_last (k : String) (hv : scanValue n s = (v, some t))
    (ht : skipSpace t = Char.ofNat 0x7D :: rest) :
    scanFields (n + 1) (printName k s) = (.cons (.ok k) v .done, some rest) := by
  have hcolon : skipSpace (':' :: ' ' :: s) = ':' :: ' ' :: s := skipSpace_cons rfl _
  simp [scanFields, skipSpace_printName, scanText_escaped, hcolon, scanValue_space, hv, ht,
    Except.map]

lemma scanFields_more (k : String) (hv : scanValue n s = (v, some t))
    (ht : skipSpace t = ',' :: rest) :
    scanFields (n + 1) (printName k s) =
      (.cons (.ok k) v (scanFields n rest).1, (scanFields n rest).2) := by
  have hcolon : skipSpace (':' :: ' ' :: s) = ':' :: ' ' :: s := skipSpace_cons rfl _
  simp [scanFields, skipSpace_printName, scanText_escaped, hcolon, scanValue_space, hv, ht,
    Except.map]

end Steps

lemma prettyAt_array (level : Nat) (v : Json) (items : List Json) (rest : List Char) :
    prettyAt level (.arr (v :: items)) ++ rest =
      '[' :: (newline (level + 1) ++
        (prettyAt (level + 1) v ++ (prettyItems level items ++ (newline level ++ ']' :: rest)))) := by
  simp [prettyAt]

lemma prettyAt_object (level : Nat) (k : String) (v : Json) (fields : List (String × Json))
    (rest : List Char) :
    prettyAt level (.obj ((k, v) :: fields)) ++ rest =
      Char.ofNat 0x7B :: (newline (level + 1) ++ printName k (prettyAt (level + 1) v ++
        (prettyFields level fields ++ (newline level ++ Char.ofNat 0x7D :: rest)))) := by
  simp [prettyAt, printName]

lemma prettyItems_append (level : Nat) (v : Json) (items : List Json) (s : List Char) :
    prettyItems level (v :: items) ++ s =
      ',' :: (newline (level + 1) ++ (prettyAt (level + 1) v ++ (prettyItems level items ++ s))) := by
  simp [prettyItems]

lemma prettyFields_append (level : Nat) (k : String) (v : Json) (fields : List (String × Json))
    (s : List Char) :
    prettyFields level ((k, v) :: fields) ++ s =
      ',' :: (newline (level + 1) ++
        printName k (prettyAt (level + 1) v ++ (prettyFields level fields ++ s))) := by
  simp [prettyFields, printName]

lemma endsNumber_prettyItems (level : Nat) (items : List Json) (s : List Char) :
    EndsNumber (prettyItems level items ++ (newline level ++ s)) := by
  cases items with
  | nil => exact endsNumber_of_separator (.inr rfl) _
  | cons v items =>
    rw [prettyItems_append]
    exact endsNumber_of_separator (.inl rfl) _

lemma endsNumber_prettyFields (level : Nat) (fields : List (String × Json)) (s : List Char) :
    EndsNumber (prettyFields level fields ++ (newline level ++ s)) := by
  cases fields with
  | nil => exact endsNumber_of_separator (.inr rfl) _
  | cons f fields =>
    rw [prettyFields_append]
    exact endsNumber_of_separator (.inl rfl) _

/-- The elements of an array are scanned one by one, each with what follows it. -/
lemma scanItems_pretty (level : Nat) (rest : List Char) {v : Json} {items : List Json} (hv : Scans v)
    (hitems : ∀ w ∈ items, Scans w) {n : Nat}
    (hn : 2 * ((prettyAt (level + 1) v).length + (prettyItems level items).length) < n) :
    scanItems n
        (prettyAt (level + 1) v ++ (prettyItems level items ++ (newline level ++ ']' :: rest))) =
      (.cons v.toScan (toItems items), some rest) := by
  induction items generalizing v n with
  | nil =>
    obtain ⟨n, rfl⟩ := Nat.exists_eq_add_one_of_ne_zero (Nat.ne_zero_of_lt hn)
    refine scanItems_last (hv (level + 1) n _ (endsNumber_prettyItems level [] _) (by omega)) ?_
    rw [prettyItems, List.nil_append, skipSpace_newline]
    exact skipSpace_cons rfl rest
  | cons w items ih =>
    -- The comma in front of `w` pays for the step that is taken here.
    obtain ⟨n, rfl⟩ := Nat.exists_eq_add_one_of_ne_zero (Nat.ne_zero_of_lt hn)
    have hfirst := hv (level + 1) n _ (endsNumber_prettyItems level (w :: items) (']' :: rest)) (by omega)
    have hmore := ih (hitems w List.mem_cons_self)
      (fun u hu => hitems u (List.mem_cons_of_mem w hu)) (n := n) (by
        simp only [prettyItems, List.cons_append, List.length_cons, List.length_append] at hn
        omega)
    rw [prettyItems_append] at hfirst ⊢
    rw [scanItems_more hfirst (skipSpace_cons rfl _), scanItems_newline, hmore]
    rfl

/-- The fields of an object are scanned one by one, each with what follows it. -/
lemma scanFields_pretty (level : Nat) (rest : List Char) (k : String) {v : Json}
    {fields : List (String × Json)} (hv : Scans v) (hfields : ∀ f ∈ fields, Scans f.2) {n : Nat}
    (hn : 2 * ((prettyAt (level + 1) v).length + (prettyFields level fields).length) < n) :
    scanFields n (printName k (prettyAt (level + 1) v ++
        (prettyFields level fields ++ (newline level ++ Char.ofNat 0x7D :: rest)))) =
      (.cons (.ok k) v.toScan (toFields fields), some rest) := by
  induction fields generalizing k v n with
  | nil =>
    obtain ⟨n, rfl⟩ := Nat.exists_eq_add_one_of_ne_zero (Nat.ne_zero_of_lt hn)
    refine scanFields_last k (hv (level + 1) n _ (endsNumber_prettyFields level [] _) (by omega)) ?_
    rw [prettyFields, List.nil_append, skipSpace_newline]
    exact skipSpace_cons rfl rest
  | cons f fields ih =>
    obtain ⟨n, rfl⟩ := Nat.exists_eq_add_one_of_ne_zero (Nat.ne_zero_of_lt hn)
    have hfirst := hv (level + 1) n _ (endsNumber_prettyFields level (f :: fields) (Char.ofNat 0x7D :: rest))
      (by omega)
    have hmore := ih f.1 (hfields f List.mem_cons_self)
      (fun g hg => hfields g (List.mem_cons_of_mem f hg)) (n := n) (by
        simp only [prettyFields, List.cons_append, List.length_cons, List.length_append] at hn
        omega)
    rw [prettyFields_append] at hfirst ⊢
    rw [scanFields_more k hfirst (skipSpace_cons rfl _), scanFields_newline, hmore]
    rfl

lemma toDigits_cons (n : Nat) : ∃ c s, Nat.toDigits 10 n = c :: s ∧ c.isDigit = true := by
  obtain ⟨c, s, h⟩ := List.exists_cons_of_ne_nil (Nat.toDigits_ne_nil (n := n) (b := 10))
  refine ⟨c, s, h, Nat.isDigit_of_mem_toDigits (by decide) (by decide) (n := n) (b := 10) ?_⟩
  rw [h]
  exact List.mem_cons_self

/-- The text of a value starts with the value itself, and not as the end of an array does. -/
lemma Exact.prettyAt_head {v : Json} (h : v.Exact) (level : Nat) :
    ∃ c s, prettyAt level v = c :: s ∧ isSpace c = false ∧ c ≠ ']' := by
  cases h with
  | null => exact ⟨'n', _, rfl, rfl, by decide⟩
  | bool b => cases b <;> exact ⟨_, _, rfl, rfl, by decide⟩
  | @nonneg n h =>
    obtain ⟨c, s, hs, hc⟩ := toDigits_cons n
    exact ⟨c, s, hs, isSpace_of_isDigit hc, ne_of_isDigit hc rfl⟩
  | negative h => exact ⟨'-', _, rfl, rfl, by decide⟩
  | str s => exact ⟨'"', _, rfl, rfl, by decide⟩
  | @arr items h =>
    cases items <;> exact ⟨'[', _, rfl, rfl, by decide⟩
  | @obj fields h =>
    cases fields <;> exact ⟨Char.ofNat 0x7B, _, rfl, rfl, by decide⟩

/-- The text is not empty, so there is a step to start with. -/
lemma Exact.scans_of_succ {v : Json} (h : v.Exact)
    (hscan : ∀ (level n : Nat) (rest : List Char), EndsNumber rest →
      2 * (prettyAt level v).length ≤ n + 1 →
      scanValue (n + 1) (prettyAt level v ++ rest) = (v.toScan, some rest)) : Scans v := by
  intro level n rest hrest hn
  obtain ⟨c, s, hs, -, -⟩ := h.prettyAt_head level
  cases n with
  | zero => simp [hs] at hn
  | succ n => exact hscan level n rest hrest hn

theorem Exact.scans {v : Json} (h : v.Exact) : Scans v := by
  induction h with
  | null => exact Exact.null.scans_of_succ fun _ _ _ _ _ => rfl
  | bool b =>
    refine (Exact.bool b).scans_of_succ fun _ _ _ _ _ => ?_
    cases b <;> rfl
  | @nonneg m h =>
    refine (Exact.nonneg h).scans_of_succ fun level n rest hrest _ => ?_
    obtain ⟨c, s, hs, hc⟩ := toDigits_cons m
    have hnumber := scanNumber_nat hrest h
    rw [hs] at hnumber
    change scanValue (n + 1) (Nat.toDigits 10 m ++ rest) = _
    rw [hs]
    exact (scanValue_digit hc (s ++ rest)).trans hnumber
  | @negative m h =>
    exact (Exact.negative h).scans_of_succ fun _ _ _ hrest _ =>
      scanNumber_negative hrest (Nat.succ_pos m) h
  | str s =>
    refine (Exact.str s).scans_of_succ fun level n rest hrest _ => ?_
    change scanString (s.toList.flatMap escapeChar ++ ['"'] ++ rest) = _
    rw [List.append_assoc, List.singleton_append, scanString, scanText_escaped]
    simp [toScan]
  | @arr items h ih =>
    refine (Exact.arr h).scans_of_succ fun level n rest hrest hn => ?_
    cases items with
    | nil => rfl
    | cons v items =>
      obtain ⟨c, s, hs, hspace, hclose⟩ := (h v List.mem_cons_self).prettyAt_head (level + 1)
      have hitems := scanItems_pretty level rest (ih v List.mem_cons_self)
        (fun w hw => ih w (List.mem_cons_of_mem v hw)) (n := n) (by
          simp only [prettyAt, List.cons_append, List.length_cons, List.length_append] at hn
          omega)
      rw [hs, List.cons_append] at hitems
      rw [prettyAt_array, hs, List.cons_append]
      exact scanValue_array ((skipSpace_newline _ _).trans (skipSpace_cons hspace _)) hclose hitems
  | @obj fields h ih =>
    refine (Exact.obj h).scans_of_succ fun level n rest hrest hn => ?_
    cases fields with
    | nil => rfl
    | cons f fields =>
      have hfields := scanFields_pretty level rest f.1 (ih f List.mem_cons_self)
        (fun g hg => ih g (List.mem_cons_of_mem f hg)) (n := n) (by
          simp only [prettyAt, List.cons_append, List.length_cons, List.length_append] at hn
          omega)
      rw [printName_eq] at hfields
      rw [prettyAt_object]
      exact scanValue_object ((skipSpace_newline _ _).trans (skipSpace_printName _ _)) (by decide)
        hfields

/-- Nothing is left of the text of a value after its scan. -/
theorem scan_pretty {v : Json} (h : v.Exact) : scan v.pretty = ⟨v.toScan, false⟩ := by
  have hscan := h.scans 0 (2 * (prettyAt 0 v).length + 2) [] (by rintro c ⟨⟩) (by omega)
  rw [List.append_nil] at hscan
  simp [scan, pretty, hscan, skipSpace]

end StagedLowering.Json
