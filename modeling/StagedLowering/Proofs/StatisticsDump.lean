import StagedLowering.Proofs.Statistics

/-! Statistics as rows of text. A row is a kind, a comma, a number and a line break, and the kind is
written as it is. So the rows can be told apart as long as no kind holds the end of a row; a kind that
does reads like two rows. -/
namespace StagedLowering.Statistics

/-- What stands behind the kind in a row. -/
def rowEnd (n : Nat) : List Char := ',' :: (n.repr.toList ++ ['\n'])

/-- The end of some row stands within the kind. -/
def HoldsRowEnd (kind : String) : Prop := ∃ n, 0 < n ∧ rowEnd n <:+: kind.toList

lemma toList_csvRow (e : String × Nat) : (csvRow e).toList = e.1.toList ++ rowEnd e.2 := by
  simp [csvRow, rowEnd]

lemma ne_of_mem_repr {n : Nat} {c : Char} (h : c ∈ n.repr.toList) : c ≠ ',' ∧ c ≠ '\n' := by
  rw [Nat.toList_repr] at h
  have hdigit := Nat.isDigit_of_mem_toDigits (by decide) (by decide) h
  constructor
  · rintro rfl
    exact absurd hdigit (by decide)
  · rintro rfl
    exact absurd hdigit (by decide)

/-- The number and what comes behind the row can be read off. -/
lemma rowEnd_cancel {m n : Nat} {r r' : List Char} (h : rowEnd m ++ r = rowEnd n ++ r') :
    m = n ∧ r = r' := by
  have hdigits (n : Nat) (r : List Char) :
      (n.repr.toList ++ '\n' :: r).takeWhile (· ≠ '\n') = n.repr.toList := by
    have hkept : ∀ c ∈ n.repr.toList, decide (c ≠ '\n') = true := fun c hc =>
      decide_eq_true (ne_of_mem_repr hc).2
    rw [List.takeWhile_append_of_pos hkept]
    simp
  have htail : m.repr.toList ++ '\n' :: r = n.repr.toList ++ '\n' :: r' := by
    simpa [rowEnd] using h
  have hnumber : m.repr.toList = n.repr.toList := by
    rw [← hdigits m r, htail, hdigits n r']
  have hrest : r = r' := by
    rw [hnumber] at htail
    simpa using htail
  rw [Nat.toList_repr, Nat.toList_repr] at hnumber
  have hread := congrArg (fun ds => Nat.ofDigitChars 10 ds 0) hnumber
  exact ⟨by simpa using hread, hrest⟩

/-- A row end that starts in front of another one ends in front of it too: there is no comma in it but
the first character. -/
lemma rowEnd_within {n : Nat} {a r x : List Char} (h : rowEnd n ++ r = a ++ ',' :: x) (ha : a ≠ []) :
    rowEnd n <+: a := by
  rcases List.append_eq_append_iff.1 h with ⟨b, hb, -⟩ | ⟨b, hb, hx⟩
  · exact ⟨b, hb.symm⟩
  · cases b with
    | nil =>
      rw [hb, List.append_nil]
    | cons c b =>
      obtain ⟨rfl, -⟩ := List.cons.inj hx
      obtain ⟨c, a, rfl⟩ := List.exists_cons_of_ne_nil ha
      rw [rowEnd, List.cons_append, List.cons.injEq] at hb
      have hcomma : ',' ∈ n.repr.toList ++ ['\n'] := by
        rw [hb.2]
        simp
      rcases List.mem_append.1 hcomma with hcomma | hcomma
      · exact absurd rfl (ne_of_mem_repr hcomma).1
      · simp at hcomma

lemma row_cancel {k k' r r' : List Char} {m n : Nat} (hk : ¬rowEnd n <:+: k)
    (hk' : ¬rowEnd m <:+: k') (h : k ++ (rowEnd m ++ r) = k' ++ (rowEnd n ++ r')) :
    k = k' ∧ m = n ∧ r = r' := by
  have hshorter {k a r r' : List Char} {m n : Nat} (hk : ¬rowEnd m <:+: k ++ a)
      (h : rowEnd m ++ r = a ++ (rowEnd n ++ r')) : a = [] := by
    by_contra hne
    exact hk ((rowEnd_within h hne).isInfix.trans (List.suffix_append k a).isInfix)
  rcases List.append_eq_append_iff.1 h with ⟨a, rfl, ha⟩ | ⟨a, rfl, ha⟩
  · obtain rfl := hshorter hk' ha
    exact ⟨(List.append_nil k).symm, rowEnd_cancel ha⟩
  · obtain rfl := hshorter hk ha
    obtain ⟨rfl, rfl⟩ := rowEnd_cancel ha
    exact ⟨List.append_nil k', rfl, rfl⟩

/-- Rows whose kinds hold no row end are known from their text. -/
lemma rows_injective {l l' : List (String × Nat)} (hl : ∀ e ∈ l, 0 < e.2 ∧ ¬HoldsRowEnd e.1)
    (hl' : ∀ e ∈ l', 0 < e.2 ∧ ¬HoldsRowEnd e.1)
    (h : l.flatMap (fun e => e.1.toList ++ rowEnd e.2) =
      l'.flatMap fun e => e.1.toList ++ rowEnd e.2) : l = l' := by
  induction l generalizing l' with
  | nil =>
    cases l' with
    | nil => rfl
    | cons e' l' => simp [rowEnd] at h
  | cons e l ih =>
    cases l' with
    | nil => simp [rowEnd] at h
    | cons e' l' =>
      rw [List.forall_mem_cons] at hl hl'
      rw [List.flatMap_cons, List.flatMap_cons, List.append_assoc, List.append_assoc] at h
      have hfree : ¬rowEnd e'.2 <:+: e.1.toList := fun hin => hl.1.2 ⟨e'.2, hl'.1.1, hin⟩
      have hfree' : ¬rowEnd e.2 <:+: e'.1.toList := fun hin => hl'.1.2 ⟨e.2, hl.1.1, hin⟩
      obtain ⟨hkind, hnumber, hrest⟩ := row_cancel hfree hfree' h
      rw [ih hl.2 hl'.2 hrest, Prod.ext (String.toList_inj.1 hkind) hnumber]

lemma toList_render_csv (s : Statistics) :
    (s.render .csv).toList =
      "kind,count\n".toList ++ s.counts.flatMap fun e => e.1.toList ++ rowEnd e.2 := by
  have hrows : (String.join (s.counts.map csvRow)).toList =
      s.counts.flatMap fun e => e.1.toList ++ rowEnd e.2 := by
    rw [String.toList_join, List.flatMap_map]
    simp only [toList_csvRow]
  rw [← hrows]
  exact String.toList_append

/-- The entries of a program have positive numbers and kinds of its ops. -/
lemma exists_op_of_mem_counts {p : Program} {e : String × Nat} (h : e ∈ (collect p).counts) :
    0 < e.2 ∧ ∃ x ∈ p.addressed, x.2.kind = e.1 := by
  obtain ⟨hpos, hcount⟩ := (mem_counts p).1 h
  refine ⟨hpos, List.mem_map.1 ?_⟩
  rw [hcount] at hpos
  exact List.count_pos_iff.1 hpos

/-- Different statistics have different rows of text, if no kind holds the end of a row. -/
theorem csv_ne_of_counts_ne (p q : Program) (hp : ∀ x ∈ p.addressed, ¬HoldsRowEnd x.2.kind)
    (hq : ∀ x ∈ q.addressed, ¬HoldsRowEnd x.2.kind) (hne : (collect p).counts ≠ (collect q).counts) :
    (collect p).render .csv ≠ (collect q).render .csv := by
  have hfree {p : Program} (hp : ∀ x ∈ p.addressed, ¬HoldsRowEnd x.2.kind) :
      ∀ e ∈ (collect p).counts, 0 < e.2 ∧ ¬HoldsRowEnd e.1 := by
    intro e he
    obtain ⟨hpos, x, hx, hkind⟩ := exists_op_of_mem_counts he
    exact ⟨hpos, hkind ▸ hp x hx⟩
  intro h
  have hrows := congrArg String.toList h
  rw [toList_render_csv, toList_render_csv, List.append_cancel_left_eq] at hrows
  exact hne (rows_injective (hfree hp) (hfree hq) hrows)

/-- A comma and a number within a kind do no harm. -/
theorem csv_ne_of_counts_ne_comma :
    (collect ⟨[.ofKind "a,1"]⟩).render .csv ≠ (collect ⟨[.ofKind "a", .ofKind "a"]⟩).render .csv := by
  have hfree {kind : String} (h : '\n' ∉ kind.toList) : ¬HoldsRowEnd kind := by
    rintro ⟨n, -, hin⟩
    exact h (hin.subset (by simp [rowEnd]))
  refine csv_ne_of_counts_ne _ _ ?_ ?_ fun heq => ?_
  · exact List.forall_mem_singleton.2 (hfree (by decide))
  · exact List.forall_mem_cons.2 ⟨hfree (by decide), List.forall_mem_singleton.2 (hfree (by decide))⟩
  · have hmem : ("a,1", 1) ∈ (collect ⟨[.ofKind "a,1"]⟩).counts := (mem_counts _).2 (by decide)
    rw [heq] at hmem
    exact absurd ((mem_counts _).1 hmem) (by decide)

/-- One op whose kind holds the end of a row reads like two ops. -/
theorem csv_reads_twice :
    ¬∀ p q : Program, (collect p).counts ≠ (collect q).counts →
      (collect p).render .csv ≠ (collect q).render .csv := by
  intro hall
  have hone : (collect ⟨[.ofKind "a,1\nb"]⟩).counts = [("a,1\nb", 1)] := by
    exact List.mergeSort_of_pairwise (by decide)
  have htwo : (collect ⟨[.ofKind "a", .ofKind "b"]⟩).counts = [("a", 1), ("b", 1)] := by
    exact List.mergeSort_of_pairwise (by decide)
  refine hall ⟨[.ofKind "a,1\nb"]⟩ ⟨[.ofKind "a", .ofKind "b"]⟩ ?_ ?_
  · rw [hone, htwo]
    decide
  · rw [← String.toList_inj, toList_render_csv, toList_render_csv, hone, htwo]
    decide

end StagedLowering.Statistics
