import StagedLowering.Proofs.Yaml.Scalars

/-! Documents are read back: a mapping of words, texts, lists of texts and mappings is read as the values
it was written from, with each text in the style in which it was written. -/
namespace StagedLowering.Yaml

/-- The value that a text is read as. -/
def textValue (s : String) : Value := .scalar none (textStyle s) s

namespace Doc

mutual
/-- The value that a document is read as. -/
def value : Doc → Value
  | .word s => .scalar none .plain s
  | .text s => textValue s
  | .texts items => .seq (items.map textValue)
  | .map fields => .map (fieldValues fields)

def fieldValues : List (String × Doc) → List (Value × Value)
  | [] => []
  | (name, d) :: rest => (.scalar none .plain name, d.value) :: fieldValues rest
end

end Doc

/-- A name that can stand in front of a colon. -/
structure Key (name : String) : Prop where
  plain : Plain name.toList
  near : name.toList.length ≤ 1024

lemma Key.begins {name : String} (h : Key name) (tail : List Char) : Begins (name.toList ++ ':' :: tail) :=
  h.plain.begins (by decide) (by decide) tail

namespace Doc

/-- The first item of a list stands at the column of its key. -/
lemma flatMap_itemText_cons {s : String} (h : Inline s.toList) (indent : Nat) (items : List String)
    (tail : List Char) :
    (s :: items).flatMap (itemText indent) ++ tail = spaces indent ++ ('-' :: ' ' ::
      (scalarBody s ++ '\n' :: (items.flatMap (itemText indent) ++ tail))) := by
  rw [List.flatMap_cons, itemText, scalarText_inline h]
  simp

lemma fieldsText_cons (indent : Nat) (name : String) (d : Doc) (fields : List (String × Doc))
    (tail : List Char) :
    fieldsText indent ((name, d) :: fields) ++ tail = spaces indent ++ (name.toList ++ ':' ::
      (d.valueText indent ++ (fieldsText indent fields ++ tail))) := by
  simp [fieldsText]

end Doc

/-- Documents of one-line scalars in which no mapping is empty. -/
inductive Doc.Writable : Doc → Prop
  | word {s : String} : Plain s.toList → Writable (.word s)
  | text {s : String} : Inline s.toList → Writable (.text s)
  | texts {items : List String} : (∀ s ∈ items, Inline s.toList) → Writable (.texts items)
  | map {fields : List (String × Doc)} : fields ≠ [] → (∀ p ∈ fields, Key p.1) →
    (∀ p ∈ fields, Writable p.2) → Writable (.map fields)

/-- The tree `n` has no properties and aliases, and its value is `v`. -/
def Node.Stands (n : Node) (v : Value) : Prop :=
  ∀ handles anchors, n.resolve handles anchors = some (v, anchors)

lemma Node.stands_scalar (style : Style) (s : String) :
    (Node.scalar {} style s).Stands (.scalar none style s) :=
  fun _ _ => rfl

namespace Begins

variable {floor fuel line column : Nat} {fresh loose : Bool} {cs : List Char}

lemma scanProps_eq (h : Begins cs) :
    scanProps false ⟨cs, line, column, fresh⟩ = some ({}, ⟨cs, line, column, fresh⟩) := by
  have hprop : scanProp false ⟨cs, line, column, fresh⟩ = some none := by
    rw [scanProp.eq_def]
    split
    · next heq =>
      have heq : cs = _ := heq
      exact absurd (h.bare '&' (by rw [heq]; rfl)) (by decide)
    · next heq =>
      have heq : cs = _ := heq
      exact absurd (h.bare '!' (by rw [heq]; rfl)) (by decide)
    · rfl
  rw [scanProps, hprop]
  rfl

lemma ended (h : Begins cs) (hne : cs ≠ []) (hfloor : floor ≤ column) :
    Cursor.ended ⟨cs, line, column, fresh⟩ floor = false := by
  simp [Cursor.ended, Cursor.atStart, Cursor.atStop, h.start, h.stop, hne, hfloor]

/-- What begins in front of no colon is no collection. -/
lemma blockNode_eq_scanContent (h : Begins cs)
    (hkey : scanKey floor fuel ⟨cs, line, column, fresh⟩ = none) :
    blockNode floor loose {} (fuel + 1) ⟨cs, line, column, fresh⟩ =
      scanContent floor fuel {} ⟨cs, line, column, fresh⟩ := by
  rw [blockNode, h.dash _ rfl, h.question _ rfl, hkey, h.scanProps_eq]
  simp [Props.merge, Props.isEmpty, Cursor.skip_settled h.settled]

/-- What begins in front of a colon is a mapping. -/
lemma blockNode_eq_pairs (h : Begins cs)
    (hkey : (scanKey floor fuel ⟨cs, line, column, fresh⟩).isSome = true) :
    blockNode floor loose {} (fuel + 1) ⟨cs, line, column, fresh⟩ =
      (blockPairs column fuel ⟨cs, line, column, fresh⟩).map fun r => (.map {} r.1, r.2) := by
  rw [blockNode, h.dash _ rfl, h.question _ rfl, hkey, Option.map_eq_bind]
  rfl

lemma blockOptional_eq_blockNode (h : Begins cs) (hne : cs ≠ []) (hfloor : floor ≤ column) {c : Cursor}
    (hskip : c.skip = ⟨cs, line, column, fresh⟩) :
    blockOptional floor loose {} (fuel + 1) c =
      blockNode floor loose {} fuel ⟨cs, line, column, fresh⟩ := by
  have hbar : cs.head?.any (· ∈ ['|', '>']) = false := by
    cases cs with
    | nil => rfl
    | cons d cs =>
      have hbare := h.bare d rfl
      simp only [List.mem_cons, not_or] at hbare
      simp [hbare]
  rw [blockOptional, hskip, h.dash _ rfl, hbar, h.ended hne hfloor]
  simp

end Begins

section Scalar

variable {floor fuel line column m : Nat} {fresh loose : Bool} {body rest : List Char} {style : Style}
  {s : String}

/-- A scalar at the end of its line is no key. -/
lemma Written.scanKey_eq_none (h : Written body style s) (hfloor : floor ≤ column + 1)
    (hrest : Settled rest) (hm : rest = [] ∨ m < floor) :
    scanKey floor fuel ⟨body ++ '\n' :: (spaces m ++ rest), line, column, fresh⟩ = none := by
  have hbegins : Begins (body ++ '\n' :: (spaces m ++ rest)) := h.begins_line _
  obtain ⟨c, hread, hskip⟩ : ∃ c, scanContent floor fuel {}
      ⟨body ++ '\n' :: (spaces m ++ rest), line, column, fresh⟩ = some (.scalar {} style s, c) ∧
        c.skip = ⟨rest, line + 1, m, true⟩ := h.scanContent_eq hfloor hrest hm
  -- A colon may follow, but on another line.
  rw [scanKey, hbegins.scanProps_eq]
  simp [Props.isEmpty, Cursor.skip_settled hbegins.settled, hread, hskip, Cursor.nearTo]

/-- A scalar behind a space is read, and then the next line follows. -/
lemma Written.blockOptional_eq (h : Written body style s) (hfloor : floor ≤ column + 1)
    (hrest : Settled rest) (hm : rest = [] ∨ m < floor) :
    ∃ c, blockOptional floor loose {} (fuel + 2)
        ⟨' ' :: (body ++ '\n' :: (spaces m ++ rest)), line, column, fresh⟩ =
        some (.scalar {} style s, c) ∧ c.skip = ⟨rest, line + 1, m, true⟩ := by
  have hbegins : Begins (body ++ '\n' :: (spaces m ++ rest)) := h.begins_line _
  rw [hbegins.blockOptional_eq_blockNode (by simp) hfloor (Cursor.skip_space hbegins.settled),
    hbegins.blockNode_eq_scanContent (h.scanKey_eq_none (by omega) hrest hm)]
  exact h.scanContent_eq (by omega) hrest hm

end Scalar

lemma Key.scanKey_eq {floor fuel line column : Nat} {name : String} {tail : List Char} (h : Key name)
    (hfloor : floor ≤ column + 1) (htail : isEdge tail = true) :
    scanKey floor fuel ⟨name.toList ++ ':' :: tail, line, column, true⟩ =
      some (.scalar {} .plain name, ⟨tail, line, column + name.toList.length + 1, false⟩) := by
  have hbegins := h.begins tail
  have hread : scanContent floor fuel {} ⟨name.toList ++ ':' :: tail, line, column, true⟩ =
      some (.scalar {} .plain name, ⟨':' :: tail, line, column + name.toList.length, false⟩) := by
    rw [scanContent_plain h.plain hfloor hbegins (scanPlain_colon htail), String.ofList_toList]
  have hcolon : Settled (':' :: tail) := settled_cons (by decide) tail
  rw [scanKey, hbegins.scanProps_eq]
  simp [Props.isEmpty, Cursor.skip_settled hbegins.settled, hread, Cursor.skip_settled hcolon,
    Cursor.nearTo, Cursor.atIndicator, htail, h.near, Cursor.next, Cursor.withFresh]

/-- What stands at column `m` is no part of a node at column `floor` or further right: there is nothing
more, or something begins further left. -/
def Closes (floor m : Nat) (rest : List Char) : Prop := rest = [] ∨ (m < floor ∧ Begins rest)

namespace Closes

variable {floor m : Nat} {rest : List Char}

lemma settled (h : Closes floor m rest) : Settled rest := by
  rcases h with rfl | ⟨_, h⟩
  · exact fun _ hc => nomatch hc
  · exact h.settled

lemma left (h : Closes floor m rest) : rest = [] ∨ m < floor := h.imp_right And.left

lemma mono {floor' : Nat} (h : Closes floor m rest) (hle : floor ≤ floor') : Closes floor' m rest :=
  h.imp_right fun ⟨hm, hrest⟩ => ⟨by omega, hrest⟩

lemma ended {line : Nat} {fresh : Bool} (h : Closes floor m rest) :
    Cursor.ended ⟨rest, line, m, fresh⟩ floor = true := by
  rcases h with rfl | ⟨hm, _⟩
  · rfl
  · simp [Cursor.ended, hm]

end Closes

lemma items_length_le (indent : Nat) (items : List String) :
    items.length ≤ (items.flatMap (Doc.itemText indent)).length := by
  induction items with
  | nil => exact Nat.zero_le _
  | cons s items ih =>
    rw [List.flatMap_cons, List.length_append, List.length_cons]
    have : 1 ≤ (Doc.itemText indent s).length := by
      simp [Doc.itemText]
      omega
    omega

section Items

variable {indent fuel line m : Nat} {body rest : List Char} {style : Style} {s : String}

/-- An item is read, and the line behind it decides whether there are more. -/
lemma Written.blockItems_eq (h : Written body style s) (hrest : Settled rest)
    (hm : rest = [] ∨ m < indent + 1) :
    blockItems indent true (fuel + 3)
        ⟨'-' :: ' ' :: (body ++ '\n' :: (spaces m ++ rest)), line, indent, true⟩ =
      let after : Cursor := ⟨rest, line + 1, m, true⟩
      if after.ended indent || !after.atIndicator '-' then
        some ([.scalar {} style s], after)
      else (blockItems indent true (fuel + 2) after).map fun r => (.scalar {} style s :: r.1, r.2) := by
  obtain ⟨c, hread, hskip⟩ : ∃ c, blockOptional (indent + 1) false {} (fuel + 2)
      ⟨' ' :: (body ++ '\n' :: (spaces m ++ rest)), line, indent + 1, true⟩ =
        some (.scalar {} style s, c) ∧ c.skip = ⟨rest, line + 1, m, true⟩ :=
    h.blockOptional_eq (by omega) hrest hm
  rw [blockItems]
  simp only [if_true, Cursor.next, Cursor.withFresh, List.tail_cons]
  rw [hread]
  simp only [Option.bind_eq_bind, Option.bind_some, hskip]
  by_cases hended : Cursor.ended ⟨rest, line + 1, m, true⟩ indent = true
  · rw [if_pos hended, hended, Bool.true_or, if_pos rfl]
    rfl
  · rw [if_neg hended]
    -- What follows stands no further right than the list, and as it does not end the list, no further left.
    have hcolumn : m = indent := by
      simp only [Cursor.ended, Bool.or_eq_true, not_or, decide_eq_true_eq, List.isEmpty_iff] at hended
      have := hm.resolve_left hended.1.1.1
      omega
    rw [Bool.not_eq_true] at hended
    rw [if_pos hcolumn, hended, Bool.false_or]
    by_cases hdash : Cursor.atIndicator '-' ⟨rest, line + 1, m, true⟩ = true
    · rw [if_pos hdash, hdash, Option.map_eq_bind]
      rfl
    · rw [if_neg hdash, if_pos (by simpa using hdash)]
      rfl

end Items

/-- The items of a list at the column of the key in front of it are read. -/
lemma blockItems_texts {indent fuel line m : Nat} {rest : List Char} {s : String} {items : List String}
    (hinline : ∀ t ∈ s :: items, Inline t.toList) (hclose : Closes (indent + 1) m rest)
    (hfuel : items.length + 3 ≤ fuel) :
    blockItems indent true fuel
        ⟨'-' :: ' ' :: (scalarBody s ++ '\n' :: (items.flatMap (Doc.itemText indent) ++ (spaces m ++ rest))),
          line, indent, true⟩ =
      some ((s :: items).map fun t => .scalar {} (textStyle t) t,
        ⟨rest, line + items.length + 1, m, true⟩) := by
  induction items generalizing s fuel line with
  | nil =>
    obtain ⟨fuel, rfl⟩ : ∃ k, fuel = k + 3 := ⟨fuel - 3, by omega⟩
    have hs := written_text (hinline s List.mem_cons_self)
    have hlast : (Cursor.ended ⟨rest, line + 1, m, true⟩ indent ||
        !Cursor.atIndicator '-' ⟨rest, line + 1, m, true⟩) = true := by
      rcases hclose with rfl | ⟨_, hbegins⟩
      · rfl
      · rw [hbegins.dash _ rfl, Bool.not_false, Bool.or_true]
    rw [List.flatMap_nil, List.nil_append, hs.blockItems_eq hclose.settled hclose.left]
    exact if_pos hlast
  | cons t items ih =>
    rw [List.length_cons] at hfuel
    obtain ⟨fuel, rfl⟩ : ∃ k, fuel = k + 3 := ⟨fuel - 3, by omega⟩
    have hs := written_text (hinline s List.mem_cons_self)
    have hitems := (List.forall_mem_cons.1 hinline).2
    have hmore (tail : List Char) : (Cursor.ended ⟨'-' :: ' ' :: tail, line + 1, indent, true⟩ indent ||
        !Cursor.atIndicator '-' ⟨'-' :: ' ' :: tail, line + 1, indent, true⟩) = false := by
      have htriple : isTriple '-' ('-' :: ' ' :: tail) = false := by cases tail <;> rfl
      have hstop : isTriple '.' ('-' :: ' ' :: tail) = false := isTriple_of_ne (by decide) _
      simp [Cursor.ended, Cursor.atStart, Cursor.atStop, Cursor.atIndicator, isEdge, isBlank, htriple, hstop]
    have hline : line + 1 + items.length + 1 = line + (t :: items).length + 1 := by
      rw [List.length_cons]
      omega
    rw [Doc.flatMap_itemText_cons (hitems t List.mem_cons_self),
      hs.blockItems_eq (settled_cons (by decide) _) (.inr (Nat.lt_succ_self _))]
    simp only [hmore, Bool.false_eq_true, if_false]
    rw [ih hitems (by omega), hline]
    rfl

/-- Reading what follows the key of a document gives its value, and then what stands behind it. -/
def Doc.ReadsBack (d : Doc) : Prop :=
  -- The reader takes a few steps more than a text has characters: four suffice for a value, and the
  -- characters of a key pay for the steps from its mapping into its value.
  ∀ (indent fuel line column m : Nat) (rest : List Char), indent < column →
    (d.valueText indent).length + 4 ≤ fuel → Closes (indent + 1) m rest →
    ∃ n c line', blockOptional (indent + 1) true {} fuel
        ⟨d.valueText indent ++ (spaces m ++ rest), line, column, false⟩ = some (n, c) ∧
      c.skip = ⟨rest, line', m, true⟩ ∧ n.Stands d.value

lemma isEdge_valueText (d : Doc) (indent : Nat) (tail : List Char) :
    isEdge (d.valueText indent ++ tail) = true := by
  cases d with
  | word s => rw [Doc.valueText]; rfl
  | text s => rw [Doc.valueText]; rfl
  | texts items => cases items <;> rw [Doc.valueText] <;> rfl
  | map fields => rw [Doc.valueText]; rfl

lemma Written.readsBack {d : Doc} {body : List Char} {style : Style} {s : String}
    (h : Written body style s) (htext : ∀ indent, d.valueText indent = ' ' :: (body ++ ['\n']))
    (hvalue : d.value = .scalar none style s) : d.ReadsBack := by
  intro indent fuel line column m rest hcolumn hfuel hclose
  obtain ⟨fuel, rfl⟩ : ∃ k, fuel = k + 2 := ⟨fuel - 2, by omega⟩
  obtain ⟨c, hread, hskip⟩ : ∃ c, blockOptional (indent + 1) true {} (fuel + 2)
      ⟨' ' :: (body ++ '\n' :: (spaces m ++ rest)), line, column, false⟩ =
        some (.scalar {} style s, c) ∧ c.skip = ⟨rest, line + 1, m, true⟩ :=
    h.blockOptional_eq (by omega) hclose.settled hclose.left
  refine ⟨.scalar {} style s, c, line + 1, ?_, hskip, ?_⟩
  · rw [htext, List.cons_append, List.append_assoc, List.singleton_append, hread]
  · rw [hvalue]
    exact Node.stands_scalar style s

/-- An empty list stands in brackets on the line of its key. -/
lemma readsBack_noTexts : (Doc.texts []).ReadsBack := by
  intro indent fuel line column m rest hcolumn hfuel hclose
  obtain ⟨fuel, rfl⟩ : ∃ k, fuel = k + 4 := ⟨fuel - 4, by omega⟩
  have hbegins (tail : List Char) : Begins ('[' :: tail) := begins_cons (.inr rfl) tail
  have hkey (tail : List Char) :
      scanKey (indent + 1) (fuel + 2) ⟨'[' :: tail, line, column + 1, false⟩ = none := rfl
  refine ⟨.seq {} [], ⟨'\n' :: (spaces m ++ rest), line, column + 3, false⟩, line + 1, ?_,
    Cursor.skip_line hclose.settled m, fun _ _ => rfl⟩
  change blockOptional (indent + 1) true {} (fuel + 4)
    ⟨' ' :: '[' :: (']' :: '\n' :: (spaces m ++ rest)), line, column, false⟩ = _
  rw [(hbegins _).blockOptional_eq_blockNode (List.cons_ne_nil _ _) (by omega)
    (Cursor.skip_space (hbegins _).settled), (hbegins _).blockNode_eq_scanContent (hkey _)]
  rfl

/-- A list may start at the column of its key. -/
lemma blockOptional_items {indent fuel line : Nat} {c : Cursor} {tail : List Char}
    (hskip : c.skip = ⟨'-' :: ' ' :: tail, line, indent, true⟩) :
    blockOptional (indent + 1) true {} (fuel + 1) c =
      (blockItems indent true fuel ⟨'-' :: ' ' :: tail, line, indent, true⟩).map
        fun r => (.seq {} r.1, r.2) := by
  have hdash : Cursor.atIndicator '-' ⟨'-' :: ' ' :: tail, line, indent, true⟩ = true := rfl
  rw [blockOptional, hskip, hdash, Option.map_eq_bind]
  exact if_pos (by simp)

lemma resolveItems_texts (handles : Handles) (anchors : Anchors) (items : List String) :
    Node.resolveItems handles anchors (items.map fun t => .scalar {} (textStyle t) t) =
      some (items.map textValue, anchors) := by
  induction items with
  | nil => rfl
  | cons s items ih =>
    rw [List.map_cons, Node.resolveItems, Node.stands_scalar]
    simp only [Option.bind_eq_bind, Option.bind_some, ih]
    rfl

lemma readsBack_texts {s : String} {items : List String} (h : ∀ t ∈ s :: items, Inline t.toList) :
    (Doc.texts (s :: items)).ReadsBack := by
  intro indent fuel line column m rest hcolumn hfuel hclose
  have hlength := items_length_le indent (s :: items)
  rw [Doc.valueText, List.length_cons] at hfuel
  rw [List.length_cons] at hlength
  obtain ⟨fuel, rfl⟩ : ∃ k, fuel = k + 1 := ⟨fuel - 1, by omega⟩
  refine ⟨.seq {} ((s :: items).map fun t => .scalar {} (textStyle t) t),
    ⟨rest, line + 1 + items.length + 1, m, true⟩, _, ?_, Cursor.skip_settled hclose.settled, ?_⟩
  · rw [Doc.valueText, List.cons_append, Doc.flatMap_itemText_cons (h s List.mem_cons_self),
      blockOptional_items (Cursor.skip_line (settled_cons (by decide) _) indent),
      blockItems_texts h hclose (by omega), Option.map_some]
  · intro handles anchors
    rw [Node.resolve]
    simp only [Anchors.add, resolveItems_texts]
    rfl

section Pairs

variable {indent fuel m : Nat} {rest : List Char} {name : String} {d : Doc}
  {fields : List (String × Doc)}

/-- A pair is read, and the line behind it decides whether there are more. -/
lemma blockPairs_eq (line : Nat) (hname : Key name) (hd : d.ReadsBack) (hclose : Closes (indent + 1) m rest)
    (hfuel : (d.valueText indent).length + 4 ≤ fuel) :
    ∃ n line', n.Stands d.value ∧
      blockPairs indent (fuel + 1)
          ⟨name.toList ++ ':' :: (d.valueText indent ++ (spaces m ++ rest)), line, indent, true⟩ =
        let after : Cursor := ⟨rest, line', m, true⟩
        if after.ended indent then some ([(.scalar {} .plain name, n)], after)
        else if m = indent then
          (blockPairs indent fuel after).map fun r => ((.scalar {} .plain name, n) :: r.1, r.2)
        else none := by
  have hbegins : Begins (name.toList ++ ':' :: (d.valueText indent ++ (spaces m ++ rest))) :=
    hname.plain.begins (by decide) (by decide) _
  obtain ⟨n, c, line', hread, hskip, hn⟩ := hd indent fuel line
    (indent + name.toList.length + 1) m rest (by omega) hfuel hclose
  refine ⟨n, line', hn, ?_⟩
  rw [blockPairs, hbegins.question _ rfl, hname.scanKey_eq (Nat.le_refl _) (isEdge_valueText d indent _)]
  simp only [Bool.false_eq_true, if_false, Option.bind_eq_bind, Option.bind_some, hread, hskip,
    Option.map_eq_bind]
  rfl

lemma resolvePairs_cons {handles : Handles} {anchors : Anchors} {n : Node} {v : Value}
    {ns : List (Node × Node)} {vs : List (Value × Value)} (h : n.Stands v)
    (hs : Node.resolvePairs handles anchors ns = some (vs, anchors)) :
    Node.resolvePairs handles anchors ((.scalar {} .plain name, n) :: ns) =
      some ((.scalar none .plain name, v) :: vs, anchors) := by
  rw [Node.resolvePairs, Node.stands_scalar]
  simp only [Option.bind_eq_bind, Option.bind_some, h handles anchors, hs]
  rfl

lemma length_fieldsText (indent : Nat) (name : String) (d : Doc) (fields : List (String × Doc)) :
    (Doc.fieldsText indent ((name, d) :: fields)).length = indent + name.toList.length + 1 +
      (d.valueText indent).length + (Doc.fieldsText indent fields).length := by
  simp only [Doc.fieldsText, List.length_append, List.length_singleton, spaces, List.length_replicate]

/-- The pairs of a mapping are read. -/
lemma blockPairs_fields (line : Nat) (hname : Key name) (hd : d.ReadsBack)
    (hkeys : ∀ p ∈ fields, Key p.1) (hreads : ∀ p ∈ fields, p.2.ReadsBack) (hclose : Closes indent m rest)
    (hfuel : (Doc.fieldsText indent ((name, d) :: fields)).length + 3 ≤ fuel) :
    ∃ ns line', blockPairs indent fuel
        ⟨name.toList ++ ':' :: (d.valueText indent ++ (Doc.fieldsText indent fields ++ (spaces m ++ rest))),
          line, indent, true⟩ = some (ns, ⟨rest, line', m, true⟩) ∧
      ∀ handles anchors, Node.resolvePairs handles anchors ns =
        some (Doc.fieldValues ((name, d) :: fields), anchors) := by
  induction fields generalizing name d fuel line with
  | nil =>
    have hpos : 0 < name.toList.length := List.length_pos_iff.2 hname.plain.ne_nil
    rw [length_fieldsText] at hfuel
    obtain ⟨fuel, rfl⟩ : ∃ k, fuel = k + 1 := ⟨fuel - 1, by omega⟩
    obtain ⟨n, line', hn, hread⟩ := blockPairs_eq line hname hd (hclose.mono (Nat.le_succ _))
      (show (d.valueText indent).length + 4 ≤ fuel by omega)
    refine ⟨[(.scalar {} .plain name, n)], line', ?_, fun _ _ => resolvePairs_cons hn rfl⟩
    rw [Doc.fieldsText, List.nil_append, hread]
    exact if_pos hclose.ended
  | cons q fields ih =>
    obtain ⟨name', d'⟩ := q
    obtain ⟨hname', hkeys⟩ := List.forall_mem_cons.1 hkeys
    obtain ⟨hd', hreads⟩ := List.forall_mem_cons.1 hreads
    have hpos : 0 < name.toList.length := List.length_pos_iff.2 hname.plain.ne_nil
    rw [length_fieldsText] at hfuel
    obtain ⟨fuel, rfl⟩ : ∃ k, fuel = k + 1 := ⟨fuel - 1, by omega⟩
    have hbegins := hname'.begins
      (d'.valueText indent ++ (Doc.fieldsText indent fields ++ (spaces m ++ rest)))
    obtain ⟨n, line', hn, hread⟩ := blockPairs_eq line hname hd (.inr ⟨Nat.lt_succ_self _, hbegins⟩)
      (show (d.valueText indent).length + 4 ≤ fuel by omega)
    obtain ⟨ns, line'', hmore, hns⟩ := ih line' hname' hd' hkeys hreads
      (show (Doc.fieldsText indent ((name', d') :: fields)).length + 3 ≤ fuel by omega)
    refine ⟨(.scalar {} .plain name, n) :: ns, line'', ?_, fun handles anchors =>
      resolvePairs_cons hn (hns handles anchors)⟩
    rw [Doc.fieldsText_cons, hread]
    simp only [hbegins.ended (by simp) (Nat.le_refl _), hmore, Bool.false_eq_true, if_false, if_true,
      Option.map_some]

/-- A mapping is told from a scalar by its first key. -/
lemma blockNode_fields (floor : Nat) (loose : Bool) (line : Nat) (hname : Key name) (hd : d.ReadsBack)
    (hkeys : ∀ p ∈ fields, Key p.1) (hreads : ∀ p ∈ fields, p.2.ReadsBack) (hclose : Closes indent m rest)
    (hfloor : floor ≤ indent + 1)
    (hfuel : (Doc.fieldsText indent ((name, d) :: fields)).length + 3 ≤ fuel) :
    ∃ n line', blockNode floor loose {} (fuel + 1)
        ⟨name.toList ++ ':' :: (d.valueText indent ++ (Doc.fieldsText indent fields ++ (spaces m ++ rest))),
          line, indent, true⟩ = some (n, ⟨rest, line', m, true⟩) ∧
      n.Stands (Doc.map ((name, d) :: fields)).value := by
  obtain ⟨ns, line', hread, hns⟩ := blockPairs_fields line hname hd hkeys hreads hclose hfuel
  have hbegins := hname.begins
    (d.valueText indent ++ (Doc.fieldsText indent fields ++ (spaces m ++ rest)))
  refine ⟨.map {} ns, line', ?_, ?_⟩
  · rw [hbegins.blockNode_eq_pairs, hread, Option.map_some]
    rw [hname.scanKey_eq hfloor (isEdge_valueText d indent _), Option.isSome_some]
  · intro handles anchors
    rw [Node.resolve, Doc.value]
    simp only [Anchors.add, hns]
    rfl

end Pairs

lemma readsBack_map {fields : List (String × Doc)} (hne : fields ≠ []) (hkeys : ∀ p ∈ fields, Key p.1)
    (hreads : ∀ p ∈ fields, p.2.ReadsBack) : (Doc.map fields).ReadsBack := by
  intro indent fuel line column m rest hcolumn hfuel hclose
  cases fields with
  | nil => exact absurd rfl hne
  | cons p fields =>
    obtain ⟨name, d⟩ := p
    rw [List.forall_mem_cons] at hkeys hreads
    rw [Doc.valueText, List.length_cons] at hfuel
    obtain ⟨fuel, rfl⟩ : ∃ k, fuel = k + 2 := ⟨fuel - 2, by omega⟩
    have hbegins := hkeys.1.begins
      (d.valueText (indent + 2) ++ (Doc.fieldsText (indent + 2) fields ++ (spaces m ++ rest)))
    have htext : (Doc.map ((name, d) :: fields)).valueText indent ++ (spaces m ++ rest) =
        '\n' :: (spaces (indent + 2) ++ (name.toList ++ ':' ::
          (d.valueText (indent + 2) ++ (Doc.fieldsText (indent + 2) fields ++ (spaces m ++ rest))))) := by
      rw [Doc.valueText, List.cons_append, Doc.fieldsText_cons]
    have hleft : Closes (indent + 2) m rest := hclose.mono (Nat.le_succ _)
    have hfuel : (Doc.fieldsText (indent + 2) ((name, d) :: fields)).length + 3 ≤ fuel := by omega
    obtain ⟨n, line', hread, hn⟩ := blockNode_fields (indent + 1) true (line + 1) hkeys.1 hreads.1
      hkeys.2 hreads.2 hleft (by omega) hfuel
    refine ⟨n, _, line', ?_, Cursor.skip_settled hclose.settled, hn⟩
    rw [htext, hbegins.blockOptional_eq_blockNode (by simp) (by omega)
      (Cursor.skip_line hbegins.settled (indent + 2)), hread]

/-- A document is read back wherever it stands. -/
lemma Doc.Writable.readsBack {d : Doc} (h : d.Writable) : d.ReadsBack := by
  induction h with
  | word h => exact (Written.plain h).readsBack (fun _ => by rw [Doc.valueText]; rfl) (by rw [Doc.value])
  | text h =>
    refine (written_text h).readsBack (fun indent => ?_) (by rw [Doc.value, textValue])
    rw [Doc.valueText, scalarText_inline h]
  | @texts items h =>
    cases items with
    | nil => exact readsBack_noTexts
    | cons s items => exact readsBack_texts h
  | map hne hkeys _ ih => exact readsBack_map hne hkeys ih

section Text

lemma isPrintable_spaces (n : Nat) : ∀ c ∈ spaces n, isPrintable c = true := by
  intro c hc
  rw [List.eq_of_mem_replicate hc]
  decide

lemma isPrintable_quoteChar {c : Char} (h : isPrintable c = true) :
    ∀ d ∈ quoteChar c, isPrintable d = true := by
  rw [quoteChar]
  split
  · exact List.all_eq_true.1 (by decide)
  · exact List.forall_mem_singleton.2 h

lemma isPrintable_scalarText {s : String} (h : Inline s.toList) (indent : Nat) :
    ∀ c ∈ scalarText indent s, isPrintable c = true := by
  rw [scalarText_inline h, scalarBody, List.forall_mem_append]
  refine ⟨?_, List.all_eq_true.1 (by decide)⟩
  split
  · exact fun c hc => (h c hc).1
  · rw [List.forall_mem_cons, List.forall_mem_append]
    refine ⟨by decide, fun d hd => ?_, List.all_eq_true.1 (by decide)⟩
    obtain ⟨c, hc, hd⟩ := List.mem_flatMap.1 hd
    exact isPrintable_quoteChar (h c hc).1 d hd

lemma isPrintable_itemText {s : String} (h : Inline s.toList) (indent : Nat) :
    ∀ c ∈ Doc.itemText indent s, isPrintable c = true := by
  rw [Doc.itemText, List.forall_mem_append, List.forall_mem_append]
  exact ⟨⟨isPrintable_spaces indent, List.all_eq_true.1 (by decide)⟩,
    isPrintable_scalarText h (indent + 2)⟩

lemma isPrintable_fieldsText {indent : Nat} {fields : List (String × Doc)}
    (hkeys : ∀ p ∈ fields, Key p.1)
    (hvalues : ∀ p ∈ fields, ∀ c ∈ p.2.valueText indent, isPrintable c = true) :
    ∀ c ∈ Doc.fieldsText indent fields, isPrintable c = true := by
  induction fields with
  | nil =>
    rw [Doc.fieldsText]
    exact fun _ hc => nomatch hc
  | cons p fields ih =>
    rw [List.forall_mem_cons] at hkeys hvalues
    rw [Doc.fieldsText]
    simp only [List.forall_mem_append, List.forall_mem_singleton]
    exact ⟨⟨⟨⟨isPrintable_spaces indent, fun c hc => (hkeys.1.plain.inline c hc).1⟩, by decide⟩,
      hvalues.1⟩, ih hkeys.2 hvalues.2⟩

lemma Doc.Writable.isPrintable {d : Doc} (h : d.Writable) (indent : Nat) :
    ∀ c ∈ d.valueText indent, isPrintable c = true := by
  induction h generalizing indent with
  | word h =>
    rw [Doc.valueText, List.forall_mem_append, List.forall_mem_cons]
    exact ⟨⟨by decide, fun c hc => (h.inline c hc).1⟩, List.all_eq_true.1 (by decide)⟩
  | text h =>
    rw [Doc.valueText, List.forall_mem_cons]
    exact ⟨by decide, isPrintable_scalarText h (indent + 2)⟩
  | @texts items h =>
    cases items with
    | nil =>
      rw [Doc.valueText]
      exact List.all_eq_true.1 (by decide)
    | cons s items =>
      rw [Doc.valueText, List.forall_mem_cons]
      refine ⟨by decide, fun c hc => ?_⟩
      obtain ⟨t, ht, hc⟩ := List.mem_flatMap.1 hc
      exact isPrintable_itemText (h t ht) indent c hc
  | map _ hkeys _ ih =>
    rw [Doc.valueText, List.forall_mem_cons]
    exact ⟨by decide, isPrintable_fieldsText hkeys fun p hp => ih p hp (indent + 2)⟩

lemma unifyBreaks_eq {cs : List Char} (h : ∀ c ∈ cs, isPrintable c = true) : unifyBreaks cs = cs := by
  induction cs with
  | nil => rfl
  | cons c cs ih =>
    rw [List.forall_mem_cons] at h
    have hreturn : c ≠ '\r' := by
      rintro rfl
      exact absurd h.1 (by decide)
    have hnext : c ≠ nextLine := by
      rintro rfl
      exact absurd h.1 (by decide)
    rw [unifyBreaks]
    · rw [if_neg (by simp [hreturn, hnext]), ih h.2]
    · exact fun _ hc => absurd hc hreturn

lemma isAllowed_of_isPrintable {c : Char} (h : isPrintable c = true) : isAllowed c = true := by
  simp only [isPrintable, isAllowed, Bool.or_eq_true, Bool.and_eq_true, decide_eq_true_eq] at h ⊢
  omega

lemma first_eq {cs : List Char} (h : ∀ c ∈ cs, isPrintable c = true) :
    Cursor.first cs = ⟨cs, 0, 0, true⟩ := by
  cases cs with
  | nil => rfl
  | cons c cs =>
    have hmark : c.toNat ≠ 0xFEFF := by
      intro hc
      have hprintable := h c List.mem_cons_self
      simp [isPrintable, hc] at hprintable
    rw [Cursor.first, if_neg hmark]

lemma Begins.scanDirectives_eq {cs : List Char} {fuel line column : Nat} (h : Begins cs) :
    scanDirectives (fuel + 1) {} ⟨cs, line, column, true⟩ =
      some ({}, false, ⟨cs, line, column, true⟩) := by
  rw [scanDirectives, Cursor.skip_settled h.settled]
  split
  · next heq =>
    have heq : cs = _ := heq
    exact absurd (h.bare '%' (by rw [heq]; rfl)) (by decide)
  · rfl

lemma Doc.Writable.begins_fieldsText {fields : List (String × Doc)} (h : (Doc.map fields).Writable)
    (indent : Nat) : ∃ cs, Doc.fieldsText indent fields = spaces indent ++ cs ∧ cs ≠ [] ∧ Begins cs := by
  cases h with
  | map hne hkeys hvalues =>
    cases fields with
    | nil => exact absurd rfl hne
    | cons p fields =>
      have hname := hkeys p List.mem_cons_self
      refine ⟨p.1.toList ++ ':' :: (p.2.valueText indent ++ Doc.fieldsText indent fields), ?_, by simp,
        hname.plain.begins (by decide) (by decide) _⟩
      rw [Doc.fieldsText]
      simp

/-- The first key of a document is found at its start, and nothing is left behind its last pair. -/
lemma Doc.Writable.blockNode_eq {fields : List (String × Doc)} (h : (Doc.map fields).Writable)
    {fuel : Nat} (hfuel : (Doc.fieldsText 0 fields).length + 3 ≤ fuel) :
    ∃ n line, blockNode 0 false {} (fuel + 1) ⟨Doc.fieldsText 0 fields, 0, 0, true⟩ =
        some (n, ⟨[], line, 0, true⟩) ∧ n.Stands (Doc.map fields).value := by
  cases h with
  | map hne hkeys hvalues =>
    cases fields with
    | nil => exact absurd rfl hne
    | cons p fields =>
      rw [List.forall_mem_cons] at hkeys hvalues
      have hend : Closes 0 0 [] := .inl rfl
      obtain ⟨n, line, hread, hn⟩ := blockNode_fields 0 false 0 hkeys.1 hvalues.1.readsBack hkeys.2
        (fun q hq => (hvalues.2 q hq).readsBack) hend (Nat.zero_le _) hfuel
      refine ⟨n, line, ?_, hn⟩
      rw [← hread, Doc.fieldsText]
      simp [spaces]

end Text

/-- A document that is a mapping is read back. -/
theorem read_write {fields : List (String × Doc)} (h : (Doc.map fields).Writable) :
    read (write fields) = some (Doc.map fields).value := by
  have hprintable : ∀ c ∈ Doc.fieldsText 0 fields, isPrintable c = true := by
    cases h with
    | map _ hkeys hvalues =>
      exact isPrintable_fieldsText hkeys fun p hp => (hvalues p hp).isPrintable 0
  have hallowed : (Doc.fieldsText 0 fields).all isAllowed = true :=
    List.all_eq_true.2 fun c hc => isAllowed_of_isPrintable (hprintable c hc)
  obtain ⟨cs, hcs, hne, hbegins⟩ := h.begins_fieldsText 0
  have hcs : Doc.fieldsText 0 fields = cs := hcs
  obtain ⟨n, line, hread, hn⟩ := h.blockNode_eq
    (show (Doc.fieldsText 0 fields).length + 3 ≤ 6 * (Doc.fieldsText 0 fields).length + 11 by omega)
  rw [read, write, String.toList_ofList, unifyBreaks_eq hprintable]
  simp only [hallowed, if_true, first_eq hprintable]
  rw [hcs] at hread ⊢
  rw [hbegins.scanDirectives_eq]
  simp only [Option.bind_eq_bind, Option.bind_some, Cursor.atStart, hbegins.start, Bool.and_false,
    Bool.false_eq_true, if_false, Bool.false_or, hbegins.ended hne (Nat.zero_le _), hread]
  rw [hn]
  rfl

end StagedLowering.Yaml
