/-! Finite maps with text keys, kept in key order. The order is part of the type, so two maps with
the same entries are the same map. -/
namespace StagedLowering

universe u v

/-- A map from texts to `β`; its entries stand in ascending key order and no key occurs twice. -/
@[ext] structure Dict (β : Type u) where
  entries : List (String × β)
  sorted : entries.Pairwise (fun a b => a.1 < b.1)

namespace Dict

variable {β : Type u} {γ : Type v}

def empty : Dict β := ⟨[], .nil⟩

instance : EmptyCollection (Dict β) := ⟨empty⟩
instance : Inhabited (Dict β) := ⟨empty⟩

def keys (d : Dict β) : List String := d.entries.map (·.1)

def values (d : Dict β) : List β := d.entries.map (·.2)

def size (d : Dict β) : Nat := d.entries.length

def isEmpty (d : Dict β) : Bool := d.entries.isEmpty

/-- The value of the first entry with key `k`. -/
def lookup (k : String) : List (String × β) → Option β
  | [] => none
  | (k', v) :: rest => if k' = k then some v else lookup k rest

def get? (d : Dict β) (k : String) : Option β := lookup k d.entries

def contains (d : Dict β) (k : String) : Bool := (d.get? k).isSome

/-- Puts `k` at its place in the order; an entry with the same key is replaced. -/
def place (k : String) (v : β) : List (String × β) → List (String × β)
  | [] => [(k, v)]
  | (k', v') :: rest =>
    if k < k' then (k, v) :: (k', v') :: rest
    else if k = k' then (k, v) :: rest
    else (k', v') :: place k v rest

theorem mem_place {k : String} {v : β} {e : String × β} {l : List (String × β)}
    (h : e ∈ place k v l) : e = (k, v) ∨ e ∈ l := by
  induction l with
  | nil => simpa [place] using h
  | cons hd tl ih =>
    obtain ⟨k', v'⟩ := hd
    rw [place] at h
    split at h
    · simpa using h
    · split at h
      · rcases List.mem_cons.1 h with h | h
        · exact .inl h
        · exact .inr (List.mem_cons_of_mem _ h)
      · rcases List.mem_cons.1 h with h | h
        · exact .inr (h ▸ List.mem_cons_self)
        · exact (ih h).imp_right (List.mem_cons_of_mem _)

theorem place_sorted (k : String) (v : β) {l : List (String × β)}
    (h : l.Pairwise (fun a b => a.1 < b.1)) :
    (place k v l).Pairwise (fun a b => a.1 < b.1) := by
  induction l with
  | nil => simp [place]
  | cons hd tl ih =>
    obtain ⟨k', v'⟩ := hd
    obtain ⟨hhd, htl⟩ := List.pairwise_cons.1 h
    rw [place]
    split
    · next hlt =>
      refine List.pairwise_cons.2 ⟨fun e he => ?_, h⟩
      rcases List.mem_cons.1 he with rfl | he
      · exact hlt
      · exact String.lt_trans hlt (hhd e he)
    · next hle =>
      split
      · next heq =>
        subst heq
        exact List.pairwise_cons.2 ⟨fun e he => hhd e he, htl⟩
      · next hne =>
        refine List.pairwise_cons.2 ⟨fun e he => ?_, ih htl⟩
        rcases mem_place he with rfl | he
        · exact Std.not_le.1 fun hk => hne (String.le_antisymm hk (Std.not_lt.1 hle)) |>.elim
        · exact hhd e he

def insert (d : Dict β) (k : String) (v : β) : Dict β :=
  ⟨place k v d.entries, place_sorted k v d.sorted⟩

/-- Keeps the entries that satisfy `p`. -/
def filter (p : String → β → Bool) (d : Dict β) : Dict β :=
  ⟨d.entries.filter (fun e => p e.1 e.2), d.sorted.filter _⟩

def erase (d : Dict β) (k : String) : Dict β := d.filter fun k' _ => !(k' = k)

/-- Inserts the pairs from left to right, so that the last of several values for a key stays. -/
def ofList (l : List (String × β)) : Dict β := l.foldl (fun d e => d.insert e.1 e.2) empty

@[simp] theorem entries_empty : (empty : Dict β).entries = [] := rfl

@[simp] theorem entries_insert (d : Dict β) (k : String) (v : β) :
    (d.insert k v).entries = place k v d.entries := rfl

@[simp] theorem entries_filter (p : String → β → Bool) (d : Dict β) :
    (d.filter p).entries = d.entries.filter (fun e => p e.1 e.2) := rfl

theorem lookup_place_self (k : String) (v : β) (l : List (String × β)) :
    lookup k (place k v l) = some v := by
  induction l with
  | nil => simp [place, lookup]
  | cons hd tl ih =>
    obtain ⟨k', v'⟩ := hd
    rw [place]
    split
    · simp [lookup]
    · split
      · simp [lookup]
      · next hne => simp [lookup, Ne.symm hne, ih]

theorem lookup_place_ne {k k' : String} (v : β) (h : k' ≠ k) (l : List (String × β)) :
    lookup k' (place k v l) = lookup k' l := by
  induction l with
  | nil => simp [place, lookup, Ne.symm h]
  | cons hd tl ih =>
    obtain ⟨k'', v''⟩ := hd
    rw [place]
    split
    · simp [lookup, Ne.symm h]
    · split
      · next heq => subst heq; simp [lookup, Ne.symm h]
      · simp [lookup, ih]

@[simp] theorem get?_empty (k : String) : (empty : Dict β).get? k = none := rfl

@[simp] theorem get?_insert_self (d : Dict β) (k : String) (v : β) :
    (d.insert k v).get? k = some v := lookup_place_self k v d.entries

theorem get?_insert_ne (d : Dict β) {k k' : String} (v : β) (h : k' ≠ k) :
    (d.insert k v).get? k' = d.get? k' := lookup_place_ne v h d.entries

theorem lookup_filter (p : String → Bool) (k : String) (l : List (String × β)) :
    lookup k (l.filter fun e => p e.1) = if p k then lookup k l else none := by
  induction l with
  | nil => simp [lookup]
  | cons hd tl ih =>
    obtain ⟨k', v'⟩ := hd
    by_cases hk : k' = k
    · subst hk
      by_cases hp : p k' <;> simp [lookup, hp, ih]
    · by_cases hp : p k' <;> simp [lookup, hp, hk, ih]

/-- Filtering by key keeps the value of a key or drops the key. -/
theorem get?_filter (p : String → Bool) (d : Dict β) (k : String) :
    (d.filter fun k _ => p k).get? k = if p k then d.get? k else none := lookup_filter p k d.entries

end Dict
end StagedLowering
