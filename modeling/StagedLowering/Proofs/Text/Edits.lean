import Mathlib.Order.Bounds.Basic
import Mathlib.Order.MinMax
import StagedLowering.Text.EditDistance

/-! Edits of texts. A recursion over first characters gives the least number of edits that turn one text
into another: it is reached by the edits that the recursion chooses, and no edit brings a text nearer to
another one by more than one. -/
namespace StagedLowering.Text

/-- One character is inserted, deleted or replaced. -/
inductive Edit : List Char → List Char → Prop
  | insert (l : List Char) (c : Char) (r : List Char) : Edit (l ++ r) (l ++ c :: r)
  | delete (l : List Char) (c : Char) (r : List Char) : Edit (l ++ c :: r) (l ++ r)
  | substitute (l : List Char) (c d : Char) (r : List Char) : Edit (l ++ c :: r) (l ++ d :: r)

/-- That many edits, one after the other, turn a text into another. -/
inductive Edits : Nat → List Char → List Char → Prop
  | refl (s : List Char) : Edits 0 s s
  | step {n : Nat} {s u t : List Char} (h : Edit s u) (hs : Edits n u t) : Edits (n + 1) s t

namespace Edit

variable {s t : List Char}

lemma symm (h : Edit s t) : Edit t s := by
  cases h with
  | insert l c r => exact .delete l c r
  | delete l c r => exact .insert l c r
  | substitute l c d r => exact .substitute l d c r

/-- An edit behind a character that stays. -/
lemma cons (a : Char) (h : Edit s t) : Edit (a :: s) (a :: t) := by
  cases h with
  | insert l c r => exact .insert (a :: l) c r
  | delete l c r => exact .delete (a :: l) c r
  | substitute l c d r => exact .substitute (a :: l) c d r

/-- An edit seen from the other end. -/
lemma reverse (h : Edit s t) : Edit s.reverse t.reverse := by
  cases h with
  | insert l c r => simpa using Edit.insert r.reverse c l.reverse
  | delete l c r => simpa using Edit.delete r.reverse c l.reverse
  | substitute l c d r => simpa using Edit.substitute r.reverse c d l.reverse

end Edit

namespace Edits

variable {m n : Nat} {s t u : List Char}

lemma trans (hst : Edits m s t) (htu : Edits n t u) : Edits (m + n) s u := by
  induction hst with
  | refl s => simpa using htu
  | step h _ ih =>
    rw [Nat.add_right_comm]
    exact .step h (ih htu)

lemma symm (h : Edits n s t) : Edits n t s := by
  induction h with
  | refl s => exact .refl s
  | step h _ ih => exact ih.trans (.step h.symm (.refl _))

lemma cons (a : Char) (h : Edits n s t) : Edits n (a :: s) (a :: t) := by
  induction h with
  | refl s => exact .refl (a :: s)
  | step h _ ih => exact .step (h.cons a) ih

lemma reverse (h : Edits n s t) : Edits n s.reverse t.reverse := by
  induction h with
  | refl s => exact .refl s.reverse
  | step h _ ih => exact .step h.reverse ih

lemma reverse_iff : Edits n s.reverse t.reverse ↔ Edits n s t := by
  refine ⟨fun h => ?_, reverse⟩
  simpa using h.reverse

/-- Of two numbers of edits the smaller one is a number of edits. -/
lemma min (hm : Edits m s t) (hn : Edits n s t) : Edits (Min.min m n) s t := by
  rcases min_choice m n with h | h
  · rwa [h]
  · rwa [h]

lemma eq_of_zero (h : Edits 0 s t) : s = t := by
  cases h
  rfl

end Edits

/-- Distances from `a :: s`, given those from `s`. -/
def extend (a : Char) (f : List Char → Nat) : List Char → Nat
  | [] => f [] + 1
  | b :: t => min (min (f (b :: t) + 1) (extend a f t + 1)) (f t + if a = b then 0 else 1)

/-- The least number of edits, by the first characters: one is deleted, one is inserted, or the two stand
for each other. -/
def distance : List Char → List Char → Nat
  | [] => List.length
  | a :: s => extend a (distance s)

@[simp] lemma distance_nil (t : List Char) : distance [] t = t.length := rfl

@[simp] lemma distance_cons_nil (a : Char) (s : List Char) :
    distance (a :: s) [] = distance s [] + 1 := rfl

lemma distance_cons_cons (a b : Char) (s t : List Char) : distance (a :: s) (b :: t) =
    min (min (distance s (b :: t) + 1) (distance (a :: s) t + 1))
      (distance s t + if a = b then 0 else 1) := rfl

lemma distance_right_nil (s : List Char) : distance s [] = s.length := by
  induction s with
  | nil => rfl
  | cons a s ih => rw [distance_cons_nil, ih, List.length_cons]

/-- As many edits as the distance says are enough. -/
theorem edits_distance (s t : List Char) : Edits (distance s t) s t := by
  induction s generalizing t with
  | nil =>
    induction t with
    | nil => exact .refl []
    | cons b t ih => exact .step (.insert [] b []) (ih.cons b)
  | cons a s ih =>
    induction t with
    | nil => exact .step (.delete [] a s) (ih [])
    | cons b t iht =>
      have hdelete : Edits (distance s (b :: t) + 1) (a :: s) (b :: t) :=
        .step (.delete [] a s) (ih (b :: t))
      have hinsert : Edits (distance (a :: s) t + 1) (a :: s) (b :: t) :=
        .step (.insert [] b (a :: s)) (iht.cons b)
      have hreplace : Edits (distance s t + if a = b then 0 else 1) (a :: s) (b :: t) := by
        split
        · next hab =>
          subst hab
          exact (ih t).cons a
        · exact .step (.substitute [] a b s) ((ih t).cons b)
      rw [distance_cons_cons]
      exact (hdelete.min hinsert).min hreplace

/-- The first distances exceed the second ones by one at most. -/
def Near (f g : List Char → Nat) : Prop := ∀ t, f t ≤ g t + 1

lemma Near.extend {f g : List Char → Nat} (h : Near f g) (a : Char) :
    Near (extend a f) (extend a g) := by
  intro t
  induction t with
  | nil =>
    have hnil := h []
    simp only [Text.extend]
    omega
  | cons b t ih =>
    have hall := h (b :: t)
    have htail := h t
    simp only [Text.extend]
    omega

/-- A character more in the second text is one insertion. -/
lemma distance_cons_right (s : List Char) (b : Char) (t : List Char) :
    distance s (b :: t) ≤ distance s t + 1 := by
  cases s with
  | nil => simp
  | cons a s =>
    rw [distance_cons_cons]
    omega

lemma near_of_delete (c : Char) (r : List Char) : Near (distance (c :: r)) (distance r) := by
  intro t
  cases t with
  | nil => simp
  | cons b t =>
    rw [distance_cons_cons]
    omega

lemma near_of_insert (c : Char) (r : List Char) : Near (distance r) (distance (c :: r)) := by
  intro t
  induction t with
  | nil =>
    rw [distance_cons_nil]
    omega
  | cons b t ih =>
    have hright := distance_cons_right r b t
    rw [distance_cons_cons]
    omega

lemma near_of_substitute (c d : Char) (r : List Char) :
    Near (distance (c :: r)) (distance (d :: r)) := by
  intro t
  induction t with
  | nil => simp
  | cons b t ih =>
    have hcost : (if c = b then 0 else 1) ≤ (if d = b then 0 else 1) + 1 := by
      split <;> omega
    rw [distance_cons_cons, distance_cons_cons]
    omega

/-- What holds behind the same characters holds with them. -/
lemma Near.append {r r' : List Char} (h : Near (distance r) (distance r')) (l : List Char) :
    Near (distance (l ++ r)) (distance (l ++ r')) := by
  induction l with
  | nil => exact h
  | cons a l ih => exact ih.extend a

/-- One edit changes distances by one at most. -/
lemma Edit.near {s u : List Char} (h : Edit s u) : Near (distance s) (distance u) := by
  cases h with
  | insert l c r => exact (near_of_insert c r).append l
  | delete l c r => exact (near_of_delete c r).append l
  | substitute l c d r => exact (near_of_substitute c d r).append l

@[simp] lemma distance_self (s : List Char) : distance s s = 0 := by
  induction s with
  | nil => rfl
  | cons a s ih =>
    rw [distance_cons_cons, ih, if_pos rfl]
    omega

/-- Fewer edits than the distance says are not enough. -/
theorem distance_le {n : Nat} {s t : List Char} (h : Edits n s t) : distance s t ≤ n := by
  induction h with
  | refl s => simp
  | step h _ ih => exact (h.near _).trans (Nat.succ_le_succ ih)

theorem isLeast_distance (s t : List Char) : IsLeast {n | Edits n s t} (distance s t) :=
  ⟨edits_distance s t, fun _ h => distance_le h⟩

end StagedLowering.Text
