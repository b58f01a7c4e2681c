import StagedLowering.Proofs.Walking

/-! Walks and look-up by path address the same ops. What a walk shows to its visitor is written down by
the visitor itself: a recording visitor keeps its calls beside its state. -/
namespace StagedLowering

variable {σ β : Type}

namespace Visitor

/-- The visitor with a record of its calls, in order. -/
def recording (visit : Visitor σ β) : Visitor (σ × List (OpPath × Op)) β := fun s path op =>
  (((visit s.1 path op).1, s.2 ++ [(path, op)]), (visit s.1 path op).2)

/-- The state of the visitor after the given calls. -/
def stateAfter (visit : Visitor σ β) (s : σ) (calls : List (OpPath × Op)) : σ :=
  calls.foldl (fun s x => (visit s x.1 x.2).1) s

/-- At none of the given calls, made one after the other, the visitor stops. -/
def Continues (visit : Visitor σ β) (s : σ) (calls : List (OpPath × Op)) : Prop :=
  ∀ before x after, calls = before ++ x :: after →
    (visit (visit.stateAfter s before) x.1 x.2).2 = none

/-- Of the given calls, made one after the other, the one with `x` is the first at which the visitor
stops; it stops with `b`. -/
structure StopsAt (visit : Visitor σ β) (s : σ) (calls before : List (OpPath × Op)) (x : OpPath × Op)
    (b : β) : Prop where
  split : ∃ after, calls = before ++ x :: after
  continued : visit.Continues s before
  stopped : (visit (visit.stateAfter s before) x.1 x.2).2 = some b

variable {visit : Visitor σ β} {s : σ}

lemma continues_nil : visit.Continues s [] := by
  intro before x after h
  simp at h

lemma continues_cons {x : OpPath × Op} {rest : List (OpPath × Op)} :
    visit.Continues s (x :: rest) ↔
      (visit s x.1 x.2).2 = none ∧ visit.Continues (visit s x.1 x.2).1 rest := by
  constructor
  · intro h
    refine ⟨h [] x rest rfl, fun before y after hrest => ?_⟩
    exact h (x :: before) y after (by rw [hrest, List.cons_append])
  · rintro ⟨hx, hrest⟩ before y after hsplit
    cases before with
    | nil =>
      obtain ⟨rfl, -⟩ := List.cons.inj hsplit
      exact hx
    | cons z before =>
      rw [List.cons_append, List.cons.injEq] at hsplit
      obtain ⟨rfl, hsplit⟩ := hsplit
      exact hrest before y after hsplit

/-- A visitor goes through all calls, or there is a first one at which it stops. -/
lemma continues_or_stopsAt (visit : Visitor σ β) (s : σ) (calls : List (OpPath × Op)) :
    visit.Continues s calls ∨ ∃ before x b, visit.StopsAt s calls before x b := by
  induction calls generalizing s with
  | nil => exact .inl continues_nil
  | cons y rest ih =>
    cases hy : (visit s y.1 y.2).2 with
    | some b => exact .inr ⟨[], y, b, ⟨rest, rfl⟩, continues_nil, hy⟩
    | none =>
      rcases ih (visit s y.1 y.2).1 with hrest | ⟨before, x, b, ⟨after, hsplit⟩, hbefore, hx⟩
      · exact .inl (continues_cons.2 ⟨hy, hrest⟩)
      · exact .inr ⟨y :: before, x, b, ⟨after, by rw [hsplit, List.cons_append]⟩,
          continues_cons.2 ⟨hy, hbefore⟩, hx⟩

lemma visitAll_cons_none {x : OpPath × Op} (hx : (visit s x.1 x.2).2 = none)
    (rest : List (OpPath × Op)) :
    visit.visitAll s (x :: rest) = visit.visitAll (visit s x.1 x.2).1 rest := by
  rw [visitAll]
  rcases hv : visit s x.1 x.2 with ⟨s', _ | b⟩
  · rfl
  · rw [hv] at hx
    cases hx

lemma visitAll_cons_some {x : OpPath × Op} {b : β} (hx : (visit s x.1 x.2).2 = some b)
    (rest : List (OpPath × Op)) :
    visit.visitAll s (x :: rest) = ((visit s x.1 x.2).1, some b) := by
  rw [visitAll]
  rcases hv : visit s x.1 x.2 with ⟨s', _ | b'⟩
  · rw [hv] at hx
    cases hx
  · rw [hv] at hx
    cases hx
    rfl

/-- A visitor that continues is shown all calls. -/
lemma visitAll_of_continues {calls : List (OpPath × Op)} (h : visit.Continues s calls) :
    visit.visitAll s calls = (visit.stateAfter s calls, none) := by
  induction calls generalizing s with
  | nil => rfl
  | cons x rest ih =>
    rw [continues_cons] at h
    rw [visitAll_cons_none h.1, ih h.2]
    rfl

/-- A visitor that stops is shown the calls up to that one. -/
lemma visitAll_of_stopsAt {calls before : List (OpPath × Op)} {x : OpPath × Op} {b : β}
    (h : visit.StopsAt s calls before x b) :
    visit.visitAll s calls = (visit.stateAfter s (before ++ [x]), some b) := by
  obtain ⟨⟨after, rfl⟩, hbefore, hx⟩ := h
  rw [visitAll_append, visitAll_of_continues hbefore]
  dsimp only
  rw [visitAll_cons_some hx, stateAfter, stateAfter, List.foldl_append, List.foldl_cons, List.foldl_nil]

lemma recording_stateAfter (visit : Visitor σ β) (s : σ) (done calls : List (OpPath × Op)) :
    visit.recording.stateAfter (s, done) calls = (visit.stateAfter s calls, done ++ calls) := by
  induction calls generalizing s done with
  | nil => simp [stateAfter]
  | cons x rest ih =>
    have hrest := ih (visit s x.1 x.2).1 (done ++ [x])
    rw [List.append_assoc] at hrest
    exact hrest

/-- Recording changes no answer. -/
lemma recording_answer (visit : Visitor σ β) (s : σ) (done before : List (OpPath × Op))
    (x : OpPath × Op) :
    (visit.recording (visit.recording.stateAfter (s, done) before) x.1 x.2).2 =
      (visit (visit.stateAfter s before) x.1 x.2).2 := by
  rw [recording_stateAfter]
  rfl

lemma Continues.recording {calls : List (OpPath × Op)} (h : visit.Continues s calls)
    (done : List (OpPath × Op)) : visit.recording.Continues (s, done) calls := by
  intro before x after hsplit
  rw [recording_answer]
  exact h before x after hsplit

lemma StopsAt.recording {calls before : List (OpPath × Op)} {x : OpPath × Op} {b : β}
    (h : visit.StopsAt s calls before x b) (done : List (OpPath × Op)) :
    visit.recording.StopsAt (s, done) calls before x b where
  split := h.split
  continued := h.continued.recording done
  stopped := by
    rw [recording_answer]
    exact h.stopped

end Visitor

namespace Op

mutual
theorem length_addressed (path : List Nat) : ∀ op : Op, (op.addressed path).length = op.count
  | ⟨h, regions⟩ => by
    rw [addressed, count, List.length_cons, length_addressedRegions path 0 regions, Nat.add_comm]

theorem length_addressedBlock (base : List Nat) (i : Nat) :
    ∀ ops : List Op, (addressedBlock base i ops).length = countBlock ops
  | [] => by rw [addressedBlock, countBlock, List.length_nil]
  | op :: rest => by
    rw [addressedBlock, countBlock, List.length_append, length_addressed _ op,
      length_addressedBlock base (i + 1) rest]

theorem length_addressedRegion (base : List Nat) (i : Nat) :
    ∀ region : List (List Op), (addressedRegion base i region).length = countRegion region
  | [] => by rw [addressedRegion, countRegion, List.length_nil]
  | block :: rest => by
    rw [addressedRegion, countRegion, List.length_append, length_addressedBlock _ 0 block,
      length_addressedRegion base (i + 1) rest]

theorem length_addressedRegions (base : List Nat) (i : Nat) :
    ∀ regions : List (List (List Op)),
      (addressedRegions base i regions).length = countRegions regions
  | [] => by rw [addressedRegions, countRegions, List.length_nil]
  | region :: rest => by
    rw [addressedRegions, countRegions, List.length_append, length_addressedRegion _ 0 region,
      length_addressedRegions base (i + 1) rest]
end

end Op

namespace Program

/-- Every op is listed once. -/
theorem length_addressed (p : Program) : p.addressed.length = p.opCount :=
  Op.length_addressedBlock [] 0 p.ops

/-- Look-up succeeds at the listed paths only. -/
theorem opAt_isSome_iff {p : Program} {path : OpPath} :
    (p.opAt path).isSome ↔ path ∈ p.addressed.map (·.1) := by
  rw [Option.isSome_iff_exists, List.mem_map]
  constructor
  · rintro ⟨op, hop⟩
    exact ⟨(path, op), mem_addressed.2 hop, rfl⟩
  · rintro ⟨x, hx, rfl⟩
    exact ⟨x.2, mem_addressed.1 hx⟩

/-- The calls that a walk makes, as the visitor records them. -/
def calls (p : Program) (visit : Visitor σ β) (s : σ) : List (OpPath × Op) :=
  (p.walk visit.recording (s, [])).1.2

lemma calls_of_continues {p : Program} {visit : Visitor σ β} {s : σ}
    (h : visit.Continues s p.addressed) : p.calls visit s = p.addressed := by
  rw [calls, walk_eq, Visitor.visitAll_of_continues (h.recording []), Visitor.recording_stateAfter,
    List.nil_append]

lemma calls_of_stopsAt {p : Program} {visit : Visitor σ β} {s : σ} {before : List (OpPath × Op)}
    {x : OpPath × Op} {b : β} (h : visit.StopsAt s p.addressed before x b) :
    p.calls visit s = before ++ [x] := by
  rw [calls, walk_eq, Visitor.visitAll_of_stopsAt (h.recording []), Visitor.recording_stateAfter,
    List.nil_append]

/-- A walk shows ops of the list in their order, and each at most once. -/
lemma calls_sublist (p : Program) (visit : Visitor σ β) (s : σ) :
    (p.calls visit s).Sublist p.addressed := by
  rcases visit.continues_or_stopsAt s p.addressed with h | ⟨before, x, b, h⟩
  · rw [calls_of_continues h]
  · rw [calls_of_stopsAt h]
    obtain ⟨after, hsplit⟩ := h.split
    rw [hsplit]
    exact (List.singleton_sublist.2 List.mem_cons_self).append_left before

/-- Walks and look-up are inverse addressings. A visitor that always continues is called once for each
op, with a path at which look-up finds the op; these paths are distinct and ascend, and look-up finds
nothing at any other path. A visitor may also stop, at whatever call and in whatever state: then the calls
are those up to the first stop, and the walk ends with it. -/
theorem walk_inverse_opAt (p : Program) (visit : Visitor σ β) (s : σ) :
    ((∀ t path op, (visit t path op).2 = none) →
      (p.walk visit s).2 = none ∧
      p.calls visit s = p.addressed) ∧
    p.addressed.length = p.opCount ∧
    (∀ x ∈ p.addressed, p.opAt x.1 = some x.2) ∧
    p.addressed.Pairwise (fun x y => x.1 ≠ y.1 ∧ List.Lex (· < ·) x.1.indices y.1.indices) ∧
    (∀ path, (p.opAt path).isSome ↔ path ∈ p.addressed.map (·.1)) ∧
    (visit.Continues s p.addressed ∨ ∃ before x b, visit.StopsAt s p.addressed before x b) ∧
    (visit.Continues s p.addressed →
      p.calls visit s = p.addressed ∧ p.walk visit s = (visit.stateAfter s p.addressed, none)) ∧
    (∀ before x b, visit.StopsAt s p.addressed before x b →
      p.calls visit s = before ++ [x] ∧
      p.walk visit s = (visit.stateAfter s (before ++ [x]), some b)) := by
  have hcontinues : visit.Continues s p.addressed →
      p.calls visit s = p.addressed ∧ p.walk visit s = (visit.stateAfter s p.addressed, none) :=
    fun h => ⟨calls_of_continues h, by rw [walk_eq, Visitor.visitAll_of_continues h]⟩
  refine ⟨fun halways => ?_, p.length_addressed, fun x hx => mem_addressed.1 hx,
    p.addressed_ordered.imp fun h => ⟨h.ne, h⟩, fun path => opAt_isSome_iff,
    visit.continues_or_stopsAt s p.addressed, hcontinues, fun before x b h => ?_⟩
  · obtain ⟨hcalls, hwalk⟩ := hcontinues fun before x after _ => halways _ _ _
    exact ⟨by rw [hwalk], hcalls⟩
  · exact ⟨calls_of_stopsAt h, by rw [walk_eq, Visitor.visitAll_of_stopsAt h]⟩

/-- A module with an empty block and a block of two ops, and an op behind it. -/
def moduleAndFunction : Program :=
  ⟨[⟨{ kind := "builtin.module" },
      [[[], [Op.ofKind "arith.constant", Op.ofKind "func.return"]]]⟩, Op.ofKind "func.func"]⟩

/-- Counts its calls and stops at the third one, with the kind of the op. -/
def stopAtThird : Visitor Nat String := fun n _ op => (n + 1, if n = 2 then some op.kind else none)

/-- The third call is about the second op in the second block; the function behind is not visited. -/
theorem walk_inverse_opAt_third :
    stopAtThird.StopsAt 0 moduleAndFunction.addressed (moduleAndFunction.addressed.take 2)
      (⟨[0, 0, 1, 1]⟩, Op.ofKind "func.return") "func.return" ∧
    (moduleAndFunction.calls stopAtThird 0).map (·.1) =
      [⟨[0]⟩, ⟨[0, 0, 1, 0]⟩, ⟨[0, 0, 1, 1]⟩] ∧
    moduleAndFunction.walk stopAtThird 0 = (3, some "func.return") := by
  have hstops : stopAtThird.StopsAt 0 moduleAndFunction.addressed
      (moduleAndFunction.addressed.take 2) (⟨[0, 0, 1, 1]⟩, Op.ofKind "func.return")
      "func.return" :=
    ⟨⟨_, rfl⟩, Visitor.continues_cons.2 ⟨rfl, Visitor.continues_cons.2
      ⟨rfl, Visitor.continues_nil⟩⟩, rfl⟩
  obtain ⟨-, -, -, -, -, -, -, hstop⟩ := walk_inverse_opAt moduleAndFunction stopAtThird 0
  obtain ⟨hcalls, hwalk⟩ := hstop _ _ _ hstops
  exact ⟨hstops, by rw [hcalls]; rfl, hwalk⟩

end Program
end StagedLowering
