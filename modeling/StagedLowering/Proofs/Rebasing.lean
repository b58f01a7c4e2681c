import Mathlib.Data.List.Basic
import StagedLowering.PipelineError
import StagedLowering.Proofs.Addressing

/-! Paths and errors seen from an enclosing program. Moving them is an action of the paths, and look-up
agrees with it: a path moved below an anchor leads to what it leads to from the anchor on. -/
namespace StagedLowering

namespace OpPath

/-- Only the last index is shifted, whatever stands in front of it. -/
lemma shiftLast_append (i : Nat) (l : List Nat) {s : List Nat} (h : s ≠ []) :
    shiftLast i (l ++ s) = l ++ shiftLast i s := by
  induction l with
  | nil => rfl
  | cons j l ih =>
    rw [List.cons_append, shiftLast, ih, List.cons_append]
    simp [h]

lemma shiftLast_shiftLast (i j : Nat) (l : List Nat) :
    shiftLast i (shiftLast j l) = shiftLast (j + i) l := by
  rcases l.eq_nil_or_concat with rfl | ⟨l, k, rfl⟩
  · rfl
  · rw [List.concat_eq_append, shiftLast_append j l (List.cons_ne_nil k []),
      shiftLast_append (j + i) l (List.cons_ne_nil k [])]
    simp only [shiftLast]
    rw [shiftLast_append i l (List.cons_ne_nil _ [])]
    simp only [shiftLast, Nat.add_assoc]

lemma shiftLast_zero {l : List Nat} (h : l ≠ []) : shiftLast 0 l = l := by
  rcases l.eq_nil_or_concat with rfl | ⟨l, k, rfl⟩
  · exact absurd rfl h
  · rw [List.concat_eq_append, shiftLast_append 0 l (List.cons_ne_nil k [])]
    rfl

@[simp] lemma rebased_empty (p : OpPath) : p.rebased ⟨[]⟩ = p := by
  obtain ⟨_ | ⟨i, rest⟩⟩ := p <;> rfl

lemma rebased_cons (p : OpPath) (n : Nat) {rel : List Nat} (h : rel ≠ []) :
    (p.rebased ⟨n :: rel⟩).indices = n :: (p.rebased ⟨rel⟩).indices := by
  obtain ⟨_ | ⟨i, rest⟩⟩ := p
  · rfl
  · simp only [rebased]
    rw [← List.singleton_append, shiftLast_append i [n] h]
    rfl

/-- The first index counts on from the last one of the anchor. -/
lemma rebased_concat (j : Nat) (rest base : List Nat) (i : Nat) :
    rebased ⟨j :: rest⟩ ⟨base ++ [i]⟩ = ⟨base ++ (i + j) :: rest⟩ := by
  simp only [rebased]
  rw [shiftLast_append j base (List.cons_ne_nil i []), List.append_assoc]
  rfl

/-- To be seen from further out, a path may be moved in two steps or in one. -/
theorem rebased_rebased (p q r : OpPath) :
    (p.rebased q).rebased r = p.rebased (q.rebased r) := by
  obtain ⟨_ | ⟨i, ps⟩⟩ := p
  · rfl
  obtain ⟨_ | ⟨j, _ | ⟨k, qs⟩⟩⟩ := q
  · rfl
  · simp [rebased, shiftLast, shiftLast_shiftLast]
  · simp [rebased, shiftLast, shiftLast_append]

end OpPath

lemma Diagnostic.rebased_rebased (d : Diagnostic) (a b : OpPath) :
    (d.rebased a).rebased b = d.rebased (a.rebased b) := by
  cases hd : d.path <;> simp [Diagnostic.rebased, hd, OpPath.rebased_rebased]

@[simp] lemma Diagnostic.rebased_empty (d : Diagnostic) : d.rebased ⟨[]⟩ = d := by
  cases d with
  | mk severity message location opKind path => cases path <;> simp [Diagnostic.rebased]

namespace PipelineError

lemma rebased_rebased (e : PipelineError) (a b : OpPath) :
    (e.rebased a).rebased b = e.rebased (a.rebased b) := by
  cases e <;> simp [rebased, Diagnostic.rebased_rebased]

@[simp] lemma rebased_empty (e : PipelineError) : e.rebased ⟨[]⟩ = e := by
  cases e <;> simp [rebased]

@[simp] lemma isConfig_rebased (e : PipelineError) (a : OpPath) :
    (e.rebased a).isConfig = e.isConfig := by
  cases e <;> rfl

/-- The messages about a program are those of the part in the same order, with their paths moved. -/
lemma diagnostics_rebased {e : PipelineError} (h : e.isConfig = false) (a : OpPath) :
    (e.rebased a).diagnostics = e.diagnostics.map (·.rebased a) := by
  cases e with
  | config cause => cases h
  | stage name ds => rfl
  | legality name d => rfl

/-- The error with no path in its messages. -/
def withoutPaths : PipelineError → PipelineError
  | .config cause => .config cause
  | .stage name ds => .stage name (ds.map fun d => { d with path := none })
  | .legality name d => .legality name { d with path := none }

lemma withoutPaths_rebased (e : PipelineError) (a : OpPath) :
    (e.rebased a).withoutPaths = e.withoutPaths := by
  cases e with
  | config cause => rfl
  | stage name ds =>
    rw [rebased, withoutPaths, List.map_map]
    rfl
  | legality name d => rfl

lemma paths_rebased (e : PipelineError) (a : OpPath) :
    (e.rebased a).diagnostics.map (·.path) =
      e.diagnostics.map fun d => d.path.map (·.rebased a) := by
  cases e with
  | config cause => rfl
  | stage name ds =>
    rw [rebased, diagnostics, List.map_map]
    rfl
  | legality name d => rfl

end PipelineError

namespace Program

/-- The ops `ops` are a list of the program, the root ops or a block, and `base` leads to it. -/
inductive HasList (t : Program) : List Nat → List Op → Prop
  | roots : HasList t [] t.ops
  | block {a : OpPath} {op : Op} {r b : Nat} {region : Region} {block : Block}
      (hop : t.opAt a = some op) (hregion : op.regions[r]? = some region)
      (hblock : region[b]? = some block) : HasList t (a.indices ++ [r, b]) block

/-- At `a` is the op `x`, and behind it in the same list are the ops `later`. -/
def Stands (t : Program) (a : OpPath) (x : Op) (later : List Op) : Prop :=
  ∃ base ops i, t.HasList base ops ∧ a = ⟨base ++ [i]⟩ ∧ ops.drop i = x :: later

variable {t : Program} {base : List Nat} {ops : List Op}

/-- Behind the way to a list, look-up is look-up in the list. -/
lemma HasList.atIndices_append (h : t.HasList base ops) (i : Nat) (rest : List Nat) :
    Op.atIndices t.ops (base ++ i :: rest) = Op.atIndices ops (i :: rest) := by
  cases h with
  | roots => rfl
  | block hop hregion hblock =>
    rw [List.append_assoc, Op.atIndices_append hop, Op.within_of_ne_nil _ (by simp)]
    simp only [List.cons_append, List.nil_append, lookAt, hregion, hblock, Option.bind_some]

/-- Every op found below a list of the program stands in a list of the program. -/
lemma HasList.exists_stands (h : t.HasList base ops) {path : List Nat} {x : Op}
    (hx : Op.atIndices ops path = some x) : ∃ later, t.Stands ⟨base ++ path⟩ x later := by
  fun_induction Op.atIndices ops path generalizing base with
  | case1 ops i =>
    obtain ⟨hlt, rfl⟩ := List.getElem?_eq_some_iff.1 hx
    exact ⟨_, base, ops, i, h, rfl, List.drop_eq_getElem_cons hlt⟩
  | case2 ops i r b rest ih =>
    obtain ⟨op, hop, hx⟩ := Option.bind_eq_some_iff.1 hx
    obtain ⟨region, hregion, hx⟩ := Option.bind_eq_some_iff.1 hx
    obtain ⟨block, hblock, hx⟩ := Option.bind_eq_some_iff.1 hx
    -- The block is a list of the program too, with a longer way to it.
    have hopAt : t.opAt ⟨base ++ [i]⟩ = some op := by
      rw [opAt, h.atIndices_append, Op.atIndices, hop]
    obtain ⟨later, hlater⟩ := ih block (.block hopAt hregion hblock) hx
    rw [List.append_assoc, List.append_assoc] at hlater
    exact ⟨later, hlater⟩
  | case3 => cases hx

/-- From an op on, look-up by a moved path is look-up by the path itself. -/
lemma Stands.opAt_rebased {a : OpPath} {x : Op} {later : List Op} (h : t.Stands a x later)
    {p : OpPath} (hp : p ≠ ⟨[]⟩) : t.opAt (p.rebased a) = (Program.mk (x :: later)).opAt p := by
  obtain ⟨base, ops, i, hlist, rfl, hdrop⟩ := h
  obtain ⟨_ | ⟨j, rest⟩⟩ := p
  · exact absurd rfl hp
  · rw [OpPath.rebased_concat, opAt, opAt, hlist.atIndices_append, ← hdrop, Op.atIndices_eq,
      Op.atIndices_eq, lookAt, lookAt, List.getElem?_drop]

/-- The ops that stand somewhere are those that look-up finds there. -/
lemma opAt_eq_some_iff {a : OpPath} {x : Op} :
    t.opAt a = some x ↔ ∃ later, t.Stands a x later := by
  constructor
  · exact HasList.roots.exists_stands
  · rintro ⟨later, h⟩
    have hfirst := h.opAt_rebased (p := ⟨[0]⟩) (by decide)
    obtain ⟨base, ops, i, -, rfl, -⟩ := h
    rwa [OpPath.rebased_concat] at hfirst

end Program

/-- Moving paths is associative, and the empty path does nothing on either side. Errors may be moved in two
steps or in one as well, and nothing but the paths of their messages changes. The op found at a path
stands in a list of the program; what a path finds when it is moved to that op, the path itself finds in
the program made of the op and the ops behind it in its list, and where it finds nothing, neither does the
moved one. -/
theorem rebased_action :
    (∀ p q r : OpPath, (p.rebased q).rebased r = p.rebased (q.rebased r)) ∧
    (∀ p : OpPath, p.rebased ⟨[]⟩ = p ∧ OpPath.rebased ⟨[]⟩ p = p) ∧
    (∀ (e : PipelineError) (q r : OpPath), (e.rebased q).rebased r = e.rebased (q.rebased r)) ∧
    (∀ (e : PipelineError) (q : OpPath),
      (e.rebased q).withoutPaths = e.withoutPaths ∧
      (e.rebased q).diagnostics.map (·.path) =
        e.diagnostics.map fun d => d.path.map (·.rebased q)) ∧
    (∀ (t : Program) (a : OpPath) (x : Op), t.opAt a = some x ↔ ∃ later, t.Stands a x later) ∧
    ∀ (t : Program) (a : OpPath) (x : Op) (later : List Op), t.Stands a x later →
      ∀ p : OpPath, p ≠ ⟨[]⟩ → t.opAt (p.rebased a) = (Program.mk (x :: later)).opAt p := by
  refine ⟨OpPath.rebased_rebased, fun p => ⟨p.rebased_empty, rfl⟩, PipelineError.rebased_rebased,
    fun e q => ⟨e.withoutPaths_rebased q, e.paths_rebased q⟩, fun t a x => Program.opAt_eq_some_iff,
    ?_⟩
  intro t a x later hstands p hp
  exact hstands.opAt_rebased hp

/-- A loop around one op. -/
def innerLoop : Op := ⟨{ kind := "scf.for" }, [[[.ofKind "linalg.generic"]]]⟩

/-- A function with a constant, the loop and a return. -/
def loopInFunction : Program :=
  ⟨[⟨{ kind := "func.func" }, [[[.ofKind "arith.constant", innerLoop, .ofKind "func.return"]]]⟩]⟩

/-- From the loop on, paths lead into the loop and to the return behind it; one that ends at a region
leads nowhere. -/
theorem rebased_action_loop :
    loopInFunction.Stands ⟨[0, 0, 0, 1]⟩ innerLoop [.ofKind "func.return"] ∧
    loopInFunction.opAt (OpPath.rebased ⟨[0, 0, 0, 0]⟩ ⟨[0, 0, 0, 1]⟩) =
      some (.ofKind "linalg.generic") ∧
    loopInFunction.opAt (OpPath.rebased ⟨[1]⟩ ⟨[0, 0, 0, 1]⟩) = some (.ofKind "func.return") ∧
    loopInFunction.opAt (OpPath.rebased ⟨[0, 0]⟩ ⟨[0, 0, 0, 1]⟩) = none := by
  have hstands : loopInFunction.Stands ⟨[0, 0, 0, 1]⟩ innerLoop [.ofKind "func.return"] :=
    ⟨[0, 0, 0], _, 1, .block (a := ⟨[0]⟩) rfl rfl rfl, rfl, rfl⟩
  obtain ⟨-, -, -, -, -, hmoved⟩ := rebased_action
  exact ⟨hstands, hmoved _ _ _ _ hstands ⟨[0, 0, 0, 0]⟩ (by decide),
    hmoved _ _ _ _ hstands ⟨[1]⟩ (by decide), hmoved _ _ _ _ hstands ⟨[0, 0]⟩ (by decide)⟩

end StagedLowering
