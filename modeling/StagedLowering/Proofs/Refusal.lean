import StagedLowering.Pass.Builtin
import StagedLowering.Proofs.Sweep

/-! Files that cannot be written. A run ends at the first of them, and until there it goes as when every
file can be written. -/
namespace StagedLowering

namespace Refusal

/-- Every file can be written. -/
def nothing : Refusal := fun _ => none

/-- The files that are written among the events can be written. -/
def Accepts (refusal : Refusal) (events : List Event) : Prop :=
  ∀ path text, Event.wrote path text ∈ events → refusal path = none

lemma accepts_nil (refusal : Refusal) : refusal.Accepts [] := fun _ _ h => nomatch h

lemma accepts_append {refusal : Refusal} {a b : List Event} :
    refusal.Accepts (a ++ b) ↔ refusal.Accepts a ∧ refusal.Accepts b := by
  simp only [Accepts, List.mem_append, or_imp, forall_and]

/-- Either all files can be written, or there is a first one that cannot. -/
lemma accepts_or_refuses (refusal : Refusal) (events : List Event) :
    refusal.Accepts events ∨ ∃ before path text after cause,
      events = before ++ .wrote path text :: after ∧ refusal.Accepts before ∧
        refusal path = some cause := by
  induction events with
  | nil => exact .inl refusal.accepts_nil
  | cons event events ih =>
    by_cases hfirst : refusal.Accepts [event]
    · rcases ih with hall | ⟨before, path, text, after, cause, rfl, hbefore, hcause⟩
      · exact .inl (accepts_append.2 ⟨hfirst, hall⟩)
      · exact .inr ⟨event :: before, path, text, after, cause, rfl,
          accepts_append.2 ⟨hfirst, hbefore⟩, hcause⟩
    · simp only [Accepts, List.mem_singleton, not_forall] at hfirst
      obtain ⟨path, text, rfl, hpath⟩ := hfirst
      obtain ⟨cause, hcause⟩ := Option.ne_none_iff_exists'.1 hpath
      exact .inr ⟨[], path, text, events, cause, rfl, refusal.accepts_nil, hcause⟩

end Refusal

namespace Outcome

variable {ε ε' σ τ α β : Type}

/-- A computation that goes on as long as its files are accepted. At the first one that is refused it
fails, and how it does depends on that refusal alone. -/
structure StopsAtRefusal (f : Refusal → Outcome ε σ α) : Prop where
  accepted : ∀ refusal, refusal.Accepts (f .nothing).events → f refusal = f .nothing
  refused : ∀ before path text after cause,
    (f .nothing).events = before ++ .wrote path text :: after →
      ∃ s e, ∀ refusal, refusal.Accepts before → refusal path = some cause →
        f refusal = ⟨s, .error e, before⟩

namespace StopsAtRefusal

lemma of_unwritten (o : Outcome ε σ α) (h : ∀ path text, .wrote path text ∉ o.events) :
    StopsAtRefusal fun _ => o where
  accepted _ _ := rfl
  refused before path text _ _ heq :=
    absurd (heq ▸ List.mem_append_right before List.mem_cons_self) (h path text)

variable {f : Refusal → Outcome ε σ α}

lemma map (h : StopsAtRefusal f) (g : σ → τ) (g' : α → β) :
    StopsAtRefusal fun refusal => (f refusal).map g g' where
  accepted refusal hall := congrArg (Outcome.map g g') (h.accepted refusal hall)
  refused before path text after cause heq := by
    obtain ⟨s, e, hstop⟩ := h.refused before path text after cause heq
    exact ⟨g s, e, fun refusal hbefore hpath =>
      congrArg (Outcome.map g g') (hstop refusal hbefore hpath)⟩

lemma mapError (h : StopsAtRefusal f) (g : ε → ε') :
    StopsAtRefusal fun refusal => (f refusal).mapError g where
  accepted refusal hall := congrArg (Outcome.mapError g) (h.accepted refusal hall)
  refused before path text after cause heq := by
    obtain ⟨s, e, hstop⟩ := h.refused before path text after cause heq
    exact ⟨s, g e, fun refusal hbefore hpath =>
      congrArg (Outcome.mapError g) (hstop refusal hbefore hpath)⟩

/-- Entering a pass writes nothing. -/
lemma after_entered (h : StopsAtRefusal f) (kind : StageKind) (p : Program) :
    StopsAtRefusal fun refusal => (f refusal).after [.entered kind p] where
  accepted refusal hall := congrArg (Outcome.after _)
    (h.accepted refusal fun path text hmem => hall path text (List.mem_cons_of_mem _ hmem))
  refused before path text after cause heq := by
    rw [after_events, List.singleton_append] at heq
    rcases List.cons_eq_append_iff.1 heq with ⟨_, hcons⟩ | ⟨before', rfl, heq'⟩
    · cases hcons
    · obtain ⟨s, e, hstop⟩ := h.refused before' path text after cause heq'
      refine ⟨s, e, fun refusal hbefore hpath => ?_⟩
      rw [hstop refusal (fun q t hmem => hbefore q t (List.mem_cons_of_mem _ hmem)) hpath]
      rfl

/-- What comes after a computation is only reached when all files of that one are accepted. -/
lemma andThen {next : Refusal → σ → α → Outcome ε τ β} (h : StopsAtRefusal f)
    (hnext : ∀ s a, StopsAtRefusal fun refusal => next refusal s a) (stop : σ → τ) :
    StopsAtRefusal fun refusal => (f refusal).andThen stop (next refusal) := by
  cases hres : (f .nothing).result with
  | error e =>
    constructor
    · intro refusal hall
      rw [andThen_of_error hres] at hall ⊢
      rw [h.accepted refusal hall, andThen_of_error hres]
    · intro before path text after cause heq
      rw [andThen_of_error hres] at heq
      obtain ⟨s, e, hstop⟩ := h.refused before path text after cause heq
      refine ⟨stop s, e, fun refusal hbefore hpath => ?_⟩
      rw [hstop refusal hbefore hpath, andThen_of_error rfl]
  | ok a =>
    have hthen := hnext (f .nothing).state a
    constructor
    · intro refusal hall
      rw [andThen_of_ok hres] at hall ⊢
      rw [after_events, Refusal.accepts_append] at hall
      rw [h.accepted refusal hall.1, andThen_of_ok hres, hthen.accepted refusal hall.2]
    · intro before path text after cause heq
      rw [andThen_of_ok hres, after_events] at heq
      -- The refused file is one of the first computation, or else of the second.
      rcases List.append_eq_append_iff.1 heq with ⟨before', rfl, heq'⟩ | ⟨more, hfirst, hmore⟩
      · obtain ⟨s, e, hstop⟩ := hthen.refused before' path text after cause heq'
        refine ⟨s, e, fun refusal hbefore hpath => ?_⟩
        rw [Refusal.accepts_append] at hbefore
        rw [h.accepted refusal hbefore.1, andThen_of_ok hres, hstop refusal hbefore.2 hpath]
        rfl
      · rcases List.cons_eq_append_iff.1 hmore with ⟨rfl, hsecond⟩ | ⟨more', rfl, -⟩
        · obtain ⟨s, e, hstop⟩ := hthen.refused [] path text after cause hsecond
          rw [List.append_nil] at hfirst
          refine ⟨s, e, fun refusal hbefore hpath => ?_⟩
          rw [h.accepted refusal (hfirst ▸ hbefore), andThen_of_ok hres,
            hstop refusal refusal.accepts_nil hpath, Outcome.after, hfirst,
            List.append_nil]
        · obtain ⟨s, e, hstop⟩ := h.refused before path text more' cause hfirst
          refine ⟨stop s, e, fun refusal hbefore hpath => ?_⟩
          rw [hstop refusal hbefore hpath, andThen_of_error rfl]

end StopsAtRefusal
end Outcome

open Outcome

namespace Pass

lemma dumpStatistics_stops (format : StatisticsFormat) (file : Option String) (p : Program) :
    StopsAtRefusal fun refusal => dumpStatistics refusal format file p := by
  unfold dumpStatistics
  by_cases hformat : format = .none
  · simp only [if_pos hformat]
    exact .of_unwritten _ fun _ _ h => nomatch h
  · simp only [if_neg hformat]
    cases file with
    | none => exact .of_unwritten _ fun _ _ h => by cases List.mem_singleton.1 h
    | some path =>
      constructor
      · intro refusal hall
        have hpath : refusal path = none := hall path _ List.mem_cons_self
        simp only [hpath, Refusal.nothing]
      · intro before path' text after cause heq
        rcases List.cons_eq_append_iff.1 heq with ⟨rfl, hcons⟩ | ⟨_, _, hnil⟩
        · cases hcons
          refine ⟨p, .failure schedulingName
            ("failed to write statistics to " ++ path ++ ": " ++ cause), fun refusal _ hpath => ?_⟩
          simp only [hpath]
          rfl
        · simp at hnil

end Pass

/-- Only the dump of statistics writes files. -/
theorem Provider.builtin_stops (h : Hooks) (kind : StageKind) (p : Program) :
    StopsAtRefusal fun refusal => Provider.builtin h refusal kind p := by
  unfold Provider.builtin
  split
  · refine .of_unwritten _ fun path text hmem => ?_
    unfold Pass.foldConstants at hmem
    split at hmem
    · cases hmem
    · split at hmem <;> cases hmem
  · exact .of_unwritten _ fun _ _ h => nomatch h
  · exact Pass.dumpStatistics_stops _ _ p
  · refine .of_unwritten _ fun path text hmem => ?_
    unfold Pass.verify at hmem
    split at hmem <;> cases hmem
  · exact .of_unwritten _ fun _ _ h => nomatch h
  · exact .of_unwritten _ fun _ _ h => nomatch h

namespace Executor

variable {α : Type} {anchor : String}

lemma sweepEach_stops {sweep : Refusal → List Nat → α → Outcome PipelineError (List α) Nat}
    {xs : List α} (h : ∀ a ∈ xs, ∀ path, StopsAtRefusal fun refusal => sweep refusal path a)
    (base : List Nat) (i : Nat) :
    StopsAtRefusal fun refusal => sweepEach (sweep refusal) base i xs := by
  induction xs generalizing i with
  | nil => exact .of_unwritten _ fun _ _ h => nomatch h
  | cons a rest ih =>
    rw [List.forall_mem_cons] at h
    exact (h.1 _).andThen (fun as m => (ih h.2 (i + as.length)).map _ _) _

variable {body : Refusal → Body}

theorem sweepOp_stops (hbody : ∀ q, StopsAtRefusal fun refusal => body refusal q) (op : Op) :
    ∀ path, StopsAtRefusal fun refusal => sweepOp anchor (body refusal) path op := by
  induction op using Op.induction with
  | step h regions ih =>
    intro path
    simp only [sweepOp]
    split
    · exact ((hbody _).map _ _).mapError _
    · simp only [sweepRegions_eq]
      refine (sweepEach_stops (fun region hr path => ?_) path 0).map _ _
      simp only [sweepRegion_eq]
      refine (sweepEach_stops (fun block hb path => ?_) path 0).map _ _
      simp only [sweepBlock_eq]
      exact (sweepEach_stops (ih region hr block hb) path 0).map _ _

lemma sweep_stops (hbody : ∀ q, StopsAtRefusal fun refusal => body refusal q) (p : Program) :
    StopsAtRefusal fun refusal => sweep anchor (body refusal) p := by
  simp only [sweep, sweepBlock_eq]
  exact (sweepEach_stops (fun op _ => sweepOp_stops hbody op) [] 0).map _ _

mutual
/-- A stage ends at the first file that is refused. -/
theorem runStage_stops (h : Hooks) : ∀ (s : Stage) (p : Program),
    StopsAtRefusal fun refusal => runStage (.builtin h refusal) s p
  | .pass kind, p => by
    simp only [runStage, runPass]
    exact ((Provider.builtin_stops h kind p).map _ _).after_entered kind p
  | .nested anchor stages, p => by
    simp only [runStage]
    exact sweep_stops (runBody_stops h stages) p

theorem runBody_stops (h : Hooks) : ∀ (stages : List Stage) (p : Program),
    StopsAtRefusal fun refusal => runBody (.builtin h refusal) stages p
  | [], p => by
    simp only [runBody]
    exact .of_unwritten _ fun _ _ h => nomatch h
  | s :: rest, p => by
    simp only [runBody]
    exact (runStage_stops h s p).andThen (fun q _ => runBody_stops h rest q) id
end

end Executor
end StagedLowering
