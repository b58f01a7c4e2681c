import StagedLowering.Pass.Builtin
import StagedLowering.Proofs.Composition

/-! One sub-pipeline or two. Stages that run on every anchor in turn may be taken in two sweeps, first these
then those, if the first ones leave each anchor an anchor. The sweeps meet the anchors in another order, and
after a failure they have come to different points; but when all goes well, what happens at one anchor does
not touch the others. -/
namespace StagedLowering.Executor

section Sweeps

variable {α β σ : Type}

/-- `fused` succeeds on `a` exactly when `first` does and `second` does on what that leaves, and it leaves
and counts the same. `wrap` is how one element is left; the paths that the sweeps are told do not matter. -/
structure Splits (wrap : α → σ) (first second fused : List Nat → α → Outcome PipelineError σ Nat)
    (a : α) : Prop where
  single : ∀ {path s n}, (first path a).Gives s n → ∃ b, s = wrap b
  counts : ∀ {path path' b t m n}, (first path a).Gives (wrap b) m → (second path' b).Gives t n → m = n
  iff : ∀ path path₁ path₂ t n, (fused path a).Gives t n ↔
    ∃ b, (first path₁ a).Gives (wrap b) n ∧ ∃ m, (second path₂ b).Gives t m

lemma wrapped_gives {o : Outcome PipelineError σ Nat} {t : List σ} {n : Nat} :
    (o.map ([·]) id).Gives t n ↔ ∃ s, o.Gives s n ∧ [s] = t := by
  simp [Outcome.map_gives]

/-- A list that is swept is one element of the list around it. -/
lemma Splits.wrapped {first second fused : List Nat → β → Outcome PipelineError β Nat} {b : β}
    (h : Splits id first second fused b) :
    Splits ([·]) (fun path b => (first path b).map ([·]) id) (fun path b => (second path b).map ([·]) id)
      (fun path b => (fused path b).map ([·]) id) b where
  single hfirst := by
    obtain ⟨c, -, rfl⟩ := wrapped_gives.1 hfirst
    exact ⟨c, rfl⟩
  counts hfirst hsecond := by
    obtain ⟨c, hfirst, heq⟩ := wrapped_gives.1 hfirst
    cases heq
    obtain ⟨d, hsecond, -⟩ := wrapped_gives.1 hsecond
    exact h.counts hfirst hsecond
  iff path path₁ path₂ t n := by
    simp only [wrapped_gives, h.iff path path₁ path₂]
    constructor
    · rintro ⟨d, ⟨c, hfirst, m, hsecond⟩, rfl⟩
      exact ⟨c, ⟨c, hfirst, rfl⟩, m, d, hsecond, rfl⟩
    · rintro ⟨c, ⟨c', hfirst, heq⟩, m, d, hsecond, rfl⟩
      cases heq
      exact ⟨d, ⟨c, hfirst, m, hsecond⟩, rfl⟩

lemma sweepEach_cons_gives {sweep : List Nat → α → Outcome PipelineError (List α) Nat} {base : List Nat}
    {i n : Nat} {a : α} {xs t : List α} : (sweepEach sweep base i (a :: xs)).Gives t n ↔
      ∃ as m, (sweep (base ++ [i]) a).Gives as m ∧
        ∃ rest k, (sweepEach sweep base (i + as.length) xs).Gives rest k ∧ as ++ rest = t ∧ m + k = n := by
  simp only [sweepEach, Outcome.andThen_gives, Outcome.map_gives]

section Each

variable {first second fused : List Nat → α → Outcome PipelineError (List α) Nat} {xs : List α}
  (h : ∀ a ∈ xs, Splits ([·]) first second fused a)

include h

lemma counts_each {base base' : List Nat} {i i' m n : Nat} {ys zs : List α}
    (hfirst : (sweepEach first base i xs).Gives ys m)
    (hsecond : (sweepEach second base' i' ys).Gives zs n) : m = n := by
  induction xs generalizing i i' m n ys zs with
  | nil =>
    obtain ⟨rfl, rfl⟩ := Outcome.ok_gives.1 hfirst
    exact (Outcome.ok_gives.1 hsecond).2
  | cons a rest ih =>
    rw [List.forall_mem_cons] at h
    obtain ⟨as, m₁, ha, ys, k, hrest, rfl, rfl⟩ := sweepEach_cons_gives.1 hfirst
    obtain ⟨b, rfl⟩ := h.1.single ha
    obtain ⟨bs, m₂, hb, zs, l, hrest', -, rfl⟩ := sweepEach_cons_gives.1 hsecond
    rw [h.1.counts ha hb, ih h.2 hrest hrest']

/-- The second sweep of one element and the first sweep of the elements behind it change places. -/
lemma fused_each (base base₁ base₂ : List Nat) (i i₁ i₂ : Nat) (zs : List α) (n : Nat) :
    (sweepEach fused base i xs).Gives zs n ↔ ∃ ys, (sweepEach first base₁ i₁ xs).Gives ys n ∧
      ∃ m, (sweepEach second base₂ i₂ ys).Gives zs m := by
  induction xs generalizing i i₁ i₂ zs n with
  | nil => simp [sweepEach, and_comm]
  | cons a rest ih =>
    rw [List.forall_mem_cons] at h
    constructor
    · intro hfused
      obtain ⟨as, m, ha, zs, k, hrest, rfl, rfl⟩ := sweepEach_cons_gives.1 hfused
      obtain ⟨b, ha, m', hb⟩ := (h.1.iff _ (base₁ ++ [i₁]) (base₂ ++ [i₂]) _ _).1 ha
      obtain ⟨ys, hrest, k', hrest'⟩ := (ih h.2 _ (i₁ + [b].length) (i₂ + as.length) _ _).1 hrest
      exact ⟨[b] ++ ys, sweepEach_cons_gives.2 ⟨[b], m, ha, ys, k, hrest, rfl, rfl⟩, m' + k',
        sweepEach_cons_gives.2 ⟨as, m', hb, zs, k', hrest', rfl, rfl⟩⟩
    · rintro ⟨ys, hfirst, m, hsecond⟩
      obtain ⟨as, m₁, ha, ys, k, hrest, rfl, rfl⟩ := sweepEach_cons_gives.1 hfirst
      obtain ⟨b, rfl⟩ := h.1.single ha
      obtain ⟨bs, m₂, hb, zs, l, hrest', rfl, -⟩ := sweepEach_cons_gives.1 hsecond
      exact sweepEach_cons_gives.2 ⟨bs, m₁, (h.1.iff _ _ _ _ _).2 ⟨b, ha, m₂, hb⟩, zs, k,
        (ih h.2 _ _ _ _ _).2 ⟨ys, hrest, l, hrest'⟩, rfl, rfl⟩

/-- What splits for the elements of a list splits for the list. -/
lemma Splits.each : Splits id (fun path xs => sweepEach first path 0 xs)
    (fun path xs => sweepEach second path 0 xs) (fun path xs => sweepEach fused path 0 xs) xs where
  single _ := ⟨_, rfl⟩
  counts := counts_each h
  iff path path₁ path₂ := fused_each h path path₁ path₂ 0 0 0

end Each

end Sweeps

section Bodies

variable {anchor : String} {first second fused : Body}
  (hkeep : ∀ x q, x.kind = anchor → (first ⟨[x]⟩).Gives q () → ∃ y, q = ⟨[y]⟩ ∧ y.kind = anchor)
  (hfused : ∀ p q, (fused p).Gives q () ↔ ∃ r, (first p).Gives r () ∧ (second r).Gives q ())

lemma sweepOp_anchor_gives {body : Body} {path : List Nat} {x : Op} {t : List Op} {n : Nat}
    (hx : x.kind = anchor) : (sweepOp anchor body path x).Gives t n ↔
      ∃ q, (body ⟨[x]⟩).Gives q () ∧ q.ops = t ∧ 1 = n := by
  obtain ⟨h, regions⟩ := x
  rw [sweepOp, if_pos (show h.kind = anchor from hx), Outcome.mapError_gives, Outcome.map_gives]
  refine exists_congr fun q => ?_
  constructor
  · rintro ⟨_, hq⟩
    exact hq
  · exact fun hq => ⟨(), hq⟩

lemma sweepOp_other_gives {body : Body} {path : List Nat} {h : OpHead} {regions : List Region}
    {t : List Op} {n : Nat} (hk : h.kind ≠ anchor) : (sweepOp anchor body path ⟨h, regions⟩).Gives t n ↔
      ∃ rs, (sweepRegions anchor body path 0 regions).Gives rs n ∧ [⟨h, rs⟩] = t := by
  rw [sweepOp, if_neg hk, Outcome.map_gives]
  exact exists_congr fun rs => by simp

/-- Below an op of another kind the split is that of the lists inside it; the op itself stays. -/
lemma other_splits {h : OpHead} {regions : List Region} (hk : h.kind ≠ anchor)
    (hregions : Splits id (fun path regions => sweepRegions anchor first path 0 regions)
      (fun path regions => sweepRegions anchor second path 0 regions)
      (fun path regions => sweepRegions anchor fused path 0 regions) regions) :
    Splits ([·]) (sweepOp anchor first) (sweepOp anchor second) (sweepOp anchor fused) ⟨h, regions⟩ where
  single hfirst := by
    obtain ⟨rs, -, rfl⟩ := (sweepOp_other_gives hk).1 hfirst
    exact ⟨_, rfl⟩
  counts hfirst hsecond := by
    obtain ⟨rs, hrs, hb⟩ := (sweepOp_other_gives hk).1 hfirst
    cases hb
    obtain ⟨rs', hrs', -⟩ := (sweepOp_other_gives hk).1 hsecond
    exact hregions.counts hrs hrs'
  iff path path₁ path₂ t n := by
    simp only [sweepOp_other_gives hk]
    constructor
    · rintro ⟨rs, hrs, rfl⟩
      obtain ⟨rs₁, hfirst, m, hsecond⟩ := (hregions.iff path path₁ path₂ rs n).1 hrs
      exact ⟨⟨h, rs₁⟩, ⟨rs₁, hfirst, rfl⟩, m, (sweepOp_other_gives hk).2 ⟨rs, hsecond, rfl⟩⟩
    · rintro ⟨b, ⟨rs₁, hfirst, hb⟩, m, hsecond⟩
      cases hb
      obtain ⟨rs, hrs, rfl⟩ := (sweepOp_other_gives hk).1 hsecond
      exact ⟨rs, (hregions.iff path path₁ path₂ rs n).2 ⟨rs₁, hfirst, m, hrs⟩, rfl⟩

include hkeep hfused

/-- At an anchor the bodies meet directly; the one root that the first leaves is an anchor for the second. -/
lemma anchor_splits {x : Op} (hx : x.kind = anchor) :
    Splits ([·]) (sweepOp anchor first) (sweepOp anchor second) (sweepOp anchor fused) x where
  single hfirst := by
    obtain ⟨q, hq, rfl, -⟩ := (sweepOp_anchor_gives hx).1 hfirst
    obtain ⟨y, rfl, -⟩ := hkeep x q hx hq
    exact ⟨y, rfl⟩
  counts {path path' b t m n} hfirst hsecond := by
    obtain ⟨q, hq, hb, rfl⟩ := (sweepOp_anchor_gives hx).1 hfirst
    obtain ⟨y, rfl, hy⟩ := hkeep x q hx hq
    cases hb
    obtain ⟨_, _, _, hn⟩ := (sweepOp_anchor_gives hy).1 hsecond
    exact hn
  iff path path₁ path₂ t n := by
    simp only [sweepOp_anchor_gives hx, hfused]
    constructor
    · rintro ⟨q, ⟨r, hr, hq⟩, rfl, rfl⟩
      obtain ⟨y, rfl, hy⟩ := hkeep x r hx hr
      exact ⟨y, ⟨_, hr, rfl, rfl⟩, 1, (sweepOp_anchor_gives hy).2 ⟨q, hq, rfl, rfl⟩⟩
    · rintro ⟨b, ⟨r, hr, hb, rfl⟩, m, hsecond⟩
      obtain ⟨y, rfl, hy⟩ := hkeep x r hx hr
      cases hb
      obtain ⟨q, hq, rfl, -⟩ := (sweepOp_anchor_gives hy).1 hsecond
      exact ⟨q, ⟨_, hr, hq⟩, rfl, rfl⟩

/-- Two sweeps of an op are one sweep of both bodies. -/
theorem op_splits (op : Op) :
    Splits ([·]) (sweepOp anchor first) (sweepOp anchor second) (sweepOp anchor fused) op := by
  induction op using Op.induction with
  | step h regions ih =>
    by_cases hk : h.kind = anchor
    · exact anchor_splits hkeep hfused hk
    have hblock : ∀ region ∈ regions, ∀ block ∈ region,
        Splits id (fun path block => sweepBlock anchor first path 0 block)
          (fun path block => sweepBlock anchor second path 0 block)
          (fun path block => sweepBlock anchor fused path 0 block) block := by
      intro region hr block hb
      simp only [sweepBlock_eq]
      exact .each (ih region hr block hb)
    have hregion : ∀ region ∈ regions,
        Splits id (fun path region => sweepRegion anchor first path 0 region)
          (fun path region => sweepRegion anchor second path 0 region)
          (fun path region => sweepRegion anchor fused path 0 region) region := by
      intro region hr
      simp only [sweepRegion_eq]
      exact .each fun block hb => (hblock region hr block hb).wrapped
    refine other_splits hk ?_
    simp only [sweepRegions_eq]
    exact .each fun region hr => (hregion region hr).wrapped

/-- Two sweeps of a program are one sweep of both bodies, and all count the same anchors. -/
theorem sweep_splits (p : Program) :
    (∀ q n, (sweep anchor fused p).Gives q n ↔ ∃ r, (sweep anchor first p).Gives r n ∧
      ∃ m, (sweep anchor second r).Gives q m) ∧
    ∀ q r m n, (sweep anchor first p).Gives r m → (sweep anchor second r).Gives q n → m = n := by
  have hblock := Splits.each fun op (_ : op ∈ p.ops) => op_splits hkeep hfused op
  have hsweep : ∀ (body : Body) p q n, (sweep anchor body p).Gives q n ↔
      (sweepEach (sweepOp anchor body) [] 0 p.ops).Gives q.ops n := by
    intro body p q n
    rw [sweep, sweepBlock_eq, Outcome.map_gives]
    constructor
    · rintro ⟨ops, k, hops, rfl, rfl⟩
      exact hops
    · exact fun hops => ⟨q.ops, n, hops, rfl, rfl⟩
  constructor
  · intro q n
    simp only [hsweep]
    rw [hblock.iff [] [] []]
    constructor
    · rintro ⟨ops, hops⟩
      exact ⟨⟨ops⟩, hops⟩
    · rintro ⟨r, hr⟩
      exact ⟨r.ops, hr⟩
  · intro q r m n hfirst hsecond
    exact hblock.counts ((hsweep _ _ _ _).1 hfirst) ((hsweep _ _ _ _).1 hsecond)

end Bodies

variable {provider : Provider} {stages a b : List Stage} {p q : Program}

/-- The stages of a sub-pipeline run as they do by themselves. -/
lemma runBody_gives : (runBody provider stages p).Gives q () ↔ Reaches provider stages p q := by
  rw [runBody_eq_run, Outcome.map_gives, reaches_iff_gives]
  simp

section Stages

variable {anchor : String}
  (hkeep : ∀ x q, x.kind = anchor → Reaches provider a ⟨[x]⟩ q → ∃ y, q.ops = [y] ∧ y.kind = anchor)

include hkeep

lemma runStage_splits (p : Program) :
    (∀ q n, (runStage provider (.nested anchor (a ++ b)) p).Gives q n ↔
      ∃ r, (runStage provider (.nested anchor a) p).Gives r n ∧
        ∃ m, (runStage provider (.nested anchor b) r).Gives q m) ∧
    ∀ q r m n, (runStage provider (.nested anchor a) p).Gives r m →
      (runStage provider (.nested anchor b) r).Gives q n → m = n := by
  simp only [runStage]
  refine sweep_splits (fun x q hx hq => ?_) (fun p q => ?_) p
  · obtain ⟨y, hy, hkind⟩ := hkeep x q hx (runBody_gives.1 hq)
    exact ⟨y, congrArg Program.mk hy, hkind⟩
  · simp only [runBody_gives, reaches_append]

lemma fused_of_split {report : List Entry}
    (h : (run provider [.nested anchor a, .nested anchor b] p).Gives q report) :
    ∃ n, report.map (·.scopes) = [n, n] ∧ (runStage provider (.nested anchor (a ++ b)) p).Gives q n := by
  obtain ⟨hsplit, hcount⟩ := runStage_splits (b := b) hkeep p
  obtain ⟨r, m, ha, rest, hrest, rfl⟩ := run_cons_gives.1 h
  obtain ⟨n, hb, rfl⟩ := run_single_gives.1 hrest
  obtain rfl : m = n := hcount q r m n ha hb
  exact ⟨m, rfl, (hsplit q m).2 ⟨r, ha, m, hb⟩⟩

end Stages

/-- A sub-pipeline is split: its stages run on every anchor in one sweep or, first some then the others, in
two. If the first ones, when they run through on an op of the anchor kind, leave one root of that kind, both
ways succeed on the same programs, with the same program at the end and the same number of scopes in all
entries of the reports. -/
theorem nested_splits (provider : Provider) (anchor : String) (a b : List Stage)
    (hkeep : ∀ x q, x.kind = anchor → Reaches provider a ⟨[x]⟩ q → ∃ y, q.ops = [y] ∧ y.kind = anchor)
    (p : Program) :
    ((∃ report, (run provider [.nested anchor (a ++ b)] p).result = .ok report) ↔
      ∃ report, (run provider [.nested anchor a, .nested anchor b] p).result = .ok report) ∧
    ∀ report report', (run provider [.nested anchor (a ++ b)] p).result = .ok report →
      (run provider [.nested anchor a, .nested anchor b] p).result = .ok report' →
      (run provider [.nested anchor (a ++ b)] p).state =
        (run provider [.nested anchor a, .nested anchor b] p).state ∧
      ∃ n, report.map (·.scopes) = [n] ∧ report'.map (·.scopes) = [n, n] := by
  refine ⟨⟨?_, ?_⟩, ?_⟩
  · rintro ⟨report, h⟩
    obtain ⟨n, hfused, -⟩ := run_single_gives.1 ⟨rfl, h⟩
    obtain ⟨r, ha, m, hb⟩ := ((runStage_splits hkeep p).1 _ n).1 hfused
    exact ⟨_, (run_cons_gives.2 ⟨r, n, ha, _, run_single_gives.2 ⟨m, hb, rfl⟩, rfl⟩).2⟩
  · rintro ⟨report, h⟩
    obtain ⟨n, -, hfused⟩ := fused_of_split hkeep ⟨rfl, h⟩
    exact ⟨_, (run_single_gives.2 ⟨n, hfused, rfl⟩).2⟩
  · intro report report' h h'
    obtain ⟨n, hscopes, hfused⟩ := fused_of_split hkeep ⟨rfl, h'⟩
    obtain ⟨hstate, hresult⟩ := run_single_gives.2 ⟨n, hfused, rfl⟩
    refine ⟨hstate, n, ?_, hscopes⟩
    cases hresult.symm.trans h
    rfl

/-- Strips assertions, and doubles the roots of a program. -/
def stripAndDouble : Provider
  | .stripAssertions => Pass.stripAssertions
  | _ => Pass.edit Program.duplicate

/-- The three functions without the assertion, each of them twice. -/
def strippedAndDoubled : Program :=
  ⟨[Op.ofKind "func.func", Op.ofKind "func.func", ⟨{ kind := "func.func" }, [[[]]]⟩,
    ⟨{ kind := "func.func" }, [[[]]]⟩, Op.ofKind "func.func", Op.ofKind "func.func"]⟩

/-- Stripping leaves a function one function. When the functions are doubled then, it does not matter whether
all are stripped before the first is doubled: three functions give six, and both sweeps count three. -/
theorem nested_splits_stripped :
    (∀ x q, x.kind = "func.func" → Reaches stripAndDouble [.pass .stripAssertions] ⟨[x]⟩ q →
      ∃ y, q.ops = [y] ∧ y.kind = "func.func") ∧
    (run stripAndDouble [.nested "func.func" [.pass .stripAssertions, .pass .xlaCleanup]]
        assertingSecond).state = strippedAndDoubled ∧
    (run stripAndDouble [.nested "func.func" [.pass .stripAssertions],
        .nested "func.func" [.pass .xlaCleanup]] assertingSecond).state = strippedAndDoubled ∧
    ∃ report report', (run stripAndDouble [.nested "func.func" [.pass .stripAssertions, .pass .xlaCleanup]]
        assertingSecond).result = .ok report ∧
      (run stripAndDouble [.nested "func.func" [.pass .stripAssertions],
        .nested "func.func" [.pass .xlaCleanup]] assertingSecond).result = .ok report' ∧
      report.map (·.scopes) = [3] ∧ report'.map (·.scopes) = [3, 3] := by
  have hkeep : ∀ x q, x.kind = "func.func" → Reaches stripAndDouble [.pass .stripAssertions] ⟨[x]⟩ q →
      ∃ y, q.ops = [y] ∧ y.kind = "func.func" := by
    rintro ⟨h, regions⟩ q hx ⟨-, rfl⟩
    have hkept : h.kind ∉ Pass.assertionKinds := by
      rw [show h.kind = "func.func" from hx]
      decide
    rw [(run_singleton stripAndDouble (.pass .stripAssertions) ⟨[⟨h, regions⟩]⟩).1]
    refine ⟨(Op.retain (fun op => !Pass.assertionKinds.contains op.kind) ⟨h, regions⟩).1, ?_, hx⟩
    simp [runStage, runPass, stripAndDouble, Pass.stripAssertions, Pass.edit, Program.retain,
      Op.retainBlock, Op.kind, hkept]
  obtain ⟨-, hsame⟩ := nested_splits stripAndDouble "func.func" [.pass .stripAssertions]
    [.pass .xlaCleanup] hkeep assertingSecond
  obtain ⟨hstate, n, hfused, hsplit⟩ := hsame _ _ rfl rfl
  cases hfused
  exact ⟨hkeep, rfl, hstate.symm, _, _, rfl, rfl, rfl, hsplit⟩

end StagedLowering.Executor
