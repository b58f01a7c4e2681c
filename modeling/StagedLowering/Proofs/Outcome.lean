import Mathlib.Tactic.Lemma
import StagedLowering.Pass.Basic

/-! State, result and events of composed outcomes. -/
namespace StagedLowering.Outcome

variable {ε ε' σ τ ρ α β γ : Type}

@[simp] lemma ok_state (s : σ) (a : α) : (ok s a : Outcome ε σ α).state = s := rfl
@[simp] lemma ok_result (s : σ) (a : α) : (ok s a : Outcome ε σ α).result = .ok a := rfl
@[simp] lemma ok_events (s : σ) (a : α) : (ok s a : Outcome ε σ α).events = [] := rfl

@[simp] lemma fail_state (s : σ) (e : ε) : (fail s e : Outcome ε σ α).state = s := rfl
@[simp] lemma fail_result (s : σ) (e : ε) : (fail s e : Outcome ε σ α).result = .error e := rfl
@[simp] lemma fail_events (s : σ) (e : ε) : (fail s e : Outcome ε σ α).events = [] := rfl

@[simp] lemma after_state (l : List Event) (o : Outcome ε σ α) : (o.after l).state = o.state := rfl
@[simp] lemma after_result (l : List Event) (o : Outcome ε σ α) :
    (o.after l).result = o.result := rfl
@[simp] lemma after_events (l : List Event) (o : Outcome ε σ α) :
    (o.after l).events = l ++ o.events := rfl

@[simp] lemma map_state (f : σ → τ) (g : α → β) (o : Outcome ε σ α) :
    (o.map f g).state = f o.state := rfl
@[simp] lemma map_result (f : σ → τ) (g : α → β) (o : Outcome ε σ α) :
    (o.map f g).result = o.result.map g := rfl
@[simp] lemma map_events (f : σ → τ) (g : α → β) (o : Outcome ε σ α) :
    (o.map f g).events = o.events := rfl

@[simp] lemma mapError_state (f : ε → ε') (o : Outcome ε σ α) :
    (o.mapError f).state = o.state := rfl
@[simp] lemma mapError_result (f : ε → ε') (o : Outcome ε σ α) :
    (o.mapError f).result = o.result.mapError f := rfl
@[simp] lemma mapError_events (f : ε → ε') (o : Outcome ε σ α) :
    (o.mapError f).events = o.events := rfl

lemma andThen_of_ok {o : Outcome ε σ α} {a : α} (h : o.result = .ok a) (stop : σ → τ)
    (next : σ → α → Outcome ε τ β) : o.andThen stop next = (next o.state a).after o.events := by
  unfold andThen
  rw [h]

lemma andThen_of_error {o : Outcome ε σ α} {e : ε} (h : o.result = .error e) (stop : σ → τ)
    (next : σ → α → Outcome ε τ β) :
    o.andThen stop next = ⟨stop o.state, .error e, o.events⟩ := by
  unfold andThen
  rw [h]

@[simp] lemma ok_andThen (s : σ) (a : α) (stop : σ → τ) (next : σ → α → Outcome ε τ β) :
    (ok s a).andThen stop next = next s a := rfl

@[simp] lemma map_id (o : Outcome ε σ α) : o.map id id = o := by
  obtain ⟨s, r, l⟩ := o
  cases r <;> rfl

lemma map_map (o : Outcome ε σ α) (f : σ → τ) (g : α → β) (f' : τ → ρ) (g' : β → γ) :
    (o.map f g).map f' g' = o.map (fun s => f' (f s)) fun a => g' (g a) := by
  obtain ⟨s, r, l⟩ := o
  cases r <;> rfl

lemma map_andThen (o : Outcome ε σ α) (f : σ → τ) (g : α → β) (stop : τ → ρ)
    (next : τ → β → Outcome ε ρ γ) :
    (o.map f g).andThen stop next = o.andThen (fun s => stop (f s)) fun s a => next (f s) (g a) := by
  obtain ⟨s, r, l⟩ := o
  cases r <;> rfl

lemma andThen_map (o : Outcome ε σ α) (stop : σ → τ) (next : σ → α → Outcome ε τ β) (f : τ → ρ)
    (g : β → γ) :
    (o.andThen stop next).map f g =
      o.andThen (fun s => f (stop s)) fun s a => (next s a).map f g := by
  obtain ⟨s, r, l⟩ := o
  cases r <;> rfl

lemma andThen_andThen {δ υ : Type} (o : Outcome ε σ α) (stop : σ → τ)
    (next : σ → α → Outcome ε τ β) (stop' : τ → υ) (next' : τ → β → Outcome ε υ δ) :
    (o.andThen stop next).andThen stop' next' =
      o.andThen (fun s => stop' (stop s)) fun s a => (next s a).andThen stop' next' := by
  obtain ⟨s, r, l⟩ := o
  cases r with
  | error e => rfl
  | ok a => cases h : (next s a).result <;> simp [andThen, after, h]

lemma map_eq_error {g : α → β} {r : Except ε α} {e : ε} :
    r.map g = .error e ↔ r = .error e := by
  cases r <;> simp [Except.map]

lemma map_eq_ok {g : α → β} {r : Except ε α} {b : β} :
    r.map g = .ok b ↔ ∃ a, r = .ok a ∧ g a = b := by
  cases r <;> simp [Except.map]

lemma mapError_eq_error {f : ε → ε'} {r : Except ε α} {e : ε'} :
    r.mapError f = .error e ↔ ∃ e₀, r = .error e₀ ∧ f e₀ = e := by
  constructor
  · intro h
    cases r with
    | error e₀ => exact ⟨e₀, rfl, Except.error.inj h⟩
    | ok a => nomatch h
  · rintro ⟨e₀, rfl, rfl⟩
    rfl

lemma mapError_eq_ok {f : ε → ε'} {r : Except ε α} {a : α} :
    r.mapError f = .ok a ↔ r = .ok a := by
  constructor
  · intro h
    cases r with
    | error e₀ => nomatch h
    | ok b => exact congrArg Except.ok (Except.ok.inj h)
  · rintro rfl
    rfl

/-- The computation succeeds and leaves the state `s` and the value `a`. -/
def Gives (o : Outcome ε σ α) (s : σ) (a : α) : Prop := o.state = s ∧ o.result = .ok a

@[simp] lemma ok_gives {s t : σ} {a b : α} : (ok s a : Outcome ε σ α).Gives t b ↔ s = t ∧ a = b := by
  simp [Gives]

@[simp] lemma after_gives {l : List Event} {o : Outcome ε σ α} {s : σ} {a : α} :
    (o.after l).Gives s a ↔ o.Gives s a := Iff.rfl

lemma map_gives {o : Outcome ε σ α} {f : σ → τ} {g : α → β} {t : τ} {b : β} :
    (o.map f g).Gives t b ↔ ∃ s a, o.Gives s a ∧ f s = t ∧ g a = b := by
  rw [Gives, map_state, map_result, map_eq_ok]
  constructor
  · rintro ⟨hs, a, ha, hb⟩
    exact ⟨_, a, ⟨rfl, ha⟩, hs, hb⟩
  · rintro ⟨s, a, ⟨rfl, ha⟩, hs, hb⟩
    exact ⟨hs, a, ha, hb⟩

@[simp] lemma mapError_gives {o : Outcome ε σ α} {f : ε → ε'} {s : σ} {a : α} :
    (o.mapError f).Gives s a ↔ o.Gives s a := and_congr_right fun _ => mapError_eq_ok

/-- Both computations succeed, the second on what the first leaves. -/
lemma andThen_gives {o : Outcome ε σ α} {stop : σ → τ} {next : σ → α → Outcome ε τ β} {t : τ} {b : β} :
    (o.andThen stop next).Gives t b ↔ ∃ s a, o.Gives s a ∧ (next s a).Gives t b := by
  constructor
  · intro h
    cases hres : o.result with
    | error e =>
      rw [andThen_of_error hres] at h
      cases h.2
    | ok a =>
      rw [andThen_of_ok hres] at h
      exact ⟨_, a, ⟨rfl, hres⟩, h⟩
  · rintro ⟨s, a, ⟨rfl, ha⟩, h⟩
    rwa [andThen_of_ok ha]

end StagedLowering.Outcome
