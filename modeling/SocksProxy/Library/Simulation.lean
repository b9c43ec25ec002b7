import Mathlib.Data.List.Forall2

/-!
# Simulation

Two systems that take one event at a time. The first is simulated by the second if each of its steps is matched by some steps of the
second, which may be none; then each of its runs is matched by a run.

Nothing here is about any particular system.
-/

namespace Simulation

variable {σ ε τ δ : Type}

/-- Every step of the first system, from related states, is matched by events of the second that may stand for its event, and the
states are related again. -/
def Matched (step : σ → ε → σ) (step' : τ → δ → τ) (R : σ → τ → Prop) (stands : ε → List δ → Prop) : Prop :=
  ∀ s t e, R s t → ∃ ds, stands e ds ∧ R (step s e) (ds.foldl step' t)

section Run

variable {step : σ → ε → σ} {step' : τ → δ → τ} {R : σ → τ → Prop} {stands : ε → List δ → Prop}

/-- A run is matched event by event. -/
theorem Matched.run (h : Matched step step' R stands) {s : σ} {t : τ} (h0 : R s t) (es : List ε) :
    ∃ dss, List.Forall₂ stands es dss ∧ R (es.foldl step s) (dss.flatten.foldl step' t) := by
  induction es generalizing s t with
  | nil => exact ⟨[], .nil, h0⟩
  | cons e es ih =>
    obtain ⟨ds, hds, h1⟩ := h s t e h0
    obtain ⟨dss, hdss, h2⟩ := ih h1
    refine ⟨ds :: dss, .cons hds hdss, ?_⟩
    rw [List.flatten_cons, List.foldl_append]
    exact h2

/-- If the events that stand for an event show what it shows, then the run that matches shows what the run shows, in its order. -/
theorem filterMap_flatten {γ : Type} {f : ε → Option γ} {f' : δ → Option γ} {es : List ε} {dss : List (List δ)}
    (h : List.Forall₂ stands es dss) (hshow : ∀ e ds, stands e ds → ds.filterMap f' = (f e).toList) :
    dss.flatten.filterMap f' = es.filterMap f := by
  induction h with
  | nil => rfl
  | @cons e ds es dss hds _ ih =>
    rw [List.flatten_cons, List.filterMap_append, hshow e ds hds, ih, List.filterMap_cons]
    cases f e <;> rfl

end Run

end Simulation
