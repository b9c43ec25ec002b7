import Mathlib.Data.List.Induction

/-!
# Traces

Three kinds of transition system and their invariants. A relation whose steps emit lists of labels: its runs, and what holds of
every history and every state of a run. A function that takes one event at a time: its runs, what holds of every state, what must
happen after enough steps, and what its steps emit. A function that answers each call: its runs, and when two of them cannot be told
apart by their answers.

Nothing here is about any particular system.
-/

namespace Traces

section Relation

variable {σ α : Type}

/-- The runs of a labelled relation: a sequence of steps, with what they emitted. -/
inductive Steps (step : σ → List α → σ → Prop) : σ → List α → σ → Prop where
  | refl (s : σ) : Steps step s [] s
  | tail {s t u : σ} {as bs : List α} : Steps step s as t → step t bs u → Steps step s (as ++ bs) u

namespace Steps

variable {step step' : σ → List α → σ → Prop} {s t u : σ} {as bs : List α}

/-- One step is a run. -/
theorem single (h : step s as t) : Steps step s as t := by
  simpa using (Steps.refl s).tail h

/-- Runs compose. -/
theorem trans (h : Steps step s as t) (h' : Steps step t bs u) : Steps step s (as ++ bs) u := by
  induction h' with
  | refl => simpa using h
  | tail _ hs ih =>
    rw [← List.append_assoc]
    exact ih.tail hs

/-- A run of a relation is a run of every larger one. -/
theorem mono (hle : ∀ s as t, step s as t → step' s as t) (h : Steps step s as t) : Steps step' s as t := by
  induction h with
  | refl => exact .refl _
  | tail _ hs ih => exact ih.tail (hle _ _ _ hs)

/-- A property of the history and the state that every step preserves is preserved by every run. -/
theorem invariant {P : List α → σ → Prop} (hstep : ∀ hist s as t, P hist s → step s as t → P (hist ++ as) t) (hist : List α)
    (h0 : P hist s) (h : Steps step s as t) : P (hist ++ as) t := by
  induction h with
  | refl => simpa using h0
  | tail _ hs ih =>
    rw [← List.append_assoc]
    exact hstep _ _ _ _ ih hs

/-- A property of the state that every step preserves is preserved by every run. -/
theorem preserves {P : σ → Prop} (hstep : ∀ s as t, P s → step s as t → P t) (h0 : P s) (h : Steps step s as t) : P t :=
  invariant (P := fun _ => P) (fun _ s as t => hstep s as t) [] h0 h

end Steps

end Relation

section Function

variable {σ ε : Type} {step : σ → ε → σ}

/-- A property that holds at the start and that every step preserves holds after every run. -/
theorem foldl_invariant {P : σ → Prop} {s : σ} (h0 : P s) (hstep : ∀ s e, P s → P (step s e)) (es : List ε) :
    P (es.foldl step s) := by
  induction es generalizing s with
  | nil => exact h0
  | cons e es ih => exact ih (hstep s e h0)

/-- No event of the empty run is to be asked about. -/
theorem forall_split_nil {P : List ε → ε → Prop} : (∀ pre e post, [] = pre ++ e :: post → P pre e) ↔ True := by
  simp

/-- What holds at every event of a run holds at the first and at every later one. -/
theorem forall_split_cons {P : List ε → ε → Prop} {e : ε} {es : List ε} :
    (∀ pre e' post, e :: es = pre ++ e' :: post → P pre e') ↔
      P [] e ∧ ∀ pre e' post, es = pre ++ e' :: post → P (e :: pre) e' := by
  constructor
  · intro h
    exact ⟨h [] e es rfl, fun pre e' post hes => h (e :: pre) e' post (by rw [hes]; rfl)⟩
  · rintro ⟨h0, h⟩ pre e' post hes
    cases pre with
    | nil =>
      cases hes
      exact h0
    | cons _ pre =>
      cases hes
      exact h pre e' post rfl

/-- A countdown. As long as nothing happens, what holds with a number of counted steps left holds after every step with what is left
then; so if as many counted steps are made, something happens at one of the steps, or what holds with none left holds at the end. -/
theorem foldl_countdown {W : Nat → σ → Prop} {H : σ → ε → Prop} {counts : ε → Bool} {n : Nat} {s : σ} {es : List ε}
    (hstep : ∀ n s, ∀ e ∈ es, W n s → H s e ∨ W (if counts e then n - 1 else n) (step s e)) (h0 : W n s)
    (hmany : n ≤ es.countP counts) :
    (∃ pre e post, es = pre ++ e :: post ∧ H (pre.foldl step s) e) ∨ W 0 (es.foldl step s) := by
  induction es generalizing n s with
  | nil =>
    obtain rfl : n = 0 := Nat.le_zero.mp hmany
    exact .inr h0
  | cons e es ih =>
    obtain hnow | hnext := hstep n s e List.mem_cons_self h0
    · exact .inl ⟨[], e, es, rfl, hnow⟩
    · have hleft : (if counts e then n - 1 else n) ≤ es.countP counts := by
        rw [List.countP_cons] at hmany
        split at hmany <;> split <;> omega
      obtain ⟨pre, e', post, rfl, hlater⟩ | hend :=
        ih (fun n s e' he' => hstep n s e' (List.mem_cons_of_mem e he')) hnext hleft
      · exact .inl ⟨e :: pre, e', post, rfl, hlater⟩
      · exact .inr hend

end Function

section Emission

variable {σ ε ω : Type} {step : σ → ε → σ} {f : σ → ε → List ω}

/-- What the steps of a run emit, one after another. -/
def emitted (step : σ → ε → σ) (f : σ → ε → List ω) : σ → List ε → List ω
  | _, [] => []
  | s, e :: es => f s e ++ emitted step f (step s e) es

/-- What one run after another emits. -/
theorem emitted_append (s : σ) (es es' : List ε) :
    emitted step f s (es ++ es') = emitted step f s es ++ emitted step f (es.foldl step s) es' := by
  induction es generalizing s with
  | nil => rfl
  | cons e es ih =>
    rw [List.cons_append, emitted, ih, emitted, List.append_assoc]
    rfl

/-- What a run one event longer emits. -/
theorem emitted_concat (s : σ) (es : List ε) (e : ε) :
    emitted step f s (es ++ [e]) = emitted step f s es ++ f (es.foldl step s) e := by
  rw [emitted_append, emitted, emitted, List.append_nil]

/-- If no step emits more than one thing, each thing emitted has its step, and what was emitted before it was emitted by the steps
before that one. -/
theorem emitted_split (hf : ∀ s e, (f s e).length ≤ 1) {s : σ} {es : List ε} {before later : List ω} {x : ω}
    (h : emitted step f s es = before ++ x :: later) :
    ∃ pre e post, es = pre ++ e :: post ∧ emitted step f s pre = before ∧ f (pre.foldl step s) e = [x] := by
  induction es generalizing s before with
  | nil => simp [emitted] at h
  | cons e es ih =>
    rw [emitted] at h
    cases hfe : f s e with
    | nil =>
      rw [hfe, List.nil_append] at h
      obtain ⟨pre, e', post, rfl, hb, hx⟩ := ih h
      exact ⟨e :: pre, e', post, rfl, by rw [emitted, hfe, List.nil_append, hb], hx⟩
    | cons y ys =>
      have hlen := hf s e
      rw [hfe] at hlen h
      obtain rfl : ys = [] := List.length_eq_zero_iff.mp (by simpa using hlen)
      rw [List.singleton_append] at h
      cases before with
      | nil =>
        cases h
        exact ⟨[], e, es, rfl, rfl, hfe⟩
      | cons y' before =>
        obtain ⟨rfl, htail⟩ := List.cons.inj h
        obtain ⟨pre, e', post, rfl, hb, hx⟩ := ih htail
        exact ⟨e :: pre, e', post, rfl, by rw [emitted, hfe, hb]; rfl, hx⟩

end Emission

section Answering

variable {σ τ ε ω : Type}

/-- The calls one after another: the state they lead to, and the answer to each. -/
def respond (f : σ → ε → σ × ω) : σ → List ε → σ × List ω
  | s, [] => (s, [])
  | s, e :: es => ((respond f (f s e).1 es).1, (f s e).2 :: (respond f (f s e).1 es).2)

/-- Two machines whose related states answer every call alike, and are still related then, answer every sequence of calls
alike. -/
theorem respond_simulates {f : σ → ε → σ × ω} {g : τ → ε → τ × ω} {R : σ → τ → Prop}
    (hstep : ∀ s t e, R s t → R (f s e).1 (g t e).1 ∧ (f s e).2 = (g t e).2) (es : List ε) {s : σ} {t : τ} (h0 : R s t) :
    R (respond f s es).1 (respond g t es).1 ∧ (respond f s es).2 = (respond g t es).2 := by
  induction es generalizing s t with
  | nil => exact ⟨h0, rfl⟩
  | cons e es ih =>
    obtain ⟨hR, ho⟩ := hstep s t e h0
    obtain ⟨hR', ho'⟩ := ih hR
    exact ⟨hR', by simp only [respond, ho, ho']⟩

end Answering

end Traces
