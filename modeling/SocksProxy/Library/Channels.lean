import SocksProxy.Library.Traces

/-!
# Channels

A channel with one bounded buffer: it is filled only when it is empty, and emptied from the front in chunks of any size. What was
put into it is, in order, what was taken out of it and what is still in it.

Nothing here is about any particular system.
-/

namespace Channels

variable {α : Type}

/-- What happens at the two ends of a channel. -/
inductive Label (α : Type) where
  | put (xs : List α)
  | take (xs : List α)

/-- Everything put into a channel, in order. -/
def puts (ls : List (Label α)) : List α :=
  ls.flatMap fun
    | .put xs => xs
    | .take _ => []

/-- Everything taken out of a channel, in order. -/
def takes (ls : List (Label α)) : List α :=
  ls.flatMap fun
    | .put _ => []
    | .take xs => xs

@[simp] theorem puts_nil : puts ([] : List (Label α)) = [] := rfl

@[simp] theorem takes_nil : takes ([] : List (Label α)) = [] := rfl

@[simp] theorem puts_append (ls ls' : List (Label α)) : puts (ls ++ ls') = puts ls ++ puts ls' := List.flatMap_append

@[simp] theorem takes_append (ls ls' : List (Label α)) : takes (ls ++ ls') = takes ls ++ takes ls' := List.flatMap_append

@[simp] theorem puts_put (xs : List α) : puts [Label.put xs] = xs := by simp [puts]

@[simp] theorem takes_put (xs : List α) : takes [Label.put xs] = [] := by simp [takes]

@[simp] theorem takes_take (xs : List α) : takes [Label.take xs] = xs := by simp [takes]

@[simp] theorem puts_takes (chunks : List (List α)) : puts (chunks.map .take) = [] := by
  simp [puts, List.flatMap_map]

@[simp] theorem takes_takes (chunks : List (List α)) : takes (chunks.map .take) = chunks.flatten := by
  simp [takes, List.flatMap_map, List.flatMap_id']

/-- A channel: what was put in last, and how much of it has been taken. -/
structure Chan (α : Type) where
  buffer : List α
  off : Nat

namespace Chan

/-- A channel with nothing in it. -/
def empty : Chan α := ⟨[], 0⟩

/-- What is still in a channel. -/
def pending (c : Chan α) : List α := c.buffer.drop c.off

end Chan

/-- The steps of a channel with this capacity. -/
inductive Step (cap : Nat) : Chan α → List (Label α) → Chan α → Prop where
  | stay (c : Chan α) : Step cap c [] c
  | fill {c : Chan α} {xs : List α} : c.buffer = [] → xs.length ≤ cap → Step cap c [.put xs] ⟨xs, 0⟩
  | advance {c : Chan α} {chunks : List (List α)} {rest : List α} : c.pending = chunks.flatten ++ rest →
    Step cap c (chunks.map .take) ⟨c.buffer, c.off + chunks.flatten.length⟩
  | drain {c : Chan α} {chunks : List (List α)} : c.pending = chunks.flatten → Step cap c (chunks.map .take) .empty

/-- The runs of a channel. -/
abbrev Steps (cap : Nat) : Chan α → List (Label α) → Chan α → Prop := Traces.Steps (Step cap)

section Invariants

variable {cap : Nat} {c : Chan α} {ls : List (Label α)}

/-- What a channel's history says of it. -/
structure Conserved (cap : Nat) (ls : List (Label α)) (c : Chan α) : Prop where
  conserved : puts ls = takes ls ++ c.pending
  bounded : c.buffer.length ≤ cap
  within : c.off ≤ c.buffer.length
  disciplined : ∀ pre xs post, ls = pre ++ .put xs :: post → puts pre = takes pre
  causal : ∀ pre post, ls = pre ++ post → takes pre <+: puts pre

/-- A put in a longer history was in the shorter one, if nothing was put since. -/
theorem put_in_prefix {ls chunks pre post : List (Label α)} {xs : List α} (hc : ∀ l ∈ chunks, ∃ ys, l = .take ys)
    (h : ls ++ chunks = pre ++ .put xs :: post) : ∃ post', ls = pre ++ .put xs :: post' := by
  rcases List.append_eq_append_iff.mp h with ⟨mid, rfl, hm⟩ | ⟨mid, rfl, hm⟩
  · have := hc (.put xs) (by simp [hm])
    obtain ⟨ys, hy⟩ := this
    cases hy
  · cases mid with
    | nil =>
      obtain ⟨ys, hy⟩ := hc (.put xs) (by rw [← show _ = chunks from hm]; exact List.mem_cons_self)
      cases hy
    | cons l mid =>
      simp only [List.cons_append, List.cons.injEq] at hm
      exact ⟨mid, by rw [hm.1]⟩

/-- Chunks taken one after another, cut short anywhere, take a prefix of what they take together. -/
theorem takes_cut {chunks pre post : List (Label α)} (h : chunks = pre ++ post) : takes pre <+: takes chunks := by
  rw [h, takes_append]
  exact List.prefix_append _ _

namespace Conserved

/-- What was taken is a prefix of what was put in, wherever chunks taken next are cut short. -/
theorem causal_takes (h : Conserved cap ls c) {chunks : List (List α)} {rest : List α}
    (hp : c.pending = chunks.flatten ++ rest) {pre post : List (Label α)} (he : ls ++ chunks.map .take = pre ++ post) :
    takes pre <+: puts pre := by
  rcases List.append_eq_append_iff.mp he with ⟨mid, rfl, hm⟩ | ⟨mid, rfl, _⟩
  · have hputs : puts mid = [] := by
      have := congrArg puts hm
      rw [puts_takes, puts_append] at this
      exact (List.append_eq_nil_iff.mp this.symm).1
    have htakes := takes_cut hm
    rw [takes_takes] at htakes
    rw [takes_append, puts_append, hputs, List.append_nil, h.conserved, hp]
    exact (List.prefix_append_right_inj _).mpr (htakes.trans (List.prefix_append _ _))
  · exact h.causal pre mid rfl

/-- A step that only takes keeps the discipline of the puts. -/
theorem disciplined_takes (h : Conserved cap ls c) (chunks : List (List α)) {pre post : List (Label α)} {xs : List α}
    (he : ls ++ chunks.map .take = pre ++ .put xs :: post) : puts pre = takes pre := by
  obtain ⟨post', he'⟩ := put_in_prefix (by simp) he
  exact h.disciplined pre xs post' he'

/-- One step conserves what was put in. -/
theorem step {c' : Chan α} {new : List (Label α)} (h : Conserved cap ls c) (hs : Step cap c new c') :
    Conserved cap (ls ++ new) c' := by
  cases hs with
  | stay => simpa using h
  | @fill xs hb hl =>
    have hp : puts ls = takes ls := by simpa [Chan.pending, hb] using h.conserved
    -- a history that ends in this put is the old one up to it, or all of it
    have hcut : ∀ pre post, ls ++ [.put xs] = pre ++ post → (∃ mid, ls = pre ++ mid ∧ post = mid ++ [.put xs]) ∨
        pre = ls ++ [.put xs] ∧ post = [] := by
      intro pre post he
      rcases List.append_eq_append_iff.mp he with ⟨mid, rfl, hm⟩ | ⟨mid, rfl, hm⟩
      · cases mid with
        | nil => exact .inl ⟨[], by simp, by simpa using hm.symm⟩
        | cons l mid =>
          simp only [List.cons_append, List.cons.injEq, List.nil_eq, List.append_eq_nil_iff] at hm
          obtain ⟨rfl, rfl, rfl⟩ := hm
          exact .inr ⟨rfl, rfl⟩
      · exact .inl ⟨mid, rfl, hm⟩
    refine ⟨by simp [Chan.pending, hp], hl, Nat.zero_le _, fun pre xs' post he => ?_, fun pre post he => ?_⟩
    · rcases hcut pre _ he with ⟨mid, rfl, hm⟩ | ⟨_, hm⟩
      · cases mid with
        | nil => simpa using hp
        | cons l mid =>
          simp only [List.cons_append, List.cons.injEq] at hm
          exact h.disciplined pre xs' mid (by rw [hm.1])
      · cases hm
    · rcases hcut pre post he with ⟨mid, rfl, _⟩ | ⟨rfl, _⟩
      · exact h.causal pre mid rfl
      · simp [hp]
  | @advance chunks rest hp =>
    have hl : chunks.flatten.length ≤ c.buffer.length - c.off := by
      have := congrArg List.length hp
      simp only [Chan.pending, List.length_drop, List.length_append] at this
      omega
    have hw := h.within
    refine ⟨?_, h.bounded, by simp only; omega, fun _ _ _ => h.disciplined_takes chunks, fun _ _ => h.causal_takes hp⟩
    rw [puts_append, takes_append, puts_takes, takes_takes, List.append_nil, h.conserved]
    simp only [Chan.pending] at hp ⊢
    rw [← List.drop_drop, hp, List.drop_left, List.append_assoc]
  | @drain chunks hp =>
    refine ⟨?_, Nat.zero_le _, Nat.le_refl _, fun _ _ _ => h.disciplined_takes chunks,
      fun _ _ => h.causal_takes (by rw [List.append_nil]; exact hp)⟩
    rw [puts_append, takes_append, puts_takes, takes_takes, List.append_nil, h.conserved, hp]
    simp [Chan.pending, Chan.empty]

end Conserved

/-- Every run of a channel from empty conserves what was put in. -/
theorem Steps.conserved (h : Steps cap Chan.empty ls c) : Conserved cap ls c := by
  have h0 : Conserved cap ([] : List (Label α)) Chan.empty := ⟨rfl, Nat.zero_le _, Nat.le_refl _,
    fun _ _ _ he => by simp at he, fun _ _ he => by simp [List.append_eq_nil_iff.mp he.symm]⟩
  have := Traces.Steps.invariant (P := Conserved cap) (fun _ _ _ _ hp hs => hp.step hs) [] h0 h
  simpa using this

end Invariants

end Channels
