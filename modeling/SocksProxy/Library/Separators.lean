import Mathlib.Data.List.Basic

/-!
# Separators

Texts made of parts with separators between them, and when the parts can be told from the whole. A separator of one letter cuts
at its last place if what follows has none of it. A longer separator whose first letter does not come again in it cannot overlap
itself, so that two ways to cut a text differ by a whole separator in one of the parts.

Nothing here is about any particular format.
-/

namespace Separators

variable {α : Type}

/-- The part after the last separator is determined, and so is the part before it. -/
theorem cut_last {c : α} {x x' y y' : List α} (h : c ∉ y) (h' : c ∉ y') (he : x ++ c :: y = x' ++ c :: y') :
    x = x' ∧ y = y' := by
  obtain ⟨t, hx, ht⟩ | ⟨t, hx, ht⟩ := List.append_eq_append_iff.mp he
  · cases t with
    | nil =>
      rw [List.append_nil] at hx
      exact ⟨hx.symm, (List.cons.inj ht).2⟩
    | cons d t =>
      refine absurd ?_ h
      rw [(List.cons.inj ht).2]
      exact List.mem_append_right _ (List.mem_cons_self ..)
  · cases t with
    | nil =>
      rw [List.append_nil] at hx
      exact ⟨hx, (List.cons.inj ht).2.symm⟩
    | cons d t =>
      refine absurd ?_ h'
      rw [(List.cons.inj ht).2]
      exact List.mem_append_right _ (List.mem_cons_self ..)

/-- What stands between two separators that begin at different places of a text: at least the whole first separator. -/
theorem between {c : α} {w h b t : List α} (hc : c ∉ w) (he : c :: w ++ h = t ++ (c :: w ++ b)) :
    t = [] ∧ h = b ∨ ∃ m, t = c :: w ++ m ∧ h = m ++ (c :: w ++ b) := by
  cases t with
  | nil => exact .inl ⟨rfl, List.append_cancel_left he⟩
  | cons d t =>
    simp only [List.cons_append, List.cons.injEq] at he
    obtain ⟨rfl, he⟩ := he
    obtain ⟨m, rfl, hh⟩ | ⟨m, hw, hb⟩ := List.append_eq_append_iff.mp he
    · exact .inr ⟨m, rfl, hh⟩
    · cases m with
      | nil => exact .inr ⟨[], by rw [hw, List.append_nil, List.append_nil], hb.symm⟩
      | cons e m =>
        -- the second separator would begin inside the first
        refine absurd ?_ hc
        rw [hw, (List.cons.inj hb).1]
        exact List.mem_append_right _ (List.mem_cons_self ..)

/-- The ways to cut a text at a separator that does not overlap itself: where it was joined, or at a separator inside one of the
two parts. -/
theorem cut_cases {c : α} {w u h a b : List α} (hc : c ∉ w) (he : u ++ (c :: w ++ h) = a ++ (c :: w ++ b)) :
    (a = u ∧ b = h) ∨ (∃ m, u = a ++ (c :: w ++ m) ∧ b = m ++ (c :: w ++ h)) ∨
    ∃ m, h = m ++ (c :: w ++ b) ∧ a = u ++ (c :: w ++ m) := by
  obtain ⟨t, ha, ht⟩ | ⟨t, hu, ht⟩ := List.append_eq_append_iff.mp he
  · obtain ⟨rfl, rfl⟩ | ⟨m, rfl, hh⟩ := between hc ht
    · exact .inl ⟨by rw [ha, List.append_nil], rfl⟩
    · exact .inr (.inr ⟨m, hh, ha⟩)
  · obtain ⟨rfl, rfl⟩ | ⟨m, rfl, hb⟩ := between hc ht
    · exact .inl ⟨by rw [hu, List.append_nil], rfl⟩
    · exact .inr (.inl ⟨m, hu, hb⟩)

end Separators
