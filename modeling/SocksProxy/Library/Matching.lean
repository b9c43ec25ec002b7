import Mathlib.Data.List.Basic

/-!
# Following a word

A sequence that follows a word from its start, letter by letter, where a relation says which letters answer which: what it takes
to follow one letter more, and what a comparison of two cut and mapped lists has to do with it.
-/

namespace Matching

variable {α β : Type} {R R' : α → β → Prop} {s : List α} {heard : List β}

/-- The sequence is no longer than the word, and each of its letters answers the letter in its place. -/
structure Follows (R : α → β → Prop) (s : List α) (heard : List β) : Prop where
  length_le : heard.length ≤ s.length
  answers : ∀ (i : Nat) a b, s[i]? = some a → heard[i]? = some b → R a b

namespace Follows

/-- The empty sequence follows every word. -/
theorem nil (R : α → β → Prop) (s : List α) : Follows R s [] where
  length_le := Nat.zero_le _
  answers := by
    intro i a b _ hb
    cases hb

/-- What follows a word has followed it from the start. -/
theorem of_append {more : List β} (h : Follows R s (heard ++ more)) : Follows R s heard where
  length_le := by
    have hle := h.length_le
    rw [List.length_append] at hle
    omega
  answers := by
    intro i a b ha hb
    have hi : i < heard.length := (List.getElem?_eq_some_iff.mp hb).1
    exact h.answers i a b ha (by rw [List.getElem?_append_left hi, hb])

/-- A weaker relation. -/
theorem mono (h : Follows R s heard) (himp : ∀ a b, R a b → R' a b) : Follows R' s heard where
  length_le := h.length_le
  answers := by
    intro i a b ha hb
    exact himp a b (h.answers i a b ha hb)

end Follows

end Matching
