import Mathlib.Data.List.Basic

/-!
# Lines

A text of lines, each ended by the same letter, and the lines that a reader of a text finds complete. Where such a text is cut, the
lines found are the first ones, as many as fit before the cut.

Nothing here is about any particular alphabet.
-/

namespace Lines

variable {α : Type} (eol : α)

/-- The text of these lines. -/
def text (lines : List (List α)) : List α := lines.flatMap (· ++ [eol])

/-- The complete lines of a text: all that precedes an end of line. -/
def complete [BEq α] (t : List α) : List (List α) := (t.splitOn eol).dropLast

@[simp] theorem text_nil : text eol [] = [] := rfl

@[simp] theorem text_cons (line : List α) (lines : List (List α)) :
    text eol (line :: lines) = line ++ eol :: text eol lines := by
  simp [text]

@[simp] theorem text_append (lines lines' : List (List α)) :
    text eol (lines ++ lines') = text eol lines ++ text eol lines' :=
  List.flatMap_append

variable {eol} [BEq α] [LawfulBEq α]

/-- What has no end has no complete line. -/
theorem complete_of_notMem {t : List α} (h : eol ∉ t) : complete eol t = [] := by
  rw [complete, List.splitOn_eq_singleton h]
  rfl

/-- The first line is complete when its end is there. -/
theorem complete_cons {line : List α} (h : eol ∉ line) (t : List α) :
    complete eol (line ++ eol :: t) = line :: complete eol t := by
  rw [complete, List.splitOn_append_cons_self_of_not_mem h, List.dropLast_cons_of_ne_nil (List.splitOn_ne_nil eol t)]
  rfl

/-- Where a text of lines is cut, the complete lines are those that fit before the cut. -/
theorem complete_take {lines : List (List α)} (h : ∀ line ∈ lines, eol ∉ line) (k : Nat) :
    ∃ n, complete eol ((text eol lines).take k) = lines.take n ∧ (text eol (lines.take n)).length ≤ k ∧
      (n < lines.length → k < (text eol (lines.take (n + 1))).length) := by
  induction lines generalizing k with
  | nil => exact ⟨0, by simp [complete], by simp, by simp⟩
  | cons line lines ih =>
    obtain ⟨hline, hlines⟩ := List.forall_mem_cons.mp h
    by_cases hk : k ≤ line.length
    · refine ⟨0, ?_, by simp, fun _ => ?_⟩
      · rw [text_cons, List.take_append_of_le_length hk, complete_of_notMem fun hm => hline (List.mem_of_mem_take hm)]
        rfl
      · simp only [Nat.zero_add, List.take_succ_cons, List.take_zero, text_cons, text_nil, List.length_append,
          List.length_cons, List.length_nil]
        omega
    · -- the first line fits, so the cut is in the others
      obtain ⟨n, hn, hfit, hmore⟩ := ih hlines (k - line.length - 1)
      have hcut : (text eol (line :: lines)).take k = line ++ eol :: (text eol lines).take (k - line.length - 1) := by
        obtain ⟨j, hj⟩ := Nat.exists_eq_add_of_lt (Nat.lt_of_not_le hk)
        rw [text_cons, List.take_append, List.take_of_length_le (Nat.le_of_not_le hk), show k - line.length = j + 1 by omega]
        rfl
      refine ⟨n + 1, ?_, ?_, fun hlt => ?_⟩
      · rw [hcut, complete_cons hline, hn]
        rfl
      · simp only [List.take_succ_cons, text_cons, List.length_append, List.length_cons]
        omega
      · have := hmore (Nat.lt_of_succ_lt_succ hlt)
        simp only [List.take_succ_cons, text_cons, List.length_append, List.length_cons] at this ⊢
        omega

/-- Every line of a text is found. -/
theorem complete_text {lines : List (List α)} (h : ∀ line ∈ lines, eol ∉ line) : complete eol (text eol lines) = lines := by
  induction lines with
  | nil => simp [complete]
  | cons line lines ih =>
    obtain ⟨hline, hlines⟩ := List.forall_mem_cons.mp h
    rw [text_cons, complete_cons hline, ih hlines]

end Lines
