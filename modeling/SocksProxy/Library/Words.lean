import Mathlib.Data.List.TakeWhile

/-!
# Words

The words of a text are what stands between its runs of separators. They can be had all at once, by splitting the text, or one
after another, by skipping separators, taking letters and going on behind the next separator. Both give the same words.

Nothing here is about any particular alphabet.
-/

namespace Words

variable {α : Type} (p : α → Bool)

/-- The words of a text, in order: the pieces between separators, but for the empty ones. -/
def words (text : List α) : List (List α) := (text.splitOnP p).filter (!·.isEmpty)

/-- The first word of a text, or nothing. -/
def first (text : List α) : List α := (text.dropWhile p).takeWhile (!p ·)

/-- What comes after the first word and the separator behind it. -/
def rest (text : List α) : List α := ((text.dropWhile p).drop (first p text).length).drop 1

/-- There are no words in nothing. -/
theorem words_nil : words p [] = [] := rfl

/-- Separators before a text make no words. -/
theorem words_dropWhile (text : List α) : words p (text.dropWhile p) = words p text := by
  induction text with
  | nil => rfl
  | cons x text ih =>
    by_cases hx : p x = true
    · rw [List.dropWhile_cons_of_pos hx, ih, words, words, List.splitOnP_cons_eq_if_modifyHead, if_pos hx]
      rfl
    · rw [List.dropWhile_cons_of_neg hx]

/-- The words of a text are its first word and the words of the rest. -/
theorem words_eq (text : List α) :
    words p text = if first p text = [] then [] else first p text :: words p (rest p text) := by
  rw [← words_dropWhile]
  -- what is left begins with a letter, if there is anything left
  have hletters : ∀ x ∈ (text.dropWhile p).takeWhile (!p ·), p x = false := by
    intro x hx
    simpa using List.mem_takeWhile_imp hx
  have hsplit : (text.dropWhile p).takeWhile (!p ·) ++ (text.dropWhile p).dropWhile (!p ·) = text.dropWhile p :=
    List.takeWhile_append_dropWhile
  have hrest : rest p text = ((text.dropWhile p).dropWhile (!p ·)).drop 1 := by
    refine congrArg (List.drop 1) ?_
    calc (text.dropWhile p).drop (first p text).length
        = (first p text ++ (text.dropWhile p).dropWhile (!p ·)).drop (first p text).length := by rw [first, hsplit]
      _ = (text.dropWhile p).dropWhile (!p ·) := List.drop_left
  rw [hrest, first]
  generalize hw : (text.dropWhile p).takeWhile (!p ·) = word at hletters hsplit ⊢
  cases word with
  | nil =>
    rw [if_pos rfl]
    cases ht : text.dropWhile p with
    | nil => rfl
    | cons x t =>
      have hx : p x = false := by simpa [ht] using List.head_dropWhile_not p (l := text) (by rw [ht]; simp)
      rw [ht, List.takeWhile_cons_of_pos (by simp [hx])] at hw
      cases hw
  | cons y word =>
    rw [if_neg (by simp)]
    cases ha : (text.dropWhile p).dropWhile (!p ·) with
    | nil =>
      rw [ha, List.append_nil] at hsplit
      rw [← hsplit, words, List.splitOnP_eq_singleton hletters]
      rfl
    | cons sep after =>
      have hsep : p sep = true := by
        simpa [ha] using List.head_dropWhile_not (!p ·) (l := text.dropWhile p) (by rw [ha]; simp)
      rw [ha] at hsplit
      rw [← hsplit, words, List.splitOnP_append_cons_of_forall_mem hletters sep hsep]
      rfl

/-- The letters of the words of a text are letters of the text, and no separators. -/
theorem letter_of_mem_words {text word : List α} (h : word ∈ words p text) {x : α} (hx : x ∈ word) : x ∈ text ∧ p x = false := by
  replace h := (List.mem_filter.mp h).1
  induction text generalizing word with
  | nil =>
    rw [List.splitOnP_nil, List.mem_singleton] at h
    rw [h] at hx
    cases hx
  | cons y text ih =>
    rw [List.splitOnP_cons_eq_if_modifyHead] at h
    split at h
    · rcases List.mem_cons.mp h with rfl | h
      · cases hx
      · exact (ih hx h).imp_left (List.mem_cons_of_mem y)
    · rename_i hy
      cases hs : text.splitOnP p with
      | nil => exact absurd hs (List.splitOnP_ne_nil p text)
      | cons first others =>
        rw [hs] at h ih
        rcases List.mem_cons.mp h with rfl | h
        · rcases List.mem_cons.mp hx with rfl | hx
          · exact ⟨List.mem_cons_self .., by simpa using hy⟩
          · exact (ih hx (List.mem_cons_self ..)).imp_left (List.mem_cons_of_mem y)
        · exact (ih hx (List.mem_cons_of_mem _ h)).imp_left (List.mem_cons_of_mem y)

/-- Words with a separator between them: the first, and then each of the others behind a separator. -/
theorem intercalate_cons (sep w : List α) (ws : List (List α)) :
    List.intercalate sep (w :: ws) = w ++ ws.flatMap (sep ++ ·) := by
  induction ws generalizing w with
  | nil => rw [List.intercalate_singleton, List.flatMap_nil, List.append_nil]
  | cons w' ws ih => rw [List.intercalate_cons_cons, ih, List.flatMap_cons, List.append_assoc, List.append_assoc]

/-- The words of words with a separator between them. -/
theorem words_intercalate {sep : α} (hsep : p sep = true) {ws : List (List α)} (hne : ∀ w ∈ ws, w ≠ [])
    (hletters : ∀ w ∈ ws, ∀ x ∈ w, p x = false) : words p (List.intercalate [sep] ws) = ws := by
  induction ws with
  | nil => rfl
  | cons w ws ih =>
    obtain ⟨hw, hws⟩ := List.forall_mem_cons.mp hne
    obtain ⟨hx, hxs⟩ := List.forall_mem_cons.mp hletters
    have hfirst : ∀ rest, (w :: rest).filter (!·.isEmpty) = w :: rest.filter (!·.isEmpty) := fun rest =>
      List.filter_cons_of_pos (by simpa using hw)
    cases ws with
    | nil =>
      rw [List.intercalate_singleton, words, List.splitOnP_eq_singleton hx, hfirst]
      rfl
    | cons w' ws =>
      rw [List.intercalate_cons_cons, List.append_assoc, List.singleton_append, words,
        List.splitOnP_append_cons_of_forall_mem hx sep hsep, hfirst]
      exact congrArg (w :: ·) (ih hws hxs)

end Words
