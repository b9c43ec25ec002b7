import SocksProxy.Ownership

/-!
# The ledger of open files

What opening, closing and everything else does to the ledger of open file descriptions.
-/

namespace SocksProxy

namespace Obs

/-- The acts of a session in two traces, one after the other. -/
@[simp] theorem acts_append (sid : Nat) (trace trace' : List Obs) :
    acts sid (trace ++ trace') = acts sid trace ++ acts sid trace' :=
  List.filterMap_append

/-- The acts of a session among its own acts. -/
@[simp] theorem acts_map_self (sid : Nat) (as : List Act) : acts sid (as.map (.act sid)) = as := by
  simp [acts, List.filterMap_map, Function.comp_def]

/-- The acts of another session among the acts of one. -/
theorem acts_map_other {sid sid' : Nat} (h : sid' ≠ sid) (as : List Act) : acts sid' (as.map (.act sid)) = [] := by
  simp [acts, h.symm]

/-- An opening is no act. -/
@[simp] theorem acts_opened (sid file : Nat) (fd : Int) (trace : List Obs) :
    acts sid (.opened file fd :: trace) = acts sid trace := rfl

/-- A closing is no act. -/
@[simp] theorem acts_closed (sid file : Nat) (trace : List Obs) : acts sid (.closed file :: trace) = acts sid trace := rfl

@[simp] theorem acts_nil (sid : Nat) : acts sid [] = [] := rfl

/-- An act at the head of a trace. -/
theorem acts_act (sid sid' : Nat) (a : Act) (trace : List Obs) :
    acts sid (.act sid' a :: trace) = if sid' = sid then a :: acts sid trace else acts sid trace := by
  simp only [acts, List.filterMap_cons]
  split <;> simp_all

end Obs

namespace Ledger

variable {files : Int → Option OpenFile} {nextFile : Nat} {trace : List Obs}

/-- Acts leave the ledger as it is. -/
theorem acts (h : Ledger files nextFile trace) (sid : Nat) (as : List Act) :
    Ledger files nextFile (trace ++ as.map (.act sid)) := by
  have ho : ∀ file, Obs.openings file (trace ++ as.map (.act sid)) = Obs.openings file trace := by
    intro file
    simp [Obs.openings, List.countP_append, List.countP_map, Function.comp_def]
  have hc : ∀ file, Obs.closings file (trace ++ as.map (.act sid)) = Obs.closings file trace := by
    intro file
    simp [Obs.closings, List.countP_append, List.countP_map, Function.comp_def]
  exact {
    opened := fun file => (ho file).trans (h.opened file)
    closedOpen := fun fd f hf => (hc _).trans (h.closedOpen fd f hf)
    closedGone := fun file hlt hno => (hc file).trans (h.closedGone file hlt hno)
    unborn := fun file hle => (hc file).trans (h.unborn file hle)
    below := h.below
    distinct := h.distinct
    under := fun fd f hf => List.mem_append_left _ (h.under fd f hf) }

/-- Closing an open descriptor. -/
theorem close (h : Ledger files nextFile trace) {fd : Int} {f : OpenFile} (hf : files fd = some f) :
    Ledger (Function.update files fd none) nextFile (trace ++ [.closed f.serial]) := by
  have ho : ∀ file, Obs.openings file (trace ++ [.closed f.serial]) = Obs.openings file trace := by
    intro file
    simp [Obs.openings, List.countP_append]
  have hc : ∀ file, Obs.closings file (trace ++ [.closed f.serial]) =
      Obs.closings file trace + if f.serial = file then 1 else 0 := by
    intro file
    simp [Obs.closings, List.countP_append, List.countP_singleton]
  have hother : ∀ fd' f', Function.update files fd none fd' = some f' → fd' ≠ fd ∧ files fd' = some f' := by
    intro fd' f' h'
    by_cases he : fd' = fd
    · subst he
      simp at h'
    · exact ⟨he, by simpa [Function.update_of_ne he] using h'⟩
  refine ⟨fun file => (ho file).trans (h.opened file), fun fd' f' h' => ?_, fun file hlt hno => ?_, fun file hle => ?_,
    fun fd' f' h' => h.below fd' f' (hother fd' f' h').2, fun fd1 fd2 f1 f2 h1 h2 => ?_,
    fun fd' f' h' => List.mem_append_left _ (h.under fd' f' (hother fd' f' h').2)⟩
  · obtain ⟨hne, h'⟩ := hother fd' f' h'
    have : f.serial ≠ f'.serial := fun e => hne (h.distinct fd fd' f f' hf h' e).symm
    rw [hc, if_neg this]
    exact h.closedOpen fd' f' h'
  · by_cases he : f.serial = file
    · rw [hc, if_pos he, ← he, h.closedOpen fd f hf]
    · rw [hc, if_neg he]
      refine h.closedGone file hlt fun fd' f' h' => ?_
      by_cases hfd : fd' = fd
      · subst hfd
        rw [hf] at h'
        cases h'
        exact he
      · exact hno fd' f' (by simpa [Function.update_of_ne hfd] using h')
  · have : f.serial ≠ file := by
      have := h.below fd f hf
      omega
    rw [hc, if_neg this]
    exact h.unborn file hle
  · exact h.distinct fd1 fd2 f1 f2 (hother fd1 f1 h1).2 (hother fd2 f2 h2).2

/-- Opening a descriptor that is not open. -/
theorem openFd (h : Ledger files nextFile trace) {fd : Int} (hf : files fd = none) (connect : ConnectStatus) :
    Ledger (Function.update files fd (some { serial := nextFile, connect })) (nextFile + 1)
      (trace ++ [.opened nextFile fd]) := by
  have ho : ∀ file, Obs.openings file (trace ++ [.opened nextFile fd]) =
      Obs.openings file trace + if nextFile = file then 1 else 0 := by
    intro file
    simp [Obs.openings, List.countP_append, List.countP_singleton]
  have hc : ∀ file, Obs.closings file (trace ++ [.opened nextFile fd]) = Obs.closings file trace := by
    intro file
    simp [Obs.closings, List.countP_append]
  have hcase : ∀ fd' f', Function.update files fd (some { serial := nextFile, connect }) fd' = some f' →
      fd' = fd ∧ f'.serial = nextFile ∨ fd' ≠ fd ∧ files fd' = some f' := by
    intro fd' f' h'
    by_cases he : fd' = fd
    · subst he
      simp only [Function.update_self, Option.some.injEq] at h'
      exact .inl ⟨rfl, by rw [← h']⟩
    · exact .inr ⟨he, by simpa [Function.update_of_ne he] using h'⟩
  refine ⟨fun file => ?_, fun fd' f' h' => ?_, fun file hlt hno => ?_, fun file hle => ?_, fun fd' f' h' => ?_,
    fun fd1 fd2 f1 f2 h1 h2 e => ?_, fun fd' f' h' => ?_⟩
  · rw [ho, h.opened]
    split <;> split <;> split <;> omega
  · rw [hc]
    rcases hcase fd' f' h' with ⟨_, e⟩ | ⟨_, h'⟩
    · rw [e]
      exact h.unborn _ (Nat.le_refl _)
    · exact h.closedOpen fd' f' h'
  · rw [hc]
    have hne : nextFile ≠ file := hno fd { serial := nextFile, connect } (by simp)
    refine h.closedGone file (by omega) fun fd' f' h' => ?_
    refine hno fd' f' ?_
    rw [Function.update_of_ne ?_]
    · exact h'
    · rintro rfl
      rw [hf] at h'
      cases h'
  · rw [hc]
    exact h.unborn file (by omega)
  · rcases hcase fd' f' h' with ⟨_, e⟩ | ⟨_, h'⟩
    · omega
    · have := h.below fd' f' h'
      omega
  · rcases hcase fd1 f1 h1 with ⟨hfd1, e1⟩ | ⟨_, h1'⟩ <;> rcases hcase fd2 f2 h2 with ⟨hfd2, e2⟩ | ⟨_, h2'⟩
    · rw [hfd1, hfd2]
    · have := h.below fd2 f2 h2'
      omega
    · have := h.below fd1 f1 h1'
      omega
    · exact h.distinct fd1 fd2 f1 f2 h1' h2' e
  · rcases hcase fd' f' h' with ⟨rfl, e⟩ | ⟨_, h'⟩
    · rw [e]
      exact List.mem_append_right _ (List.mem_singleton_self _)
    · exact List.mem_append_left _ (h.under fd' f' h')

/-- Moving the connection of an open socket on. -/
theorem setConnect (h : Ledger files nextFile trace) {fd : Int} {f : OpenFile} (hf : files fd = some f)
    (connect : ConnectStatus) : Ledger (Function.update files fd (some { f with connect })) nextFile trace := by
  have hcase : ∀ fd' f', Function.update files fd (some { f with connect }) fd' = some f' →
      ∃ f0, files fd' = some f0 ∧ f0.serial = f'.serial := by
    intro fd' f' h'
    by_cases he : fd' = fd
    · subst he
      simp only [Function.update_self, Option.some.injEq] at h'
      exact ⟨f, hf, by rw [← h']⟩
    · exact ⟨f', by simpa [Function.update_of_ne he] using h', rfl⟩
  refine ⟨h.opened, fun fd' f' h' => ?_, fun file hlt hno => h.closedGone file hlt fun fd' f' h' => ?_, h.unborn,
    fun fd' f' h' => ?_, fun fd1 fd2 f1 f2 h1 h2 e => ?_, fun fd' f' h' => ?_⟩
  · obtain ⟨f0, h0, e⟩ := hcase fd' f' h'
    rw [← e]
    exact h.closedOpen fd' f0 h0
  · by_cases he : fd' = fd
    · subst he
      rw [hf] at h'
      cases h'
      exact hno fd' { f with connect } (by simp)
    · exact hno fd' f' (by simpa [Function.update_of_ne he] using h')
  · obtain ⟨f0, h0, e⟩ := hcase fd' f' h'
    rw [← e]
    exact h.below fd' f0 h0
  · obtain ⟨g1, h1, e1⟩ := hcase fd1 f1 h1
    obtain ⟨g2, h2, e2⟩ := hcase fd2 f2 h2
    exact h.distinct fd1 fd2 g1 g2 h1 h2 (by rw [e1, e2, e])
  · obtain ⟨f0, h0, e⟩ := hcase fd' f' h'
    rw [← e]
    exact h.under fd' f0 h0

end Ledger

end SocksProxy
