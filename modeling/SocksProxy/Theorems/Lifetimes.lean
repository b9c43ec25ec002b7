import SocksProxy.Runs

/-!
# Lifetimes

Who owns what, in every state a run reaches, and what became of each descriptor once its session is gone.
-/

namespace SocksProxy

/-- The owner of the slots of a session. -/
def sessionOwner (sid : Nat) : Option FdHandler × Option Nat := (some .clientHandler, some sid)

section Owned

variable {s : Server}

/-- A client slot carries a session that is there and whose client it is. -/
theorem Own.client_of_slot (own : Own s) {fd : Int} {item : Item FdHandler Nat} (hi : s.selector.slot fd = some item)
    (hh : item.handler = some .clientHandler) :
    ∃ sid state, item.data = some sid ∧ s.sessions sid = some state ∧ state.clientFd = fd := by
  obtain ⟨sid, v, hl, hfd, hd, _⟩ := own.clientSlot hi hh
  exact ⟨sid, v.state, hd, (Server.sessions_of_life hl).1, hfd⟩

/-- A target slot carries a session that is there and whose target it is. -/
theorem Own.target_of_slot (own : Own s) {fd : Int} {item : Item FdHandler Nat} (hi : s.selector.slot fd = some item)
    (hh : item.handler = some .targetHandler) :
    ∃ sid state, item.data = some sid ∧ s.sessions sid = some state ∧ state.targetFd = fd := by
  obtain ⟨sid, v, hl, hfd, hd, _⟩ := own.targetSlot hi hh
  exact ⟨sid, v.state, hd, (Server.sessions_of_life hl).1, hfd⟩

/-- A session has exactly one client slot. -/
theorem Own.unique_client (own : Own s) {sid : Nat} {state : ClientState} (hs : s.sessions sid = some state) :
    ∃! fd, s.Registered fd .clientHandler (some sid) := by
  refine ⟨state.clientFd, own.client sid state hs, fun fd ⟨item, hi, hh, hd⟩ => ?_⟩
  obtain ⟨sid', state', hd', hs', hfd⟩ := own.client_of_slot hi hh
  rw [hd] at hd'
  cases hd'
  rw [hs] at hs'
  cases hs'
  exact hfd.symm

/-- A session has at most one target slot. -/
theorem Own.unique_target (own : Own s) {sid : Nat} {fd fd' : Int} (h : s.Registered fd .targetHandler (some sid))
    (h' : s.Registered fd' .targetHandler (some sid)) : fd = fd' := by
  have hfd : ∀ fd, s.Registered fd .targetHandler (some sid) → ∃ state, s.sessions sid = some state ∧ state.targetFd = fd := by
    rintro fd ⟨item, hi, hh, hd⟩
    obtain ⟨sid', state, hd', hs, hfd⟩ := own.target_of_slot hi hh
    rw [hd] at hd'
    cases hd'
    exact ⟨state, hs, hfd⟩
  obtain ⟨state, hs, rfl⟩ := hfd fd h
  obtain ⟨state', hs', rfl⟩ := hfd fd' h'
  rw [hs] at hs'
  cases hs'
  rfl

/-- A file that was made was closed once, or it is open in the hands of one owner. -/
theorem Own.closed_or_held (own : Own s) {file : Nat} (hlt : file < s.nextFile) :
    Obs.closings file s.trace = 1 ∨ Obs.closings file s.trace = 0 ∧ ∃! owner, s.Holds file owner := by
  by_cases ho : ∃ fd f, s.files fd = some f ∧ f.serial = file
  · obtain ⟨fd, f, hf, rfl⟩ := ho
    have hopen := own.opened fd
    rw [hf] at hopen
    obtain ⟨item, hi⟩ := Option.isSome_iff_exists.mp hopen.symm
    refine .inr ⟨own.ledger.closedOpen fd f hf, item.owner, ⟨fd, f, item, hf, rfl, hi, rfl⟩, ?_⟩
    rintro owner ⟨fd', f', item', hf', hs', hi', rfl⟩
    have := own.ledger.distinct fd' fd f' f hf' hf hs'
    subst this
    rw [hi] at hi'
    cases hi'
    rfl
  · exact .inl (own.ledger.closedGone file hlt fun fd f hf he => ho ⟨fd, f, hf, he⟩)

/-- Only a session that is there holds a file. -/
theorem Own.session_of_holds (own : Own s) {file sid : Nat} (h : s.Holds file (sessionOwner sid)) :
    ∃ state, s.sessions sid = some state := by
  obtain ⟨fd, f, item, _, _, hi, ho⟩ := h
  obtain ⟨state, hs, _⟩ := own.fd_of_slot hi (Item.of_iff_owner.mpr ho)
  exact ⟨state, hs⟩

end Owned

section Run

variable (c : Config)

/-- No file comes into new hands during a run. -/
theorem run_custody (pre post : List Event) : Custody (run c.start pre) (run c.start (pre ++ post)) := by
  induction post using List.reverseRecOn with
  | nil => simpa using Custody.refl _
  | append_singleton post e ih =>
    rw [← List.append_assoc]
    exact ih.trans (run_lives c (pre ++ post) e).custody

/-- The states of a process after these events: the one between two events, and those between two turns of the loop of
`selector_destroy`. -/
inductive Config.Visits (es : List Event) : Server → Prop where
  | between : Config.Visits es (run c.start es)
  | destroying (turns : Nat) : (run c.start es).phase = .exited → Config.Visits es (destroyUntil (run c.start es) turns)

/-- Ownership is in order in every state a process visits, and no file has come into new hands. -/
theorem Config.Visits.own {es : List Event} {s : Server} (h : c.Visits es s) : Own s ∧ Custody (run c.start es) s := by
  have hi := run_inv c es
  cases h with
  | between => exact ⟨hi.own, .refl _⟩
  | destroying turns hp =>
    have he := (destroyUntil_ending hi (by simp [hp]) turns).1
    exact ⟨he.own, he.custody⟩

/-- In every state a process visits:

- a client slot carries a session that has not been freed and whose client descriptor is the slot's, and a target slot one whose
  target descriptor is the slot's;
- a session that has not been freed has exactly one client slot and at most one target slot;
- nothing was used after it was freed and nothing closed twice: the only fault is a resolver thread that outlives the selector;
- every file was opened once, and has been closed once or is in the hands of one owner, which for a session means that the session
  has not been freed; and a file that was a session's has been closed once when the session is gone. -/
theorem lifetimes (es : List Event) {s : Server} (hv : c.Visits es s) :
    (∀ fd item, s.selector.slot fd = some item →
      (item.handler = some .clientHandler →
        ∃ sid state, item.data = some sid ∧ s.sessions sid = some state ∧ state.clientFd = fd) ∧
      (item.handler = some .targetHandler →
        ∃ sid state, item.data = some sid ∧ s.sessions sid = some state ∧ state.targetFd = fd)) ∧
    (∀ sid state, s.sessions sid = some state → (∃! fd, s.Registered fd .clientHandler (some sid)) ∧
      ∀ fd fd', s.Registered fd .targetHandler (some sid) → s.Registered fd' .targetHandler (some sid) → fd = fd') ∧
    (∀ f ∈ s.faults, f = .selectorDestroyed) ∧
    (∀ file, file < s.nextFile → Obs.openings file s.trace = 1 ∧
      (Obs.closings file s.trace = 1 ∨ Obs.closings file s.trace = 0 ∧ ∃! owner, s.Holds file owner)) ∧
    (∀ file sid, s.Holds file (sessionOwner sid) → ∃ state, s.sessions sid = some state) ∧
    ∀ pre post, es = pre ++ post → ∀ file sid, (run c.start pre).Holds file (sessionOwner sid) →
      s.sessions sid = none → Obs.closings file s.trace = 1 := by
  obtain ⟨own, hcus⟩ := hv.own
  refine ⟨fun fd item hi => ⟨own.client_of_slot hi, own.target_of_slot hi⟩, fun sid state hs => ⟨own.unique_client hs,
    fun _ _ => own.unique_target⟩, own.faults, fun file hlt => ⟨?_, own.closed_or_held hlt⟩, fun _ _ => own.session_of_holds,
    fun pre post he file sid hh hs => ?_⟩
  · rw [own.ledger.opened, if_pos hlt]
  · subst he
    have ownPre := (run_inv c pre).own
    have hcus := (run_custody c pre post).trans hcus
    obtain ⟨fd, f, item, hf, rfl, hi, ho⟩ := hh
    have hlt := ownPre.ledger.below fd f hf
    refine (own.closed_or_held (Nat.lt_of_lt_of_le hlt hcus.nextFile)).resolve_right fun ⟨h0, owner, hown, _⟩ => ?_
    -- whoever holds the file now held it then, and then it was the session's
    obtain ⟨fd', f', item', hf', hs', hi', ho'⟩ := hcus.holds f.serial owner hlt hown
    have := ownPre.ledger.distinct fd' fd f' f hf' hf hs'
    subst this
    rw [hi] at hi'
    cases hi'
    rw [← ho', ho] at hown
    obtain ⟨state, hst⟩ := own.session_of_holds hown
    rw [hs] at hst
    cases hst

end Run

/-- A run that ends: a client connects, two signals arrive, and the main loop is left. -/
def endingRun : List Event :=
  [.read 3 { accepts := [.accepted 5 .ok true] }, .signal, .signal, .loopTest]

/-- The destruction of the selector, after five turns of its loop: the session's slot is the next, and is its only one. -/
theorem lifetimes_destroying :
    ∃! fd, (destroyUntil (run (Config.first .zeroed).start endingRun) 5).Registered fd .clientHandler (some 0) :=
  ((lifetimes (Config.first .zeroed) endingRun (.destroying 5 (by decide +kernel))).2.1 0 _
    (Option.some_get (x := (destroyUntil (run (Config.first .zeroed).start endingRun) 5).sessions 0)
      (by decide +kernel)).symm).1

end SocksProxy
