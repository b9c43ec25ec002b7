import SocksProxy.Lemmas.Teardown

/-!
# Runs

Every step keeps the invariant and is, for each session, some steps of its life; the server starts with the invariant. Hence both
hold of every run.
-/

namespace SocksProxy

/-- One step of the process keeps the invariant, and every session lives through it. -/
theorem step_inv {s : Server} (h : Inv s) (e : Event) : Inv (step s e) ∧ Lives (s.env e) s (step s e) := by
  cases e with
  | read fd a =>
    simp only [step]
    split
    · exact ⟨h, .refl s⟩
    · rename_i item hi
      split
      · rename_i hc
        exact ⟨(handleRead_inv h hc.1 hi hc.2 a).1, (handleRead_inv h hc.1 hi hc.2 a).2.1⟩
      · exact ⟨h, .refl s⟩
  | write fd a =>
    simp only [step]
    split
    · exact ⟨h, .refl s⟩
    · rename_i item hi
      split
      · rename_i hc
        exact ⟨(handleWrite_inv h hc.1 hi hc.2 a).1, (handleWrite_inv h hc.1 hi hc.2 a).2.1⟩
      · exact ⟨h, .refl s⟩
  | notifications as =>
    simp only [step]
    split
    · rename_i hp
      exact handleBlockNotifications_inv h (by simp [hp]) as
    · exact ⟨h, .refl s⟩
  | publish job status result => exact publishResult_inv h job status result
  | notify job allocated => exact notifyClient_inv h job allocated
  | release job => exact releaseJob_inv h job
  | connectDone fd error => exact connectDone_inv h fd error
  | signal => exact sigtermHandler_inv h
  | shutdownCheck =>
    simp only [step]
    split
    · rename_i hp
      exact shutdownCheck_inv h (by simp [hp])
    · exact ⟨h, .refl s⟩
  | loopTest =>
    simp only [step]
    split
    · rename_i hp
      exact loopTest_inv h (by simp [hp])
    · exact ⟨h, .refl s⟩
  | teardown =>
    simp only [step]
    split
    · rename_i hp
      exact teardown_inv h (by simp [hp])
    · exact ⟨h, .refl s⟩

/-! ## The start -/

namespace Config

variable (c : Config)

/-- A fresh selector has room for every valid descriptor. -/
theorem opened_fdSize : c.opened.selector.fdSize = 1025 := by
  show (FdSelector.selectorNew (H := FdHandler) (D := Nat) 1024 true).1.fdSize = 1025
  decide

/-- A fresh selector has no slot in use. -/
theorem slot_opened (fd : Int) : c.opened.selector.slot fd = none := by
  cases hv : invalidFd fd with
  | true => exact FdSelector.slot_of_invalid hv
  | false =>
    have hr := invalidFd_eq_false_iff.mp hv
    have hlt : fd.toNat < 1025 := by omega
    have hi : c.opened.selector.fds fd.toNat = Item.itemInit Item.zeroed := by
      have hz := c.opened_fdSize
      simp only [opened, FdSelector.selectorNew, FdSelector.ensureCapacity, FdSelector.cleared, FdSelector.itemsInit] at hz ⊢
      simp [itemsMaxSize] at hz ⊢
      omega
    rw [FdSelector.slot_of_valid hv, hi]
    rfl

/-- The slots of the server at its start are those of its listeners. -/
theorem slot_start (fd : Int) : c.start.selector.slot fd =
    if fd = c.managementFd then
      some
        { fd, interest := opRead, handler := some .managementAcceptHandler, data := none
          serial := (c.opened.register c.serverFd .acceptHandler opRead none).1.selector.serial }
    else if fd = c.serverFd then
      some { fd, interest := opRead, handler := some .acceptHandler, data := none, serial := c.opened.selector.serial }
    else none := by
  obtain ⟨_, hz, _, hslot⟩ := FdSelector.selectorRegister_of_free c.server_valid (by rw [c.opened_fdSize]; omega)
    (c.slot_opened _) FdHandler.acceptHandler opRead (none : Option Nat) true
  have hfree : (c.opened.register c.serverFd .acceptHandler opRead none).1.selector.slot c.managementFd = none :=
    (hslot _).trans ((if_neg c.distinct.symm).trans (c.slot_opened _))
  obtain ⟨_, _, _, hslot'⟩ := FdSelector.selectorRegister_of_free c.management_valid
    (by rw [show (c.opened.register c.serverFd .acceptHandler opRead none).1.selector.fdSize = _ from hz, c.opened_fdSize]; omega)
    hfree FdHandler.managementAcceptHandler opRead (none : Option Nat) true
  refine (hslot' fd).trans ?_
  split
  · subst_vars
    rfl
  · refine (hslot fd).trans ?_
    split
    · subst_vars
      rfl
    · exact c.slot_opened fd

/-- The table and the queue of the server at its start. -/
theorem start_selector : c.start.selector.fdSize = 1025 ∧ c.start.selector.resolutionJobs = [] := by
  obtain ⟨_, hz, hq, hslot⟩ := FdSelector.selectorRegister_of_free c.server_valid (by rw [c.opened_fdSize]; omega)
    (c.slot_opened _) FdHandler.acceptHandler opRead (none : Option Nat) true
  have hfree : (c.opened.register c.serverFd .acceptHandler opRead none).1.selector.slot c.managementFd = none :=
    (hslot _).trans ((if_neg c.distinct.symm).trans (c.slot_opened _))
  obtain ⟨_, hz', hq', _⟩ := FdSelector.selectorRegister_of_free c.management_valid
    (by rw [show (c.opened.register c.serverFd .acceptHandler opRead none).1.selector.fdSize = _ from hz, c.opened_fdSize]; omega)
    hfree FdHandler.managementAcceptHandler opRead (none : Option Nat) true
  exact ⟨hz'.trans (hz.trans c.opened_fdSize), hq'.trans (hq.trans rfl)⟩

/-- The selector is consistent at the start. -/
theorem start_consistent : c.start.selector.Consistent :=
  ((FdSelector.Consistent.selectorNew.selectorRegister c.serverFd (some FdHandler.acceptHandler) opRead none
    true).1.selectorRegister c.managementFd (some FdHandler.managementAcceptHandler) opRead none true).1

/-- Ownership is in order at the start. -/
theorem own_start : Own c.start := by
  have hcase : ∀ fd item, c.start.selector.slot fd = some item →
      item.fd = fd ∧ (fd = c.serverFd ∧ item.handler = some .acceptHandler ∨
        fd = c.managementFd ∧ item.handler = some .managementAcceptHandler) := by
    intro fd item hi
    rw [c.slot_start] at hi
    split at hi
    · cases hi
      exact ⟨rfl, .inr ⟨‹_›, rfl⟩⟩
    · split at hi
      · cases hi
        exact ⟨rfl, .inl ⟨‹_›, rfl⟩⟩
      · cases hi
  refine {
    selector := c.start_consistent
    size := c.start_selector.1
    indexed := fun fd item hi => (hcase fd item hi).1
    owned := fun fd item hi => ?_
    client := fun _ _ hs => nomatch hs
    target := fun _ _ hs => nomatch hs
    management := fun mid fd _ ⟨item, hi, hh, _⟩ _ => ?_
    opened := fun fd => ?_
    ledger := ?_
    fresh := fun _ _ => ⟨rfl, rfl⟩
    faults := fun _ hf => nomatch hf }
  · unfold Server.SlotOwned
    rcases (hcase fd item hi).2 with ⟨he, hh⟩ | ⟨he, hh⟩ <;> rw [hh] <;> exact he
  · rcases (hcase fd item hi).2 with ⟨_, hh'⟩ | ⟨_, hh'⟩ <;> rw [hh] at hh' <;> cases hh'
  · rw [c.slot_start]
    show (Function.update (Function.update (fun _ => none) c.serverFd _) c.managementFd _ fd).isSome = _
    rw [Function.update_apply, Function.update_apply]
    split
    · rfl
    · split <;> rfl
  · have h0 : Ledger (fun _ => none) 0 [] :=
      ⟨fun _ => by simp [Obs.openings], fun _ _ hf => (nomatch hf), fun _ hlt => absurd hlt (Nat.not_lt_zero _),
        fun _ _ => rfl, fun _ _ hf => (nomatch hf), fun _ _ _ _ hf => (nomatch hf), fun _ _ hf => nomatch hf⟩
    have h1 := @Ledger.openFd _ _ _ h0 c.serverFd rfl .unconnected
    exact h1.openFd (Function.update_of_ne c.distinct.symm _ _) .unconnected

/-- No session is there at the start. -/
theorem life_start (sid : Nat) : c.start.life sid = .unborn := by
  show (if sid < 0 then Life.gone else .unborn) = .unborn
  simp

/-- The invariant holds at the start. -/
theorem inv_start : Inv c.start := by
  have hwaits : ∀ sid, c.start.waits sid = none := fun _ => rfl
  refine ⟨⟨c.own_start, ?_, fun _ => ?_, fun sid => ?_, ⟨fun _ _ => ?_, fun hs => (nomatch hs), fun fd item hi _ => ?_⟩, rfl⟩,
    .inl fun _ => rfl⟩
  · exact ⟨fun sid _ _ hw => (nomatch (hwaits sid).symm.trans hw), fun _ _ _ hr => (nomatch hr), fun _ _ hr => (nomatch hr),
      fun _ _ hr => (nomatch hr), fun _ _ hr => (nomatch hr), fun _ hp => (nomatch hp), fun _ hp => (nomatch hp),
      fun _ _ => ⟨rfl, rfl⟩⟩
  · rw [c.start_selector.2]
    exact ⟨fun _ hm => absurd hm List.not_mem_nil, List.nodup_nil, fun _ _ hp => nomatch hp⟩
  · rw [c.life_start]
    trivial
  · show c.start.Registered c.serverFd _ _ ∧ c.start.Registered c.managementFd _ _
    exact ⟨⟨_, (c.slot_start _).trans ((if_neg c.distinct).trans (if_pos rfl)), rfl, rfl⟩,
      ⟨_, (c.slot_start _).trans (if_pos rfl), rfl, rfl⟩⟩
  · rw [c.slot_start] at hi
    split at hi
    · cases hi
      rfl
    · split at hi
      · cases hi
        rfl
      · cases hi

/-- No session has acted at the start. -/
theorem acts_start (sid : Nat) : c.start.acts sid = [] := rfl

end Config

/-! ## Runs -/

section Run

variable (c : Config)

/-- A run one event longer. -/
theorem run_append (s : Server) (es : List Event) (e : Event) : run s (es ++ [e]) = step (run s es) e := by
  simp [run, List.foldl_append]

/-- The invariant holds after every run. -/
theorem run_inv (es : List Event) : Inv (run c.start es) :=
  Traces.foldl_invariant c.inv_start (fun _ e h => (step_inv h e).1) es

/-- Every session lives through every step of every run. -/
theorem run_lives (es : List Event) (e : Event) :
    Lives ((run c.start es).env e) (run c.start es) (run c.start (es ++ [e])) := by
  rw [run_append]
  exact (step_inv (run_inv c es) e).2

/-- A session that is gone stays gone and does nothing more. -/
theorem SessionSteps.gone {env : Env} {L : Life} {acts : List Act} (h : SessionSteps env .gone acts L) :
    acts = [] ∧ L = .gone := by
  induction h with
  | refl => exact ⟨rfl, rfl⟩
  | tail _ hs ih =>
    obtain ⟨_, rfl⟩ := ih
    cases hs

/-- A session that is gone stays gone, and its acts are over. -/
theorem run_gone {pre : List Event} {sid : Nat} (h : (run c.start pre).life sid = .gone) (post : List Event) :
    (run c.start (pre ++ post)).life sid = .gone ∧ (run c.start (pre ++ post)).acts sid = (run c.start pre).acts sid := by
  induction post using List.reverseRecOn with
  | nil => simpa using h
  | append_singleton post e ih =>
    obtain ⟨acts, ha, hs⟩ := (run_lives c (pre ++ post) e).steps sid
    rw [ih.1] at hs
    obtain ⟨rfl, hl⟩ := SessionSteps.gone hs
    rw [← List.append_assoc]
    exact ⟨hl, by rw [ha, ih.2, List.append_nil]⟩

/-- What holds of a session before it is born, and is kept by every step of its life in the environments of a run, holds after
every run. -/
theorem run_session {P : List Act → Life → Prop} (good : Server → Event → Prop) (sid : Nat) (h0 : P [] .unborn)
    (hstep : ∀ (pre : List Event) (e : Event), good (run c.start pre) e → ∀ hist L acts L', P hist L → L.Ready →
      SessionStep ((run c.start pre).env e sid) L acts L' → P (hist ++ acts) L')
    (es : List Event) (hgood : ∀ pre e post, es = pre ++ e :: post → good (run c.start pre) e) :
    P ((run c.start es).acts sid) ((run c.start es).life sid) := by
  induction es using List.reverseRecOn with
  | nil =>
    show P (c.start.acts sid) (c.start.life sid)
    rw [c.life_start]
    exact h0
  | append_singleton es e ih =>
    have hP := ih fun pre e' post he => hgood pre e' (post ++ [e]) (by simp [he])
    obtain ⟨acts, ha, hs⟩ := (run_lives c es e).steps sid
    rw [ha]
    have hinv := Traces.Steps.invariant (P := fun hist L => P hist L ∧ L.Ready)
      (fun hist L as L' hPL hst => ⟨hstep es e (hgood es e [] rfl) hist L as L' hPL.1 hPL.2 hst, hst.ready hPL.2⟩)
      _ ⟨hP, (run_inv c es).ready sid⟩ hs
    exact hinv.1

end Run

end SocksProxy
