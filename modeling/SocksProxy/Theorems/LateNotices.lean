import Mathlib.Data.List.Basic
import SocksProxy.Lemmas.Control
import SocksProxy.Runs

/-!
# Notifications after the end

A resolver thread decides in its critical section whether a client waits, and notifies the selector after it has left it. When
a second signal ends the main loop in between, the selector is destroyed first and the thread locks a mutex that is gone. Nothing
waits for the threads. The only thing that keeps them from it is that no thread stands between its decision and its notification
at that moment: one that decides later finds its client gone.
-/

namespace SocksProxy

/-- A thread has decided to notify and has not done it yet. -/
def Server.Deciding (s : Server) : Prop := ∃ job fd, s.threads job = .notifying fd

/-- The selector is destroyed under a thread that has decided to notify. -/
def Event.Hasty (s : Server) (e : Event) : Prop := e = .teardown ∧ s.phase = .exited ∧ s.Deciding

/-- Once the selector is destroyed, nobody is left who could want it: there is no session, and no thread that has decided to
notify one. -/
structure Quiescent (s : Server) : Prop where
  sessions : s.phase = .destroyed → ∀ sid, s.sessions sid = none
  threads : s.phase = .destroyed → ¬s.Deciding
  faults : s.faults = []

section Steps

variable {s : Server}

/-- A thread that decides to notify had decided before, or does so now because a session waits for it. -/
theorem deciding_step (h : Inv s) (e : Event) {job : Nat} {fd : Int} (ht : (step s e).threads job = .notifying fd) :
    s.threads job = .notifying fd ∨ ∃ sid, s.waits sid = some (job, fd) := by
  rcases step_threads h e job with h1 | ⟨_, h1⟩
  · rw [ht] at h1
    cases e with
    | publish job' status result =>
      simp only [Server.threadAfter] at h1
      split at h1
      · cases hr : s.jobs job with
        | none => exact .inl (by simpa [hr] using h1.symm)
        | some record =>
          cases hst : record.state with
          | none => simp [hr, hst] at h1
          | some sid =>
            obtain ⟨fd', hw⟩ := h.jobs.waiting job record sid hr hst
            obtain ⟨record', hr', _, hfd⟩ := h.jobs.owned sid job fd' hw
            rw [hr] at hr'
            cases hr'
            simp only [hr, hst, Option.isSome_some, if_true, ThreadPhase.notifying.injEq] at h1
            exact .inr ⟨sid, by rw [hw, h1, hfd]⟩
      · exact .inl h1.symm
    | notify job' allocated =>
      simp only [Server.threadAfter] at h1
      split at h1
      · cases hold : s.threads job with
        | notifying fd' => simp [hold] at h1
        | _ => simp [hold] at h1
      · exact .inl h1.symm
    | release job' =>
      simp only [Server.threadAfter] at h1
      split at h1
      · cases h1
      · exact .inl h1.symm
    | _ => exact .inl h1.symm
  · rw [ht] at h1
    cases h1

/-- The server enters its last phase by `selector_destroy` only. -/
theorem destroyed_step (h : Inv s) {e : Event} (hp : (step s e).phase = .destroyed) :
    s.phase = .destroyed ∨ e = .teardown ∧ s.phase = .exited := by
  rcases phase_step h e with hsame | ⟨_, hx, _⟩ | ⟨rfl, hx, _⟩
  · exact .inl (hsame.symm.trans hp)
  · rw [hp] at hx
    cases hx
  · exact .inr ⟨rfl, hx⟩

/-- Only a late notification is a fault. -/
theorem faults_step (h : Inv s) (e : Event) (hq : s.phase = .destroyed → ¬s.Deciding) : (step s e).faults = s.faults := by
  have hc : (step s e).faults = (s.controlAfter e).faults := congrArg Control.faults (step_control h e)
  rw [hc]
  cases e with
  | notify job allocated =>
    simp only [Server.controlAfter]
    cases ht : s.threads job with
    | notifying fd =>
      dsimp only
      split
      · rfl
      · rw [if_neg fun hp => hq hp ⟨job, fd, ht⟩]
        rfl
    | _ => rfl
  | shutdownCheck =>
    simp only [Server.controlAfter]
    split <;> rfl
  | signal =>
    simp only [Server.controlAfter]
    split <;> rfl
  | notifications as =>
    simp only [Server.controlAfter]
    split <;> rfl
  | loopTest =>
    simp only [Server.controlAfter]
    split <;> rfl
  | teardown =>
    simp only [Server.controlAfter]
    split <;> rfl
  | _ => rfl

/-- One step that is not hasty keeps the server quiescent. -/
theorem Quiescent.step (hq : Quiescent s) (h : Inv s) {e : Event} (hgood : ¬e.Hasty s) : Quiescent (step s e) := by
  have hsess : (SocksProxy.step s e).phase = .destroyed → ∀ sid, (SocksProxy.step s e).sessions sid = none := by
    intro hp sid
    rcases destroyed_step h hp with hp0 | ⟨rfl, hx⟩
    · -- past the end no session comes
      have hn : ¬e.Accepts s := by
        rintro ⟨_, _, _, _, hr, _⟩
        rw [hp0] at hr
        cases hr
      by_contra hs
      exact (step_unjoined h e hn).sessions sid hs (hq.sessions hp0 sid)
    · -- no slot is left, and a session has one
      have h' := (step_inv h .teardown).1
      obtain ⟨s1, _, _, hno, heq⟩ := teardown_undisturbed h (by simp [hx])
      cases hs : (SocksProxy.step s .teardown).sessions sid with
      | none => rfl
      | some state =>
        obtain ⟨item, hi, _⟩ := h'.own.client sid state hs
        simp only [SocksProxy.step, if_pos hx, heq] at hi
        have hi' : s1.selector.slot state.clientFd = some item := hi
        rw [hno] at hi'
        cases hi'
  refine ⟨hsess, fun hp => ?_, ?_⟩
  · rintro ⟨job, fd, ht⟩
    rcases destroyed_step h hp with hp0 | ⟨rfl, hx⟩
    · rcases deciding_step h e ht with hold | ⟨sid, hw⟩
      · exact hq.threads hp0 ⟨job, fd, hold⟩
      · rw [waits_of_none (hq.sessions hp0 sid)] at hw
        cases hw
    · rcases step_threads h .teardown job with h1 | ⟨_, h1⟩
      · rw [ht] at h1
        exact hgood ⟨rfl, hx, job, fd, h1.symm⟩
      · rw [ht] at h1
        cases h1
  · rw [faults_step h e hq.threads]
    exact hq.faults

/-- A thread that has decided to notify touches a selector that is destroyed, when it is destroyed before the notification. -/
theorem hasty_faults (h : Inv s) (hp : s.phase = .exited) {job : Nat} {fd : Int} (ht : s.threads job = .notifying fd) :
    .selectorDestroyed ∈ (step (step s .teardown) (.notify job true)).faults := by
  have hphase : (step s .teardown).phase = .destroyed := by simp [step, hp, teardown]
  have hthread : (step s .teardown).threads job = .notifying fd := by
    rcases step_threads h .teardown job with h1 | ⟨hle, _⟩
    · exact h1.trans ht
    · rw [(h.jobs.fresh job hle).1] at ht
      cases ht
  simp [step, notifyClient] at hphase hthread ⊢
  simp [hphase, hthread, Server.fault]

end Steps

section Run

variable (c : Config)

/-- In every run that does not destroy the selector under a thread that has decided to notify, no thread ever touches a selector
that is destroyed: once it is, no thread is left that has decided to notify, and none decides to any more. -/
theorem no_late_notice (es : List Event) (hgood : ∀ pre e post, es = pre ++ e :: post → ¬e.Hasty (run c.start pre)) :
    ((run c.start es).phase = .destroyed → ∀ job fd, (run c.start es).threads job ≠ .notifying fd) ∧
      .selectorDestroyed ∉ (run c.start es).faults := by
  have hq : Quiescent (run c.start es) := by
    induction es using List.reverseRecOn with
    | nil => exact ⟨fun hp => (nomatch hp), fun hp => (nomatch hp), rfl⟩
    | append_singleton es e ih =>
      rw [run_append]
      exact (ih fun pre e' post he => hgood pre e' (post ++ [e]) (by simp [he])).step (run_inv c es) (hgood es e [] rfl)
  refine ⟨fun hp job fd ht => hq.threads hp ⟨job, fd, ht⟩, ?_⟩
  rw [hq.faults]
  exact List.not_mem_nil

end Run

/-- A session waits for a name when a second signal ends the loop, and its thread gets the answer. -/
def endingWhileResolving : List Event :=
  [.read 3 { accepts := [.accepted 5 .ok true] }, .read 5 { recv := .data [5, 1, 0] }, .write 5 { sends := [.sent 2] },
    .read 5 { recv := .data [5, 1, 0, 3, 1, 97, 0, 80] }, .signal, .signal, .loopTest, .publish 1 0 []]

/-- The thread notifies before the selector is destroyed. -/
theorem no_late_notice_prompt :
    .selectorDestroyed ∉
      (run (Config.first .zeroed).start (endingWhileResolving ++ [.notify 1 true] ++ [.teardown])).faults := by
  refine (no_late_notice (Config.first .zeroed) _ fun pre e post he => ?_).2
  rintro ⟨rfl, _, job, fd, ht⟩
  -- the teardown is the last event, and no thread is left to notify then
  obtain ⟨hpre, _, _⟩ := (List.append_cons_inj_of_notMem (by simp [endingWhileResolving]) List.not_mem_nil).mp he
  subst hpre
  have hfresh := (run_inv (Config.first .zeroed) (endingWhileResolving ++ [.notify 1 true])).jobs.fresh job
  have hn : (run (Config.first .zeroed).start (endingWhileResolving ++ [.notify 1 true])).nextObject = 2 := by decide +kernel
  rw [hn] at hfresh
  rcases Nat.lt_or_ge job 2 with hlt | hge
  · have hnone : ∀ job < 2, (run (Config.first .zeroed).start (endingWhileResolving ++ [.notify 1 true])).threads job = .finished := by
      decide +kernel
    rw [hnone job hlt] at ht
    cases ht
  · rw [(hfresh hge).1] at ht
    cases ht

/-- The thread of this run has decided to notify when the selector is destroyed. -/
theorem late_notice :
    .selectorDestroyed ∈
      (run (Config.first .zeroed).start (endingWhileResolving ++ [.teardown] ++ [.notify 1 true])).faults := by
  rw [run_append, run_append]
  exact hasty_faults (run_inv _ _) (by decide +kernel) (show _ = ThreadPhase.notifying 5 by decide +kernel)

end SocksProxy
