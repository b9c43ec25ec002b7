import SocksProxy.Lemmas.Teardown

/-!
# The main loop and the threads

What one event does to the flags of the main loop, to the queue of notifications and to the threads. The handlers do nothing to
them, so this is the whole behaviour of `server_run` around its sessions.
-/

namespace SocksProxy

namespace Server

/-- The control part of the server after an event. -/
def controlAfter (s : Server) : Event → Control
  | .notifications _ => if s.phase = .running then { s.control with queue := [] } else s.control
  | .notify job allocated =>
    match s.threads job with
    | .notifying fd =>
      if !allocated then s.control
      else if s.phase = .destroyed then { s.control with faults := .selectorDestroyed :: s.faults }
      else { s.control with queue := fd :: s.selector.resolutionJobs }
    | _ => s.control
  | .signal =>
    if s.shutdownRequested then { s.control with forceShutdown := true } else { s.control with shutdownRequested := true }
  | .shutdownCheck =>
    if s.phase = .running then
      let stopped := s.stoppedAccepting || s.shutdownRequested
      { s.control with
        stoppedAccepting := stopped
        phase := if stopped && s.activeClientConnections == 0 then .exited else .running }
    else s.control
  | .loopTest => if s.phase = .running ∧ s.forceShutdown = true then { s.control with phase := .exited } else s.control
  | .teardown => if s.phase = .exited then { s.control with phase := .destroyed, queue := [] } else s.control
  | _ => s.control

/-- Where the thread of a job stands after an event. -/
def threadAfter (s : Server) (job : Nat) : Event → ThreadPhase
  | .publish job' _ _ =>
    if job' = job ∧ s.threads job = .resolving then
      match s.jobs job with
      | none => s.threads job
      | some record => if record.state.isSome then .notifying record.clientFd else .releasing
    else s.threads job
  | .notify job' _ =>
    if job' = job then
      match s.threads job with
      | .notifying _ => .finished
      | phase => phase
    else s.threads job
  | .release job' => if job' = job ∧ s.threads job = .releasing then .finished else s.threads job
  | _ => s.threads job

end Server

section Events

variable {s : Server}

/-- An event of the selector disturbs nobody. -/
theorem step_read_undisturbed (h : Inv s) (fd : Int) (a : Answers) : Undisturbed s (step s (.read fd a)) := by
  simp only [step]
  split
  · exact .refl s
  · rename_i item hi
    split
    · rename_i hc
      exact (handleRead_inv h hc.1 hi hc.2 a).2.2
    · exact .refl s

/-- An event of the selector disturbs nobody. -/
theorem step_write_undisturbed (h : Inv s) (fd : Int) (a : Answers) : Undisturbed s (step s (.write fd a)) := by
  simp only [step]
  split
  · exact .refl s
  · rename_i item hi
    split
    · rename_i hc
      exact (handleWrite_inv h hc.1 hi hc.2 a).2.2
    · exact .refl s

/-- The draining of the queue disturbs nobody, but empties the queue. -/
theorem handleBlockNotifications_undisturbed (h : Inv s) (hp : s.phase ≠ .destroyed) (as : List Answers) :
    ∃ s1, Undisturbed s s1 ∧ Unheard s s1 ∧
      handleBlockNotifications s as = { s1 with selector := { s1.selector with resolutionJobs := [] } } :=
  ⟨_, (h.draining hp (List.append_nil _).symm as as).undisturbed, (h.draining hp (List.append_nil _).symm as as).unheard, rfl⟩

/-- The kernel's part of a connection disturbs nobody. -/
theorem connectDone_undisturbed (s : Server) (fd : Int) (error : Nat) : Undisturbed s (connectDone s fd error) := by
  unfold connectDone
  split
  · split
    · unfold Server.setConnect
      split
      · exact .same rfl rfl (Nat.le_refl _) rfl fun _ => rfl
      · exact .refl s
    · exact .refl s
  · exact .refl s

/-- What the main loop does to a server on which it acts: it closes the listeners, if it is asked to and they still stand. -/
theorem shutdownCheck_stops (h : Inv s) (hp : s.phase ≠ .destroyed) :
    ∃ s1, Undisturbed { s with stoppedAccepting := s.stoppedAccepting || s.shutdownRequested } s1 ∧
      s1.activeClientConnections = s.activeClientConnections ∧ s1.sessions = s.sessions ∧ s1.jobs = s.jobs ∧ Unheard s s1 ∧
      shutdownCheck s =
        if s1.stoppedAccepting && s1.activeClientConnections == 0 then { s1 with phase := .exited } else s1 := by
  by_cases hc : (s.shutdownRequested && !s.stoppedAccepting) = true
  · have hsa : s.stoppedAccepting = false ∧ s.shutdownRequested = true := by
      simpa [and_comm] using hc
    obtain ⟨hr, hr'⟩ := h.listening.registered hsa.1 hp
    have hst := closeListeners_stopped (s := { s with stoppedAccepting := true }) { h.own with } hr hr'
    obtain ⟨obs, htr, _, hacc⟩ := hst.aside.trace
    refine ⟨closeListeners { s with stoppedAccepting := true }, ?_, ?_, hst.aside.sessions, hst.jobs, { hst.unheard with }, ?_⟩
    · rw [show (s.stoppedAccepting || s.shutdownRequested) = true by rw [hsa.2, Bool.or_true]]
      exact hst.undisturbed
    · exact hst.active
    · unfold shutdownCheck
      rw [if_pos hc]
  · refine ⟨s, ?_, rfl, rfl, rfl, .refl s, ?_⟩
    · have : (s.stoppedAccepting || s.shutdownRequested) = s.stoppedAccepting := by
        revert hc
        cases s.stoppedAccepting <;> cases s.shutdownRequested <;> simp
      rw [this]
      exact .refl s
    · unfold shutdownCheck
      rw [if_neg hc]

/-- The end of the server leaves no slot, and disturbs nobody but by ending. -/
theorem teardown_undisturbed (h : Inv s) (hp : s.phase ≠ .destroyed) :
    ∃ s1, Undisturbed s s1 ∧ Unheard s s1 ∧ (∀ fd, s1.selector.slot fd = none) ∧
      teardown s = { s1 with phase := .destroyed, selector := { s1.selector with resolutionJobs := [] } } :=
  ⟨_, (destroyUntil_ending h hp s.selector.fdSize).1.undisturbed, (destroyUntil_ending h hp s.selector.fdSize).1.unheard,
    slot_destroyUntil h hp, rfl⟩

/-- What an event does to the control part. -/
theorem step_control (h : Inv s) (e : Event) : (step s e).control = s.controlAfter e := by
  cases e with
  | read fd a => exact (step_read_undisturbed h fd a).control
  | write fd a => exact (step_write_undisturbed h fd a).control
  | notifications as =>
    simp only [step, Server.controlAfter]
    split
    · rename_i hp
      obtain ⟨s1, hu, _, heq⟩ := handleBlockNotifications_undisturbed h (by simp [hp]) as
      rw [heq, ← hu.control]
      rfl
    · rfl
  | publish job status result =>
    simp only [step, publishResult, Server.controlAfter]
    split
    · rename_i hp
      obtain ⟨record, hr, _⟩ := h.jobs.resolving job hp
      rw [hr]
      rfl
    · rfl
  | notify job allocated =>
    simp only [step, notifyClient, Server.controlAfter]
    cases s.threads job with
    | notifying fd =>
      dsimp only
      split
      · rfl
      · split <;> rfl
    | _ => rfl
  | release job =>
    simp only [step, releaseJob, Server.controlAfter]
    split
    · rename_i hp
      obtain ⟨record, hr, _⟩ := h.jobs.releasing job hp
      rw [hr]
      rfl
    · rfl
  | connectDone fd error => exact (connectDone_undisturbed s fd error).control
  | signal =>
    simp only [step, sigtermHandler, Server.controlAfter]
    split <;> rfl
  | shutdownCheck =>
    simp only [step, Server.controlAfter]
    split
    · rename_i hp
      obtain ⟨s1, hu, ha, _, _, _, heq⟩ := shutdownCheck_stops h (by simp [hp])
      have hc := hu.control
      have hsa : s1.stoppedAccepting = (s.stoppedAccepting || s.shutdownRequested) := congrArg Control.stoppedAccepting hc
      rw [heq, show (s1.stoppedAccepting && s1.activeClientConnections == 0) =
        ((s.stoppedAccepting || s.shutdownRequested) && s.activeClientConnections == 0) by rw [hsa, ha]]
      by_cases hend : ((s.stoppedAccepting || s.shutdownRequested) && s.activeClientConnections == 0) = true
      · rw [if_pos hend, if_pos hend]
        exact congrArg (fun c : Control => { c with phase := .exited }) hc
      · rw [if_neg hend, if_neg hend, ← hp]
        exact hc
    · rfl
  | loopTest =>
    simp only [step, loopTest, Server.controlAfter]
    by_cases hp : s.phase = .running
    · by_cases hf : s.forceShutdown = true
      · rw [if_pos hp, if_pos hf, if_pos ⟨hp, hf⟩]
        rfl
      · rw [if_pos hp, if_neg hf, if_neg fun hc => hf hc.2]
    · rw [if_neg hp, if_neg fun hc => hp hc.1]
  | teardown =>
    simp only [step, Server.controlAfter]
    split
    · rename_i hp
      obtain ⟨s1, hu, _, _, heq⟩ := teardown_undisturbed h (by simp [hp])
      rw [heq, ← hu.control]
      rfl
    · rfl

/-- The event calls the accept handler of a listener. -/
def Event.Accepts (s : Server) (e : Event) : Prop :=
  ∃ fd a item, e = .read fd a ∧ s.phase = .running ∧ s.selector.slot fd = some item ∧ item.Listens

/-- The management connection whose read handler an event calls, and what the kernel answers it. -/
def Server.managementReads (s : Server) : Event → Option (Nat × Answers)
  | .read fd a =>
    match s.selector.slot fd with
    | none => none
    | some item =>
      if s.phase = .running ∧ item.interest.read = true ∧ item.handler = some .managementClientHandler then
        item.data.map (·, a)
      else none
  | _ => none

/-- An event that calls the read handler of a management connection reads the connection's slot. -/
theorem Server.managementReads_some (h : Inv s) {e : Event} {mid : Nat} {a : Answers} (hm : s.managementReads e = some (mid, a)) :
    ∃ fd item, ManagementSlot s mid fd item ∧ step s e = managementRead s { fd := item.fd, data := item.data } a := by
  unfold Server.managementReads at hm
  split at hm
  · rename_i fd a'
    split at hm
    · cases hm
    · rename_i item hi
      split at hm
      · rename_i hc
        obtain ⟨mid', hslot⟩ := h.own.managementSlot hi hc.2.2
        rw [hslot.data] at hm
        cases hm
        refine ⟨fd, item, hslot, ?_⟩
        simp only [step, hi]
        rw [if_pos ⟨hc.1, hc.2.1⟩, hc.2.2]
        rfl
      · cases hm
  · cases hm

/-- An event that calls neither an accept handler nor the read handler of a management connection brings nobody, and hears
nothing. -/
theorem step_unheard (h : Inv s) (e : Event) (hn : ¬e.Accepts s) (hm : s.managementReads e = none) :
    Unheard s (step s e) := by
  cases e with
  | read fd a =>
    simp only [step]
    split
    · exact .refl s
    · rename_i item hi
      split
      · rename_i hc
        refine handleRead_unheard h hc.1 hi hc.2 (fun hl => hn ⟨fd, a, item, rfl, hc.1, hi, hl⟩) (fun hh => ?_) a
        obtain ⟨mid, hslot⟩ := h.own.managementSlot hi hh
        simp only [Server.managementReads, hi] at hm
        rw [if_pos ⟨hc.1, hc.2, hh⟩, hslot.data] at hm
        cases hm
      · exact .refl s
  | write fd a =>
    simp only [step]
    split
    · exact .refl s
    · rename_i item hi
      split
      · rename_i hc
        exact handleWrite_unheard h hc.1 hi hc.2 a
      · exact .refl s
  | notifications as =>
    simp only [step]
    split
    · rename_i hp
      obtain ⟨s1, _, hu, heq⟩ := handleBlockNotifications_undisturbed h (by simp [hp]) as
      rw [heq]
      exact { hu with }
    · exact .refl s
  | publish job status result =>
    simp only [step, publishResult]
    split
    · cases s.jobs job <;> exact .same rfl rfl (fun _ => rfl) rfl
    · exact .refl s
  | notify job allocated =>
    simp only [step, notifyClient]
    cases s.threads job with
    | notifying fd =>
      dsimp only
      split
      · exact .same rfl rfl (fun _ => rfl) rfl
      · split <;> exact .same rfl rfl (fun _ => rfl) rfl
    | _ => exact .refl s
  | release job =>
    simp only [step, releaseJob]
    split
    · cases s.jobs job <;> exact .same rfl rfl (fun _ => rfl) rfl
    · exact .refl s
  | connectDone fd error =>
    simp only [step, connectDone, Server.setConnect]
    cases s.files fd with
    | none => exact .refl s
    | some file =>
      dsimp only
      split
      · exact .same rfl rfl (fun _ => rfl) rfl
      · exact .refl s
  | signal =>
    simp only [step, sigtermHandler]
    split <;> exact .same rfl rfl (fun _ => rfl) rfl
  | shutdownCheck =>
    simp only [step]
    split
    · rename_i hp
      obtain ⟨s1, _, _, _, _, hu, heq⟩ := shutdownCheck_stops h (by simp [hp])
      rw [heq]
      split <;> exact { hu with }
    · exact .refl s
  | loopTest =>
    simp only [step, loopTest]
    split
    · split
      · exact .same rfl rfl (fun _ => rfl) rfl
      · exact .refl s
    · exact .refl s
  | teardown =>
    simp only [step]
    split
    · rename_i hp
      obtain ⟨s1, _, hu, _, heq⟩ := teardown_undisturbed h (by simp [hp])
      rw [heq]
      exact { hu with }
    · exact .refl s

/-- An event that calls no accept handler brings no session and no management connection. -/
theorem step_unjoined (h : Inv s) (e : Event) (hn : ¬e.Accepts s) : Unjoined s (step s e) := by
  cases hm : s.managementReads e with
  | none => exact (step_unheard h e hn hm).toUnjoined
  | some r =>
    obtain ⟨fd, item, hslot, heq⟩ := Server.managementReads_some h hm
    obtain ⟨state, hst⟩ := hslot.state
    rw [heq]
    exact .of_managed (by simp [hst]) (managementRead_managed h.own hslot r.2)

/-- How the server leaves its loop, and how it ends: an event changes the phase in no other way. -/
theorem phase_step (h : Inv s) (e : Event) :
    (step s e).phase = s.phase ∨
    s.phase = .running ∧ (step s e).phase = .exited ∧ (e = .loopTest ∧ s.forceShutdown = true ∨
      e = .shutdownCheck ∧ (step s e).stoppedAccepting = true ∧ s.activeClientConnections = 0) ∨
    e = .teardown ∧ s.phase = .exited ∧ (step s e).phase = .destroyed := by
  have hc := step_control h e
  have hp : (step s e).phase = (s.controlAfter e).phase := congrArg Control.phase hc
  have hsa : (step s e).stoppedAccepting = (s.controlAfter e).stoppedAccepting := congrArg Control.stoppedAccepting hc
  rw [hp, hsa]
  cases e with
  | shutdownCheck =>
    simp only [Server.controlAfter]
    split
    · rename_i hr
      dsimp only
      split
      · rename_i hend
        rw [Bool.and_eq_true, beq_iff_eq] at hend
        exact .inr (.inl ⟨hr, rfl, .inr ⟨trivial, hend⟩⟩)
      · exact .inl hr.symm
    · exact .inl rfl
  | loopTest =>
    simp only [Server.controlAfter]
    split
    · rename_i hr
      exact .inr (.inl ⟨hr.1, rfl, .inl ⟨trivial, hr.2⟩⟩)
    · exact .inl rfl
  | teardown =>
    simp only [Server.controlAfter]
    split
    · rename_i hx
      exact .inr (.inr ⟨trivial, hx, rfl⟩)
    · exact .inl rfl
  | notifications as =>
    simp only [Server.controlAfter]
    split <;> exact .inl rfl
  | notify job allocated =>
    simp only [Server.controlAfter]
    cases s.threads job with
    | notifying fd =>
      dsimp only
      split
      · exact .inl rfl
      · split <;> exact .inl rfl
    | _ => exact .inl rfl
  | signal =>
    simp only [Server.controlAfter]
    split <;> exact .inl rfl
  | _ => exact .inl rfl

/-- Publishing a result decides what its thread does next. -/
theorem publishResult_threads (jobs : JobsOwned s) (job' : Nat) (status : Int) (result : List AddrInfo) (job : Nat) :
    (publishResult s job' status result).threads job = s.threadAfter job (.publish job' status result) := by
  simp only [publishResult, Server.threadAfter]
  by_cases he : job' = job
  · subst he
    by_cases hp : s.threads job' = .resolving
    · obtain ⟨record, hr, _⟩ := jobs.resolving job' hp
      simp [hp, hr]
    · simp [hp]
  · rw [if_neg (show ¬(job' = job ∧ s.threads job = .resolving) from fun hc => he hc.1)]
    split
    · cases s.jobs job' with
      | none => rfl
      | some record => exact Function.update_of_ne (Ne.symm he) _ _
    · rfl

/-- A notification is the last thing its thread does. -/
theorem notifyClient_threads (s : Server) (job' : Nat) (allocated : Bool) (job : Nat) :
    (notifyClient s job' allocated).threads job = s.threadAfter job (.notify job' allocated) := by
  have hupdate : ∀ fd, s.threads job' = .notifying fd →
      (notifyClient s job' allocated).threads = Function.update s.threads job' .finished := by
    intro fd ht
    simp only [notifyClient, ht]
    cases allocated with
    | false => rfl
    | true =>
      rw [if_neg (by simp)]
      split <;> rfl
  simp only [Server.threadAfter]
  cases ht : s.threads job' with
  | notifying fd =>
    rw [hupdate fd ht]
    by_cases he : job' = job
    · subst he
      rw [Function.update_self, if_pos rfl, ht]
    · rw [Function.update_of_ne (Ne.symm he), if_neg he]
  | _ =>
    simp only [notifyClient, ht]
    split
    · subst_vars
      rw [ht]
    · rfl

/-- A release is the last thing its thread does. -/
theorem releaseJob_threads (jobs : JobsOwned s) (job' job : Nat) :
    (releaseJob s job').threads job = s.threadAfter job (.release job') := by
  simp only [releaseJob, Server.threadAfter]
  by_cases he : job' = job
  · subst he
    by_cases hp : s.threads job' = .releasing
    · obtain ⟨record, hr, _⟩ := jobs.releasing job' hp
      simp [hp, hr]
    · simp [hp]
  · rw [if_neg (show ¬(job' = job ∧ s.threads job = .releasing) from fun hc => he hc.1)]
    split
    · cases s.jobs job' with
      | none => rfl
      | some record => exact Function.update_of_ne (Ne.symm he) _ _
    · rfl

/-- What an event does to the thread of a job, unless it starts the thread. -/
theorem step_threads (h : Inv s) (e : Event) (job : Nat) :
    (step s e).threads job = s.threadAfter job e ∨ s.nextObject ≤ job ∧ (step s e).threads job = .resolving := by
  cases e with
  | read fd a => exact (step_read_undisturbed h fd a).threads job
  | write fd a => exact (step_write_undisturbed h fd a).threads job
  | notifications as =>
    simp only [step]
    split
    · rename_i hp
      obtain ⟨s1, hu, _, heq⟩ := handleBlockNotifications_undisturbed h (by simp [hp]) as
      rw [heq]
      exact hu.threads job
    · exact .inl rfl
  | publish job' status result => exact .inl (publishResult_threads h.jobs job' status result job)
  | notify job' allocated => exact .inl (notifyClient_threads s job' allocated job)
  | release job' => exact .inl (releaseJob_threads h.jobs job' job)
  | connectDone fd error => exact (connectDone_undisturbed s fd error).threads job
  | signal =>
    refine .inl ?_
    simp only [step, sigtermHandler]
    split <;> rfl
  | shutdownCheck =>
    simp only [step]
    split
    · rename_i hp
      obtain ⟨s1, hu, _, _, _, _, heq⟩ := shutdownCheck_stops h (by simp [hp])
      rw [heq]
      split <;> exact hu.threads job
    · exact .inl rfl
  | loopTest =>
    refine .inl ?_
    simp only [step, loopTest]
    split
    · split <;> rfl
    · rfl
  | teardown =>
    simp only [step]
    split
    · rename_i hp
      obtain ⟨s1, hu, _, _, heq⟩ := teardown_undisturbed h (by simp [hp])
      rw [heq]
      exact hu.threads job
    · exact .inl rfl

/-- Numbers are only ever given out, a session never comes to wait for a job that was there before, and no result comes but what
the job's thread publishes. -/
theorem step_jobs (h : Inv s) (e : Event) :
    s.nextObject ≤ (step s e).nextObject ∧
    (∀ sid job, job < s.nextObject → s.Spares sid job → (step s e).Spares sid job) ∧
    ∀ job, (step s e).resultOf job = none ∨ (step s e).resultOf job = s.resultOf job ∨
      ∃ status result, e = .publish job status result ∧ s.threads job = .resolving ∧
        (step s e).resultOf job = some (status, result) := by
  have hof : ∀ {s' : Server}, s.nextObject ≤ s'.nextObject →
      (∀ sid job, job < s.nextObject → s.Spares sid job → s'.Spares sid job) →
      (∀ job, s'.resultOf job = none ∨ s'.resultOf job = s.resultOf job) →
      s.nextObject ≤ s'.nextObject ∧ (∀ sid job, job < s.nextObject → s.Spares sid job → s'.Spares sid job) ∧
      ∀ job, s'.resultOf job = none ∨ s'.resultOf job = s.resultOf job ∨
        ∃ status result, e = .publish job status result ∧ s.threads job = .resolving ∧ s'.resultOf job = some (status, result) :=
    fun hn hs hr => ⟨hn, hs, fun job => (hr job).imp id .inl⟩
  have hsame : s.nextObject ≤ s.nextObject ∧ (∀ sid job, job < s.nextObject → s.Spares sid job → s.Spares sid job) ∧
      ∀ job, s.resultOf job = none ∨ s.resultOf job = s.resultOf job := ⟨Nat.le_refl _, fun _ _ _ hs => hs, fun _ => .inr rfl⟩
  cases e with
  | read fd a => exact hof (step_read_undisturbed h fd a).nextObject (step_read_undisturbed h fd a).spares (step_read_undisturbed h fd a).results
  | write fd a => exact hof (step_write_undisturbed h fd a).nextObject (step_write_undisturbed h fd a).spares (step_write_undisturbed h fd a).results
  | notifications as =>
    simp only [step]
    split
    · rename_i hp
      obtain ⟨s1, hu, _, heq⟩ := handleBlockNotifications_undisturbed h (by simp [hp]) as
      rw [heq]
      exact hof hu.nextObject hu.spares hu.results
    · exact hof hsame.1 hsame.2.1 hsame.2.2
  | publish job' status result =>
    simp only [step, publishResult]
    split
    · rename_i hp
      obtain ⟨record, hr, _⟩ := h.jobs.resolving job' hp
      rw [hr]
      refine ⟨Nat.le_refl _, fun _ _ _ hs => hs, fun job => ?_⟩
      by_cases he : job = job'
      · subst he
        exact .inr (.inr ⟨status, result, rfl, hp, by simp [Server.resultOf]⟩)
      · exact .inr (.inl (Server.resultOf_congr (Function.update_of_ne he _ _)))
    · exact hof hsame.1 hsame.2.1 hsame.2.2
  | notify job' allocated =>
    simp only [step, notifyClient]
    cases s.threads job' with
    | notifying fd =>
      dsimp only
      split
      · exact hof hsame.1 hsame.2.1 hsame.2.2
      · split <;> exact hof hsame.1 hsame.2.1 hsame.2.2
    | _ => exact hof hsame.1 hsame.2.1 hsame.2.2
  | release job' =>
    simp only [step, releaseJob]
    split
    · rename_i hp
      obtain ⟨record, hr, _⟩ := h.jobs.releasing job' hp
      rw [hr]
      refine ⟨Nat.le_refl _, fun _ _ _ hs => hs, fun job => ?_⟩
      by_cases he : job = job'
      · subst he
        exact .inl (by simp [Server.resultOf])
      · exact .inr (.inl (Server.resultOf_congr (Function.update_of_ne he _ _)))
    · exact hof hsame.1 hsame.2.1 hsame.2.2
  | connectDone fd error => exact hof (connectDone_undisturbed s fd error).nextObject (connectDone_undisturbed s fd error).spares (connectDone_undisturbed s fd error).results
  | signal =>
    simp only [step, sigtermHandler]
    split <;> exact hof hsame.1 hsame.2.1 hsame.2.2
  | shutdownCheck =>
    simp only [step]
    split
    · rename_i hp
      obtain ⟨s1, hu, _, _, _, _, heq⟩ := shutdownCheck_stops h (by simp [hp])
      rw [heq]
      split <;> exact hof hu.nextObject hu.spares hu.results
    · exact hof hsame.1 hsame.2.1 hsame.2.2
  | loopTest =>
    simp only [step, loopTest]
    split
    · split
      · exact hof hsame.1 hsame.2.1 hsame.2.2
      · exact hof hsame.1 hsame.2.1 hsame.2.2
    · exact hof hsame.1 hsame.2.1 hsame.2.2
  | teardown =>
    simp only [step]
    split
    · rename_i hp
      obtain ⟨s1, hu, _, _, heq⟩ := teardown_undisturbed h (by simp [hp])
      rw [heq]
      exact hof hu.nextObject hu.spares hu.results
    · exact hof hsame.1 hsame.2.1 hsame.2.2

/-! ## What a waiting session is left with -/

/-- The slots of a session that waits for a resolver are watched for nothing. -/
theorem Inv.noop_of_waits (h : Inv s) {sid job : Nat} {fd : Int} (hw : s.waits sid = some (job, fd)) {fd' : Int}
    {item : Item FdHandler Nat} (hi : s.selector.slot fd' = some item) (ho : item.Of sid) : item.interest = opNoop := by
  obtain ⟨state, hs, _, hj⟩ := session_of_waits hw
  have ready := h.ready_live (Server.life_of_some hs)
  have hst : state.stage = .resolving := ready.resolver.mp (by simp [Server.viewOf, hj])
  have ht : state.targetFd = -1 := ready.no_target (by simp [Server.viewOf, hst]) (by simp [Server.viewOf, hst])
  have hc : (s.viewOf state).clientInterest = some opNoop := (ready.silent (.inl hst)).2.2.2
  obtain ⟨state', hs', hfd⟩ := h.own.fd_of_slot hi ho
  rw [hs] at hs'
  cases hs'
  rcases hfd with ⟨_, rfl⟩ | ⟨_, hfd⟩
  · simpa [Server.viewOf, Server.interest, hi] using hc
  · rw [← hfd, ht] at hi
    simp at hi

/-- A handler that runs for a slot leaves every session waiting that waits for a result that is there: it runs for somebody else. -/
theorem Frame.awaits_of_slot (h : Inv s) {s' : Server} {sid sid' job : Nat} {fd fd' : Int} {record : ResolverJob}
    {item : Item FdHandler Nat} {acts : List Act} (hi : s.selector.slot fd' = some item) (ho : item.Of sid')
    (hne : item.interest ≠ opNoop) (fr : Frame sid' s s' acts) (ha : s.Awaits sid job fd record) : s'.Awaits sid job fd record := by
  refine fr.awaits h.jobs ?_ ha
  rintro rfl
  exact hne (h.noop_of_waits ha.waits hi ho)

/-- What a session waits for is the same when the sessions and the jobs are. -/
theorem Server.Awaits.congr {s' : Server} {sid job : Nat} {fd : Int} {record : ResolverJob} (ha : s.Awaits sid job fd record)
    (hs : s'.sessions sid = s.sessions sid) (hj : s'.jobs job = s.jobs job) : s'.Awaits sid job fd record :=
  ⟨(waits_congr hs).trans ha.waits, hj.trans ha.job, ha.done⟩

/-- The handler of a management connection leaves every session waiting. -/
theorem Managed.awaits {s' : Server} {mid : Nat} {fd0 : Int} (hm : Managed mid fd0 s s') {sid job : Nat} {fd : Int}
    {record : ResolverJob} (ha : s.Awaits sid job fd record) : s'.Awaits sid job fd record :=
  ha.congr (congrFun (congrArg Quiet.sessions hm.quiet) sid) (congrFun (congrArg Quiet.jobs hm.quiet) job)

/-- The turns of an accept loop leave every session waiting. -/
theorem turns_awaits {sid job : Nat} {fd : Int} {record : ResolverJob} :
    Turns fun s => Sound s ∧ s.Awaits sid job fd record where
  own := fun h => h.1.own
  fail := fun {s} h e => ⟨(h.1.setErrno e : _ ∧ Lives (s.env .signal) _ _).1.toSound, h.2.congr rfl rfl⟩
  blink := fun {s _} h hf => ⟨(h.1.blink hf : _ ∧ Lives (s.env .signal) _ _).1, h.2.congr rfl rfl⟩
  skip := fun {s} h => ⟨(h.1.skip : _ ∧ Lives (s.env .signal) _ _).1, h.2.congr rfl rfl⟩

/-- The accept loop of the clients leaves every session waiting. -/
theorem acceptConnection_awaits (h : Sound s) {sid job : Nat} {fd : Int} {record : ResolverJob}
    (ha : s.Awaits sid job fd record) (accepts : List AcceptResult) : (acceptConnection s accepts).Awaits sid job fd record := by
  have henroll : ∀ {s : Server} {fd' : Int}, Sound s ∧ s.Awaits sid job fd record → invalidFd fd' = false → s.files fd' = none →
      Sound (s.enroll fd') ∧ (s.enroll fd').Awaits sid job fd record := by
    intro s fd' h1 hv hf
    refine ⟨(h1.1.enroll hv hf : _ ∧ Lives (s.env .signal) _ _).1, h1.2.congr (Function.update_of_ne ?_ _ _) rfl⟩
    rintro rfl
    have hw := h1.2.waits
    rw [waits_of_none (h1.1.own.fresh _ (Nat.le_refl _)).1] at hw
    cases hw
  obtain ⟨s1, e, h1, heq⟩ := acceptConnection_turns turns_awaits henroll ⟨h, ha⟩ accepts
  rw [heq]
  exact (turns_awaits.fail h1 e).2

/-- The accept loop of the management connections leaves every session waiting. -/
theorem acceptManagementConnection_awaits (h : Sound s) {sid job : Nat} {fd : Int} {record : ResolverJob}
    (ha : s.Awaits sid job fd record) (accepts : List AcceptResult) :
    (acceptManagementConnection s accepts).Awaits sid job fd record := by
  obtain ⟨s1, e, h1, heq⟩ := acceptManagementConnection_turns turns_awaits
    (fun {s _ _} h1 hm _ _ => ⟨(hm.sound h1.1 : _ ∧ Lives (s.env .signal) _ _).1, hm.awaits h1.2⟩) ⟨h, ha⟩ accepts
  rw [heq]
  exact (turns_awaits.fail h1 e).2

/-- A session that waits for a result that is there goes on waiting until the queue is drained or the selector destroyed: nothing
can close a client while it is resolving. -/
theorem step_awaits (h : Inv s) {e : Event} (hn : ∀ as, e ≠ .notifications as) (ht : e ≠ .teardown) {sid job : Nat} {fd : Int}
    {record : ResolverJob} (ha : s.Awaits sid job fd record) : (step s e).Awaits sid job fd record := by
  obtain ⟨record', hr', hst', _⟩ := h.jobs.owned sid job fd ha.waits
  rw [ha.job] at hr'
  cases hr'
  cases e with
  | read fd' a =>
    simp only [step]
    split
    · exact ha
    · rename_i item hi
      split
      · rename_i hc
        rcases h.own.slot_cases hi with ⟨sid', ho⟩ | ⟨mid, hm⟩ | hl | hl
        · obtain ⟨v, _, hh⟩ := handleRead_handled h hc.1 hi hc.2 ho a
          obtain ⟨acts, fr, _⟩ := hh.steps
          exact Frame.awaits_of_slot h hi ho (fun hno => by simp [hno, opNoop] at hc) fr ha
        · rw [hm.handler]
          exact (managementRead_managed h.own hm a).awaits ha
        · rw [hl]
          exact acceptConnection_awaits h.toSound ha a.accepts
        · rw [hl]
          exact acceptManagementConnection_awaits h.toSound ha a.accepts
      · exact ha
  | write fd' a =>
    simp only [step]
    split
    · exact ha
    · rename_i item hi
      split
      · rename_i hc
        rcases h.own.slot_cases hi with ⟨sid', ho⟩ | ⟨mid, hm⟩ | hl
        · obtain ⟨v, _, hh⟩ := handleWrite_handled h hc.1 hi hc.2 ho a
          obtain ⟨acts, fr, _⟩ := hh.steps
          exact Frame.awaits_of_slot h hi ho (fun hno => by simp [hno, opNoop] at hc) fr ha
        · rw [hm.handler]
          exact (managementWrite_managed h.own hm a.sends).awaits ha
        · exact absurd hl (h.not_listens hi hc.2)
      · exact ha
  | notifications as => exact absurd rfl (hn as)
  | publish job' status result =>
    simp only [step, publishResult]
    split
    · rename_i hp
      have hne : job ≠ job' := by
        rintro rfl
        exact h.jobs.done job record ha.job ha.done hp
      cases s.jobs job' with
      | none => exact ha.congr rfl rfl
      | some record' => exact ha.congr rfl (Function.update_of_ne hne _ _)
    · exact ha
  | notify job' allocated =>
    simp only [step, notifyClient]
    cases s.threads job' with
    | notifying fd' =>
      dsimp only
      split
      · exact ha.congr rfl rfl
      · split <;> exact ha.congr rfl rfl
    | _ => exact ha
  | release job' =>
    simp only [step, releaseJob]
    split
    · rename_i hp
      have hne : job ≠ job' := by
        rintro rfl
        obtain ⟨record', hr', hno⟩ := h.jobs.releasing job hp
        rw [ha.job] at hr'
        cases hr'
        rw [hst'] at hno
        cases hno
      cases s.jobs job' with
      | none => exact ha.congr rfl rfl
      | some record' => exact ha.congr rfl (Function.update_of_ne hne _ _)
    · exact ha
  | connectDone fd' error =>
    simp only [step, connectDone, Server.setConnect]
    cases s.files fd' with
    | none => exact ha
    | some file =>
      dsimp only
      split
      · exact ha.congr rfl rfl
      · exact ha
  | signal =>
    simp only [step, sigtermHandler]
    split <;> exact ha.congr rfl rfl
  | shutdownCheck =>
    simp only [step]
    split
    · rename_i hp
      obtain ⟨s1, _, _, hs, hj, _, heq⟩ := shutdownCheck_stops h (by simp [hp])
      rw [heq]
      split <;> exact ha.congr (congrFun hs sid) (congrFun hj job)
    · exact ha
  | loopTest =>
    simp only [step, loopTest]
    split
    · split
      · exact ha.congr rfl rfl
      · exact ha
    · exact ha
  | teardown => exact absurd rfl ht

end Events

end SocksProxy
