import SocksProxy.Lemmas.Managing

/-!
# What handlers leave to others

A handler serves a session, a management connection or a listener. Whatever it does there, it leaves the flags of the main loop
alone, the queue of notifications, and the threads that are there. What happens to these is the main loop's own business and the
threads'. And nobody registers a listener, and only the handlers of the listeners bring sessions and management connections.
-/

namespace SocksProxy

/-- What belongs to the main loop and to the threads, and the faults, which nobody commits. -/
structure Control where
  serverFd : Int
  managementFd : Int
  shutdownRequested : Bool
  forceShutdown : Bool
  stoppedAccepting : Bool
  phase : RunPhase
  queue : List Int
  faults : List Fault

/-- The part of a server that belongs to the main loop and to the threads. -/
def Server.control (s : Server) : Control where
  serverFd := s.serverFd
  managementFd := s.managementFd
  shutdownRequested := s.shutdownRequested
  forceShutdown := s.forceShutdown
  stoppedAccepting := s.stoppedAccepting
  phase := s.phase
  queue := s.selector.resolutionJobs
  faults := s.faults

/-- From one server to another, the main loop and the threads were not disturbed: a thread is only ever started, no result comes
or changes, and no session takes over a job that was there. -/
structure Undisturbed (s s' : Server) : Prop where
  control : s'.control = s.control
  threads : ∀ job, s'.threads job = s.threads job ∨ s.nextObject ≤ job ∧ s'.threads job = .resolving
  nextObject : s.nextObject ≤ s'.nextObject
  results : ∀ job, s'.resultOf job = none ∨ s'.resultOf job = s.resultOf job
  spares : ∀ sid job, job < s.nextObject → s.Spares sid job → s'.Spares sid job

/-- The threads and the jobs are the same, and the main loop was not disturbed. -/
theorem Undisturbed.same {s s' : Server} (control : s'.control = s.control) (threads : s'.threads = s.threads)
    (nextObject : s.nextObject ≤ s'.nextObject) (jobs : s'.jobs = s.jobs) (waits : ∀ sid, s'.waits sid = s.waits sid) :
    Undisturbed s s' :=
  ⟨control, fun job => .inl (congrFun threads job), nextObject, fun job => .inr (Server.resultOf_congr (congrFun jobs job)),
    fun sid _ _ hs => hs.congr (waits sid)⟩

namespace Undisturbed

variable {s s' s'' : Server}

/-- Nothing changed. -/
theorem refl (s : Server) : Undisturbed s s := .same rfl rfl (Nat.le_refl _) rfl fun _ => rfl

/-- One change after another. -/
theorem trans (h : Undisturbed s s') (h' : Undisturbed s' s'') : Undisturbed s s'' := by
  refine ⟨h'.control.trans h.control, fun job => ?_, Nat.le_trans h.nextObject h'.nextObject, fun job => ?_,
    fun sid job hlt hs => h'.spares sid job (Nat.lt_of_lt_of_le hlt h.nextObject) (h.spares sid job hlt hs)⟩
  · rcases h'.threads job with h1 | ⟨h1, h2⟩
    · rw [h1]
      exact h.threads job
    · exact .inr ⟨Nat.le_trans h.nextObject h1, h2⟩
  · rcases h'.results job with h1 | h1
    · exact .inl h1
    · rw [h1]
      exact h.results job

/-- A change around one session. -/
theorem of_frame {sid : Nat} {acts : List Act} (fr : Frame sid s s' acts) : Undisturbed s s' := by
  refine ⟨?_, fr.threads, fr.nextObject, fr.results, fun sid' job hlt hs => ?_⟩
  case refine_2 =>
    by_cases he : sid' = sid
    · subst he
      exact (fr.jobs job hlt hs).2
    · exact hs.congr (waits_congr (fr.sessions sid' he))
  have h := fr.shared
  unfold Server.control
  rw [show s'.serverFd = s.serverFd from congrArg Shared.serverFd h,
    show s'.managementFd = s.managementFd from congrArg Shared.managementFd h,
    show s'.shutdownRequested = s.shutdownRequested from congrArg Shared.shutdownRequested h,
    show s'.forceShutdown = s.forceShutdown from congrArg Shared.forceShutdown h,
    show s'.stoppedAccepting = s.stoppedAccepting from congrArg Shared.stoppedAccepting h,
    show s'.phase = s.phase from congrArg Shared.phase h,
    show s'.selector.resolutionJobs = s.selector.resolutionJobs from congrArg Shared.queue h,
    show s'.faults = s.faults from congrArg Shared.faults h]

/-- A change around one management connection. -/
theorem of_managed {mid : Nat} {fd0 : Int} (h : Managed mid fd0 s s') : Undisturbed s s' := by
  refine .same ?_ (congrArg Quiet.threads h.quiet) h.nextObject (congrArg Quiet.jobs h.quiet)
    fun sid => waits_congr (congrFun (congrArg Quiet.sessions h.quiet) sid)
  have hq := h.quiet
  unfold Server.control
  rw [show s'.serverFd = s.serverFd from congrArg Quiet.serverFd hq,
    show s'.managementFd = s.managementFd from congrArg Quiet.managementFd hq,
    show s'.shutdownRequested = s.shutdownRequested from congrArg Quiet.shutdownRequested hq,
    show s'.forceShutdown = s.forceShutdown from congrArg Quiet.forceShutdown hq,
    show s'.stoppedAccepting = s.stoppedAccepting from congrArg Quiet.stoppedAccepting hq,
    show s'.phase = s.phase from congrArg Quiet.phase hq,
    show s'.selector.resolutionJobs = s.selector.resolutionJobs from congrArg Quiet.queue hq,
    show s'.faults = s.faults from congrArg Quiet.faults hq]

end Undisturbed

/-- From one server to another, no session, no management connection and no listener came. -/
structure Unjoined (s s' : Server) : Prop where
  sessions : ∀ sid, s'.sessions sid ≠ none → s.sessions sid ≠ none
  managements : ∀ mid, s'.managements mid ≠ none → s.managements mid ≠ none
  listens : ∀ fd item, s'.selector.slot fd = some item → item.Listens → s.selector.slot fd = some item

namespace Unjoined

variable {s s' s'' : Server}

/-- The sessions, the management connections and the slots are the same. -/
theorem same (sessions : s'.sessions = s.sessions) (managements : s'.managements = s.managements)
    (slots : ∀ fd, s'.selector.slot fd = s.selector.slot fd) : Unjoined s s' :=
  ⟨fun _ h => sessions ▸ h, fun _ h => managements ▸ h, fun fd _ hi _ => (slots fd).symm.trans hi⟩

/-- Nothing changed. -/
theorem refl (s : Server) : Unjoined s s := .same rfl rfl fun _ => rfl

/-- One change after another. -/
theorem trans (h : Unjoined s s') (h' : Unjoined s' s'') : Unjoined s s'' :=
  ⟨fun sid hs => h.sessions sid (h'.sessions sid hs), fun mid hm => h.managements mid (h'.managements mid hm),
    fun fd item hi hl => h.listens fd item (h'.listens fd item hi hl) hl⟩

/-- A change around a session that was there. -/
theorem of_frame {sid : Nat} {acts : List Act} (hs : s.sessions sid ≠ none) (fr : Frame sid s s' acts) : Unjoined s s' := by
  refine ⟨fun sid' h => ?_, fun mid h => (Server.shared_eq fr.shared).1 ▸ h, fun fd item hi hl => fr.foreign fd item hi ?_⟩
  · by_cases he : sid' = sid
    · subst he
      exact hs
    · rw [← fr.sessions sid' he]
      exact h
  · rintro ⟨hh | hh, _⟩ <;> rcases hl with hl | hl <;> rw [hh] at hl <;> cases hl

/-- A change around a management connection that was there. -/
theorem of_managed {mid : Nat} {fd0 : Int} (hm : s.managements mid ≠ none) (h : Managed mid fd0 s s') : Unjoined s s' := by
  refine ⟨fun sid hs => ?_, fun mid' hmid => ?_, fun fd item hi hl => ?_⟩
  · rw [← show s'.sessions = s.sessions from congrArg Quiet.sessions h.quiet]
    exact hs
  · by_cases he : mid' = mid
    · subst he
      exact hm
    · rw [← h.managements mid' he]
      exact hmid
  · by_cases he : fd = fd0
    · subst he
      obtain ⟨_, hm, _⟩ := h.after item hi
      rcases hl with hh | hh <;> rw [hm] at hh <;> cases hh
    · exact (h.others fd he).1.symm.trans hi

end Unjoined

/-- From one server to another, nobody came and nothing was heard from a management connection: its line is the same and so is its
answer, of which more may have been sent, and the users are the same. -/
structure Unheard (s s' : Server) : Prop extends Unjoined s s' where
  users : s'.managedUsers = s.managedUsers
  input : ∀ mid state', s'.managements mid = some state' →
    ∃ state off, s.managements mid = some state ∧ state' = { state with writeOff := off }

namespace Unheard

variable {s s' s'' : Server}

/-- The sessions, the management connections, the slots and the users are the same. -/
theorem same (sessions : s'.sessions = s.sessions) (managements : s'.managements = s.managements)
    (slots : ∀ fd, s'.selector.slot fd = s.selector.slot fd) (users : s'.managedUsers = s.managedUsers) : Unheard s s' :=
  ⟨.same sessions managements slots, users, fun _ state h => ⟨state, _, managements ▸ h, rfl⟩⟩

/-- Nothing changed. -/
theorem refl (s : Server) : Unheard s s := .same rfl rfl (fun _ => rfl) rfl

/-- One change after another. -/
theorem trans (h : Unheard s s') (h' : Unheard s' s'') : Unheard s s'' := by
  refine ⟨h.toUnjoined.trans h'.toUnjoined, h'.users.trans h.users, fun mid state'' hm => ?_⟩
  obtain ⟨state', off', hm', rfl⟩ := h'.input mid state'' hm
  obtain ⟨state, off, hm0, rfl⟩ := h.input mid state' hm'
  exact ⟨state, off', hm0, rfl⟩

/-- A change around a session that was there. -/
theorem of_frame {sid : Nat} {acts : List Act} (hs : s.sessions sid ≠ none) (fr : Frame sid s s' acts) : Unheard s s' := by
  obtain ⟨hm, hu, _⟩ := Server.shared_eq fr.shared
  exact ⟨.of_frame hs fr, hu, fun _ state h => ⟨state, _, hm ▸ h, rfl⟩⟩

/-- A change around a management connection that was there, if it left the users, the line and the answer as they were. -/
theorem of_managed {mid : Nat} {fd : Int} {state : ManagementState} (hst : s.managements mid = some state)
    (h : Managed mid fd s s') (users : s'.managedUsers = s.managedUsers)
    (input : ∀ state', s'.managements mid = some state' → ∃ off, state' = { state with writeOff := off }) : Unheard s s' := by
  refine ⟨.of_managed (by simp [hst]) h, users, fun mid' state' hm => ?_⟩
  by_cases he : mid' = mid
  · subst he
    obtain ⟨off, heq⟩ := input state' hm
    exact ⟨state, off, hst, heq⟩
  · exact ⟨state', _, (h.managements mid' he).symm.trans hm, rfl⟩

/-- Unregistering a management connection. -/
theorem unregister_management {mid : Nat} {fd : Int} (own : Own s) {item : Item FdHandler Nat}
    (h : ManagementSlot s mid fd item) : Unheard s (s.unregister fd).1 := by
  obtain ⟨state, hst⟩ := h.state
  have heq := unregister_management_eq own h
  refine .of_managed hst (SocksProxy.unregister_management own h) (by rw [heq]; rfl) fun state' hm => ?_
  rw [heq, show (Server.forget { s with managements := Function.update s.managements mid none } fd).managements mid =
    none from Function.update_self ..] at hm
  cases hm

end Unheard

/-- `management_write` neither reads a line nor changes a user. -/
theorem managementWrite_unheard {s : Server} {mid : Nat} {fd : Int} (own : Own s) {item : Item FdHandler Nat}
    (h : ManagementSlot s mid fd item) (sends : List SendResult) :
    Unheard s (managementWrite s { fd := item.fd, data := item.data } sends) := by
  obtain ⟨state, hst⟩ := h.state
  unfold managementWrite
  rw [h.data, h.fd_eq]
  dsimp only
  rw [hst]
  dsimp only
  generalize sendLoop (state.writeBuffer.drop state.writeOff) sends = r
  obtain ⟨chunks, ending⟩ := r
  obtain ⟨w1, m1⟩ := putManagement_managed own h { state with writeOff := state.writeOff + chunks.flatten.length } s.managedUsers
  obtain ⟨w2, m2⟩ := afterSend_managed (w1.own own) m1 ending
  have h1 : Unheard s (s.putManagement mid { state with writeOff := state.writeOff + chunks.flatten.length }) := by
    refine .of_managed hst w1 rfl fun state' hm => ?_
    rw [show (s.putManagement mid _).managements mid = some _ from Function.update_self ..] at hm
    cases hm
    exact ⟨_, rfl⟩
  have h2 : Unheard s ((s.putManagement mid { state with writeOff := state.writeOff + chunks.flatten.length }).afterSend ending) := by
    refine h1.trans ?_
    match ending with
    | .drained => exact .refl _
    | .wouldBlock => exact .same rfl rfl (fun _ => rfl) rfl
    | .failed none => exact .refl _
    | .failed (some e) => exact .same rfl rfl (fun _ => rfl) rfl
  have h3 := Unheard.unregister_management (w2.own (w1.own own)) m2
  cases ending with
  | wouldBlock => exact h2
  | failed e => exact h2.trans h3
  | drained => exact h2.trans h3

end SocksProxy
