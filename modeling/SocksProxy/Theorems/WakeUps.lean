import SocksProxy.Theorems.EndOfStream

/-!
# Wake-ups

No session is left without the event that can move it on: in every stage the interest is registered, or the notification is on its
way, that the next step of the session waits for.
-/

namespace SocksProxy

namespace Server

/-- In each direction of a running relay the buffer is empty and the source is listened to, or bytes are pending and the
destination is waited for. -/
def RelayAwake (s : Server) (state : ClientState) : Prop :=
  (state.c2tBuffer = [] ∧ (∃ i, s.interest state.clientFd = some i ∧ i.read = true) ∨
    state.c2tOff < state.c2tLen ∧ ∃ i, s.interest state.targetFd = some i ∧ i.write = true) ∧
  (state.t2cBuffer = [] ∧ (∃ i, s.interest state.targetFd = some i ∧ i.read = true) ∨
    state.t2cOff < state.t2cLen ∧ ∃ i, s.interest state.clientFd = some i ∧ i.write = true)

/-- The wake-up that can advance a session is registered, by its stage. -/
def Wakes (s : Server) (state : ClientState) : Prop :=
  match state.stage with
  | .greeting | .auth | .request =>
    s.interest state.clientFd = some (if state.writeOff < state.writeLen then opWrite else opRead)
  | .resolving => ∃ job record, state.resolverJob = some job ∧ s.jobs job = some record ∧
      s.Coming s.selector.resolutionJobs job state.clientFd
  | .connecting => state.targetFd ≠ -1 ∧ s.interest state.targetFd = some opWrite
  | .closing => s.interest state.clientFd = some opWrite ∧ state.writeOff < state.writeLen
  | .relay =>
    if state.relayStarted then s.RelayAwake state
    else s.interest state.clientFd = some opWrite ∧ state.writeOff < state.writeLen

end Server

/-- A session that awaits a message of the handshake or has a reply to be taken has the interest for it. -/
theorem View.interest_of_pending {v : View} (h : v.Awaiting ∨ v.Answering) :
    v.clientInterest = some (if v.state.writeOff < v.state.writeLen then opWrite else opRead) := by
  rcases h with ⟨hw, ho, hi⟩ | ⟨hlt, _, hi⟩
  · rw [hi, if_neg]
    simp [ClientState.writeLen, hw, ho]
  · rw [hi, if_pos hlt]

/-- A relay buffer that is empty is not pending, and one that is not has something pending. -/
theorem View.Relaying.awake {s : Server} {state : ClientState} (h : (s.viewOf state).Relaying) : s.RelayAwake state := by
  obtain ⟨_, _, _, hc, ht, hcb, htb⟩ := h
  have hci : s.interest state.clientFd = some (relayInterests state).1 := hc
  have hti : s.interest state.targetFd = some (relayInterests state).2 := ht
  constructor
  · rcases hcb with ⟨hb, _⟩ | hlt
    · have hb : state.c2tBuffer = [] := hb
      exact .inl ⟨hb, _, hci, by simp [relayInterests, ClientState.c2tLen, hb]⟩
    · have hlt : state.c2tOff < state.c2tBuffer.length := hlt
      exact .inr ⟨hlt, _, hti, by simp [relayInterests, ClientState.c2tLen, hlt]⟩
  · rcases htb with ⟨hb, _⟩ | hlt
    · have hb : state.t2cBuffer = [] := hb
      exact .inl ⟨hb, _, hti, by simp [relayInterests, ClientState.t2cLen, hb]⟩
    · have hlt : state.t2cOff < state.t2cBuffer.length := hlt
      exact .inr ⟨hlt, _, hci, by simp [relayInterests, ClientState.t2cLen, hlt]⟩

/-- A client that resolves, connects or is about to be closed is not listened to. -/
theorem View.Ready.not_reading {v : View} (h : v.Ready)
    (hst : v.state.stage = .resolving ∨ v.state.stage = .connecting ∨ v.state.stage = .closing) :
    ∃ i, v.clientInterest = some i ∧ i.read = false := by
  have ha := h.awake
  unfold View.Awake at ha
  rcases hst with hst | hst | hst <;> simp only [hst] at ha
  · exact ⟨_, ha.2.2.2, rfl⟩
  · exact ⟨_, ha.1.2.2.2, rfl⟩
  · exact ⟨_, ha.2.2, rfl⟩

section Run

variable (c : Config)

/-- While no notification is lost, every session that waits has one on its way. -/
theorem run_attended (es : List Event) (hlost : ∀ e ∈ es, ¬e.Lost) :
    Attended (run c.start es).selector.resolutionJobs (run c.start es) := by
  induction es using List.reverseRecOn with
  | nil =>
    intro _ sid job fd hw
    cases hw
  | append_singleton es e ih =>
    have hold := ih fun e' he => hlost e' (List.mem_append_left _ he)
    exact (run_lives c es e).attended (fun _ => hlost e (by simp)) hold

/-- As long as no resolver thread fails to allocate its notification, every session that is there has registered the wake-up that
can advance it, in every state until the selector is destroyed; and `client_read` is never dispatched for a session in `RESOLVING`,
`CONNECTING` or `CLOSING`. -/
theorem wake_ups_registered (es : List Event) (hlost : ∀ e ∈ es, ¬e.Lost) (hp : (run c.start es).phase ≠ .destroyed) {sid : Nat}
    {state : ClientState} (hs : (run c.start es).sessions sid = some state) :
    (run c.start es).Wakes state ∧
    (state.stage = .resolving ∨ state.stage = .connecting ∨ state.stage = .closing →
      ∀ a, step (run c.start es) (.read state.clientFd a) = run c.start es) := by
  have hi := run_inv c es
  have hatt := run_attended c es hlost
  generalize run c.start es = s at hi hatt hp hs ⊢
  have ready := hi.ready_live (Server.life_of_some hs)
  have ha := ready.awake
  refine ⟨?_, fun hst a => ?_⟩
  · unfold View.Awake at ha
    unfold Server.Wakes
    rw [show (s.viewOf state).state = state from rfl] at ha
    cases hst : state.stage <;> simp only [hst] at ha ⊢
    case greeting => exact View.interest_of_pending (.inl ha)
    case auth => exact View.interest_of_pending ha
    case request => exact View.interest_of_pending ha
    case resolving =>
      obtain ⟨job, hj⟩ := Option.isSome_iff_exists.mp (ready.resolver.mpr hst)
      have hj : state.resolverJob = some job := hj
      have hw : s.waits sid = some (job, state.clientFd) := by simp [waits_of_some hs, hj]
      obtain ⟨record, hr, _⟩ := hi.jobs.owned sid job _ hw
      exact ⟨job, record, hj, hr, hatt hp sid job _ hw⟩
    case connecting => exact ⟨ready.target.mpr (.inl hst), ha.2.1⟩
    case relay =>
      split at ha
      · rename_i hstarted
        rw [if_pos hstarted]
        exact ha.awake
      · rename_i hstarted
        rw [if_neg hstarted]
        exact ⟨ha.1.2.2, ha.1.1⟩
    case closing => exact ⟨ha.2.2, ha.1⟩
  · obtain ⟨i, hci, hread⟩ := ready.not_reading hst
    obtain ⟨item, hslot, hitem⟩ := Option.map_eq_some_iff.mp hci
    have hslot : s.selector.slot state.clientFd = some item := hslot
    rw [← hitem] at hread
    simp [step, hslot, hread]

end Run

/-- A session whose domain has been resolved: the thread has pushed its notification, which waits to be dequeued. -/
def resolvedRun : List Event :=
  [.read 3 { accepts := [.accepted 5 .ok true] }, .read 5 { recv := .data [5, 1, 0] }, .write 5 { sends := [.sent 2] },
    .read 5 { recv := .data [5, 1, 0, 3, 1, 97, 0, 80] },
    .publish 1 0 [{ family := .inet, addr := .zeroed }], .notify 1 true]

/-- The session of this run waits for the notification in the queue. -/
theorem wake_ups_registered_resolved : ∃ state, (run (Config.first .zeroed).start resolvedRun).sessions 0 = some state ∧
    (run (Config.first .zeroed).start resolvedRun).Wakes state := by
  have hs := (Option.some_get (x := (run (Config.first .zeroed).start resolvedRun).sessions 0) (by decide +kernel)).symm
  refine ⟨_, hs, (wake_ups_registered (Config.first .zeroed) resolvedRun ?_ (by decide +kernel) hs).1⟩
  intro e he
  simp only [resolvedRun, List.mem_cons, List.not_mem_nil, or_false] at he
  rcases he with rfl | rfl | rfl | rfl | rfl | rfl <;> simp [Event.Lost]

end SocksProxy
