import SocksProxy.Theorems.Relay

/-!
# The end of a stream

When one peer of a session ends its stream, the session is closed at once. What the peer sent has been passed on by then, since a
peer is read from only while its channel is empty; what is still on its way to the peer is not.
-/

namespace SocksProxy

open Channels (puts takes)

namespace Peer

/-- The peer at the other end. -/
def other : Peer → Peer
  | client => target
  | target => client

/-- The end of a peer's stream, as an act. -/
def eof : Peer → Act
  | client => .eofClient
  | target => .eofTarget

end Peer

/-! ## One call -/

section Call

variable {s : Server} {sid : Nat} {v : View}

/-- Closing the connection of a session that was served ends it. -/
theorem Served.closed (own : Own s) (jobs : JobsOwned s) {s' : Server} {v' : View} {acts : List Act}
    (h : Served sid s s' v' acts) :
    (clientSessionCloseConnection s' sid).life sid = .gone ∧
      (clientSessionCloseConnection s' sid).acts sid = s.acts sid ++ (acts ++ [.freed]) := by
  obtain ⟨_, _, hjobs, ht, hn⟩ := Server.resources_eq h.resources
  have own' := h.own own
  rw [clientSessionCloseConnection_eq own' (jobs.congr h.waits hjobs ht hn.ge) h.now]
  exact ⟨life_drop own' h.now, ((h.frame own).trans (frame_drop own' h.now)).acts_self⟩

/-- The end of a peer's stream closes the session at once, and nothing from that peer was left to pass on. -/
theorem Event.Delivers.closes {e : Event} {peer : Peer} (h : Inv s) (hd : e.Delivers s sid peer v .eof) :
    (step s e).life sid = .gone ∧ (step s e).acts sid = s.acts sid ++ [peer.eof, .freed] ∧ (v.channel peer).pending = [] := by
  obtain ⟨i, hi, hr⟩ := hd.reading
  obtain ⟨a, rfl, ha⟩ := hd.answered
  have ready := h.ready_live hd.life
  have h0 := Served.refl hd.life (h.own.held hd.life)
  cases peer with
  | client =>
    rw [View.fdOf, step_read_client h hd.life hd.running hi hr]
    unfold clientRead
    dsimp only
    rw [h0.withSession]
    rcases ready.reading hi hr with ⟨hs, hb⟩ | ⟨_, hst⟩
    · rw [if_pos (ready.relaying hs).1]
      unfold clientReadRelay
      rw [if_neg (by simp [ClientState.c2tLen, hb])]
      have hb0 : v.state.readBuffer = [] := (ready.relaying hs).2.2.2.1
      simp only [View.room, ClientState.readLen, hb0, List.length_nil, Nat.sub_zero] at ha
      rw [ha]
      obtain ⟨h1, h2⟩ := (h0.act .eofClient fun _ => rfl).closed h.own h.jobs
      exact ⟨h1, h2, by simp [View.channel, Channels.Chan.pending, hb]⟩
    · have hnl : v.state.stage ≠ .relay := by rcases hst with h | h | h <;> simp [h]
      rw [if_neg hnl, show a.recv.limit (serverBufferSize - v.state.readLen) = .eof from ha]
      obtain ⟨h1, h2⟩ := (h0.act .eofClient fun _ => rfl).closed h.own h.jobs
      have hb := ready.c2t_empty fun hs => absurd (ready.relaying hs).1 hnl
      exact ⟨h1, h2, by simp [View.channel, Channels.Chan.pending, hb]⟩
  | target =>
    have hfd : v.state.targetFd ≠ -1 := by
      intro he
      rw [View.interestOf, ← (Server.sessions_of_life hd.life).2] at hi
      simp [Server.viewOf, Server.interest, he] at hi
    obtain ⟨hs, hb⟩ := ready.targetReading hi hr hfd
    rw [View.fdOf, step_read_target h hd.life hd.running hi hr]
    unfold targetRead
    dsimp only
    rw [h0.withSession, if_neg (by simp [ClientState.t2cLen, hb]), show a.recv.limit serverBufferSize = .eof from ha]
    obtain ⟨h1, h2⟩ := (h0.act .eofTarget fun _ => rfl).closed h.own h.jobs
    exact ⟨h1, h2, by simp [View.channel, Channels.Chan.pending, hb]⟩

/-- The end of a peer's stream is something to its channel. -/
theorem Peer.eof_not_mem {peer : Peer} {acts : List Act} (h : Act.labels peer acts = []) : peer.eof ∉ acts := by
  intro hm
  have := List.filterMap_eq_nil_iff.mp h peer.eof hm
  cases peer <;> cases this

/-- The end of a stream is noted only where `recv` delivers it. -/
theorem SessionStep.eof_delivered {env : Env} {L L' : Life} {acts : List Act} (h : SessionStep env L acts L') {peer : Peer}
    (ha : peer.eof ∈ acts) : ∃ v, env.recv peer v .eof := by
  cases h with
  | clientEnded hr =>
    cases peer with
    | client => exact ⟨_, hr⟩
    | target => simp [Peer.eof] at ha
  | targetEnded hr =>
    cases peer with
    | client => simp [Peer.eof] at ha
    | target => exact ⟨_, hr⟩
  | begun _ _ _ _ _ _ hb =>
    refine absurd ha (Peer.eof_not_mem ?_)
    rw [Act.labels_cons _ _ (by cases peer <;> rfl), Act.labels_cons _ _ (by cases peer <;> rfl)]
    exact (hb.channel peer).1
  | unresolved =>
    refine absurd ha (Peer.eof_not_mem ?_)
    rw [Act.labels_cons _ _ (by cases peer <;> rfl), Act.labels_refusedActs]
  | resolved _ _ _ hc =>
    refine absurd ha (Peer.eof_not_mem ?_)
    rw [Act.labels_cons _ _ (by cases peer <;> rfl)]
    exact (hc.channel peer).1
  | connected => exact absurd ha (Peer.eof_not_mem (Act.labels_connectedActs peer _))
  | unconnected _ _ _ hc => exact absurd ha (Peer.eof_not_mem (hc.channel peer).1)
  | _ => cases peer <;> simp [Peer.eof] at ha

/-- The end of a stream is noted only where `recv` delivers it, whatever the steps. -/
theorem SessionSteps.eof_delivered {env : Env} {L L' : Life} {acts : List Act} (h : SessionSteps env L acts L') {peer : Peer}
    (ha : peer.eof ∈ acts) : ∃ v, env.recv peer v .eof := by
  induction h with
  | refl => cases ha
  | tail _ hs ih =>
    rcases List.mem_append.mp ha with ha | ha
    · exact ih ha
    · exact hs.eof_delivered ha

end Call

/-! ## Every run -/

section Run

variable (c : Config)

/-- A session whose stream was ended by a peer: `recv` returned zero. -/
def Server.Ended (s : Server) (sid : Nat) (peer : Peer) : Prop := peer.eof ∈ s.acts sid

/-- A stream that was ended was ended in some step. -/
theorem run_ended {es : List Event} {sid : Nat} {peer : Peer} (h : (run c.start es).Ended sid peer) :
    ∃ pre e post v, es = pre ++ e :: post ∧ e.Delivers (run c.start pre) sid peer v .eof := by
  induction es using List.reverseRecOn with
  | nil => cases h
  | append_singleton es e ih =>
    obtain ⟨acts, ha, hs⟩ := (run_lives c es e).steps sid
    rw [Server.Ended, ha, List.mem_append] at h
    rcases h with h | h
    · obtain ⟨pre, e', post, v, rfl, hd⟩ := ih h
      exact ⟨pre, e', post ++ [e], v, by simp, hd⟩
    · obtain ⟨v, hd⟩ := SessionSteps.eof_delivered hs h
      exact ⟨es, e, [], v, rfl, hd⟩

/-- After the step that ended a stream, the session has received and passed on what it had before, and what was pending then
was not passed on. -/
theorem run_after_end {pre post : List Event} {e : Event} {sid : Nat} {peer : Peer} {v : View}
    (hd : e.Delivers (run c.start pre) sid peer v .eof) (p : Peer) :
    (run c.start (pre ++ e :: post)).life sid = .gone ∧
      Act.received p ((run c.start (pre ++ e :: post)).acts sid) =
        Act.passedOn p ((run c.start (pre ++ e :: post)).acts sid) ++ (v.channel p).pending := by
  obtain ⟨hl, ha, _⟩ := hd.closes (run_inv c pre)
  rw [← run_append] at hl ha
  obtain ⟨hl', ha'⟩ := run_gone c hl post
  rw [show pre ++ e :: post = pre ++ [e] ++ post by simp]
  refine ⟨hl', ?_⟩
  obtain ⟨ch, hs, hc⟩ := run_channel c pre sid p
  rw [hd.life] at hc
  subst hc
  have hnew : Act.received p [peer.eof, .freed] = [] ∧ Act.passedOn p [peer.eof, .freed] = [] := by
    cases p <;> cases peer <;> exact ⟨rfl, rfl⟩
  rw [ha', ha, Act.received, Act.passedOn, Act.labels_append, Channels.puts_append, Channels.takes_append]
  rw [show puts (Act.labels p [peer.eof, .freed]) = [] from hnew.1, show takes (Act.labels p [peer.eof, .freed]) = [] from hnew.2,
    List.append_nil, List.append_nil]
  exact hs.conserved.conserved

/-- A session one of whose peers ended its stream is closed. Everything it received from either peer has been passed on to the
other if and only if, in the step that found the stream at its end, nothing was pending in the other direction. -/
theorem end_of_stream (es : List Event) (sid : Nat) {peer : Peer} (hend : (run c.start es).Ended sid peer) :
    (run c.start es).life sid = .gone ∧
    ((∀ p, Act.passedOn p ((run c.start es).acts sid) = Act.received p ((run c.start es).acts sid)) ↔
      ∀ pre e post, es = pre ++ e :: post → ∀ p v, e.Delivers (run c.start pre) sid p v .eof →
        (v.channel p.other).pending = []) := by
  obtain ⟨pre, e, post, v, rfl, hd⟩ := run_ended c hend
  refine ⟨(run_after_end c hd .client).1, fun hall pre' e' post' he p v' hd' => ?_, fun hcond p => ?_⟩
  · have h := (@run_after_end c _ post' _ _ _ _ hd' p.other).2
    rw [← he, hall] at h
    exact List.self_eq_append_right.mp h
  · have hp := (hd.closes (run_inv c pre)).2.2
    have ho := hcond pre e post rfl peer v hd
    have hpend : (v.channel p).pending = [] := by
      cases p <;> cases peer <;> first | exact hp | exact ho
    rw [(run_after_end c hd p).2, hpend, List.append_nil]

end Run

/-- A session with its relay running: its client has asked for an address, and the connection to it has completed. -/
def relayingRun : List Event :=
  [.read 3 { accepts := [.accepted 5 .ok true] }, .read 5 { recv := .data [5, 1, 0] }, .write 5 { sends := [.sent 2] },
    .read 5 {
      recv := .data [5, 1, 0, 1, 127, 0, 0, 1, 0, 80]
      attempts := [{ socket := .ok 6, setNonblocking := .ok, connect := .error .einprogress }] },
    .connectDone 6 0, .write 6 {}, .write 5 { sends := [.sent 10] }]

/-- The target answers and ends its stream, and the client takes the answer in two parts. -/
def wholeDownload : List Event :=
  relayingRun ++ [.read 6 { recv := .data [1, 2, 3], sends := [.sent 1] }, .write 5 { sends := [.sent 2] }, .read 6 { recv := .eof }]

/-- The session of this run is closed by the end of its target's stream, with nothing lost. -/
theorem end_of_stream_whole : (run (Config.first .zeroed).start wholeDownload).life 0 = .gone :=
  (end_of_stream (Config.first .zeroed) wholeDownload 0 (show Server.Ended _ 0 .target by
    unfold Server.Ended
    decide +kernel)).1

/-- The target answers, the client takes one byte of three, and then ends its own stream. -/
def truncatedDownload : List Event :=
  relayingRun ++ [.read 6 { recv := .data [1, 2, 3], sends := [.sent 1] }, .read 5 { recv := .eof }]

/-- The client of this run ended its stream, and two bytes of the three received from its target were never sent to it. -/
theorem end_of_stream_truncated :
    (run (Config.first .zeroed).start truncatedDownload).Ended 0 .client ∧
      Act.received .target ((run (Config.first .zeroed).start truncatedDownload).acts 0) = [1, 2, 3] ∧
      Act.passedOn .target ((run (Config.first .zeroed).start truncatedDownload).acts 0) = [1] := by
  unfold Server.Ended
  decide +kernel

end SocksProxy
