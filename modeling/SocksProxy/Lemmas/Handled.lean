import SocksProxy.Lemmas.Jobs
import SocksProxy.Lemmas.Serving
import SocksProxy.Ready

/-!
# A handler at work

What a call of a handler achieves: the ownership invariants hold again, the process changed only where the session is
concerned, and the session took some steps of its life. `Handled` is that statement; it is reached through service of the
session, through its closing, or by one call after another.
-/

namespace SocksProxy

/-- From one server to another, a handler was at work for session `sid`. -/
structure Handled (env : Env) (sid : Nat) (s s' : Server) : Prop where
  own : Own s'
  jobs : JobsOwned s'
  notified : ∀ q, Notified q q s s'
  steps : ∃ acts, Frame sid s s' acts ∧ SessionSteps env (s.life sid) acts (s'.life sid)

namespace Handled

variable {env : Env} {sid : Nat} {s s' s'' : Server} {v v' : View} {acts : List Act}

/-- Nothing was done. -/
theorem refl (own : Own s) (jobs : JobsOwned s) : Handled env sid s s :=
  ⟨own, jobs, fun q => .refl q s, [], Frame.refl sid s, .refl _⟩

/-- One call after another. -/
theorem trans (h : Handled env sid s s') (h' : Handled env sid s' s'') : Handled env sid s s'' := by
  obtain ⟨acts, fr, st⟩ := h.steps
  obtain ⟨acts', fr', st'⟩ := h'.steps
  exact ⟨h'.own, h'.jobs, fun q => (h.notified q).trans (h'.notified q), acts ++ acts', fr.trans fr', st.trans st'⟩

/-- The session was served. -/
theorem of_served (own : Own s) (jobs : JobsOwned s) (hl : s.life sid = .live v) (h : Served sid s s' v' acts)
    (hs : SessionSteps env (.live v) acts (.live v')) : Handled env sid s s' := by
  obtain ⟨_, _, hj, ht, hn⟩ := Server.resources_eq h.resources
  refine ⟨h.own own, jobs.congr h.waits hj ht hn.ge, fun _ => .congr (Server.shared_eq h.shared).2.2.2.2.2.1 h.waits hj ht, acts,
    h.frame own, ?_⟩
  rw [hl, h.life]
  exact hs

/-- The session was closed, and it waited for no resolver. -/
theorem of_drop (own : Own s) (jobs : JobsOwned s) (hl : s.life sid = .live v) (hj : v.state.resolverJob = none)
    (hs : SessionSteps env (.live v) [.freed] .gone) : Handled env sid s (s.drop sid v.state) := by
  obtain ⟨hst, _⟩ := Server.sessions_of_life hl
  have hw : ∀ sid', (s.drop sid v.state).waits sid' = s.waits sid' := by
    intro sid'
    by_cases he : sid' = sid
    · subst he
      rw [waits_of_none (by rw [sessions_drop, Function.update_self]), waits_of_some hst, hj]
      rfl
    · exact waits_congr (by rw [sessions_drop, Function.update_of_ne he])
  refine ⟨own_drop own hst, jobs.drop hst, fun _ => .congr (Server.shared_eq (frame_drop own hst).shared).2.2.2.2.2.1 hw ?_
    threads_drop.1, [.freed], frame_drop own hst, ?_⟩
  · rw [jobs_drop, hj]
    rfl
  · rw [hl, life_drop own hst]
    exact hs

/-- The session was served and then closed through its connection. -/
theorem close (own : Own s) (jobs : JobsOwned s) (hl : s.life sid = .live v) (h : Served sid s s' v' acts)
    (hj : v'.state.resolverJob = none) (hs : SessionSteps env (.live v) (acts ++ [.freed]) .gone) :
    Handled env sid s (clientSessionCloseConnection s' sid) := by
  obtain ⟨_, _, hjobs, ht, hn⟩ := Server.resources_eq h.resources
  have own' := h.own own
  have jobs' := jobs.congr h.waits hjobs ht hn.ge
  rw [clientSessionCloseConnection_eq own' jobs' h.now]
  have hd : Handled env sid _ _ := of_drop own' jobs' h.life hj (.single .closed)
  refine ⟨hd.own, hd.jobs, fun q => .trans (.congr (Server.shared_eq h.shared).2.2.2.2.2.1 h.waits hjobs ht) (hd.notified q), acts ++ [.freed],
    (h.frame own).trans (frame_drop own' h.now), ?_⟩
  rw [hl, life_drop own' h.now]
  exact hs

/-- The session was served and then closed through its client's descriptor. -/
theorem unregister (own : Own s) (jobs : JobsOwned s) (hl : s.life sid = .live v) (h : Served sid s s' v' acts)
    (hj : v'.state.resolverJob = none) (hs : SessionSteps env (.live v) (acts ++ [.freed]) .gone) :
    Handled env sid s (s'.unregister v'.state.clientFd).1 := by
  obtain ⟨_, _, hjobs, ht, hn⟩ := Server.resources_eq h.resources
  have own' := h.own own
  have jobs' := jobs.congr h.waits hjobs ht hn.ge
  have hc := close own jobs hl h hj hs
  rw [clientSessionCloseConnection_eq own' jobs' h.now] at hc
  rw [unregister_client own' jobs' h.now]
  exact hc

end Handled

/-! ## The relay and the sending of replies -/

section Relay

variable {env : Env} {s : Server} {sid : Nat} {v : View}

/-- The second half of `client_write` sends what was received from the target. -/
theorem clientWriteRelay_handled (own : Own s) (jobs : JobsOwned s) (hl : s.life sid = .live v) (ready : v.Ready)
    (hs : v.state.relayStarted = true) (sends : List SendResult) :
    Handled env sid s (clientWriteRelay s sid v.state sends) := by
  obtain ⟨hst, _⟩ := ready.relaying hs
  have hc := own.clientFd_ne (Server.sessions_of_life hl).1
  have ht := ready.target.mpr (.inr hst)
  have hj : v.state.resolverJob = none := by simpa using ready.resolver.not.mpr (by simp [hst])
  obtain ⟨rest, hd, hr⟩ := sendLoop_spec (v.state.t2cBuffer.drop v.state.t2cOff) sends
  unfold clientWriteRelay
  generalize sendLoop (v.state.t2cBuffer.drop v.state.t2cOff) sends = r at hd hr ⊢
  obtain ⟨chunks, ending⟩ := r
  dsimp only at hd hr ⊢
  have h1 := (Served.refl hl (own.held hl)).sendRelay .sentClient ServerMetrics.addTargetToClientBytes (fun _ _ => rfl) chunks
    ending { v.state with t2cOff := v.state.t2cOff + chunks.flatten.length } rfl rfl rfl
  cases ending with
  | wouldBlock =>
    exact .of_served own jobs hl h1 (.single (.toClientBlocked hs hd (hr.not.mp (by simp))))
  | failed e =>
    exact .close own jobs hl h1 hj ((Traces.Steps.single (.toClientBlocked hs hd (hr.not.mp (by simp)))).trans (.single .closed))
  | drained =>
    rw [hr.mp rfl, List.append_nil] at hd
    have h2 := (h1.put { v.state with t2cBuffer := [], t2cOff := 0 } rfl rfl rfl).updateRelayInterests hs hc ht
    exact .of_served own jobs hl h2 (.single (.toClient hs hd))

/-- `client_write` sends the pending reply, or what was received from the target. -/
theorem clientWrite_handled (own : Own s) (jobs : JobsOwned s) (hl : s.life sid = .live v) (ready : v.Ready)
    (hw : v.state.relayStarted = true ∨ v.Answering) (sends : List SendResult) :
    Handled env sid s (clientWrite s { fd := v.state.clientFd, data := some sid } sends) := by
  have h0 := Served.refl hl (own.held hl)
  unfold clientWrite
  simp only
  rw [h0.withSession]
  by_cases hs : v.state.relayStarted = true
  · -- no reply is pending, so the first loop sends nothing
    obtain ⟨hst, hwb, hwo, _⟩ := ready.relaying hs
    have hloop : sendLoop (v.state.writeBuffer.drop v.state.writeOff) sends = ([], .drained) := by
      rw [hwb]
      cases sends <;> simp [sendLoop]
    have hlen : ¬v.state.writeLen > 0 := by simp [ClientState.writeLen, hwb]
    have h1 := h0.sendReply [] .drained v.state.writeOff
    have hh1 : Handled env sid s _ := .of_served own jobs hl h1 (.refl _)
    rw [hloop]
    dsimp only
    split
    · exact absurd ‹_› hlen
    · split
      · exact absurd hst ‹_›
      · exact hh1.trans (clientWriteRelay_handled hh1.own hh1.jobs h1.life ready hs sends)
  · have hans := hw.resolve_left hs
    have hj : v.state.resolverJob = none ∨ v.state.stage = .resolving := by
      by_cases h : v.state.stage = .resolving
      · exact .inr h
      · exact .inl (by simpa using ready.resolver.not.mpr h)
    have hne : v.state.writeBuffer ≠ [] := by
      intro he
      have := hans.1
      simp only [ClientState.writeLen, he, List.length_nil] at this
      omega
    have hpos : v.state.writeLen > 0 := List.length_pos_iff.mpr hne
    have hj : v.state.resolverJob = none := by
      refine hj.resolve_right fun h => ?_
      have ha := ready.awake
      unfold View.Awake at ha
      simp only [h] at ha
      exact hne ha.1
    obtain ⟨rest, hd, hr⟩ := sendLoop_spec (v.state.writeBuffer.drop v.state.writeOff) sends
    generalize sendLoop (v.state.writeBuffer.drop v.state.writeOff) sends = r at hd hr ⊢
    obtain ⟨chunks, ending⟩ := r
    dsimp only at hd hr ⊢
    have h1 := h0.sendReply chunks ending (v.state.writeOff + chunks.flatten.length)
    cases ending with
    | wouldBlock => exact .of_served own jobs hl h1 (.single (.replyBlocked hd (hr.not.mp (by simp))))
    | failed e =>
      exact .close own jobs hl h1 hj ((Traces.Steps.single (.replyBlocked hd (hr.not.mp (by simp)))).trans (.single .closed))
    | drained =>
      rw [hr.mp rfl, List.append_nil] at hd
      have h2 := h1.put { v.state with writeBuffer := [], writeOff := 0 } rfl rfl rfl
      dsimp only
      split
      · by_cases hcl : v.state.stage = .closing
        · rw [if_pos hcl]
          have hu : Handled env sid _ _ := .unregister own jobs hl h2 hj (.single (.replySentClosing hne hd hcl))
          exact hu
        · rw [if_neg hcl]
          by_cases hre : v.state.stage = .relay
          · have hsf : v.state.relayStarted = false := by simpa using hs
            rw [if_pos ⟨hre, by simp [hsf]⟩]
            have hc := own.clientFd_ne (Server.sessions_of_life hl).1
            have ht := ready.target.mpr (.inr hre)
            have h3 := (h2.put { v.state with writeBuffer := [], writeOff := 0, relayStarted := true } rfl rfl
              rfl).updateRelayInterests rfl hc ht
            exact .of_served own jobs hl h3 (.single (.relayStarts hne hd hre hsf))
          · rw [if_neg fun h => hre h.1]
            have hst : v.state.stage = .auth ∨ v.state.stage = .request := by
              have ha := ready.awake
              unfold View.Awake at ha
              cases hst : v.state.stage <;> simp only [hst] at ha
              case greeting => exact absurd ha.1 hne
              case auth => exact .inl rfl
              case request => exact .inr rfl
              case resolving => exact absurd ha.1 hne
              case connecting => exact absurd ha.1.1 hne
              case relay => exact absurd hst hre
              case closing => exact absurd hst hcl
            exact .of_served own jobs hl (h2.setClient opRead) (.single (.replySent hne hd hst))
      · exact absurd hpos ‹_›

/-- `target_write`, once the relay has begun, sends what was received from the client. -/
theorem targetWrite_handled (own : Own s) (jobs : JobsOwned s) (hl : s.life sid = .live v) (ready : v.Ready)
    (hs : v.state.relayStarted = true) (a : Answers) :
    Handled env sid s (targetWrite s { fd := v.state.targetFd, data := some sid } a) := by
  obtain ⟨hst, _⟩ := ready.relaying hs
  have hc := own.clientFd_ne (Server.sessions_of_life hl).1
  have ht := ready.target.mpr (.inr hst)
  have hj : v.state.resolverJob = none := by simpa using ready.resolver.not.mpr (by simp [hst])
  have h0 := Served.refl hl (own.held hl)
  unfold targetWrite
  simp only
  rw [h0.withSession]
  obtain ⟨rest, hd, hr⟩ := sendLoop_spec (v.state.c2tBuffer.drop v.state.c2tOff) a.sends
  generalize sendLoop (v.state.c2tBuffer.drop v.state.c2tOff) a.sends = r at hd hr ⊢
  obtain ⟨chunks, ending⟩ := r
  rw [if_neg (by simp [hst])]
  dsimp only at hd hr ⊢
  have h1 := h0.sendRelay .sentTarget ServerMetrics.addClientToTargetBytes (fun _ _ => rfl) chunks
    ending { v.state with c2tOff := v.state.c2tOff + chunks.flatten.length } rfl rfl rfl
  cases ending with
  | wouldBlock =>
    exact .of_served own jobs hl h1 (.single (.toTargetBlocked hs hd (hr.not.mp (by simp))))
  | failed e =>
    exact .close own jobs hl h1 hj ((Traces.Steps.single (.toTargetBlocked hs hd (hr.not.mp (by simp)))).trans (.single .closed))
  | drained =>
    rw [hr.mp rfl, List.append_nil] at hd
    have h2 := (h1.put { v.state with c2tBuffer := [], c2tOff := 0 } rfl rfl rfl).updateRelayInterests hs hc ht
    exact .of_served own jobs hl h2 (.single (.toTarget hs hd))

end Relay

end SocksProxy
