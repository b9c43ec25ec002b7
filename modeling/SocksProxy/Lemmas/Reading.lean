import SocksProxy.Lemmas.Requests

/-!
# Reading

The two read handlers of a session: that of the target, which feeds the relay, and that of the client, which feeds the relay or
runs the handshake.
-/

namespace SocksProxy

/-- A session that is read from relays, with an empty buffer to read into, or awaits a message of the handshake. -/
theorem View.Ready.reading {v : View} (h : v.Ready) {i : FdInterest} (hi : v.clientInterest = some i) (hr : i.read = true) :
    v.state.relayStarted = true ∧ v.state.c2tBuffer = [] ∨
    v.clientInterest = some opRead ∧
      (v.state.stage = .greeting ∨ v.state.stage = .auth ∨ v.state.stage = .request) := by
  have hno : ∀ j : FdInterest, v.clientInterest = some j → j.read = false → False := by
    intro j hj hf
    rw [hi] at hj
    cases hj
    rw [hr] at hf
    cases hf
  have ha := h.awake
  unfold Awake at ha
  cases hst : v.state.stage <;> simp only [hst] at ha
  case greeting => exact .inr ⟨ha.2.2, .inl rfl⟩
  case auth =>
    rcases ha with ha | ha
    · exact .inr ⟨ha.2.2, .inr (.inl rfl)⟩
    · exact (hno _ ha.2.2 rfl).elim
  case request =>
    rcases ha with ha | ha
    · exact .inr ⟨ha.2.2, .inr (.inr rfl)⟩
    · exact (hno _ ha.2.2 rfl).elim
  case resolving => exact (hno _ ha.2.2.2 rfl).elim
  case connecting => exact (hno _ ha.1.2.2.2 rfl).elim
  case relay =>
    split at ha
    · rename_i hs
      refine .inl ⟨hs, ?_⟩
      have he := ha.2.2.2.1
      rw [hi] at he
      have : (relayInterests v.state).1.read = true := by rw [← Option.some.inj he, hr]
      simpa [relayInterests, ClientState.c2tLen] using this
    · exact (hno _ ha.1.2.2 rfl).elim
  case closing => exact (hno _ ha.2.2 rfl).elim

/-- A session whose target is read from relays, with an empty buffer to read into. -/
theorem View.Ready.targetReading {v : View} (h : v.Ready) {i : FdInterest} (hi : v.targetInterest = some i)
    (hr : i.read = true) (ht : v.state.targetFd ≠ -1) : v.state.relayStarted = true ∧ v.state.t2cBuffer = [] := by
  have hno : ∀ j : FdInterest, v.targetInterest = some j → j.read = false → False := by
    intro j hj hf
    rw [hi] at hj
    cases hj
    rw [hr] at hf
    cases hf
  have ha := h.awake
  unfold Awake at ha
  rcases h.target.mp ht with hst | hst
  · simp only [hst] at ha
    exact (hno _ ha.2.1 rfl).elim
  · simp only [hst] at ha
    split at ha
    · rename_i hs
      refine ⟨hs, ?_⟩
      have he := ha.2.2.2.2.1
      rw [hi] at he
      have : (relayInterests v.state).2.read = true := by rw [← Option.some.inj he, hr]
      simpa [relayInterests, ClientState.t2cLen] using this
    · exact (hno _ ha.2 rfl).elim

section Relay

variable {env : Env} {s : Server} {sid : Nat} {v : View}

/-- `target_read` receives from the target and passes on to the client. -/
theorem targetRead_handled (own : Own s) (jobs : JobsOwned s) (hl : s.life sid = .live v) (ready : v.Ready)
    (hs : v.state.relayStarted = true) (hb : v.state.t2cBuffer = []) (a : Answers)
    (hr : env.recv .target v (a.recv.limit serverBufferSize)) :
    Handled env sid s (targetRead s { fd := v.state.targetFd, data := some sid } a) := by
  obtain ⟨hst, _⟩ := ready.relaying hs
  have hc := own.clientFd_ne (Server.sessions_of_life hl).1
  have ht := ready.target.mpr (.inr hst)
  have hj : v.state.resolverJob = none := by simpa using ready.resolver.not.mpr (by simp [hst])
  have h0 := Served.refl hl (own.held hl)
  unfold targetRead
  dsimp only
  rw [h0.withSession, if_neg (by simp [ClientState.t2cLen, hb])]
  cases hrecv : a.recv.limit serverBufferSize with
  | data bytes =>
    obtain ⟨hne, hlen⟩ := limit_data hrecv
    rw [hrecv] at hr
    have h1 := ((h0.put { v.state with t2cBuffer := bytes, t2cOff := 0 } rfl rfl rfl).act (.recvTarget bytes)
      (fun _ => rfl)).updateRelayInterests hs hc ht
    have hstep : SessionStep env (.live v) [.recvTarget bytes] (.live (v.relaying { v.state with
        t2cBuffer := bytes, t2cOff := 0 })) := .fromTarget hs hb hr hne hlen
    have hh1 : Handled env sid s _ := .of_served own jobs hl h1 (.single hstep)
    dsimp only
    rw [h1.withSession, if_pos (by exact hc)]
    exact hh1.trans (clientWrite_handled hh1.own hh1.jobs h1.life (hstep.ready ready) (.inl hs) a.sends)
  | eof => exact .close own jobs hl (h0.act .eofTarget (fun _ => rfl)) hj (.single (.targetEnded (hrecv ▸ hr) hs hb))
  | error e =>
    dsimp only
    split
    · exact .of_served own jobs hl (h0.setErrno e) (.refl _)
    · exact .close own jobs hl (h0.setErrno e) hj (.single .closed)

/-- `client_read` in stage `RELAY` receives from the client and passes on to the target. -/
theorem clientReadRelay_handled (own : Own s) (jobs : JobsOwned s) (hl : s.life sid = .live v) (ready : v.Ready)
    (hs : v.state.relayStarted = true) (hb : v.state.c2tBuffer = []) (a : Answers)
    (hr : env.recv .client v (a.recv.limit serverBufferSize)) :
    Handled env sid s (clientReadRelay s sid v.state a) := by
  obtain ⟨hst, _⟩ := ready.relaying hs
  have hc := own.clientFd_ne (Server.sessions_of_life hl).1
  have ht := ready.target.mpr (.inr hst)
  have hj : v.state.resolverJob = none := by simpa using ready.resolver.not.mpr (by simp [hst])
  have h0 := Served.refl hl (own.held hl)
  unfold clientReadRelay
  rw [if_neg (by simp [ClientState.c2tLen, hb])]
  cases hrecv : a.recv.limit serverBufferSize with
  | data bytes =>
    obtain ⟨hne, hlen⟩ := limit_data hrecv
    rw [hrecv] at hr
    have h1 := ((h0.put { v.state with c2tBuffer := bytes, c2tOff := 0 } rfl rfl rfl).act (.recvClient bytes)
      (fun _ => rfl)).updateRelayInterests hs hc ht
    have hstep : SessionStep env (.live v) [.recvClient bytes] (.live (v.relaying { v.state with
        c2tBuffer := bytes, c2tOff := 0 })) := .fromClient hs hb hr hne hlen
    have hh1 : Handled env sid s _ := .of_served own jobs hl h1 (.single hstep)
    dsimp only
    rw [h1.withSession, if_pos (by exact ht)]
    exact hh1.trans (targetWrite_handled hh1.own hh1.jobs h1.life (hstep.ready ready) hs a)
  | eof => exact .close own jobs hl (h0.act .eofClient (fun _ => rfl)) hj (.single (.clientEnded (hrecv ▸ hr) fun _ => hb))
  | error e =>
    dsimp only
    split
    · exact .of_served own jobs hl (h0.setErrno e) (.refl _)
    · exact .close own jobs hl (h0.setErrno e) hj (.single .closed)

end Relay

/-! ## The handshake -/

section Handshake

variable {s s1 : Server} {sid : Nat} {v : View} {bytes : List Byte} {env : Env}

/-- A session that has just received bytes of the handshake. -/
structure Received (env : Env) (sid : Nat) (s s1 : Server) (v : View) (bytes : List Byte) : Prop where
  own : Own s
  jobs : JobsOwned s
  life : s.life sid = .live v
  ready : v.Ready
  reading : v.clientInterest = some opRead
  users : env.users = s.managedUsers
  recv : env.recv .client v (.data bytes)
  bytes_ne : bytes ≠ []
  room : v.state.readLen + bytes.length ≤ serverBufferSize
  served : Served sid s s1 { v with state := { v.state with readBuffer := v.state.readBuffer ++ bytes } } [.recvHandshake bytes]

/-- The users table has not changed since. -/
theorem Received.users_eq (h : Received env sid s s1 v bytes) : s1.managedUsers = env.users :=
  (Server.shared_eq h.served.shared).2.1.trans h.users.symm

/-- The handshake waits for more bytes. -/
theorem Received.waits (h : Received env sid s s1 v bytes)
    (hst : v.state.stage = .greeting ∨ v.state.stage = .auth ∨ v.state.stage = .request)
    (hv : verdict env.users v.state.stage (v.state.readBuffer ++ bytes) = .wait) :
    Handled env sid s s1 :=
  .of_served h.own h.jobs h.life h.served (.single (.waits h.reading h.recv h.bytes_ne h.room hst hv))

/-- `client_read` in stage `GREETING`. -/
theorem clientReadGreeting_handled (h : Received env sid s s1 v bytes) (hst : v.state.stage = .greeting) :
    Handled env sid s (clientReadGreeting s1 { fd := v.state.clientFd, data := some sid } sid
      { v.state with readBuffer := v.state.readBuffer ++ bytes }) := by
  have hj : v.state.resolverJob = none := by simpa using h.ready.resolver.not.mpr (by simp [hst])
  have hverdict : verdict env.users v.state.stage (v.state.readBuffer ++ bytes) =
      greetingVerdict env.users (v.state.readBuffer ++ bytes) := by rw [hst]; rfl
  rw [clientReadGreeting_eq, h.users_eq]
  dsimp only
  rcases greetingVerdict_cases env.users (v.state.readBuffer ++ bytes) with hv | hv | ⟨method, hv⟩
  · rw [hv]
    exact h.waits (.inl hst) (hverdict.trans hv)
  · rw [hv]
    have hu := Handled.unregister h.own h.jobs h.life h.served hj
      (.single (.hungUp h.reading h.recv h.bytes_ne h.room hst (hverdict.trans hv)))
    exact hu
  · rw [hv]
    have h2 := (h.served.prepareReply { v.state with readBuffer := [], stage := stageAfterMethod method } (.greeting method)
      rfl rfl rfl).setClient opWrite
    exact .of_served h.own h.jobs h.life h2 (.single (.greeted h.reading h.recv h.bytes_ne h.room hst (hverdict.trans hv)))

/-- `client_read` in stage `AUTH`. -/
theorem clientReadAuth_handled (h : Received env sid s s1 v bytes) (hst : v.state.stage = .auth) :
    Handled env sid s (clientReadAuth s1 { fd := v.state.clientFd, data := some sid } sid
      { v.state with readBuffer := v.state.readBuffer ++ bytes }) := by
  have hverdict : verdict env.users v.state.stage (v.state.readBuffer ++ bytes) =
      authVerdict env.users (v.state.readBuffer ++ bytes) := by rw [hst]; rfl
  rw [clientReadAuth_eq, h.users_eq]
  dsimp only
  rcases authVerdict_cases env.users (v.state.readBuffer ++ bytes) with hv | ⟨username, hv⟩
  · rw [hv]
    exact h.waits (.inr (.inl hst)) (hverdict.trans hv)
  · rw [hv]
    cases username with
    | none =>
      have h2 := (h.served.prepareReply { v.state with readBuffer := [], stage := .closing } (.auth socks5AuthFailure)
        rfl rfl rfl).setClient opWrite
      exact .of_served h.own h.jobs h.life h2
        (.single (.unauthenticated h.reading h.recv h.bytes_ne h.room hst (hverdict.trans hv)))
    | some username =>
      have h2 := (h.served.prepareReply { v.state with username, readBuffer := [], stage := .request }
        (.auth socks5AuthSuccess) rfl rfl rfl).setClient opWrite
      exact .of_served h.own h.jobs h.life h2
        (.single (.authenticated h.reading h.recv h.bytes_ne h.room hst (hverdict.trans hv)))

/-- `client_read` in stage `REQUEST`. -/
theorem clientReadRequest_handled (h : Received env sid s s1 v bytes) (hst : v.state.stage = .request) (he : s.errno ≠ 0)
    (a : Answers) :
    Handled env sid s (clientReadRequest s1 { fd := v.state.clientFd, data := some sid } sid
      { v.state with readBuffer := v.state.readBuffer ++ bytes } a) := by
  have hj : v.state.resolverJob = none := by simpa using h.ready.resolver.not.mpr (by simp [hst])
  have ht := h.ready.no_target (by simp [hst]) (by simp [hst])
  have hverdict : verdict env.users v.state.stage (v.state.readBuffer ++ bytes) =
      requestVerdict (v.state.readBuffer ++ bytes) := by rw [hst]; rfl
  rw [clientReadRequest_eq]
  dsimp only
  rcases requestVerdict_cases (v.state.readBuffer ++ bytes) with hv | ⟨code, hv⟩ | ⟨r, hv⟩
  · rw [hv]
    exact h.waits (.inr (.inr hst)) (hverdict.trans hv)
  · rw [hv]
    have h2 := ((h.served.prepareReply { v.state with readBuffer := [], stage := .closing } (.request code)
      rfl rfl rfl).connectionFailed).setClient opWrite
    exact .of_served h.own h.jobs h.life h2 (.single (.rejected h.reading h.recv h.bytes_ne h.room hst (hverdict.trans hv)))
  · rw [hv]
    dsimp only
    have hw1 := Worked.of_served h.own h.jobs h.served
    obtain ⟨acts, v', hw2, hb⟩ := targetConnectionBegin_worked hw1.own hw1.jobs hw1.life ht hj (hw1.frame.errno he) r a
    have hw3 := hw1.trans hw2
    have hw4 := hw3.serve (hw3.refl.put { v'.state with readBuffer := [] } rfl rfl rfl)
    rw [hw2.refl.withSession]
    refine hw4.handled h.life (.single ?_)
    have hstep := SessionStep.begun h.reading h.recv h.bytes_ne h.room hst (hverdict.trans hv) hb.of_readBuffer
    simpa using hstep

/-- `client_read` runs the relay, or the handshake on what was received so far. -/
theorem clientRead_handled (own : Own s) (jobs : JobsOwned s) (hl : s.life sid = .live v) (ready : v.Ready)
    {i : FdInterest} (hi : v.clientInterest = some i) (hr : i.read = true) (hu : env.users = s.managedUsers) (he : s.errno ≠ 0)
    (a : Answers) (hrecv : env.recv .client v (a.recv.limit (serverBufferSize - v.state.readLen))) :
    Handled env sid s (clientRead s { fd := v.state.clientFd, data := some sid } a) := by
  have h0 := Served.refl hl (own.held hl)
  unfold clientRead
  dsimp only
  rw [h0.withSession]
  rcases ready.reading hi hr with ⟨hs, hb⟩ | ⟨hread, hst⟩
  · rw [if_pos (ready.relaying hs).1]
    have hb0 : v.state.readBuffer = [] := (ready.relaying hs).2.2.2.1
    simp only [ClientState.readLen, hb0, List.length_nil, Nat.sub_zero] at hrecv
    exact clientReadRelay_handled own jobs hl ready hs hb a hrecv
  · have hnl : v.state.stage ≠ .relay := by rcases hst with h | h | h <;> simp [h]
    have hj : v.state.resolverJob = none := by
      simpa using ready.resolver.not.mpr (by rcases hst with h | h | h <;> simp [h])
    rw [if_neg hnl]
    match hlim : a.recv.limit (serverBufferSize - v.state.readLen) with
    | .data bytes =>
      obtain ⟨hne, hlen⟩ := limit_data hlim
      rw [hlim] at hrecv
      have hroom : v.state.readLen + bytes.length ≤ serverBufferSize := by
        have := List.length_pos_iff.mpr hne
        omega
      have h1 : Received env sid s _ v bytes := ⟨own, jobs, hl, ready, hread, hu, hrecv, hne, hroom,
        (h0.put { v.state with readBuffer := v.state.readBuffer ++ bytes } rfl rfl rfl).act (.recvHandshake bytes)
          (fun _ => rfl)⟩
      dsimp only
      split
      · exact clientReadGreeting_handled h1 ‹_›
      · exact clientReadAuth_handled h1 ‹_›
      · exact clientReadRequest_handled h1 ‹_› he a
      · rename_i h1 h2 h3
        rcases hst with h | h | h
        · exact absurd h h1
        · exact absurd h h2
        · exact absurd h h3
    | .eof =>
      exact .close own jobs hl (h0.act .eofClient (fun _ => rfl)) hj (.single (.clientEnded (hlim ▸ hrecv) fun hs =>
        absurd (ready.relaying hs).1 hnl))
    | .error e =>
      dsimp only
      split
      · exact .of_served own jobs hl (h0.setErrno e) (.refl _)
      · exact .close own jobs hl (h0.setErrno e) hj (.single .closed)

end Handshake

end SocksProxy
