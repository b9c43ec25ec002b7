import SocksProxy.Lemmas.Connecting
import SocksProxy.Lemmas.Verdicts

/-!
# The outcome of a request

The three places that decide a request: `target_connection_begin`, `target_connection_on_resolve` and the connecting half of
`target_write`.
-/

namespace SocksProxy

/-! ## Beginning a request -/

namespace ClientState

/-- The destination does not depend on what was read. -/
theorem beginning_readBuffer (state : ClientState) (r : Socks5Request) (buffer : List Byte) :
    ({ state with readBuffer := buffer } : ClientState).beginning r = { state.beginning r with readBuffer := buffer } := by
  unfold beginning rememberRequestDestination
  dsimp only
  split
  · rfl
  · split
    · rfl
    · split <;> rfl

end ClientState

/-- The outcome of a request does not depend on what was read. -/
theorem Begins.of_readBuffer {v v' : View} {st : ClientState} {r : Socks5Request} {acts : List Act} {buffer : List Byte}
    (h : Begins { v with state := { v.state with readBuffer := buffer } } { st with readBuffer := buffer } r acts v') :
    Begins v st r acts v' := by
  have hb := st.beginning_readBuffer r buffer
  cases h with
  | resolving hd =>
    rw [hb]
    exact .resolving hd
  | unresolved hd =>
    rw [hb]
    exact .unresolved hd
  | connecting hd hfd hc =>
    rw [hb]
    exact .connecting hd hfd hc
  | unconnected hd he =>
    rw [hb]
    exact .unconnected hd he

section Begin

variable {s : Server} {sid : Nat} {v : View}

/-- Forgetting the addresses of a session that waits for nothing. -/
theorem Served.freeAddresses {s' : Server} {acts : List Act} (h : Served sid s s' v acts) :
    Served sid s (targetConnectionFreeAddresses s' sid)
      { v with state := { v.state with targetAddresses := [], targetAddressCurrent := [] } } acts := by
  unfold targetConnectionFreeAddresses
  rw [h.withSession]
  exact h.put _ rfl rfl rfl

/-- A session that waits for no resolver has none to let go of. -/
theorem Served.detachResolver {s' : Server} {acts : List Act} (h : Served sid s s' v acts) (hj : v.state.resolverJob = none) :
    targetConnectionDetachResolver s' sid = s' := by
  unfold targetConnectionDetachResolver
  rw [h.withSession, hj]

/-- The branch of `target_connection_begin` for a domain. -/
theorem beginResolution_worked (own : Own s) (jobs : JobsOwned s) (hl : s.life sid = .live v)
    (hj : v.state.resolverJob = none) {clientFd : Int} (hc : v.state.clientFd = clientFd) (r : Socks5Request)
    (start : ResolverStart) :
    Worked sid s (beginResolution s clientFd sid r start) (v.replying (v.state.refused socks5ReplyGeneralFailure))
      (v.state.refusedActs socks5ReplyGeneralFailure) ∨
    ∃ job, Worked sid s (beginResolution s clientFd sid r start)
      { v with
        state := { v.state with resolverJob := some job, stage := .resolving }
        clientInterest := some opNoop } [] := by
  subst hc
  have h0 := Served.refl hl (own.held hl)
  unfold beginResolution
  simp only [h0.detachResolver hj]
  rcases startTargetResolution_worked own jobs hl hj (CString.ofBuffer r.host) r.port start with ⟨s', heq, hw⟩ | ⟨job, s', heq, hw⟩
  · rw [heq]
    exact .inl (hw.serve (hw.refl.failRequest socks5ReplyGeneralFailure))
  · rw [heq]
    dsimp only
    rw [hw.refl.withSession]
    have h1 := (hw.refl.put { v.state with resolverJob := some job, stage := .resolving } rfl rfl rfl).setClient opNoop
    exact .inr ⟨job, hw.serve h1⟩

/-- The branch of `target_connection_begin` for an address. -/
theorem beginConnection_worked (own : Own s) (jobs : JobsOwned s) (hl : s.life sid = .live v)
    (ht : v.state.targetFd = -1) (he : s.errno ≠ 0) {clientFd : Int} (hcl : v.state.clientFd = clientFd) (r : Socks5Request)
    (attempt : Attempt) :
    (∃ e, e ≠ 0 ∧ Worked sid s (beginConnection s clientFd sid r attempt)
      (v.replying (({ v.state with targetAddr := r.addr, lastConnectError := e } : ClientState).refused
        (socks5ReplyForErrno e)))
      (.attempted r.addr :: v.state.refusedActs (socks5ReplyForErrno e))) ∨
    ∃ fd c, fd ≠ -1 ∧ c.Started ∧ Worked sid s (beginConnection s clientFd sid r attempt)
      (v.connecting { v.state with targetAddr := r.addr, targetFd := fd, stage := .connecting } c)
      [.attempted r.addr] := by
  subst hcl
  have h0 := Served.refl hl (own.held hl)
  unfold beginConnection
  rw [h0.withSession]
  have hw1 := Worked.of_served own jobs (h0.put { v.state with targetAddr := r.addr } rfl rfl rfl)
  dsimp only
  rcases startTargetConnection_worked hw1.own hw1.jobs hw1.life ht he r.addr attempt with
    ⟨e, s', hne, heq, hw⟩ | ⟨fd, c, s', hfd, hc, heq, hw⟩
  · have hw2 := hw1.trans hw
    rw [heq]
    dsimp only
    rw [hw2.refl.withSession]
    exact .inl ⟨e, hne, hw2.serve (hw2.refl.failRequest (socks5ReplyForErrno e))⟩
  · have hw2 := hw1.trans hw
    rw [heq]
    exact .inr ⟨fd, c, hfd, hc, hw2.serve (hw2.refl.setClient opNoop)⟩

/-- `target_connection_begin` has one of the outcomes of beginning a request. The read buffer is still full. -/
theorem targetConnectionBegin_worked (own : Own s) (jobs : JobsOwned s) (hl : s.life sid = .live v)
    (ht : v.state.targetFd = -1) (hj : v.state.resolverJob = none) (he : s.errno ≠ 0) (r : Socks5Request) (a : Answers) :
    ∃ acts v', Worked sid s (targetConnectionBegin s { fd := v.state.clientFd, data := some sid } sid r a) v'
        (.begun r :: acts) ∧
      Begins v v.state r acts { v' with state := { v'.state with readBuffer := [] } } := by
  have h1 := ((Served.refl hl (own.held hl)).act (.begun r) (fun _ => rfl)).freeAddresses
  obtain ⟨host, hb⟩ := v.state.beginning_eq r
  have h2 := h1.put (v.state.beginning r) (by rw [hb]) (by rw [hb]) (by rw [hb])
  have hw2 := Worked.of_served own jobs h2
  have hj' : (v.state.beginning r).resolverJob = none := by rw [hb, hj]
  have ht' : (v.state.beginning r).targetFd = -1 := by rw [hb, ht]
  have hc' : (v.state.beginning r).clientFd = v.state.clientFd := by rw [hb]
  unfold targetConnectionBegin
  dsimp only
  rw [h1.withSession]
  split
  · rename_i hd
    rcases beginResolution_worked hw2.own hw2.jobs hw2.life hj' hc' r a.resolver with hw | ⟨job, hw⟩
    · exact ⟨_, _, hw2.trans hw, .unresolved hd⟩
    · exact ⟨_, _, hw2.trans hw, .resolving hd⟩
  · rename_i hd
    rcases beginConnection_worked hw2.own hw2.jobs hw2.life ht' (hw2.frame.errno he) hc' r
      (a.attempts.headD .exhausted) with ⟨e, hne, hw⟩ | ⟨fd, c, hfd, hc, hw⟩
    · exact ⟨_, _, hw2.trans hw, .unconnected hd hne⟩
    · exact ⟨_, _, hw2.trans hw, .connecting hd hfd hc⟩

end Begin

/-! ## Trying the addresses -/

section Connect

variable {env : Env} {s : Server} {sid : Nat} {v : View}

/-- A session without a target has neither an interest nor a connection for it. -/
theorem Own.unconnected (own : Own s) (hl : s.life sid = .live v) (ht : v.state.targetFd = -1) :
    v.targetInterest = none ∧ v.connect = none := by
  obtain ⟨_, hv⟩ := Server.sessions_of_life hl
  rw [← hv]
  simp [Server.viewOf, Server.interest, Server.connect, ht, own.files_neg_one]

/-- The end of `target_connection_on_resolve` has one of the outcomes of connecting to a list of addresses. -/
theorem connectResolved_worked (own : Own s) (jobs : JobsOwned s) (hl : s.life sid = .live v) (ht : v.state.targetFd = -1)
    (he : s.errno ≠ 0) (attempts : List Attempt) :
    ∃ acts v', Worked sid s (connectResolved s v.state.clientFd sid attempts) v' acts ∧
      Connects v v.state v.state.targetAddressCurrent acts v' := by
  unfold connectResolved
  rw [startNextTargetConnection_eq hl]
  rcases startNextLoop_worked v.state.targetAddressCurrent attempts own jobs hl ht he with
    ⟨st', acts, s', htr, heq, hw⟩ | ⟨st', acts, c, s', htr, heq, hw⟩
  · rw [heq]
    dsimp only
    rw [hw.refl.withSession]
    obtain ⟨current, e, ⟨_, hst⟩ | ⟨_, _, _, hc, _⟩⟩ := htr.eq
    · have hc : st'.clientFd = v.state.clientFd := by rw [hst]
      have hw' := hw.serve (hw.refl.failRequest (socks5ReplyForErrno st'.lastConnectError))
      obtain ⟨hti, hco⟩ := own.unconnected hl ht
      have hv : View.unconnected v (st'.refused (socks5ReplyForErrno st'.lastConnectError)) =
          { v with state := st'.refused (socks5ReplyForErrno st'.lastConnectError) } := by
        simp [View.unconnected, hti, hco]
      refine ⟨_, _, ?_, .refused htr⟩
      rw [hv, ← hc]
      exact hw'
    · cases hc
  · rw [heq]
    obtain ⟨current, e, ⟨hc, _⟩ | ⟨_, _, _, _, _, hst⟩⟩ := htr.eq
    · cases hc
    · have hc : st'.clientFd = v.state.clientFd := by rw [hst]
      have hw' := hw.serve (hw.refl.setClient opNoop)
      refine ⟨_, _, ?_, .started htr⟩
      rw [← hc, ← List.append_nil acts]
      exact hw'

/-- Trying the next address, from a session whose client is not listened to. -/
theorem connectNext_worked (own : Own s) (jobs : JobsOwned s) (hl : s.life sid = .live v) (ht : v.state.targetFd = -1)
    (he : s.errno ≠ 0) (hci : v.clientInterest = some opNoop) (attempts : List Attempt) :
    ∃ acts v', Worked sid s (connectNext s sid attempts) v' acts ∧
      Connects v v.state v.state.targetAddressCurrent acts v' := by
  unfold connectNext
  rw [startNextTargetConnection_eq hl]
  rcases startNextLoop_worked v.state.targetAddressCurrent attempts own jobs hl ht he with
    ⟨st', acts, s', htr, heq, hw⟩ | ⟨st', acts, c, s', htr, heq, hw⟩
  · rw [heq]
    have hw' := hw.serve (hw.refl.answerConnect false)
    obtain ⟨hti, hco⟩ := own.unconnected hl ht
    have hv : View.unconnected v (st'.refused (socks5ReplyForErrno st'.lastConnectError)) =
        { v with state := st'.refused (socks5ReplyForErrno st'.lastConnectError) } := by
      simp [View.unconnected, hti, hco]
    refine ⟨_, _, ?_, .refused htr⟩
    rw [hv]
    exact hw'
  · rw [heq]
    have hv : v.connecting st' c = { v with state := st', targetInterest := some opWrite, connect := some c } := by
      simp [View.connecting, hci]
    refine ⟨_, _, ?_, .started htr⟩
    rw [hv]
    exact hw

/-- Unregistering the target of a session: the session forgets it, and the descriptor is given up. -/
theorem unregister_target_eq (own : Own s) (hl : s.life sid = .live v) (ht : v.state.targetFd ≠ -1) :
    (s.unregister v.state.targetFd).1 = (s.put sid { v.state with targetFd := -1 }).forget v.state.targetFd := by
  obtain ⟨hs, _⟩ := Server.sessions_of_life hl
  obtain ⟨item, f, hi, hix, hh, hd, hf⟩ := (own.fds hs).target ht
  unfold Server.unregister
  rw [unregisterFd_target own.size 1 hs (.inl rfl) hi hix hh hd hf]

/-- The target of a session was unregistered and closed. -/
theorem unregister_target_worked (own : Own s) (jobs : JobsOwned s) (hl : s.life sid = .live v)
    (ht : v.state.targetFd ≠ -1) :
    Worked sid s (s.unregister v.state.targetFd).1 (v.unconnected { v.state with targetFd := -1 }) [] := by
  obtain ⟨hs, hview⟩ := Server.sessions_of_life hl
  have fds := own.fds hs
  obtain ⟨item, f, hi, hix, hh, hd, hf⟩ := fds.target ht
  rw [unregister_target_eq own hl ht]
  set s' := (s.put sid { v.state with targetFd := -1 }).forget v.state.targetFd with hs'
  have hslot : ∀ fd, s'.selector.slot fd = if fd = v.state.targetFd then none else s.selector.slot fd :=
    Server.slot_forget (s := s.put sid { v.state with targetFd := -1 }) (FdSelector.valid_of_slot hi)
  have hfiles : ∀ fd, s'.files fd = if fd = v.state.targetFd then none else s.files fd :=
    Server.files_forget (s.put sid { v.state with targetFd := -1 }) v.state.targetFd
  have hsess : s'.sessions sid = some { v.state with targetFd := -1 } := by simp [hs', Server.forget, Server.put]
  have hso : ∀ sid', sid' ≠ sid → s'.sessions sid' = s.sessions sid' := by
    intro sid' hne
    simp [hs', Server.forget, Server.put, Function.update_of_ne hne]
  have hcne : v.state.clientFd ≠ v.state.targetFd := fds.apart
  have fr : Frame sid s s' [] := {
    sessions := hso
    kept := fun fd item' hi' ho => by
      have hne : fd ≠ v.state.targetFd := by
        rintro rfl
        rw [hi] at hi'
        cases hi'
        exact ho ⟨.inr hh, hd⟩
      rw [hslot, hfiles, if_neg hne, if_neg hne]
      exact ⟨hi', rfl⟩
    foreign := fun fd item' hi' _ => by
      rw [hslot] at hi'
      split at hi'
      · cases hi'
      · exact hi'
    selector := fun hc => hc.clearItem (FdSelector.valid_of_slot hi)
    shared := rfl
    nextObject := Nat.le_refl _
    errno := id
    jobs := fun job _ hsp => ⟨rfl, hsp.congr (by rw [waits_of_some hsess, waits_of_some hs])⟩
    threads := fun _ => .inl rfl
    results := fun _ => .inr rfl
    trace := by
      obtain ⟨obs, h1, h2, h3⟩ := Server.forget_trace (s.put sid { v.state with targetFd := -1 }) v.state.targetFd
      exact ⟨obs, h1, h2 sid, fun sid' _ => h2 sid', (h3 _).symm⟩
    ledger := Server.ledger_forget (s := s.put sid { v.state with targetFd := -1 }) v.state.targetFd }
  have own' : Own s' := by
    refine own.frame fr {
      slots := fun fd item' hi' ho => ?_
      client := fun st hst => ?_
      target := fun st hst hne => ?_
      opened := fun fd => ?_
      born := fun _ => ?_ }
    · rw [hslot] at hi'
      split at hi'
      · cases hi'
      · rename_i hne
        refine ⟨own.indexed fd item' hi', ?_⟩
        obtain ⟨state, hst, hfd⟩ := own.fd_of_slot hi' ho
        rw [hs] at hst
        cases hst
        rcases hfd with ⟨hh', hfd⟩ | ⟨_, hfd⟩
        · unfold Server.SlotOwned
          rw [hh', ho.2]
          exact ⟨_, hsess, hfd⟩
        · exact absurd hfd.symm hne
    · rw [hsess] at hst
      cases hst
      obtain ⟨item', hi', hh', hd'⟩ := own.client sid _ hs
      exact ⟨item', by rw [hslot, if_neg hcne]; exact hi', hh', hd'⟩
    · rw [hsess] at hst
      cases hst
      exact absurd rfl hne
    · rw [hslot, hfiles]
      split
      · rfl
      · exact own.opened fd
    · by_contra hlt
      rw [(own.fresh sid (Nat.le_of_not_lt hlt)).1] at hs
      cases hs
  have hw : ∀ sid', s'.waits sid' = s.waits sid' := by
    intro sid'
    by_cases he : sid' = sid
    · subst he
      rw [waits_of_some hsess, waits_of_some hs]
    · exact waits_congr (hso sid' he)
  refine ⟨own', jobs.congr hw rfl rfl (Nat.le_refl _), fun _ => .congr rfl hw rfl rfl, fr, ?_⟩
  rw [Server.life_of_some hsess]
  have hci := congrArg View.clientInterest hview
  simp only [Server.viewOf, Server.interest, Server.connect] at hci ⊢
  rw [hslot, if_neg hcne, hci, own'.files_neg_one]
  simp [View.unconnected]

/-- The connecting half of `target_write`, for a connection that completed: the request is answered with success. -/
theorem targetWriteConnecting_connected (own : Own s) (hl : s.life sid = .live v) (ht : v.state.targetFd ≠ -1) {a : Answers}
    (hok : (targetConnectionSucceeded s v.state.targetFd a.getsockopt).1 = true) :
    Served sid s (targetWriteConnecting s { fd := v.state.targetFd, data := some sid } sid v.state a)
      { (v.replying v.state.connected) with targetInterest := some opNoop } v.state.connectedActs := by
  have h0 := Served.refl hl (own.held hl)
  unfold targetWriteConnecting
  cases hg : a.getsockopt with
  | error e =>
    rw [hg] at hok
    cases hok
  | ok =>
    rw [hg] at hok
    dsimp only
    rw [hok]
    exact (h0.setTarget ht opNoop).answerConnect true

/-- The connecting half of `target_write`, for a connection that failed: its socket is given up, and the next address is tried. -/
theorem targetWriteConnecting_failed (own : Own s) (hl : s.life sid = .live v) {a : Answers}
    (hno : (targetConnectionSucceeded s v.state.targetFd a.getsockopt).1 = false) :
    ∃ s1 e, Served sid s s1 { v with state := { v.state with lastConnectError := e } } [] ∧
      e = (targetConnectionSucceeded s v.state.targetFd a.getsockopt).2 ∧
      targetWriteConnecting s { fd := v.state.targetFd, data := some sid } sid v.state a =
        connectNext (s1.unregister v.state.targetFd).1 sid a.attempts := by
  have h0 := Served.refl hl (own.held hl)
  unfold targetWriteConnecting
  generalize targetConnectionSucceeded s v.state.targetFd a.getsockopt = r at hno ⊢
  obtain ⟨connected, e⟩ := r
  dsimp only at hno ⊢
  subst hno
  cases a.getsockopt with
  | error e' => exact ⟨_, e, (h0.setErrno e').put _ rfl rfl rfl, rfl, rfl⟩
  | ok => exact ⟨_, e, h0.put _ rfl rfl rfl, rfl, rfl⟩

/-- A connection that failed is followed by attempts at the addresses that are left. -/
theorem targetWriteConnecting_connects (own : Own s) (jobs : JobsOwned s) (hl : s.life sid = .live v) (ready : v.Ready)
    (hst : v.state.stage = .connecting) (he : s.errno ≠ 0) {a : Answers}
    (hno : (targetConnectionSucceeded s v.state.targetFd a.getsockopt).1 = false) {e : Nat}
    (hcode : (targetConnectionSucceeded s v.state.targetFd a.getsockopt).2 = e) :
    ∃ acts v', Worked sid s (targetWriteConnecting s { fd := v.state.targetFd, data := some sid } sid v.state a) v' acts ∧
      Connects v { v.state with targetFd := -1, lastConnectError := e } v.state.targetAddressCurrent acts v' := by
  have hci : v.clientInterest = some opNoop := by
    have ha := ready.awake
    unfold View.Awake at ha
    simp only [hst] at ha
    exact ha.1.2.2.2
  have ht := ready.target.mpr (.inl hst)
  obtain ⟨s1, e', h1, rfl, heq⟩ := targetWriteConnecting_failed own hl hno
  subst hcode
  have hw1 := Worked.of_served own jobs h1
  have hw2 := hw1.trans (unregister_target_worked hw1.own hw1.jobs hw1.life ht)
  obtain ⟨acts, v', hw3, hcon⟩ := connectNext_worked hw2.own hw2.jobs hw2.life rfl (hw2.frame.errno he) hci a.attempts
  rw [heq]
  refine ⟨_, v', hw2.trans hw3, ?_⟩
  cases hcon with
  | started htr => exact .started htr
  | refused htr => exact .refused htr

/-- What the kernel says of the connection of a session in `CONNECTING`. -/
theorem targetConnectionSucceeded_eq (own : Own s) (hl : s.life sid = .live v) (ready : v.Ready)
    (hst : v.state.stage = .connecting) (getsockopt : SysResult) :
    ∃ c, v.connect = some c ∧ c ≠ .unconnected ∧
      ((targetConnectionSucceeded s v.state.targetFd getsockopt).1 = true ∧ c.soError = 0 ∨
        (targetConnectionSucceeded s v.state.targetFd getsockopt).1 = false ∧
          (targetConnectionSucceeded s v.state.targetFd getsockopt).2 ≠ 0) := by
  have ha := ready.awake
  unfold View.Awake at ha
  simp only [hst] at ha
  obtain ⟨_, _, c, hc, hcu⟩ := ha
  obtain ⟨hs, hview⟩ := Server.sessions_of_life hl
  obtain ⟨item, f, _, _, _, _, hf⟩ := (own.fds hs).target (ready.target.mpr (.inl hst))
  have hfc : f.connect = c := by
    have := congrArg View.connect hview
    rw [hc] at this
    simpa [Server.viewOf, Server.connect, hf] using this
  refine ⟨c, hc, hcu, ?_⟩
  unfold targetConnectionSucceeded
  cases getsockopt with
  | error e => exact .inr ⟨rfl, e.ne_zero⟩
  | ok =>
    simp only [hf, hfc]
    by_cases hso : c.soError = 0
    · exact .inl ⟨by simp [hso], hso⟩
    · exact .inr ⟨by simp [hso], hso⟩

/-- The connecting half of `target_write` decides the request, or tries the next address, in one step that leaves the session
there. -/
theorem targetWriteConnecting_worked (own : Own s) (jobs : JobsOwned s) (hl : s.life sid = .live v) (ready : v.Ready)
    (hst : v.state.stage = .connecting) (he : s.errno ≠ 0) (hw : env.writable v)
    (hp : v.connect = some .pending → env.premature) (a : Answers) :
    ∃ acts v', Worked sid s (targetWriteConnecting s { fd := v.state.targetFd, data := some sid } sid v.state a) v' acts ∧
      SessionStep env (.live v) acts (.live v') := by
  obtain ⟨c, hc, hcu, ⟨hok, hso⟩ | ⟨hno, hcode⟩⟩ := targetConnectionSucceeded_eq own hl ready hst a.getsockopt
  · have ht := ready.target.mpr (.inl hst)
    refine ⟨_, _, .of_served own jobs (targetWriteConnecting_connected own hl ht hok), .connected hst hw hc ?_⟩
    cases c with
    | unconnected => exact absurd rfl hcu
    | pending => exact .inr ⟨hp hc, rfl⟩
    | completed error => exact .inl (congrArg _ hso)
  · obtain ⟨acts, v', hworked, hcon⟩ := targetWriteConnecting_connects own jobs hl ready hst he hno rfl
    exact ⟨acts, v', hworked, .unconnected hst hw hcode hcon⟩

end Connect

/-! ## Taking a resolver's result -/

section Resolve

variable {env : Env} {s : Server} {sid : Nat} {v : View}

/-- Two sessions never have the same client descriptor. -/
theorem Own.client_inj (own : Own s) {sid' : Nat} {state state' : ClientState} (hs : s.sessions sid = some state)
    (hs' : s.sessions sid' = some state') (he : state.clientFd = state'.clientFd) : sid = sid' := by
  obtain ⟨item, hi, _, hd⟩ := own.client sid state hs
  obtain ⟨item', hi', _, hd'⟩ := own.client sid' state' hs'
  rw [he, hi'] at hi
  cases hi
  rw [hd] at hd'
  exact Option.some.inj hd'

/-- The session a job belongs to, from what it waits for. -/
theorem session_of_waits {job : Nat} {fd : Int} (hw : s.waits sid = some (job, fd)) :
    ∃ state, s.sessions sid = some state ∧ state.clientFd = fd ∧ state.resolverJob = some job := by
  unfold Server.waits at hw
  cases hs : s.sessions sid with
  | none => simp [hs] at hw
  | some state =>
    rw [hs, Option.bind_some, Option.map_eq_some_iff] at hw
    obtain ⟨job', hj, he⟩ := hw
    cases he
    exact ⟨state, rfl, rfl, hj⟩

/-- The state of a session that takes the result of its job. -/
def Server.take (s : Server) (sid : Nat) (state : ClientState) (job : Nat) (status : Int) (result : List AddrInfo) : Server :=
  ({ s with jobs := Function.update s.jobs job none }.put sid { state with resolverJob := none }).observe
    [.act sid (.resolved status result)]

section Take

variable {job : Nat} {record : ResolverJob}

/-- A session that took its result waits for none. -/
theorem sessions_take {state : ClientState} {status : Int} {result : List AddrInfo} :
    (s.take sid state job status result).sessions sid = some { state with resolverJob := none } := by
  simp [Server.take, Server.put, Server.observe]

/-- The taking of a result touches its session and its job. -/
theorem frame_take (hs : s.sessions sid = some v.state) (hj : v.state.resolverJob = some job) (status : Int)
    (result : List AddrInfo) :
    Frame sid s (s.take sid v.state job status result) [.resolved status result] := { Frame.refl sid s with
  sessions := fun sid' hne => by simp [Server.take, Server.put, Server.observe, Function.update_of_ne hne]
  jobs := fun job' _ hsp => by
    refine ⟨Function.update_of_ne ?_ _ _, fun fd => ?_⟩
    · rintro rfl
      exact hsp v.state.clientFd (by simp [waits_of_some hs, hj])
    · rw [waits_of_some sessions_take]
      simp
  results := fun job' => by
    by_cases he : job' = job
    · subst he
      exact .inl (by simp [Server.resultOf, Server.take, Server.put, Server.observe])
    · exact .inr (Server.resultOf_congr (Function.update_of_ne he _ _))
  trace := by
    refine ⟨[.act sid (.resolved status result)], rfl, ?_, fun sid' hne => ?_, rfl⟩
    · simp [Obs.acts_act]
    · simp [Obs.acts_act, hne.symm]
  ledger := fun hl => hl.acts sid [.resolved status result] }

/-- A session that took its result is in order, and so are the jobs. -/
theorem own_take (own : Own s) (jobs : JobsOwned s) (hl : s.life sid = .live v) (hj : v.state.resolverJob = some job)
    (hr : s.jobs job = some record) (hd : record.done = true) (status : Int) (result : List AddrInfo) :
    Own (s.take sid v.state job status result) ∧ JobsOwned (s.take sid v.state job status result) ∧
      (s.take sid v.state job status result).life sid = .live { v with state := { v.state with resolverJob := none } } := by
  obtain ⟨hs, hview⟩ := Server.sessions_of_life hl
  have fr := frame_take hs hj status result
  have hold : s.waits sid = some (job, v.state.clientFd) := by simp [waits_of_some hs, hj]
  have hw : (s.take sid v.state job status result).waits sid = none := by rw [waits_of_some sessions_take]; rfl
  refine ⟨own.frame fr (.same own hs rfl rfl rfl sessions_take rfl rfl fr.sessions (Nat.le_refl _)), ?_, ?_⟩
  · exact jobs.release hold hr hw (fun sid' hne => waits_congr (fr.sessions sid' hne))
      (by simp [Server.take, Server.put, Server.observe, hd]) rfl rfl
  · rw [Server.life_of_some sessions_take]
    exact congrArg (fun w : View => Life.live { w with state := { v.state with resolverJob := none } }) hview

/-- `target_connection_on_resolve`, for a session that waits for a result that is there. -/
theorem targetConnectionOnResolve_eq (own : Own s) (hl : s.life sid = .live v) (hst : v.state.stage = .resolving)
    (hj : v.state.resolverJob = some job) (hr : s.jobs job = some record) (hd : record.done = true) (a : Answers) :
    targetConnectionOnResolve s { fd := v.state.clientFd, data := some sid } a =
      if record.status ≠ 0 ∨ record.result = [] then
        failRequest (s.take sid v.state job record.status record.result) v.state.clientFd sid
          (socks5ReplyForGaiError record.status)
      else
        connectResolved ((s.take sid v.state job record.status record.result).put sid { v.state with
          resolverJob := none, targetAddresses := record.result, targetAddressCurrent := record.result }) v.state.clientFd sid
          a.attempts := by
  unfold targetConnectionOnResolve
  dsimp only
  rw [(Served.refl hl (own.held hl)).withSession, if_neg (not_not.mpr hst), hj]
  dsimp only
  rw [hr]
  dsimp only
  rw [hd]
  rfl

end Take

/-- `target_connection_on_resolve`, for a notification whose session waits for a result that is there: the session takes the
result, the notification is spent, and the request is decided or the addresses are tried. -/
theorem targetConnectionOnResolve_handled (own : Own s) (jobs : JobsOwned s) (hl : s.life sid = .live v) (ready : v.Ready)
    {job : Nat} {record : ResolverJob} (hj : v.state.resolverJob = some job) (hr : s.jobs job = some record)
    (hd : record.done = true) (hp : env.published record.status record.result) (he : s.errno ≠ 0) (a : Answers) (s' : Server)
    (hs' : s' = targetConnectionOnResolve s { fd := v.state.clientFd, data := some sid } a) :
    Own s' ∧ JobsOwned s' ∧ (∀ q, Notified (v.state.clientFd :: q) q s s') ∧
    ∃ acts, Frame sid s s' acts ∧ SessionSteps env (s.life sid) acts (s'.life sid) := by
  obtain ⟨hs, _⟩ := Server.sessions_of_life hl
  have hst : v.state.stage = .resolving := ready.resolver.mp (by simp [hj])
  have ht := ready.no_target (by simp [hst]) (by simp [hst])
  have fr := frame_take hs hj record.status record.result
  obtain ⟨own1, jobs1, hl1⟩ := own_take own jobs hl hj hr hd record.status record.result
  rw [targetConnectionOnResolve_eq own hl hst hj hr hd] at hs'
  have hw : (s.take sid v.state job record.status record.result).waits sid = none := by rw [waits_of_some sessions_take]; rfl
  set s1 := s.take sid v.state job record.status record.result with hs1
  have hold : s.waits sid = some (job, v.state.clientFd) := by simp [waits_of_some hs, hj]
  have hwo : ∀ sid', sid' ≠ sid → s1.waits sid' = s.waits sid' := fun sid' hne => waits_congr (fr.sessions sid' hne)
  have hclient : ∀ sid' job', s.waits sid' = some (job', v.state.clientFd) → sid' = sid := by
    intro sid' job' hw'
    obtain ⟨state', hst', hfd, _⟩ := session_of_waits hw'
    exact own.client_inj hst' hs hfd
  have hn1 : ∀ q, Notified (v.state.clientFd :: q) q s s1 := by
    intro q
    have hp : s1.phase = s.phase := rfl
    refine ⟨fun hq => hq.take jobs hclient hold hwo rfl rfl, fun ha => (ha.leave hp hw hwo rfl).spend fun sid' job' hw' => ?_⟩
    by_cases hne : sid' = sid
    · rw [hne, hw] at hw'
      cases hw'
    · rw [hwo sid' hne] at hw'
      exact hne (hclient sid' job' hw')
  -- from here on the session is worked for
  have hend : ∀ {s2 : Server} {v2 : View} {acts : List Act}, Worked sid s1 s2 v2 acts →
      SessionStep env (.live v) (.resolved record.status record.result :: acts) (.live v2) → s' = s2 →
      Own s' ∧ JobsOwned s' ∧ (∀ q, Notified (v.state.clientFd :: q) q s s') ∧
      ∃ acts, Frame sid s s' acts ∧ SessionSteps env (s.life sid) acts (s'.life sid) := by
    rintro s2 v2 acts hw2 hstep rfl
    refine ⟨hw2.own, hw2.jobs, fun q => (hn1 q).trans (hw2.notified q), _, fr.trans hw2.frame, ?_⟩
    rw [hl, hw2.life]
    exact .single hstep
  have h1 := Served.refl hl1 (own1.held hl1)
  split at hs'
  · rename_i hfail
    have hw2 := Worked.of_served own1 jobs1 (h1.failRequest (socks5ReplyForGaiError record.status))
    exact hend hw2 (.unresolved hst hfail hp) hs'
  · rename_i hok
    rw [not_or, not_not] at hok
    have hw2 := Worked.of_served own1 jobs1 (h1.put { v.state with
      resolverJob := none, targetAddresses := record.result, targetAddressCurrent := record.result } rfl rfl rfl)
    obtain ⟨acts, v', hw3, hcon⟩ := connectResolved_worked hw2.own hw2.jobs hw2.life ht
      (hw2.frame.errno (fr.errno he)) a.attempts
    refine hend (hw2.trans hw3) ?_ hs'
    rw [hok.1] at hp ⊢
    refine .resolved hst hok.2 hp ?_
    cases hcon with
    | started htr => exact .started htr
    | refused htr => exact .refused htr

end Resolve

end SocksProxy
