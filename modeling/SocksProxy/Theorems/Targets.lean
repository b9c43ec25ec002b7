import SocksProxy.Theorems.Sockets
import SocksProxy.Theorems.Accounting

/-!
# One target at a time

Every step of every run keeps the sockets of a session's attempts in order: a session has at most one of them open, it is the one
its state names, and all others were closed once. With the order of the attempts this says what becomes of a request that takes
several of them.
-/

namespace SocksProxy

/-! ## The occasions to attempt -/

/-- A session whose client, as long as it is there, has this descriptor. -/
def Life.Reaches (fd : Int) : Life → Prop
  | .unborn => False
  | .live v => v.state.clientFd = fd
  | .gone => True

/-- What makes a session attempt connections: a request for an address, the result it waits for, or word of a connection on its
way. -/
inductive Env.Occasion (env : Env) : Prop where
  | request {v : View} {bytes : List Byte} {r : Socks5Request} : v.clientInterest = some opRead → v.state.stage = .request →
    env.recv .client v (.data bytes) → requestVerdict (v.state.readBuffer ++ bytes) = .request r →
    r.atyp ≠ socks5AtypDomain → Occasion env
  | result {status : Int} {result : List AddrInfo} : env.published status result → Occasion env
  | word {v : View} : v.state.stage = .connecting → env.writable v → Occasion env

section Step

variable {env : Env} {L L' : Life} {acts : List Act} {v v' : View} {st : ClientState} {fd : Int}

/-- Connecting to addresses leaves the client alone. -/
theorem Connects.client {l : List AddrInfo} (h : Connects v st l acts v') : v'.state.clientFd = st.clientFd := by
  obtain ⟨_, _, _, ⟨_, _, _, _, _, rfl⟩ | ⟨_, rfl, _, rfl⟩⟩ := h.eq <;> rfl

/-- Beginning a request leaves the client alone. -/
theorem Begins.client {r : Socks5Request} (h : Begins v st r acts v') : v'.state.clientFd = st.clientFd := by
  have hc : (st.beginning r).clientFd = st.clientFd := by
    obtain ⟨host, hb⟩ := st.beginning_eq r
    rw [hb]
  cases h <;> exact hc

/-- A session has one client as long as it is there. -/
theorem SessionStep.reaches (h : SessionStep env L acts L') (hL : L.Reaches fd) : L'.Reaches fd := by
  cases h with
  | accepted => cases hL
  | begun _ _ _ _ _ _ hb => exact hb.client.trans hL
  | resolved _ _ _ hcon => exact hcon.client.trans hL
  | unconnected _ _ _ hcon => exact hcon.client.trans hL
  | _ => first | exact hL | trivial

/-- A session attempts connections on an occasion only. -/
theorem SessionStep.occasion (h : SessionStep env L acts L') {addr : SockAddr} (ha : .attempted addr ∈ acts) : env.Occasion := by
  cases h with
  | begun hi hr _ _ hst hv hb =>
    rw [hst] at hv
    cases hb with
    | resolving => simp at ha
    | unresolved =>
      simp only [List.mem_cons, reduceCtorEq, false_or] at ha
      rw [Act.mem_attempts, ClientState.attempts_refusedActs] at ha
      cases ha
    | connecting hd => exact .request hi hst hr hv hd
    | unconnected hd => exact .request hi hst hr hv hd
  | unresolved _ _ hp => exact .result hp
  | resolved _ _ hp => exact .result hp
  | connected hst hw => exact .word hst hw
  | unconnected hst hw => exact .word hst hw
  | _ => simp at ha

/-- A session attempts connections on an occasion only, in any number of steps. -/
theorem SessionSteps.occasion (h : SessionSteps env L acts L') {addr : SockAddr} (ha : .attempted addr ∈ acts) :
    env.Occasion := by
  induction h with
  | refl => cases ha
  | tail _ hs ih =>
    rcases List.mem_append.mp ha with ha | ha
    · exact ih ha
    · exact hs.occasion ha

end Step

/-! ## The calls that attempt -/

/-- From one server to another, a session gave up the socket it had, if it had one, and made attempts. -/
def Attempting (sid : Nat) (s s' : Server) : Prop :=
  ∃ s1 before, s1.trace = s.trace ++ before ∧ (∀ addr, .act sid (.attempted addr) ∉ before) ∧
    (∀ file, s.Target sid file → .closed file ∈ before) ∧ Tried sid s1 s'

section Calls

variable {s s1 s' : Server} {sid : Nat} {v : View} {r : Socks5Request}

/-- Attempts leave the attempts in order. -/
theorem Tidy.attempting (h : Tidy sid s) (ha : Attempting sid s s') : Tidy sid s' := by
  obtain ⟨s1, before, hb, hno, hgone, ht⟩ := ha
  refine h.tried hb hno (fun file hc => ?_) ht
  rw [hb]
  obtain hc | ht := h.closed file hc
  · exact List.mem_append_left _ hc
  · exact List.mem_append_right _ (hgone file ht)

/-- Attempts, and something done to the session that leaves its target alone. -/
theorem Tried.congr (h : Tried sid s s1) (htrace : s'.trace = s1.trace) (ht : ∀ file, s1.Target sid file → s'.Target sid file) :
    Tried sid s s' := by
  obtain ⟨obs, left, after, htr, htrials, hafter, hnone, hsome⟩ := h
  exact ⟨obs, left, after, htrace.trans htr, htrials, hafter, hnone, fun file hl => ⟨(hsome file hl).1, ht file (hsome file hl).2⟩⟩

/-- A session without a target has no file for one. -/
theorem Own.no_target (own : Own s) (hl : s.life sid = .live v) (ht : v.state.targetFd = -1) (file : Nat) :
    ¬s.Target sid file := by
  rintro ⟨state, f, hs, hf, _⟩
  rw [(Server.sessions_of_life hl).1] at hs
  cases hs
  rw [ht, own.files_neg_one] at hf
  cases hf

/-- `target_connection_begin` attempts, for an address. -/
theorem targetConnectionBegin_tried (own : Own s) (jobs : JobsOwned s) (hl : s.life sid = .live v) (ht : v.state.targetFd = -1)
    (he : s.errno ≠ 0) (hr : r.atyp ≠ socks5AtypDomain) (a : Answers) :
    ∃ s1, s1.trace = s.trace ++ [.act sid (.begun r)] ∧
      Tried sid s1 (targetConnectionBegin s { fd := v.state.clientFd, data := some sid } sid r a) := by
  have h1 := ((Served.refl hl (own.held hl)).act (.begun r) (fun _ => rfl)).freeAddresses
  obtain ⟨host, hb⟩ := v.state.beginning_eq r
  have h2 := h1.put (v.state.beginning r) (by rw [hb]) (by rw [hb]) (by rw [hb])
  have hw2 := Worked.of_served own jobs h2
  have ht' : (v.state.beginning r).targetFd = -1 := by rw [hb, ht]
  have hc' : (v.state.beginning r).clientFd = v.state.clientFd := by rw [hb]
  have htried := beginConnection_tried hw2.own hw2.jobs hw2.life ht' (hw2.frame.errno he) r (a.attempts.headD .exhausted)
  dsimp only at htried
  rw [hc'] at htried
  refine ⟨_, h2.trace, ?_⟩
  unfold targetConnectionBegin
  dsimp only
  rw [h1.withSession, if_neg hr]
  exact htried

/-- `client_read` attempts, when it completes a request for an address. -/
theorem clientRead_attempting (h : Inv s) (hl : s.life sid = .live v) (hst : v.state.stage = .request) (a : Answers) {bytes : List Byte}
    (hlim : a.recv.limit (serverBufferSize - v.state.readLen) = .data bytes)
    (hv : requestVerdict (v.state.readBuffer ++ bytes) = .request r) (hr : r.atyp ≠ socks5AtypDomain) :
    Attempting sid s (clientRead s { fd := v.state.clientFd, data := some sid } a) := by
  have ready := h.ready_live hl
  have ht := ready.no_target (by simp [hst]) (by simp [hst])
  have hj : v.state.resolverJob = none := by simpa using ready.resolver.not.mpr (by simp [hst])
  have h0 := Served.refl hl (h.own.held hl)
  have h1 := (h0.put { v.state with readBuffer := v.state.readBuffer ++ bytes } rfl rfl rfl).act (.recvHandshake bytes)
    (fun _ => rfl)
  have hw1 := Worked.of_served h.own h.jobs h1
  have hread : clientRead s { fd := v.state.clientFd, data := some sid } a =
      clientReadRequest ((s.put sid { v.state with readBuffer := v.state.readBuffer ++ bytes }).observe
        [.act sid (.recvHandshake bytes)]) { fd := v.state.clientFd, data := some sid } sid
        { v.state with readBuffer := v.state.readBuffer ++ bytes } a := by
    unfold clientRead
    dsimp only
    rw [h0.withSession, if_neg (by simp [hst]), hlim]
    dsimp only
    split
    · exact absurd (hst.symm.trans ‹_›) (by simp)
    · exact absurd (hst.symm.trans ‹_›) (by simp)
    · rfl
    · exact absurd hst ‹_›
  rw [hread, clientReadRequest_eq]
  dsimp only
  rw [hv]
  obtain ⟨s2, htrace, htried⟩ := targetConnectionBegin_tried hw1.own hw1.jobs hw1.life ht (hw1.frame.errno (h.errno_ne hl)) hr a
  obtain ⟨acts, v', hw2, _⟩ := targetConnectionBegin_worked hw1.own hw1.jobs hw1.life ht hj (hw1.frame.errno (h.errno_ne hl)) r a
  refine ⟨s2, [.act sid (.recvHandshake bytes), .act sid (.begun r)], ?_, by simp,
    fun file htarget => absurd htarget (h.own.no_target hl ht file), ?_⟩
  · rw [htrace, h1.trace, List.append_assoc]
    rfl
  · dsimp only
    rw [hw2.refl.withSession]
    -- the read buffer is emptied at the end
    refine htried.congr rfl ?_
    rintro file ⟨state, f, hs, hf, hserial⟩
    refine ⟨_, f, Function.update_self .., ?_, hserial⟩
    rw [(Server.sessions_of_life hw2.life).1] at hs
    cases hs
    exact hf

/-- `target_connection_on_resolve` attempts, for a session that takes its result, or refuses the request without an attempt. -/
theorem targetConnectionOnResolve_attempting (own : Own s) (jobs : JobsOwned s) (hl : s.life sid = .live v) (ready : v.Ready)
    (he : s.errno ≠ 0) {job : Nat} {record : ResolverJob} (hj : v.state.resolverJob = some job) (hr : s.jobs job = some record)
    (hd : record.done = true) (a : Answers) :
    Attempting sid s (targetConnectionOnResolve s { fd := v.state.clientFd, data := some sid } a) := by
  have hst : v.state.stage = .resolving := ready.resolver.mp (by simp [hj])
  have ht := ready.no_target (by simp [hst]) (by simp [hst])
  have fr := frame_take (Server.sessions_of_life hl).1 hj record.status record.result
  obtain ⟨own1, jobs1, hl1⟩ := own_take own jobs hl hj hr hd record.status record.result
  have h1 := Served.refl hl1 (own1.held hl1)
  refine ⟨s.take sid v.state job record.status record.result, [.act sid (.resolved record.status record.result)], rfl, by simp,
    fun file htarget => absurd htarget (own.no_target hl ht file), ?_⟩
  rw [targetConnectionOnResolve_eq own hl hst hj hr hd]
  split
  · exact .refused (List.append_nil _).symm (.none _) _ _ (h1.failRequest _)
  · have hw := Worked.of_served own1 jobs1 (h1.put { v.state with
      resolverJob := none, targetAddresses := record.result, targetAddressCurrent := record.result } rfl rfl rfl)
    exact connectResolved_tried hw.own hw.jobs hw.life ht (hw.frame.errno (fr.errno he)) a.attempts

/-- Unregistering the target of a session closes its file. -/
theorem unregister_target_trace (own : Own s) (hl : s.life sid = .live v) (ht : v.state.targetFd ≠ -1) :
    (s.unregister v.state.targetFd).1.trace = s.trace ++ ((s.files v.state.targetFd).map (Obs.closed ·.serial)).toList := by
  rw [unregister_target_eq own hl ht]
  rfl

/-- The connecting half of `target_write`, for a connection that failed: its socket is closed, and attempts follow. -/
theorem targetWriteConnecting_attempting (own : Own s) (jobs : JobsOwned s) (hl : s.life sid = .live v)
    (ht : v.state.targetFd ≠ -1) (he : s.errno ≠ 0) {a : Answers}
    (hno : (targetConnectionSucceeded s v.state.targetFd a.getsockopt).1 = false) :
    Attempting sid s (targetWriteConnecting s { fd := v.state.targetFd, data := some sid } sid v.state a) := by
  obtain ⟨s1, e, h1, _, heq⟩ := targetWriteConnecting_failed own hl hno
  have hw1 := Worked.of_served own jobs h1
  have hw2 := hw1.trans (unregister_target_worked hw1.own hw1.jobs hw1.life ht)
  have htried := connectNext_tried hw2.own hw2.jobs hw2.life rfl (hw2.frame.errno he) a.attempts
  rw [heq]
  refine ⟨_, ((s.files v.state.targetFd).map (Obs.closed ·.serial)).toList, ?_, fun addr hm => ?_, ?_, htried⟩
  · have htrace := h1.trace
    rw [List.map_nil, List.append_nil] at htrace
    have hgiven := unregister_target_trace hw1.own hw1.life ht
    rw [htrace, (Server.resources_eq h1.resources).1] at hgiven
    exact hgiven
  · cases hf : s.files v.state.targetFd <;> rw [hf] at hm <;> simp at hm
  · rintro file ⟨state, f, hs, hf, hserial⟩
    rw [(Server.sessions_of_life hl).1] at hs
    cases hs
    rw [hf, ← hserial]
    exact List.mem_singleton_self _

end Calls

/-! ## Every step -/

section Steps

variable {env : Nat → Env} {s0 s s' : Server} {sid : Nat} {obs : List Obs}

/-- The session keeps its client through what it does in a step. -/
theorem Lives.client (h : Lives env s s') {state state' : ClientState} (hs : s.sessions sid = some state)
    (hs' : s'.sessions sid = some state') : state'.clientFd = state.clientFd := by
  obtain ⟨acts, _, hsteps⟩ := h.steps sid
  rw [Server.life_of_some hs, Server.life_of_some hs'] at hsteps
  have h0 : (Life.live (s.viewOf state)).Reaches state.clientFd := rfl
  exact Traces.Steps.preserves (P := Life.Reaches state.clientFd) (fun _ _ _ hL hst => hst.reaches hL) h0 hsteps

/-- The notification of another session leaves a session's attempts in order, and so does its own. -/
theorem Draining.tidy {fd : Int} {q : List Int} (h : Draining env (fd :: q) s0 s) (h0 : ∀ sid, (s0.life sid).Ready)
    (hp : ∀ sid job fd record, s0.Awaits sid job fd record → (env sid).published record.status record.result) (a : Answers)
    (ht : Tidy sid s) : Tidy sid (SocksProxy.handleBlock s fd a) := by
  obtain ⟨sid', job, record, hf⟩ := h.finds h0 hp
  obtain ⟨own', _, _, acts, fr, _⟩ := hf.handled a
  by_cases hne : sid = sid'
  · subst hne
    obtain ⟨state, hs, rfl, _⟩ := hf.resolving
    have hl := Server.life_of_some hs
    have ready : (s.viewOf state).Ready := by
      have := h.lives.ready h0 sid
      rw [hl] at this
      exact this
    have he : s.errno ≠ 0 := by
      refine h.errno.resolve_left fun hno => ?_
      rw [hno sid] at hs
      cases hs
    obtain ⟨state', hs', _, hj⟩ := session_of_waits hf.awaits.waits
    rw [hs] at hs'
    cases hs'
    rw [hf.calls a]
    exact ht.attempting (targetConnectionOnResolve_attempting h.own h.jobs hl ready he hj hf.awaits.job hf.awaits.done a)
  · obtain ⟨obs, htrace, _, hother, _⟩ := fr.trace
    refine ht.quiet h.own own' (fr.custody h.own own') htrace (fun addr hm => ?_) fun state state' hs hs' => ?_
    · rw [hother sid hne] at hm
      cases hm
    · rw [fr.sessions sid hne, hs] at hs'
      rw [Option.some.inj hs']

/-- The loop over the notifications leaves the attempts of every session in order. -/
theorem Draining.tidy_loop {q q' : List Int} (h : Draining env (q ++ q') s0 s) (h0 : ∀ sid, (s0.life sid).Ready)
    (hp : ∀ sid job fd record, s0.Awaits sid job fd record → (env sid).published record.status record.result)
    (as : List Answers) (ht : Tidy sid s) : Tidy sid (handleBlockLoop q as s) := by
  induction q generalizing s as with
  | nil => exact ht
  | cons fd q ih => exact ih (h.handleBlock h0 hp _) as.tail (h.tidy h0 hp _ ht)

/-- Draining the notifications leaves the attempts of every session in order. -/
theorem handleBlockNotifications_tidy (h : Inv s) (hph : s.phase ≠ .destroyed) (as : List Answers) (ht : Tidy sid s) :
    Tidy sid (handleBlockNotifications s as) := by
  have hd : Draining (s.env (.notifications as)) (s.selector.resolutionJobs ++ []) s s := by
    rw [List.append_nil]
    exact h.draining hph (List.nil_append _).symm as as
  have hend := hd.tidy_loop h.ready (fun sid job fd record ha => ⟨⟨as, rfl⟩, job, fd, record, ha.waits, ha.job, ha.done, rfl, rfl⟩) as
    ht
  exact ⟨hend.ordered, hend.closed, hend.settled⟩

/-- Every step leaves the attempts of a session in order. -/
theorem step_tidy (h : Inv s) (ht : Tidy sid s) (e : Event) : Tidy sid (step s e) := by
  obtain ⟨hinv, hlives⟩ := step_inv h e
  obtain ⟨obs, htrace⟩ := hlives.custody.trace
  by_cases hno : ∀ addr, .attempted addr ∉ Obs.acts sid obs
  · exact ht.quiet h.own hinv.own hlives.custody htrace.symm hno fun _ _ => hlives.client
  · -- there is an occasion for the attempts
    push Not at hno
    obtain ⟨addr, hm⟩ := hno
    obtain ⟨acts, ha, hsteps⟩ := hlives.steps sid
    have hacts : acts = Obs.acts sid obs := by
      rw [Server.acts, ← htrace, Obs.acts_append] at ha
      exact (List.append_cancel_left ha).symm
    rw [← hacts] at hm
    obtain @⟨v, _, _, hi, hst, hr, hv, hd⟩ | ⟨hp⟩ | @⟨v, hst, hw⟩ := hsteps.occasion hm
    · obtain ⟨a, rfl, hlim⟩ := hr.answered
      rw [show step s (.read (v.fdOf .client) a) = _ from step_read_client h hr.life hr.running hi rfl a]
      exact ht.attempting (clientRead_attempting h hr.life hst a hlim hv hd)
    · obtain ⟨as, rfl⟩ := hp.draining
      simp only [step]
      split
      · rename_i hrun
        exact handleBlockNotifications_tidy h (by simp [hrun]) as ht
      · exact ht
    · obtain ⟨a, rfl⟩ := hw.called
      have ready := h.ready_live hw.life
      have htarget := ready.target.mpr (.inl hst)
      rw [step_write_target h hw, targetWrite_of_connecting hw.life hst] at ha ⊢
      cases hok : (targetConnectionSucceeded s v.state.targetFd a.getsockopt).1 with
      | true =>
        -- a connection that completed is followed by no attempt
        have hserved := targetWriteConnecting_connected h.own hw.life htarget hok
        rw [(Worked.of_served h.own h.jobs hserved).frame.acts_self] at ha
        rw [← List.append_cancel_left ha, Act.mem_attempts, ClientState.attempts_connectedActs] at hm
        cases hm
      | false => exact ht.attempting (targetWriteConnecting_attempting h.own h.jobs hw.life htarget (h.errno_ne hw.life) hok)

end Steps

/-! ## Word of a connection -/

/-- In this event the kernel tells a session in `CONNECTING` that its connection completed, or that it failed. -/
def Event.Tells (s : Server) (e : Event) (sid : Nat) (completed : Bool) : Prop :=
  ∃ v a, s.phase = .running ∧ s.life sid = .live v ∧ v.state.stage = .connecting ∧ e = .write v.state.targetFd a ∧
    (targetConnectionSucceeded s v.state.targetFd a.getsockopt).1 = completed

section Word

variable {env : Env} {L L' : Life} {acts : List Act} {s : Server} {sid : Nat} {e : Event} {v : View}

/-- A session in `CONNECTING` whose target is reported writable is told what became of its connection. -/
theorem Event.Writes.tells (h : e.Writes s sid v) (hst : v.state.stage = .connecting) :
    e.Tells s sid true ∨ e.Tells s sid false := by
  obtain ⟨hrun, hl, _, a, he⟩ := h
  cases hok : (targetConnectionSucceeded s v.state.targetFd a.getsockopt).1 with
  | true => exact .inl ⟨v, a, hrun, hl, hst, he, hok⟩
  | false => exact .inr ⟨v, a, hrun, hl, hst, he, hok⟩

/-- The step of a session in `CONNECTING` whose target is reported writable. -/
theorem step_connecting (h : Inv s) (hrun : s.phase = .running) (hl : s.life sid = .live v) (hst : v.state.stage = .connecting)
    (a : Answers) : step s (.write v.state.targetFd a) =
      targetWriteConnecting s { fd := v.state.targetFd, data := some sid } sid v.state a := by
  have hti : v.targetInterest = some opWrite := by
    have ha := (h.ready_live hl).awake
    unfold View.Awake at ha
    simp only [hst] at ha
    exact ha.2.1
  rw [step_write_target h ⟨hrun, hl, ⟨_, hti, rfl⟩, a, rfl⟩, targetWrite_of_connecting hl hst]

/-- A session that is told its connection completed goes to `RELAY` on the same socket. -/
theorem Event.Tells.completed (h : Inv s) (ht : e.Tells s sid true) :
    .succeeded ∈ s.doing e sid ∧ (step s e).Relays sid ∧ ∀ file, s.Target sid file → (step s e).Target sid file := by
  obtain ⟨v, a, hrun, hl, hst, rfl, hok⟩ := ht
  have hserved := targetWriteConnecting_connected h.own hl ((h.ready_live hl).target.mpr (.inl hst)) hok
  rw [← step_connecting h hrun hl hst a] at hserved
  have hw := Worked.of_served h.own h.jobs hserved
  have hs' := (Server.sessions_of_life hw.life).1
  refine ⟨?_, ⟨_, hs', rfl⟩, ?_⟩
  · rw [Server.doing_eq hw.frame.acts_self]
    simp [ClientState.connectedActs]
  · rintro file ⟨state, f, hs, hf, hserial⟩
    rw [(Server.sessions_of_life hl).1] at hs
    cases hs
    refine ⟨_, f, hs', ?_, hserial⟩
    rw [(Server.resources_eq hserved.resources).1]
    exact hf

/-- A session that is told its connection failed is not counted as a success. -/
theorem Event.Tells.failed (h : Inv s) (ht : e.Tells s sid false) : .succeeded ∉ s.doing e sid := by
  obtain ⟨v, a, hrun, hl, hst, rfl, hno⟩ := ht
  obtain ⟨acts, v', hw, hcon⟩ :=
    targetWriteConnecting_connects h.own h.jobs hl (h.ready_live hl) hst (h.errno_ne hl) hno rfl
  rw [← step_connecting h hrun hl hst a] at hw
  rw [Server.doing_eq hw.frame.acts_self]
  exact hcon.not_succeeded

/-- A request is counted as a failure when it is complete, when its result is there, or at word of a connection. -/
theorem SessionStep.failed (h : SessionStep env L acts L') (hm : .failed ∈ acts) :
    (∃ v bytes, v.state.stage = .request ∧ env.recv .client v (.data bytes)) ∨ (∃ status result, env.published status result) ∨
      ∃ v, v.state.stage = .connecting ∧ env.writable v := by
  cases h with
  | rejected _ hr _ _ hst => exact .inl ⟨_, _, hst, hr⟩
  | begun _ hr _ _ hst => exact .inl ⟨_, _, hst, hr⟩
  | unresolved _ _ hp => exact .inr (.inl ⟨_, _, hp⟩)
  | resolved _ _ hp => exact .inr (.inl ⟨_, _, hp⟩)
  | connected hst hw => exact .inr (.inr ⟨_, hst, hw⟩)
  | unconnected hst hw => exact .inr (.inr ⟨_, hst, hw⟩)
  | _ => simp at hm

/-- The occasions to count a request as a failure, in any number of steps. -/
theorem SessionSteps.failed (h : SessionSteps env L acts L') (hm : .failed ∈ acts) :
    (∃ v bytes, v.state.stage = .request ∧ env.recv .client v (.data bytes)) ∨ (∃ status result, env.published status result) ∨
      ∃ v, v.state.stage = .connecting ∧ env.writable v := by
  induction h with
  | refl => cases hm
  | tail _ hs ih =>
    rcases List.mem_append.mp hm with hm | hm
    · exact ih hm
    · exact hs.failed hm

/-- A session in `CONNECTING` goes on to the next address, or fails its request, only if it is told that its connection failed. -/
theorem tells_of_attempts (h : Inv s) (hl : s.life sid = .live v) (hst : v.state.stage = .connecting)
    (hm : .failed ∈ s.doing e sid ∨ ∃ addr, .attempted addr ∈ s.doing e sid) : e.Tells s sid false := by
  obtain ⟨acts, ha, hsteps⟩ := (step_inv h e).2.steps sid
  rw [Server.doing_eq ha] at hm
  have hword : (∃ v bytes, v.state.stage = .request ∧ (s.env e sid).recv .client v (.data bytes)) ∨
      (∃ status result, (s.env e sid).published status result) ∨ ∃ v, v.state.stage = .connecting ∧ (s.env e sid).writable v := by
    rcases hm with hm | ⟨addr, hm⟩
    · exact hsteps.failed hm
    · obtain ⟨_, hst', hr, _, _⟩ | ⟨hp⟩ | ⟨hst', hw⟩ := hsteps.occasion hm
      · exact .inl ⟨_, _, hst', hr⟩
      · exact .inr (.inl ⟨_, _, hp⟩)
      · exact .inr (.inr ⟨_, hst', hw⟩)
  obtain ⟨v', bytes, hst', hr⟩ | ⟨status, result, hp⟩ | ⟨v', hst', hw⟩ := hword
  · have hl' := hr.life
    rw [hl] at hl'
    cases hl'
    rw [hst] at hst'
    cases hst'
  · obtain ⟨job, fd, record, hwaits, _⟩ := hp.waited
    obtain ⟨state, hs, _, hj⟩ := session_of_waits hwaits
    rw [(Server.sessions_of_life hl).1] at hs
    cases hs
    have := (h.ready_live hl).resolver.mp (by simp [hj])
    rw [hst] at this
    cases this
  · refine (hw.tells hst').resolve_left fun htrue => ?_
    -- a connection that completed is followed by no attempt
    obtain ⟨v, a, hrun, hl, hst, rfl, hok⟩ := htrue
    have hserved := targetWriteConnecting_connected h.own hl ((h.ready_live hl).target.mpr (.inl hst)) hok
    rw [← step_connecting h hrun hl hst a] at hserved
    have hacts := (Worked.of_served h.own h.jobs hserved).frame.acts_self
    rw [ha] at hacts
    obtain rfl := List.append_cancel_left hacts
    rcases hm with hm | ⟨addr, hm⟩
    · exact v.state.mem_connectedActs.1 hm
    · rw [Act.mem_attempts, ClientState.attempts_connectedActs] at hm
      cases hm

end Word

/-! ## Every run -/

section Run

variable (c : Config)

/-- There are no attempts at the start. -/
theorem Config.tidy_start (sid : Nat) : Tidy sid c.start := by
  have hno : ∀ addr, .act sid (.attempted addr) ∉ c.start.trace := by
    intro addr hm
    have : Obs.act sid (.attempted addr) ∈ [.opened 0 c.serverFd, .opened 1 c.managementFd] := hm
    simp at this
  have hcreated : ∀ file pre post, c.start.trace = pre ++ post → ¬Obs.Created sid file pre := by
    intro file pre post he hc
    obtain ⟨addr, hm⟩ := hc.attempted
    exact hno addr (he ▸ List.mem_append_left _ (Obs.mem_acts.mpr hm))
  refine ⟨fun pre addr post he file hc => absurd hc (hcreated file pre _ he), fun file hc => ?_, ?_⟩
  · exact absurd hc (hcreated file _ [] (List.append_nil _).symm)
  · rintro ⟨pre, addr, he⟩
    exact hno addr (he ▸ List.mem_append_right _ (List.mem_singleton_self _))

/-- After every run the attempts of every session are in order. -/
theorem run_tidy (es : List Event) (sid : Nat) : Tidy sid (run c.start es) :=
  (Traces.foldl_invariant (P := fun s => Inv s ∧ Tidy sid s) ⟨c.inv_start, c.tidy_start sid⟩
    (fun _ e h => ⟨(step_inv h.1 e).1, step_tidy h.1 h.2 e⟩) es).2

/-- A file closed in the first part of a trace was closed once in it. -/
theorem Own.closings_eq_one {s : Server} (own : Own s) {pre post : List Obs} {file : Nat} (ht : s.trace = pre ++ post)
    (hm : .closed file ∈ pre) : Obs.closings file pre = 1 := by
  have hpos : 0 < Obs.closings file pre := List.countP_pos_iff.mpr ⟨_, hm, by simp⟩
  have hle : Obs.closings file s.trace ≤ 1 := by
    by_cases hlt : file < s.nextFile
    · by_cases hopen : ∃ fd f, s.files fd = some f ∧ f.serial = file
      · obtain ⟨fd, f, hf, rfl⟩ := hopen
        rw [own.ledger.closedOpen fd f hf]
        exact Nat.zero_le 1
      · exact (own.ledger.closedGone file hlt fun fd f hf he => hopen ⟨fd, f, hf, he⟩).le
    · rw [own.ledger.unborn file (Nat.le_of_not_lt hlt)]
      exact Nat.zero_le 1
  rw [ht, Obs.closings, List.countP_append] at hle
  rw [Obs.closings] at hpos ⊢
  omega

/-- After every run, for every session. Once it took a list, it has attempted the usable addresses in order, each once, up to the
first that was connected to, and if its request failed, all of them in vain. When it began an attempt, the sockets of all attempts
before it had been closed once. Every socket of an attempt has been closed once, or is the target of the session and has not been
closed; and the session has a target while it is connecting or relaying and at no other time. In whatever event comes next, the
request succeeds if and only if the session is told that its connection completed, and then the session relays on that socket; and a
session that is connecting goes on to the next address, or fails, only if it is told that its connection failed. -/
theorem attempts_in_turn (es : List Event) (sid : Nat) :
    (∀ pre l post, (run c.start es).acts sid = pre ++ .resolved 0 l :: post → Act.attempts pre = [] ∧ Outcome l post) ∧
    (∀ pre addr post, (run c.start es).trace = pre ++ .act sid (.attempted addr) :: post →
      ∀ file, Obs.Created sid file pre → Obs.closings file pre = 1) ∧
    (∀ file, Obs.Created sid file (run c.start es).trace → Obs.closings file (run c.start es).trace = 1 ∨
      Obs.closings file (run c.start es).trace = 0 ∧ (run c.start es).Target sid file) ∧
    (∀ state, (run c.start es).sessions sid = some state →
      (state.targetFd ≠ -1 ↔ state.stage = .connecting ∨ state.stage = .relay)) ∧
    ∀ e, (.succeeded ∈ (run c.start es).doing e sid ↔ e.Tells (run c.start es) sid true) ∧
      (e.Tells (run c.start es) sid true → (run c.start (es ++ [e])).Relays sid ∧
        ∀ file, (run c.start es).Target sid file → (run c.start (es ++ [e])).Target sid file) ∧
      ∀ state, (run c.start es).sessions sid = some state → state.stage = .connecting →
        .failed ∈ (run c.start es).doing e sid ∨ (∃ addr, .attempted addr ∈ (run c.start es).doing e sid) →
        e.Tells (run c.start es) sid false := by
  have hinv := run_inv c es
  have htidy := run_tidy c es sid
  refine ⟨fun pre l post he => (run_course c es sid).concluded.outcome he,
    fun pre addr post he file hc => hinv.own.closings_eq_one he (htidy.ordered pre addr post he file hc), fun file hc => ?_,
    fun state hs => (hinv.ready_live (Server.life_of_some hs)).target, fun e => ⟨⟨fun hm => ?_, fun ht => (ht.completed hinv).1⟩,
      fun ht => ?_, fun state hs hst hm => tells_of_attempts hinv (Server.life_of_some hs) hst hm⟩⟩
  · obtain hm | ht := htidy.closed file hc
    · exact .inl (hinv.own.closings_eq_one (List.append_nil _).symm hm)
    · obtain ⟨state, f, hs, hf, rfl⟩ := id ht
      exact .inr ⟨hinv.own.ledger.closedOpen _ f hf, ht⟩
  · obtain ⟨acts, ha, hsteps⟩ := (step_inv hinv e).2.steps sid
    rw [Server.doing_eq ha] at hm
    obtain ⟨v, hst, hw⟩ := hsteps.succeeded hm
    refine (hw.tells hst).resolve_right fun hno => hno.failed hinv ?_
    rw [Server.doing_eq ha]
    exact hm
  · rw [run_append]
    exact (ht.completed hinv).2

end Run

/-- A name with two addresses and an entry of another family, where the first address refuses the connection. -/
def twoAddresses : List Event :=
  [.read 3 { accepts := [.accepted 5 .ok true] }, .read 5 { recv := .data [5, 1, 0] }, .write 5 { sends := [.sent 2] },
    .read 5 { recv := .data [5, 1, 0, 3, 1, 97, 0, 80] },
    .publish 1 0 [{ family := .inet, addr := .inet [10, 0, 0, 1] 80 }, { family := .other 1, addr := .other 1 },
      { family := .inet, addr := .inet [10, 0, 0, 2] 80 }],
    .notify 1 true, .notifications [{ attempts := [{ socket := .ok 6, setNonblocking := .ok, connect := .error .einprogress }] }],
    .connectDone 6 111, .write 6 { attempts := [{ socket := .ok 6, setNonblocking := .ok, connect := .error .einprogress }] },
    .connectDone 6 0, .write 6 {}]

example :
    let s := run (Config.first .zeroed).start twoAddresses
    Act.attempts (s.acts 0) = [.inet [10, 0, 0, 1] 80, .inet [10, 0, 0, 2] 80] ∧ .succeeded ∈ s.acts 0 ∧
      Obs.closings 3 s.trace = 1 ∧ Obs.closings 4 s.trace = 0 := by
  decide +kernel

end SocksProxy
