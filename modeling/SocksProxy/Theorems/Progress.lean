import SocksProxy.Theorems.MainLoop

/-!
# The main loop goes on

What the others ask of the main thread, it does after a bounded number of its own moves, whatever it is in the middle of: a client
that waits for a name takes the result that its resolver thread has published, and a server that is to stop returns, unless a session
keeps it.
-/

namespace SocksProxy

section Taking

variable {env : Nat → Env} {s0 s : Server}

/-- What a session takes when its notification is handled. -/
theorem targetConnectionOnResolve_takes (own : Own s) (jobs : JobsOwned s) {sid : Nat} {v : View} (hl : s.life sid = .live v)
    (ready : v.Ready) {job : Nat} {record : ResolverJob} (hj : v.state.resolverJob = some job) (hr : s.jobs job = some record)
    (hd : record.done = true) (he : s.errno ≠ 0) (a : Answers) :
    .resolved record.status record.result ∈
      (targetConnectionOnResolve s { fd := v.state.clientFd, data := some sid } a).acts sid := by
  obtain ⟨hs, _⟩ := Server.sessions_of_life hl
  have hst : v.state.stage = .resolving := ready.resolver.mp (by simp [hj])
  have fr := frame_take hs hj record.status record.result
  obtain ⟨own1, jobs1, hl1⟩ := own_take own jobs hl hj hr hd record.status record.result
  rw [targetConnectionOnResolve_eq own hl hst hj hr hd]
  have hend : ∀ {s2 : Server} {acts : List Act}, Frame sid (s.take sid v.state job record.status record.result) s2 acts →
      .resolved record.status record.result ∈ s2.acts sid := by
    intro s2 acts h2
    rw [(fr.trans h2).acts_self]
    exact List.mem_append_right _ List.mem_cons_self
  have h1 := Served.refl hl1 (own1.held hl1)
  split
  · exact hend (Worked.of_served own1 jobs1 (h1.failRequest (socks5ReplyForGaiError record.status))).frame
  · have hw2 := Worked.of_served own1 jobs1 (h1.put { v.state with
      resolverJob := none, targetAddresses := record.result, targetAddressCurrent := record.result } rfl rfl rfl)
    obtain ⟨acts, v', hw3, -⟩ := connectResolved_worked hw2.own hw2.jobs hw2.life (ready.no_target (by simp [hst]) (by simp [hst]))
      (hw2.frame.errno (fr.errno he)) a.attempts
    exact hend (hw2.trans hw3).frame

/-- One descriptor, one session that waits under it, and one job. -/
theorem Server.Awaits.unique (own : Own s) {sid sid' job job' : Nat} {fd : Int} {record record' : ResolverJob}
    (h : s.Awaits sid job fd record) (h' : s.Awaits sid' job' fd record') : sid = sid' ∧ job = job' ∧ record = record' := by
  obtain ⟨state, hs, hfd, hj⟩ := session_of_waits h.waits
  obtain ⟨state', hs', hfd', hj'⟩ := session_of_waits h'.waits
  obtain rfl := own.client_inj hs hs' (hfd.trans hfd'.symm)
  rw [hs] at hs'
  cases hs'
  rw [hj] at hj'
  cases hj'
  exact ⟨rfl, rfl, Option.some.inj (h.job.symm.trans h'.job)⟩

/-- The session that a notification is for takes its result. -/
theorem Draining.takes {fd : Int} {q : List Int} (h : Draining env (fd :: q) s0 s) (own0 : Own s0)
    (h0 : ∀ sid, (s0.life sid).Ready)
    (hp : ∀ sid job fd record, s0.Awaits sid job fd record → (env sid).published record.status record.result) (a : Answers)
    {sid job : Nat} {record : ResolverJob} (ha : s0.Awaits sid job fd record) :
    .resolved record.status record.result ∈ (SocksProxy.handleBlock s fd a).acts sid := by
  obtain ⟨sid', job', record', hf⟩ := h.finds h0 hp
  obtain ⟨rfl, rfl, rfl⟩ := ha.unique own0 hf.before
  obtain ⟨state, hs, rfl, -⟩ := hf.resolving
  obtain ⟨state', hs', -, hj⟩ := session_of_waits hf.awaits.waits
  rw [hs] at hs'
  cases hs'
  have hl := Server.life_of_some hs
  have ready : (s.viewOf state).Ready := by
    have := h.lives.ready h0 sid
    rw [hl] at this
    exact this
  have he : s.errno ≠ 0 := by
    refine h.errno.resolve_left fun hno => ?_
    rw [hno sid] at hs
    cases hs
  rw [hf.calls a]
  exact targetConnectionOnResolve_takes h.own h.jobs hl ready hj hf.awaits.job hf.awaits.done he a

/-- What was done in a part of the queue stays done. -/
theorem Draining.keeps {q : List Int} (h : Draining env q s0 s) (h0 : ∀ sid, (s0.life sid).Ready)
    (hp : ∀ sid job fd record, s0.Awaits sid job fd record → (env sid).published record.status record.result)
    (as : List Answers) {sid : Nat} {act : Act} (hm : act ∈ s.acts sid) : act ∈ (handleBlockLoop q as s).acts sid := by
  induction q generalizing s as with
  | nil => exact hm
  | cons fd q ih =>
    refine ih (h.handleBlock h0 hp _) as.tail ?_
    obtain ⟨sid', job, record, hf⟩ := h.finds h0 hp
    obtain ⟨-, -, -, acts, fr, -⟩ := hf.handled (as.headD {})
    obtain ⟨obs, htrace, -, -⟩ := fr.trace
    rw [Server.acts, htrace, Obs.acts_append]
    exact List.mem_append_left _ hm

/-- Whoever has a notification in the queue takes its result, in whichever order they are handled. -/
theorem Draining.takes_loop {q : List Int} (h : Draining env q s0 s) (own0 : Own s0) (h0 : ∀ sid, (s0.life sid).Ready)
    (hp : ∀ sid job fd record, s0.Awaits sid job fd record → (env sid).published record.status record.result)
    (as : List Answers) {sid job : Nat} {fd : Int} {record : ResolverJob} (ha : s0.Awaits sid job fd record) (hq : fd ∈ q) :
    .resolved record.status record.result ∈ (handleBlockLoop q as s).acts sid := by
  induction q generalizing s as with
  | nil => exact absurd hq List.not_mem_nil
  | cons fd' q ih =>
    have hnext := h.handleBlock h0 hp (as.headD {})
    obtain rfl | hq := List.mem_cons.mp hq
    · exact hnext.keeps h0 hp as.tail (h.takes own0 h0 hp _ ha)
    · exact ih hnext as.tail hq

/-- Whoever has a notification in the queue takes its result when the queue is drained. -/
theorem handleBlockNotifications_takes (h : Inv s) (hp : s.phase ≠ .destroyed) (as : List Answers) {sid job : Nat} {fd : Int}
    {record : ResolverJob} (ha : s.Awaits sid job fd record) (hq : fd ∈ s.selector.resolutionJobs) :
    .resolved record.status record.result ∈ (handleBlockNotifications s as).acts sid :=
  (h.draining hp (List.nil_append _).symm as []).takes_loop h.own h.ready
    (fun _ job fd record ha => ⟨⟨as, rfl⟩, job, fd, record, ha.waits, ha.job, ha.done, rfl, rfl⟩) as ha hq

end Taking

/-! ## The way to the notifications -/

/-- How many moves the main thread makes at most until it has handled the notifications, unless it leaves its loop. -/
def MainPc.ahead (pc : MainPc) : Nat :=
  match pc with
  | .check => 2052
  | _ => pc.toCheck

/-- Elsewhere than at the checks, the notifications are on the way to them. -/
theorem MainPc.ahead_of_ne {pc : MainPc} (h : pc ≠ .check) : pc.ahead = pc.toCheck := by
  cases pc with
  | check => exact absurd rfl h
  | _ => rfl

/-- A session waits for the result of a name, which is there, and its notification is in the queue. -/
structure Server.Summoned (s : Server) (sid job : Nat) (fd : Int) (record : ResolverJob) : Prop where
  awaits : s.Awaits sid job fd record
  queued : fd ∈ s.selector.resolutionJobs

section Moves

variable {s : Server} {p : Process} {sid job : Nat} {fd : Int} {record : ResolverJob}

/-- A step that neither drains the queue nor ends the server leaves a summoned session as it is. -/
theorem Server.Summoned.step (x : s.Summoned sid job fd record) (h : Inv s) {e : Event} (hn : ∀ as, e ≠ .notifications as)
    (ht : e ≠ .teardown) : (SocksProxy.step s e).Summoned sid job fd record := by
  refine ⟨step_awaits h hn ht x.awaits, ?_⟩
  have hq : (SocksProxy.step s e).selector.resolutionJobs = (s.controlAfter e).queue := congrArg Control.queue (step_control h e)
  rw [hq]
  cases e with
  | notifications as => exact absurd rfl (hn as)
  | teardown => exact absurd rfl ht
  | notify job' allocated =>
    simp only [Server.controlAfter]
    split
    · split
      · exact x.queued
      · split
        · exact x.queued
        · exact List.mem_cons_of_mem _ x.queued
    · exact x.queued
  | signal =>
    simp only [Server.controlAfter]
    split <;> exact x.queued
  | shutdownCheck =>
    simp only [Server.controlAfter]
    split <;> exact x.queued
  | loopTest =>
    simp only [Server.controlAfter]
    split <;> exact x.queued
  | _ => exact x.queued

/-- The main thread comes to the checks from the notifications, or from a `pselect` that was not just interrupted. -/
theorem advance_ne_check (h : p.Ok) (a : MainAnswers) (hsel : ∀ e, a.pselect = .error e → e.interrupted = true)
    (hpc : p.pc ≠ .notifications) : (p.advance a).pc ≠ .check := by
  have hafter : ∀ i last slaveR slaveW, MainPc.afterTurn i last slaveR slaveW ≠ .check := by
    intro i last slaveR slaveW
    unfold MainPc.afterTurn
    split <;> exact fun he => by cases he
  cases hp : p.pc with
  | turn i last slaveR slaveW =>
    obtain ⟨-, -, hadv⟩ | ⟨item, -, ⟨-, -, hadv⟩ | ⟨-, -, hadv, -⟩⟩ := h.turn_cases hp a <;> rw [hadv]
    · exact hafter i last slaveR slaveW
    · exact fun he => by cases he
    · exact fun he => by cases he
  | write i last key slaveR slaveW =>
    obtain ⟨-, -, hadv⟩ | ⟨item, -, -, -, hadv, -⟩ := h.write_cases hp a <;> rw [hadv] <;> exact hafter i last slaveR slaveW
  | notifications => exact absurd hp hpc
  | select =>
    unfold Process.advance
    rw [hp]
    dsimp only
    cases ha : a.pselect with
    | ready readable writable => exact fun he => by cases he
    | error e =>
      simp only [selectorSelect, hsel e ha, if_true]
      exact fun he => by cases he
  | returned =>
    unfold Process.advance
    rw [hp]
    dsimp only
    rw [hp]
    exact fun he => by cases he
  | exit =>
    unfold Process.advance
    rw [hp]
    exact fun he => by cases he
  | _ =>
    unfold Process.advance
    rw [hp]
    dsimp only
    split <;> exact fun he => by cases he

/-- A move of the main thread brings it nearer to the end of the notifications. -/
theorem ahead_advance (h : p.Ok) (a : MainAnswers) (hsel : ∀ e, a.pselect = .error e → e.interrupted = true)
    (hpc : p.pc ≠ .notifications) (hleft : 0 < p.pc.ahead) : (p.advance a).pc.ahead < p.pc.ahead := by
  rw [MainPc.ahead_of_ne (advance_ne_check h a hsel hpc)]
  by_cases hc : p.pc = .check
  · unfold Process.advance
    rw [hc]
    dsimp only
    split <;> decide
  · rw [MainPc.ahead_of_ne hc] at hleft ⊢
    exact toCheck_advance h a hleft

/-- A move of the main thread inside its loop, unless it drains the queue, leaves a summoned session as it is. -/
theorem Server.Summoned.advance (h : p.Ok) (x : p.server.Summoned sid job fd record) (a : MainAnswers)
    (hpc : p.pc ≠ .notifications) (hleft : 0 < p.pc.ahead) : (p.advance a).server.Summoned sid job fd record := by
  have hrunning : p.pc.phase = .running → p.server.phase = .running := fun hp => h.phase.trans hp
  have hmain : ∀ e, (∀ as, e ≠ .notifications as) → e ≠ .teardown → (p.advance a).server = SocksProxy.step p.server e →
      (p.advance a).server.Summoned sid job fd record := by
    intro e hn ht heq
    rw [heq]
    exact x.step h.inv hn ht
  cases hp : p.pc with
  | test =>
    refine hmain .loopTest (fun _ he => by cases he) (fun he => by cases he) ?_
    rw [show SocksProxy.step p.server .loopTest = loopTest p.server from if_pos (hrunning (by rw [hp]; rfl))]
    unfold Process.advance
    rw [hp]
  | select =>
    have hadv : p.advance a = selectorSelect p.server a.pselect := by
      unfold Process.advance
      rw [hp]
    rw [hadv]
    cases a.pselect with
    | ready readable writable => exact x
    | error e => exact ⟨x.awaits.congr rfl rfl, x.queued⟩
  | turn i last slaveR slaveW =>
    obtain ⟨-, -, hadv⟩ | ⟨item, -, ⟨-, -, hadv⟩ | ⟨-, -, hadv, -⟩⟩ := h.turn_cases hp a
    · rw [hadv]
      exact x
    · rw [hadv]
      exact x
    · exact hmain (.read i a.handler) (fun _ he => by cases he) (fun he => by cases he) (by rw [hadv])
  | write i last key slaveR slaveW =>
    obtain ⟨-, -, hadv⟩ | ⟨item, -, -, -, hadv, -⟩ := h.write_cases hp a
    · rw [hadv]
      exact x
    · exact hmain (.write i a.handler) (fun _ he => by cases he) (fun he => by cases he) (by rw [hadv])
  | notifications => exact absurd hp hpc
  | check =>
    refine hmain .shutdownCheck (fun _ he => by cases he) (fun he => by cases he) ?_
    rw [show SocksProxy.step p.server .shutdownCheck = shutdownCheck p.server from if_pos (hrunning (by rw [hp]; rfl))]
    unfold Process.advance
    rw [hp]
  | exit =>
    rw [hp] at hleft
    exact absurd hleft (Nat.lt_irrefl 0)
  | returned =>
    rw [hp] at hleft
    exact absurd hleft (Nat.lt_irrefl 0)

/-- A process in which a session is summoned, with at most so many moves of its main thread ahead. -/
structure Process.Summons (sid job : Nat) (fd : Int) (record : ResolverJob) (n : Nat) (p : Process) : Prop where
  ok : p.Ok
  summoned : p.server.Summoned sid job fd record
  ahead : p.pc.ahead ≤ n

/-- One move of a process in which a session is summoned: the session takes its result, or it is still summoned, unless the main
thread has left its loop. -/
theorem Process.Summons.step {n : Nat} (x : Process.Summons sid job fd record n p) (m : Move)
    (hsel : ∀ a e, m = .main a → a.pselect = .error e → e.interrupted = true) :
    (.resolved record.status record.result ∈ (p.step m).server.acts sid ∨ p.pc.ahead = 0) ∨
    Process.Summons sid job fd record (if m.isMain then n - 1 else n) (p.step m) := by
  obtain ⟨_, -, -, hok⟩ := process_matched p p.server m ⟨rfl, x.ok⟩
  cases m with
  | outside e =>
    refine .inr ⟨hok, ?_, ?_⟩
    · dsimp only [Process.step]
      split
      · rename_i ho
        exact x.summoned.step x.ok.inv (fun as he => by rw [he] at ho; cases ho) (fun he => by rw [he] at ho; cases ho)
      · exact x.summoned
    · rw [p.outside_pc]
      exact x.ahead
  | main a =>
    by_cases hzero : p.pc.ahead = 0
    · exact .inl (.inr hzero)
    · have hpos := Nat.pos_of_ne_zero hzero
      by_cases hpc : p.pc = .notifications
      · have hadv : p.step (.main a) = ⟨handleBlockNotifications p.server a.drained, .check⟩ := by
          dsimp only [Process.step]
          unfold Process.advance
          rw [hpc]
        have hphase : p.server.phase ≠ .destroyed := by
          rw [x.ok.phase, hpc]
          exact fun he => by cases he
        rw [hadv]
        exact .inl (.inl (handleBlockNotifications_takes x.ok.inv hphase a.drained x.summoned.awaits x.summoned.queued))
      · have hlt := ahead_advance x.ok a (fun e => hsel a e rfl) hpc hpos
        exact .inr ⟨hok, x.summoned.advance x.ok a hpc hpos, Nat.le_sub_one_of_lt (Nat.lt_of_lt_of_le hlt x.ahead)⟩

/-- However the others move, a summoned session takes its result within the moves of the main thread that are ahead, or the main
thread has left its loop. -/
theorem Server.Summoned.resumed (h : p.Ok) (x : p.server.Summoned sid job fd record) (ms : List Move)
    (hsel : ∀ m ∈ ms, ∀ a e, m = .main a → a.pselect = .error e → e.interrupted = true)
    (hmany : p.pc.ahead ≤ ms.countP Move.isMain) :
    ∃ pre post, ms = pre ++ post ∧ (.resolved record.status record.result ∈ (p.run pre).server.acts sid ∨
      (p.run pre).pc.ahead = 0) := by
  obtain ⟨pre, m, post, rfl, htaken | hzero⟩ | hend := Traces.foldl_countdown (W := Process.Summons sid job fd record)
    (H := fun p m => .resolved record.status record.result ∈ (p.step m).server.acts sid ∨ p.pc.ahead = 0)
    (fun n p m hm x => x.step m (hsel m hm)) ⟨h, x, Nat.le_refl _⟩ hmany
  · refine ⟨pre ++ [m], post, by rw [List.append_assoc, List.singleton_append], .inl ?_⟩
    unfold Process.run
    rw [List.foldl_append]
    exact htaken
  · exact ⟨pre, m :: post, rfl, .inr hzero⟩
  · exact ⟨ms, [], (List.append_nil ms).symm, .inr (Nat.le_zero.mp hend.ahead)⟩

/-- With nothing ahead, the main thread has left its loop. -/
theorem MainPc.ahead_eq_zero_iff {pc : MainPc} : pc.ahead = 0 ↔ pc = .exit ∨ pc = .returned := by
  cases pc <;> simp [MainPc.ahead, MainPc.toCheck]

/-- There is never more ahead than at the checks. -/
theorem ahead_le (h : p.Ok) : p.pc.ahead ≤ 2052 := by
  by_cases hc : p.pc = .check
  · rw [hc]
    exact Nat.le_refl _
  · rw [MainPc.ahead_of_ne hc]
    exact Nat.le_succ_of_le (toCheck_le h)

end Moves

/-- A name that was resolved is taken up. Wherever the main thread stands when the notification of a client is in the queue: within
2052 more moves of it, the session that waits for the name takes the very result that the thread has published, or the main thread
has left its loop, in whatever way the others move in between. All that is asked is that no `pselect` fails but by an interruption:
after another failure `selector_select` returns before it comes to the notifications. -/
theorem resolved_resumed {c : Config} {s : Server} (h : c.Outfits s) (ms : List Move) {sid job : Nat} {fd : Int}
    {record : ResolverJob} (hw : (Process.run ⟨s, .test⟩ ms).server.Awaits sid job fd record)
    (hq : fd ∈ (Process.run ⟨s, .test⟩ ms).server.selector.resolutionJobs) (ms' : List Move)
    (hsel : ∀ m ∈ ms', ∀ a e, m = .main a → a.pselect = .error e → e.interrupted = true)
    (hmany : 2052 ≤ ms'.countP Move.isMain) :
    ∃ pre post, ms' = pre ++ post ∧
      (.resolved record.status record.result ∈ (Process.run ⟨s, .test⟩ (ms ++ pre)).server.acts sid ∨
        (Process.run ⟨s, .test⟩ (ms ++ pre)).pc = .exit ∨ (Process.run ⟨s, .test⟩ (ms ++ pre)).pc = .returned) := by
  have hok := process_ok h.inv h.running ms
  have hrun : ∀ pre, Process.run ⟨s, .test⟩ (ms ++ pre) = (Process.run ⟨s, .test⟩ ms).run pre := fun _ => List.foldl_append
  obtain ⟨pre, post, rfl, hdone⟩ := Server.Summoned.resumed hok ⟨hw, hq⟩ ms' hsel (Nat.le_trans (ahead_le hok) hmany)
  refine ⟨pre, post, rfl, ?_⟩
  rw [hrun]
  exact hdone.imp_right MainPc.ahead_eq_zero_iff.mp

/-- One turn of the loop of `server_run`, with so many moves for the walk, and for the handler that is called these answers. -/
def turnMoves (readable writable : Int → Bool) (a : Answers) (walk : Nat) : List Move :=
  .main {} :: .main { pselect := .ready readable writable } :: List.replicate walk (.main { handler := a }) ++ [.main {}, .main {}]

/-- A client connects and asks for a name, while its thread resolves it and notifies it. -/
def resolvedMoves : List Move :=
  turnMoves (· == 3) (fun _ => false) { accepts := [.accepted 5 .ok true] } 7 ++
    turnMoves (· == 5) (fun _ => false) { recv := .data [5, 1, 0] } 9 ++
    turnMoves (fun _ => false) (· == 5) { sends := [.sent 2] } 9 ++
    turnMoves (· == 5) (fun _ => false) { recv := .data [5, 1, 0, 3, 1, 98, 0, 80] } 9 ++
    [.main {}, .outside (.publish 1 eaiNoname []), .outside (.notify 1 true)]

/-- The name is not found, and the client is told so. -/
theorem resolved_resumed_unknown :
    ∃ pre post, List.replicate 2052 (.main {}) = pre ++ post ∧
      (.resolved eaiNoname [] ∈ (Process.run ⟨(Config.first .zeroed).start, .test⟩ (resolvedMoves ++ pre)).server.acts 0 ∨
        (Process.run ⟨(Config.first .zeroed).start, .test⟩ (resolvedMoves ++ pre)).pc = .exit ∨
        (Process.run ⟨(Config.first .zeroed).start, .test⟩ (resolvedMoves ++ pre)).pc = .returned) := by
  have hjob : ((Process.run ⟨(Config.first .zeroed).start, .test⟩ resolvedMoves).server.jobs 1).map
      (fun r => (r.status, r.result.isEmpty, r.done)) = some (eaiNoname, true, true) := by decide +kernel
  obtain ⟨record, hrecord, hfields⟩ := Option.map_eq_some_iff.mp hjob
  simp only [Prod.mk.injEq, List.isEmpty_iff] at hfields
  obtain ⟨hstatus, hresult, hdone⟩ := hfields
  have hwaits : (Process.run ⟨(Config.first .zeroed).start, .test⟩ resolvedMoves).server.waits 0 = some (1, 5) := by decide +kernel
  rw [← hstatus, ← hresult]
  refine resolved_resumed (Config.first .zeroed).outfits_start resolvedMoves ⟨hwaits, hrecord, hdone⟩ (by decide +kernel) _ ?_ ?_
  · intro m hm a e hma ha
    obtain rfl := List.eq_of_mem_replicate hm
    cases hma
    cases ha
  · rw [List.countP_replicate]
    exact Nat.le_refl _

/-! ## The way to the return -/

/-- How many moves the main thread makes at most until it returns, once it is to stop and as long as no session keeps it. -/
def MainPc.toReturn (pc : MainPc) : Nat :=
  match pc with
  | .exit => 1
  | .returned => 0
  | _ => pc.toCheck + 2

/-- Past the checks there are two moves at most. -/
theorem toReturn_le_toCheck (pc : MainPc) : pc.toReturn ≤ pc.toCheck + 2 := by
  cases pc <;> simp [MainPc.toReturn, MainPc.toCheck]

section Stopping

variable {p : Process}

/-- At the checks, a server that is to stop and has no session leaves the loop. -/
theorem check_exits (h : p.Ok) (hpc : p.pc = .check) (hr : p.server.shutdownRequested = true)
    (hz : p.server.activeClientConnections = 0) (a : MainAnswers) : (p.advance a).pc = .exit := by
  have hphase : p.server.phase ≠ .destroyed := by
    rw [h.phase, hpc]
    exact fun he => by cases he
  obtain ⟨s1, hu, hactive, -, -, -, heq⟩ := shutdownCheck_stops h.inv hphase
  have hstopped : s1.stoppedAccepting = true := by
    have hsame : s1.stoppedAccepting = (p.server.stoppedAccepting || p.server.shutdownRequested) :=
      congrArg Control.stoppedAccepting hu.control
    rw [hsame, hr, Bool.or_true]
  have hend : (s1.stoppedAccepting && s1.activeClientConnections == 0) = true := by
    rw [hstopped, hactive, hz]
    rfl
  unfold Process.advance
  rw [hpc]
  dsimp only
  rw [heq, if_pos hend, if_pos hend]

/-- With a stop requested, every move of the main thread brings it nearer to its return, unless it finds a session at the checks. -/
theorem toReturn_advance (h : p.Ok) (hr : p.server.shutdownRequested = true)
    (hz : p.pc = .check → p.server.activeClientConnections = 0) (a : MainAnswers) :
    (p.advance a).pc.toReturn ≤ p.pc.toReturn - 1 := by
  have hnear : 0 < p.pc.toCheck → p.pc.toReturn = p.pc.toCheck + 2 → (p.advance a).pc.toReturn ≤ p.pc.toReturn - 1 := by
    intro hpos heq
    have := toReturn_le_toCheck (p.advance a).pc
    have := toCheck_advance h a hpos
    omega
  cases hpc : p.pc with
  | check =>
    rw [check_exits h hpc hr (hz hpc) a]
    decide
  | exit =>
    unfold Process.advance
    rw [hpc]
    exact Nat.le_refl 0
  | returned =>
    rw [Process.advance_returned hpc, hpc]
    exact Nat.le_refl 0
  | _ =>
    rw [hpc] at hnear
    exact hnear (by simp [MainPc.toCheck]) rfl

/-- With no move left, the main thread has returned. -/
theorem toReturn_eq_zero {pc : MainPc} (h : pc.toReturn = 0) : pc = .returned := by
  cases pc <;> simp [MainPc.toReturn] at h ⊢

/-- A process that is to stop, with at most so many moves of its main thread left. -/
structure Process.Returns (n : Nat) (p : Process) : Prop where
  ok : p.Ok
  requested : p.server.shutdownRequested = true
  left : p.pc.toReturn ≤ n

/-- One move of a process that is to stop, unless a session keeps it at the checks. -/
theorem Process.Returns.step {n : Nat} (x : Process.Returns n p) (m : Move) :
    (p.pc = .check ∧ p.server.activeClientConnections ≠ 0) ∨ Process.Returns (if m.isMain then n - 1 else n) (p.step m) := by
  by_cases hkept : p.pc = .check ∧ p.server.activeClientConnections ≠ 0
  · exact .inl hkept
  · have hz : p.pc = .check → p.server.activeClientConnections = 0 := by
      intro hc
      by_contra hne
      exact hkept ⟨hc, hne⟩
    obtain ⟨hs, -, hserver, hok⟩ := process_matched p p.server m ⟨rfl, x.ok⟩
    refine .inr ⟨hok, ?_, p.step_left x.left fun a _ => toReturn_advance x.ok x.requested hz a⟩
    rw [hserver]
    exact (flags_happened x.ok.inv hs).1 x.requested

/-- However the others move, a server that is to stop returns within the moves of the main thread that are left, or the main thread
finds a session at the checks. -/
theorem stop_returns (h : p.Ok) (hr : p.server.shutdownRequested = true) (ms : List Move)
    (hmany : p.pc.toReturn ≤ ms.countP Move.isMain) :
    (p.run ms).pc = .returned ∨
    ∃ pre post, ms = pre ++ post ∧ (p.run pre).pc = .check ∧ (p.run pre).server.activeClientConnections ≠ 0 := by
  obtain ⟨pre, m, post, rfl, hkept⟩ | hend := Traces.foldl_countdown (W := Process.Returns)
    (H := fun (p : Process) _ => p.pc = .check ∧ p.server.activeClientConnections ≠ 0) (fun n p m _ x => x.step m)
    ⟨h, hr, Nat.le_refl _⟩ hmany
  · exact .inr ⟨pre, m :: post, rfl, hkept⟩
  · exact .inl (toReturn_eq_zero (Nat.le_zero.mp hend.left))

end Stopping

/-- A signal ends the server as soon as no session keeps it: whatever has happened before it, within 2053 more moves of the main
thread it has returned, or the main thread has come to its checks while a session was there, whoever moves in between. -/
theorem graceful_shutdown_prompt {c : Config} {s : Server} (h : c.Outfits s) (ms ms' : List Move)
    (hr : (Process.run ⟨s, .test⟩ ms).server.shutdownRequested = true) (hmany : 2053 ≤ ms'.countP Move.isMain) :
    (Process.run ⟨s, .test⟩ (ms ++ ms')).pc = .returned ∨
    ∃ pre post, ms' = pre ++ post ∧ (Process.run ⟨s, .test⟩ (ms ++ pre)).pc = .check ∧
      (Process.run ⟨s, .test⟩ (ms ++ pre)).server.activeClientConnections ≠ 0 := by
  have hok := process_ok h.inv h.running ms
  have hrun : ∀ pre, Process.run ⟨s, .test⟩ (ms ++ pre) = (Process.run ⟨s, .test⟩ ms).run pre := fun _ => List.foldl_append
  have hleft : (Process.run ⟨s, .test⟩ ms).pc.toReturn ≤ ms'.countP Move.isMain := by
    have := toReturn_le_toCheck (Process.run ⟨s, .test⟩ ms).pc
    have := toCheck_le hok
    omega
  simp only [hrun]
  exact stop_returns hok hr ms' hleft

/-- A signal while a client connects, and then only the main thread moves. -/
theorem graceful_shutdown_prompt_first :
    (Process.run ⟨(Config.first .zeroed).start, .test⟩ (firstMoves.dropLast ++ List.replicate 2053 (.main {}))).pc = .returned ∨
    ∃ pre post, List.replicate 2053 (.main {}) = pre ++ post ∧
      (Process.run ⟨(Config.first .zeroed).start, .test⟩ (firstMoves.dropLast ++ pre)).pc = .check ∧
      (Process.run ⟨(Config.first .zeroed).start, .test⟩ (firstMoves.dropLast ++ pre)).server.activeClientConnections ≠ 0 :=
  graceful_shutdown_prompt (Config.first .zeroed).outfits_start firstMoves.dropLast _ (by decide +kernel)
    (by rw [List.countP_replicate]; exact Nat.le_refl _)

end SocksProxy
