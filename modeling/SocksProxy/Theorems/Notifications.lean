import SocksProxy.Lemmas.Control
import SocksProxy.Theorems.Replies

/-!
# Notifications find their sessions

A notification names its session by the number of a descriptor, and nothing else. It finds the session that started the resolution
all the same: the resolver thread pushes it only while a session waits for the thread's job, the descriptors of a session that
waits are watched for nothing, so that no handler can close it, and only the draining of the queue ends the wait.

The queue itself holds descriptors. What each entry was pushed for is a ghost: the job of the thread that pushed it.
-/

namespace SocksProxy

/-- The notifications pushed and not yet drained after an event, newest first: each with the job whose thread pushed it. -/
def Server.pendingAfter (s : Server) (pending : List (Nat × Int)) : Event → List (Nat × Int)
  | .notify job allocated =>
    match s.threads job with
    | .notifying fd => if !allocated ∨ s.phase = .destroyed then pending else (job, fd) :: pending
    | _ => pending
  | .notifications _ => if s.phase = .running then [] else pending
  | .teardown => if s.phase = .exited then [] else pending
  | _ => pending

/-- A server with the notifications pushed to it, one event later. -/
def stepPending (w : Server × List (Nat × Int)) (e : Event) : Server × List (Nat × Int) := (step w.1 e, w.1.pendingAfter w.2 e)

/-- The notifications pushed in a run and not yet drained. -/
def Config.pending (c : Config) (es : List Event) : List (Nat × Int) := (es.foldl stepPending (c.start, [])).2

/-- In the run, a session started this resolver job: the job's number was given out in an event after which the session waited
for it. -/
def Config.Started (c : Config) (es : List Event) (sid job : Nat) : Prop :=
  ∃ pre e post, es = pre ++ e :: post ∧ (run c.start pre).nextObject ≤ job ∧ ¬(run c.start (pre ++ [e])).Spares sid job

/-- In the run, the thread of this job published this result. -/
def Config.Published (c : Config) (es : List Event) (job : Nat) (status : Int) (result : List AddrInfo) : Prop :=
  ∃ pre post, es = pre ++ .publish job status result :: post ∧ (run c.start pre).threads job = .resolving

section Steps

variable {s : Server}

/-- What an event does to the queue is what it does to the notifications pending. -/
theorem pendingAfter_queue (h : Inv s) {pending : List (Nat × Int)} (hq : s.selector.resolutionJobs = pending.map Prod.snd)
    (e : Event) : (step s e).selector.resolutionJobs = (s.pendingAfter pending e).map Prod.snd := by
  have hc : (step s e).selector.resolutionJobs = (s.controlAfter e).queue := congrArg Control.queue (step_control h e)
  rw [hc]
  cases e with
  | notify job allocated =>
    simp only [Server.controlAfter, Server.pendingAfter]
    cases s.threads job with
    | notifying fd =>
      cases allocated with
      | false => simpa [Server.control] using hq
      | true =>
        by_cases hp : s.phase = .destroyed
        · simpa [hp, Server.control] using hq
        · simp [hp, hq]
    | _ => exact hq
  | notifications as =>
    simp only [Server.controlAfter, Server.pendingAfter]
    split
    · rfl
    · exact hq
  | teardown =>
    simp only [Server.controlAfter, Server.pendingAfter]
    split
    · rfl
    · exact hq
  | signal =>
    simp only [Server.controlAfter]
    split <;> exact hq
  | shutdownCheck =>
    simp only [Server.controlAfter]
    split <;> exact hq
  | loopTest =>
    simp only [Server.controlAfter]
    split <;> exact hq
  | _ => exact hq

/-- Every notification pending is one that some session awaits with this very job. -/
theorem pendingAfter_awaits (h : Inv s) {pending : List (Nat × Int)}
    (ha : ∀ job fd, (job, fd) ∈ pending → ∃ sid record, s.Awaits sid job fd record) (e : Event) {job : Nat} {fd : Int}
    (hm : (job, fd) ∈ s.pendingAfter pending e) : ∃ sid record, (step s e).Awaits sid job fd record := by
  have hkept : (∀ as, e ≠ .notifications as) → e ≠ .teardown → (job, fd) ∈ pending →
      ∃ sid record, (step s e).Awaits sid job fd record := by
    intro hn ht hm
    obtain ⟨sid, record, hw⟩ := ha job fd hm
    exact ⟨sid, record, step_awaits h hn ht hw⟩
  cases e with
  | notify job' allocated =>
    simp only [Server.pendingAfter] at hm
    cases hth : s.threads job' with
    | notifying fd' =>
      simp only [hth] at hm
      split at hm
      · exact hkept (by simp) (by simp) hm
      · rename_i hgo
        rcases List.mem_cons.mp hm with he | hm
        · cases he
          obtain ⟨sid, record, hw, hr, hd⟩ := (h.notices fun hp => hgo (.inr hp)).notifying job fd hth
          exact ⟨sid, record, step_awaits h (by simp) (by simp) ⟨hw, hr, hd⟩⟩
        · exact hkept (by simp) (by simp) hm
    | _ =>
      simp only [hth] at hm
      exact hkept (by simp) (by simp) hm
  | notifications as =>
    simp only [Server.pendingAfter] at hm
    split at hm
    · cases hm
    · rename_i hp
      rw [show step s (.notifications as) = s from if_neg hp]
      exact ha job fd hm
  | teardown =>
    simp only [Server.pendingAfter] at hm
    split at hm
    · cases hm
    · rename_i hp
      rw [show step s .teardown = s from if_neg hp]
      exact ha job fd hm
  | _ => exact hkept (by simp) (by simp) hm

end Steps

/-! ## The result a session takes -/

/-- A dialogue resumes its request at most once. -/
theorem Talk.resumes_le (talk : Talk) : talk.resumes ≤ 1 := by
  cases talk with
  | working resolved => cases resolved <;> simp [Talk.resumes]
  | _ => simp [Talk.resumes]

section Results

variable {env : Env} {L L' : Life} {v v' : View} {st : ClientState} {acts : List Act} {status : Int} {result : List AddrInfo}

/-- The answer to a request that failed takes no result. -/
theorem ClientState.resolved_refusedActs (st : ClientState) (code : Byte) : .resolved status result ∉ st.refusedActs code := by
  unfold ClientState.refusedActs ClientState.logActs
  split <;> simp

/-- Connecting to addresses takes no result. -/
theorem Connects.not_resolved {l : List AddrInfo} (h : Connects v st l acts v') : .resolved status result ∉ acts := by
  obtain ⟨addrs, _, e, ⟨_, _, _, _, rfl, _⟩ | ⟨st', _, rfl, _⟩⟩ := h.eq <;> simp [ClientState.resolved_refusedActs]

/-- Beginning a request takes no result. -/
theorem Begins.not_resolved {r : Socks5Request} (h : Begins v st r acts v') : .resolved status result ∉ acts := by
  cases h <;> simp [ClientState.resolved_refusedActs]

/-- A session takes a result only in a step in which the job it waits for has that result. -/
theorem SessionStep.takes (h : SessionStep env L acts L') (hm : .resolved status result ∈ acts) : env.published status result := by
  cases h with
  | begun _ _ _ _ _ _ hb => exact absurd (by simpa using hm) hb.not_resolved
  | @unresolved v status' result' _ _ hp =>
    have he : (Act.resolved status result) = .resolved status' result' := by
      rcases List.mem_cons.mp hm with he | hm
      · exact he
      · exact absurd hm (ClientState.resolved_refusedActs _ _)
    cases he
    exact hp
  | resolved _ _ hp hcon =>
    rcases List.mem_cons.mp hm with he | hm
    · cases he
      exact hp
    · exact absurd hm hcon.not_resolved
  | connected =>
    unfold ClientState.connectedActs ClientState.logActs at hm
    split at hm <;> simp at hm
  | unconnected _ _ _ hcon => exact absurd hm hcon.not_resolved
  | _ => simp at hm

/-- A session takes a result only in steps in which the job it waits for has that result. -/
theorem SessionSteps.takes (h : SessionSteps env L acts L') (hm : .resolved status result ∈ acts) : env.published status result := by
  induction h with
  | refl => cases hm
  | tail _ hs ih =>
    rcases List.mem_append.mp hm with hm | hm
    · exact ih hm
    · exact hs.takes hm

end Results

section Run

variable (c : Config)

/-- A run with the notifications pending is the run. -/
theorem Config.foldl_stepPending (es : List Event) : es.foldl stepPending (c.start, []) = (run c.start es, c.pending es) := by
  induction es using List.reverseRecOn with
  | nil => rfl
  | append_singleton es e ih =>
    unfold Config.pending at ih ⊢
    rw [List.foldl_append, ih, run_append]
    rfl

/-- The notifications pending, one event later. -/
theorem Config.pending_append (es : List Event) (e : Event) :
    c.pending (es ++ [e]) = (run c.start es).pendingAfter (c.pending es) e := by
  show ((es ++ [e]).foldl stepPending (c.start, [])).2 = _
  rw [List.foldl_append, c.foldl_stepPending]
  rfl

/-- The queue holds the notifications pending, and every one of them is awaited. -/
theorem run_pending (es : List Event) : (run c.start es).selector.resolutionJobs = (c.pending es).map Prod.snd ∧
    ∀ job fd, (job, fd) ∈ c.pending es → ∃ sid record, (run c.start es).Awaits sid job fd record := by
  induction es using List.reverseRecOn with
  | nil => exact ⟨c.start_selector.2, fun _ _ hm => absurd hm List.not_mem_nil⟩
  | append_singleton es e ih =>
    rw [run_append, c.pending_append]
    exact ⟨pendingAfter_queue (run_inv c es) ih.1 e, fun job fd hm => pendingAfter_awaits (run_inv c es) ih.2 e hm⟩

/-- A session that waits for a job started it. -/
theorem run_started (es : List Event) {sid job : Nat} (h : ¬(run c.start es).Spares sid job) : c.Started es sid job := by
  induction es using List.reverseRecOn with
  | nil =>
    refine absurd (fun fd => ?_) h
    rw [waits_of_none (show (run c.start []).sessions sid = none from rfl)]
    exact fun he => nomatch he
  | append_singleton es e ih =>
    by_cases hs : (run c.start es).Spares sid job
    · refine ⟨es, e, [], rfl, ?_, h⟩
      by_contra hlt
      rw [run_append] at h
      exact h ((step_jobs (run_inv c es) e).2.1 sid job (by omega) hs)
    · obtain ⟨pre, e', post, rfl, h1, h2⟩ := ih hs
      exact ⟨pre, e', post ++ [e], by simp, h1, h2⟩

/-- Numbers are only ever given out. -/
theorem run_nextObject (pre post : List Event) : (run c.start pre).nextObject ≤ (run c.start (pre ++ post)).nextObject := by
  induction post using List.reverseRecOn with
  | nil => rw [List.append_nil]
  | append_singleton post e ih =>
    rw [← List.append_assoc, run_append]
    exact Nat.le_trans ih (step_jobs (run_inv c _) e).1

/-- A session that waits for a job waits for one that has been made. -/
theorem JobsOwned.lt_of_not_spares {s : Server} (jobs : JobsOwned s) {sid job : Nat} (h : ¬s.Spares sid job) : job < s.nextObject := by
  unfold Server.Spares at h
  push Not at h
  obtain ⟨fd, hw⟩ := h
  exact jobs.lt_nextObject hw

/-- A job has been started by one session. -/
theorem Config.Started.unique {es : List Event} {sid sid' job : Nat} (h : c.Started es sid job) (h' : c.Started es sid' job) :
    sid = sid' := by
  obtain ⟨pre, e, post, rfl, hle, hs⟩ := h
  obtain ⟨pre', e', post', he, hle', hs'⟩ := h'
  have hlt := (run_inv c _).jobs.lt_of_not_spares hs
  have hlt' := (run_inv c _).jobs.lt_of_not_spares hs'
  -- a job started in one event has been made before every later one
  have horder : ∀ {pre pre' e e' post post'}, pre ++ e :: post = pre' ++ e' :: post' → pre.length < pre'.length →
      (run c.start (pre ++ [e])).nextObject ≤ (run c.start pre').nextObject := by
    intro pre pre' e e' post post' he hlen
    rcases List.append_eq_append_iff.mp he with ⟨as, rfl, has⟩ | ⟨cs, rfl, _⟩
    · cases as with
      | nil => simp at hlen
      | cons a as =>
        cases has
        rw [show pre ++ e :: as = pre ++ [e] ++ as by simp]
        exact run_nextObject c (pre ++ [e]) as
    · rw [List.length_append] at hlen
      omega
  rcases Nat.lt_trichotomy pre.length pre'.length with hlen | hlen | hlen
  · have := horder he hlen
    omega
  · obtain ⟨rfl, hrest⟩ := List.append_inj he hlen
    cases hrest
    unfold Server.Spares at hs hs'
    push Not at hs hs'
    obtain ⟨fd, hw⟩ := hs
    obtain ⟨fd', hw'⟩ := hs'
    exact (run_inv c _).jobs.waits_inj hw hw'
  · have := horder he.symm hlen
    omega

/-- A result that is there was published by the job's thread. -/
theorem run_published (es : List Event) {job : Nat} {status : Int} {result : List AddrInfo}
    (h : (run c.start es).resultOf job = some (status, result)) : c.Published es job status result := by
  induction es using List.reverseRecOn with
  | nil => cases h
  | append_singleton es e ih =>
    rw [run_append] at h
    rcases (step_jobs (run_inv c es) e).2.2 job with hn | hsame | ⟨status', result', rfl, ht, hr⟩
    · rw [hn] at h
      cases h
    · rw [hsame] at h
      obtain ⟨pre, post, rfl, hp⟩ := ih h
      exact ⟨pre, post ++ [e], by simp, hp⟩
    · rw [hr] at h
      cases h
      exact ⟨es, [], rfl, ht⟩

/-- A result that a session takes is that of the job it started. -/
theorem run_takes (es : List Event) (e : Event) (sid : Nat) {status : Int} {result : List AddrInfo}
    (hm : .resolved status result ∈ (run c.start es).doing e sid) :
    ∃ job, c.Started es sid job ∧ c.Published es job status result := by
  obtain ⟨acts, ha, hsteps⟩ := (run_lives c es e).steps sid
  rw [Server.doing_eq (by rw [← run_append, ha])] at hm
  obtain ⟨_, job, fd, record, hw, hr, hd, rfl, rfl⟩ := hsteps.takes hm
  refine ⟨job, run_started c es fun hs => hs fd hw, run_published c es ?_⟩
  simp [Server.resultOf, hr, hd]

/-- Every notification finds the session that started the resolution.

When `handle_block_notifications` comes to a notification, having handled those before it in the queue, the slot its descriptor
names is that of the client of the session that started the job whose thread pushed it, that session is in `RESOLVING` and waits for
this job, whose result is there, and the handler called is that session's. Hence a session is resumed at most once, and with the
result that the thread of a job it started has published; no job was started by two sessions; and no block handler was ever called
that a slot has not. -/
theorem notifications_find (es : List Event) :
    ((run c.start es).phase = .running → ∀ before job fd after, c.pending es = before ++ (job, fd) :: after → ∀ as s,
      s = handleBlockLoop (before.map Prod.snd) as (run c.start es) →
      ∃ sid state record, c.Started es sid job ∧ s.Registered fd .clientHandler (some sid) ∧ s.sessions sid = some state ∧
        state.clientFd = fd ∧ state.stage = .resolving ∧ state.resolverJob = some job ∧ s.jobs job = some record ∧
        record.done = true ∧ ∀ a, handleBlock s fd a = targetConnectionOnResolve s { fd, data := some sid } a) ∧
    (run c.start es).selector.resolutionJobs = (c.pending es).map Prod.snd ∧
    (∀ sid, ((run c.start es).acts sid).countP Act.resumes ≤ 1) ∧
    (∀ e sid status result, .resolved status result ∈ (run c.start es).doing e sid →
      ∃ job, c.Started es sid job ∧ c.Published es job status result) ∧
    (∀ sid sid' job, c.Started es sid job → c.Started es sid' job → sid = sid') ∧
    ∀ fd, .nullHandler fd ∉ (run c.start es).faults := by
  have hinv := run_inv c es
  obtain ⟨hqueue, hawaits⟩ := run_pending c es
  refine ⟨fun hp before job fd after hpend as s hs => ?_, hqueue, fun sid => ?_, fun e sid status result hm =>
    run_takes c es e sid hm, fun sid sid' job h h' => h.unique c h', fun fd hf => nomatch hinv.own.faults _ hf⟩
  · have hq : (run c.start es).selector.resolutionJobs = before.map Prod.snd ++ fd :: after.map Prod.snd := by
      rw [hqueue, hpend, List.map_append, List.map_cons]
    have hd := hinv.draining (by simp [hp]) hq [] as
    obtain ⟨sid, job', record, hf⟩ := hd.finds hinv.ready fun sid job fd record ha =>
      ⟨⟨[], rfl⟩, job, fd, record, ha.waits, ha.job, ha.done, rfl, rfl⟩
    subst hs
    -- the session found is the one that awaits the job of the thread that pushed the notification
    obtain ⟨sid', record', ha⟩ := hawaits job fd (by rw [hpend]; simp)
    obtain ⟨state0, hs0, hfd0, hj0⟩ := session_of_waits hf.before.waits
    obtain ⟨state1, hs1, hfd1, hj1⟩ := session_of_waits ha.waits
    have hsid := hinv.own.client_inj hs0 hs1 (hfd0.trans hfd1.symm)
    subst hsid
    rw [hs0] at hs1
    cases hs1
    rw [hj0] at hj1
    cases hj1
    obtain ⟨state, hst, hfd, hstage⟩ := hf.resolving
    obtain ⟨state', hst', _, hj⟩ := session_of_waits hf.awaits.waits
    rw [hst] at hst'
    cases hst'
    exact ⟨sid, state, record, run_started c es fun hs => hs fd ha.waits, hf.slot, hst, hfd, hstage, hj, hf.awaits.job,
      hf.awaits.done, hf.calls⟩
  · obtain ⟨d, h, _⟩ := run_heard c es sid
    exact Nat.le_trans h.counted.resumes d.talk.resumes_le

end Run

end SocksProxy
