import SocksProxy.Lemmas.Closing

/-!
# Resolver jobs and notifications

How the ownership of resolver jobs and the notifications on their way go through each thing that can happen to them: a job is
started, its result is published, its thread notifies or releases it, its session takes the result or is closed.
-/

namespace SocksProxy

variable {s s' : Server} {sid : Nat} {state : ClientState}

/-- What a session waits for, from its record. -/
theorem waits_of_some (hs : s.sessions sid = some state) : s.waits sid = state.resolverJob.map (·, state.clientFd) := by
  simp [Server.waits, hs]

/-- A session that is not there waits for nothing. -/
theorem waits_of_none (hs : s.sessions sid = none) : s.waits sid = none := by
  simp [Server.waits, hs]

/-- Sessions that are the same wait for the same. -/
theorem waits_congr (hs : s'.sessions sid = s.sessions sid) : s'.waits sid = s.waits sid := by
  simp [Server.waits, hs]

/-- What a session that was served waits for. -/
theorem Served.waits {v : View} {acts : List Act} (h : Served sid s s' v acts) (sid' : Nat) : s'.waits sid' = s.waits sid' := by
  by_cases he : sid' = sid
  · subst he
    obtain ⟨state, hs, hc, _, hj⟩ := h.session
    rw [waits_of_some h.now, waits_of_some hs, hc, hj]
  · exact waits_congr (by rw [h.sessions, Function.update_of_ne he])

namespace JobsOwned

/-- The ownership of jobs depends on what the sessions wait for, the jobs and the threads. -/
theorem congr (h : JobsOwned s) (hw : ∀ sid, s'.waits sid = s.waits sid) (hj : s'.jobs = s.jobs) (ht : s'.threads = s.threads)
    (hn : s.nextObject ≤ s'.nextObject) : JobsOwned s' where
  owned := fun sid job fd hws => by
    rw [hw] at hws
    rw [hj]
    exact h.owned sid job fd hws
  waiting := fun job record sid hr hst => by
    rw [hj] at hr
    rw [hw]
    exact h.waiting job record sid hr hst
  undone := fun job record hr hd => by
    rw [hj] at hr
    rw [ht]
    exact h.undone job record hr hd
  done := fun job record hr hd => by
    rw [hj] at hr
    rw [ht]
    exact h.done job record hr hd
  abandoned := fun job record hr hst => by
    rw [hj] at hr
    rw [ht]
    exact h.abandoned job record hr hst
  resolving := fun job hr => by
    rw [ht] at hr
    rw [hj]
    exact h.resolving job hr
  releasing := fun job hr => by
    rw [ht] at hr
    rw [hj]
    exact h.releasing job hr
  fresh := fun job hle => by
    rw [ht, hj]
    exact h.fresh job (Nat.le_trans hn hle)

/-- Two sessions never wait for one job. -/
theorem waits_inj (h : JobsOwned s) {sid sid' job : Nat} {fd fd' : Int} (hw : s.waits sid = some (job, fd))
    (hw' : s.waits sid' = some (job, fd')) : sid = sid' := by
  obtain ⟨record, hr, hst, _⟩ := h.owned sid job fd hw
  obtain ⟨record', hr', hst', _⟩ := h.owned sid' job fd' hw'
  rw [hr] at hr'
  cases hr'
  rw [hst] at hst'
  exact Option.some.inj hst'

/-- A job that a session waits for has been made. -/
theorem lt_nextObject (h : JobsOwned s) {sid job : Nat} {fd : Int} (hw : s.waits sid = some (job, fd)) : job < s.nextObject := by
  obtain ⟨record, hr, _⟩ := h.owned sid job fd hw
  by_contra hlt
  rw [(h.fresh job (by omega)).2] at hr
  cases hr

/-- A session starts a job: the job has the next number, and its thread begins. -/
theorem start (h : JobsOwned s) (record : ResolverJob) (fd : Int) (hst : record.state = some sid) (hfd : record.clientFd = fd)
    (hd : record.done = false) (hold : s.waits sid = none) (hw : s'.waits sid = some (s.nextObject, fd))
    (hwo : ∀ sid', sid' ≠ sid → s'.waits sid' = s.waits sid')
    (hj : s'.jobs = Function.update s.jobs s.nextObject (some record))
    (ht : s'.threads = Function.update s.threads s.nextObject .resolving) (hn : s'.nextObject = s.nextObject + 1) :
    JobsOwned s' := by
  have hne : ∀ job, s.jobs job ≠ none → job ≠ s.nextObject := by
    rintro job hr rfl
    exact hr (h.fresh _ (Nat.le_refl _)).2
  have hjo : ∀ job record', s'.jobs job = some record' →
      job = s.nextObject ∧ record' = record ∨ job ≠ s.nextObject ∧ s.jobs job = some record' := by
    intro job record' hr
    rw [hj] at hr
    by_cases he : job = s.nextObject
    · subst he
      simp only [Function.update_self, Option.some.injEq] at hr
      exact .inl ⟨rfl, hr.symm⟩
    · exact .inr ⟨he, by simpa [Function.update_of_ne he] using hr⟩
  have hto : ∀ job, job ≠ s.nextObject → s'.threads job = s.threads job := by
    intro job he
    rw [ht, Function.update_of_ne he]
  have hts : s'.threads s.nextObject = .resolving := by rw [ht, Function.update_self]
  refine ⟨fun sid' job fd' hws => ?_, fun job record' sid' hr hst' => ?_, fun job record' hr hd' => ?_,
    fun job record' hr hd' => ?_, fun job record' hr hst' => ?_, fun job hr => ?_, fun job hr => ?_, fun job hle => ?_⟩
  · by_cases he : sid' = sid
    · subst he
      rw [hw] at hws
      cases hws
      exact ⟨record, by rw [hj, Function.update_self], hst, hfd⟩
    · rw [hwo sid' he] at hws
      obtain ⟨record', hr, hst', hfd'⟩ := h.owned sid' job fd' hws
      exact ⟨record', by rw [hj, Function.update_of_ne (hne job (by simp [hr])), hr], hst', hfd'⟩
  · rcases hjo job record' hr with ⟨rfl, rfl⟩ | ⟨_, hr⟩
    · rw [hst] at hst'
      cases hst'
      exact ⟨fd, hw⟩
    · obtain ⟨fd', hws⟩ := h.waiting job record' sid' hr hst'
      have he : sid' ≠ sid := by
        rintro rfl
        rw [hold] at hws
        cases hws
      exact ⟨fd', by rw [hwo sid' he, hws]⟩
  · rcases hjo job record' hr with ⟨rfl, rfl⟩ | ⟨he, hr⟩
    · exact hts
    · rw [hto job he]
      exact h.undone job record' hr hd'
  · rcases hjo job record' hr with ⟨rfl, rfl⟩ | ⟨he, hr⟩
    · rw [hd] at hd'
      cases hd'
    · rw [hto job he]
      exact h.done job record' hr hd'
  · rcases hjo job record' hr with ⟨rfl, rfl⟩ | ⟨he, hr⟩
    · rw [hst] at hst'
      cases hst'
    · rw [hto job he]
      exact h.abandoned job record' hr hst'
  · by_cases he : job = s.nextObject
    · subst he
      exact ⟨record, by rw [hj, Function.update_self], hd⟩
    · rw [hto job he] at hr
      rw [hj, Function.update_of_ne he]
      exact h.resolving job hr
  · by_cases he : job = s.nextObject
    · subst he
      rw [hts] at hr
      cases hr
    · rw [hto job he] at hr
      rw [hj, Function.update_of_ne he]
      exact h.releasing job hr
  · rw [hn] at hle
    have he : job ≠ s.nextObject := by omega
    rw [hto job he, hj, Function.update_of_ne he]
    exact h.fresh job (by omega)

/-- A session lets go of its job: the job is freed if its result is there, and is left to its thread otherwise. -/
theorem release (h : JobsOwned s) {job : Nat} {fd : Int} {record : ResolverJob} (hold : s.waits sid = some (job, fd))
    (hr : s.jobs job = some record) (hw : s'.waits sid = none) (hwo : ∀ sid', sid' ≠ sid → s'.waits sid' = s.waits sid')
    (hj : s'.jobs = Function.update s.jobs job (if record.done then none else some { record with state := none }))
    (ht : s'.threads = s.threads) (hn : s'.nextObject = s.nextObject) : JobsOwned s' := by
  obtain ⟨record0, hr0, hst0, _⟩ := h.owned sid job fd hold
  rw [hr] at hr0
  cases hr0
  -- the threads that resolve or release are those of jobs still there
  have hback : ∀ job' record', s'.jobs job' = some record' →
      (job' = job ∧ record.done = false ∧ record' = { record with state := none }) ∨ job' ≠ job ∧ s.jobs job' = some record' := by
    intro job' record' hr'
    rw [hj] at hr'
    by_cases he : job' = job
    · subst he
      rw [Function.update_self] at hr'
      split at hr'
      · cases hr'
      · simp only [Option.some.injEq] at hr'
        exact .inl ⟨rfl, by simpa using ‹¬record.done = true›, hr'.symm⟩
    · exact .inr ⟨he, by simpa [Function.update_of_ne he] using hr'⟩
  refine ⟨fun sid' job' fd' hws => ?_, fun job' record' sid' hr' hst' => ?_, fun job' record' hr' hd' => ?_,
    fun job' record' hr' hd' => ?_, fun job' record' hr' hst' => ?_, fun job' hr' => ?_, fun job' hr' => ?_,
    fun job' hle => ?_⟩
  · have he : sid' ≠ sid := by
      rintro rfl
      rw [hw] at hws
      cases hws
    rw [hwo sid' he] at hws
    obtain ⟨record', hr', hst', hfd'⟩ := h.owned sid' job' fd' hws
    have hne : job' ≠ job := by
      rintro rfl
      exact he (h.waits_inj hws hold)
    exact ⟨record', by rw [hj, Function.update_of_ne hne, hr'], hst', hfd'⟩
  · rcases hback job' record' hr' with ⟨_, _, rfl⟩ | ⟨hne, hr'⟩
    · cases hst'
    · obtain ⟨fd', hws⟩ := h.waiting job' record' sid' hr' hst'
      have he : sid' ≠ sid := by
        rintro rfl
        rw [hold] at hws
        cases hws
        exact hne rfl
      exact ⟨fd', by rw [hwo sid' he, hws]⟩
  · rw [ht]
    rcases hback job' record' hr' with ⟨rfl, hd, rfl⟩ | ⟨_, hr'⟩
    · exact h.undone _ record hr hd
    · exact h.undone job' record' hr' hd'
  · rw [ht]
    rcases hback job' record' hr' with ⟨rfl, hd, rfl⟩ | ⟨_, hr'⟩
    · simp only at hd'
      rw [hd] at hd'
      cases hd'
    · exact h.done job' record' hr' hd'
  · rw [ht]
    rcases hback job' record' hr' with ⟨rfl, hd, rfl⟩ | ⟨_, hr'⟩
    · exact .inl (h.undone _ record hr hd)
    · exact h.abandoned job' record' hr' hst'
  · rw [ht] at hr'
    obtain ⟨record', hr1, hd1⟩ := h.resolving job' hr'
    by_cases he : job' = job
    · subst he
      rw [hr] at hr1
      cases hr1
      exact ⟨{ record with state := none }, by rw [hj, Function.update_self, if_neg (by simp [hd1])], hd1⟩
    · exact ⟨record', by rw [hj, Function.update_of_ne he, hr1], hd1⟩
  · rw [ht] at hr'
    obtain ⟨record', hr1, hst1⟩ := h.releasing job' hr'
    have he : job' ≠ job := by
      rintro rfl
      rw [hr] at hr1
      cases hr1
      rw [hst0] at hst1
      cases hst1
    exact ⟨record', by rw [hj, Function.update_of_ne he, hr1], hst1⟩
  · rw [hn] at hle
    have hlt := h.lt_nextObject hold
    have he : job' ≠ job := by omega
    rw [ht, hj, Function.update_of_ne he]
    exact h.fresh job' hle

/-- Dropping a session leaves its job to its thread, or frees it. -/
theorem drop (h : JobsOwned s) (hs : s.sessions sid = some state) : JobsOwned (s.drop sid state) := by
  have hw : (s.drop sid state).waits sid = none := waits_of_none (by simp [sessions_drop])
  have hwo : ∀ sid', sid' ≠ sid → (s.drop sid state).waits sid' = s.waits sid' := by
    intro sid' he
    exact waits_congr (by rw [sessions_drop, Function.update_of_ne he])
  obtain ⟨ht, hn⟩ : (s.drop sid state).threads = s.threads ∧ (s.drop sid state).nextObject = s.nextObject := threads_drop
  cases hj : state.resolverJob with
  | none =>
    have hold : s.waits sid = none := by simp [waits_of_some hs, hj]
    refine h.congr (fun sid' => ?_) (by simp [jobs_drop, Server.jobsWithout, hj]) ht hn.ge
    by_cases he : sid' = sid
    · subst he
      rw [hw, hold]
    · exact hwo sid' he
  | some job =>
    have hold : s.waits sid = some (job, state.clientFd) := by simp [waits_of_some hs, hj]
    obtain ⟨record, hr, _⟩ := h.owned sid job _ hold
    exact h.release hold hr hw hwo (by simp [jobs_drop, Server.jobsWithout, hj, hr]) ht hn

end JobsOwned

/-- What another session waits for stays as it is. -/
theorem Frame.awaits {acts : List Act} (fr : Frame sid s s' acts) (jobs : JobsOwned s) {sid' job : Nat} {fd : Int}
    {record : ResolverJob} (hne : sid' ≠ sid) (h : s.Awaits sid' job fd record) : s'.Awaits sid' job fd record := by
  have hspares : s.Spares sid job := fun fd' hw => hne (jobs.waits_inj h.waits hw)
  exact ⟨(waits_congr (fr.sessions sid' hne)).trans h.waits,
    ((fr.jobs job (jobs.lt_nextObject h.waits) hspares).1).trans h.job, h.done⟩

namespace Notices

variable {q : List Int}

/-- The notifications depend on what the sessions wait for, the jobs and the threads. -/
theorem congr (h : Notices q s) (hw : ∀ sid, s'.waits sid = s.waits sid) (hj : s'.jobs = s.jobs)
    (ht : s'.threads = s.threads) : Notices q s' where
  queued := fun fd hfd => by
    obtain ⟨sid, job, record, h1, h2, h3, h4⟩ := h.queued fd hfd
    exact ⟨sid, job, record, by rw [hw, h1], by rw [hj, h2], h3, by rw [ht, h4]⟩
  nodup := h.nodup
  notifying := fun job fd hn => by
    rw [ht] at hn
    obtain ⟨sid, record, h1, h2, h3⟩ := h.notifying job fd hn
    exact ⟨sid, record, by rw [hw, h1], by rw [hj, h2], h3⟩

/-- A job started is nobody's notification yet. -/
theorem start (h : Notices q s) (jobs : JobsOwned s) (record : ResolverJob) (hold : s.waits sid = none)
    (hwo : ∀ sid', sid' ≠ sid → s'.waits sid' = s.waits sid')
    (hj : s'.jobs = Function.update s.jobs s.nextObject (some record))
    (ht : s'.threads = Function.update s.threads s.nextObject .resolving) : Notices q s' := by
  have hsid : ∀ sid' job fd, s.waits sid' = some (job, fd) → s'.waits sid' = some (job, fd) ∧ job ≠ s.nextObject := by
    intro sid' job fd hws
    have he : sid' ≠ sid := by
      rintro rfl
      rw [hold] at hws
      cases hws
    have := jobs.lt_nextObject hws
    exact ⟨by rw [hwo sid' he, hws], by omega⟩
  refine ⟨fun fd hfd => ?_, h.nodup, fun job fd hn => ?_⟩
  · obtain ⟨sid', job, record', h1, h2, h3, h4⟩ := h.queued fd hfd
    obtain ⟨h1', hne⟩ := hsid sid' job fd h1
    exact ⟨sid', job, record', h1', by rw [hj, Function.update_of_ne hne, h2], h3,
      by rw [ht, Function.update_of_ne hne, h4]⟩
  · rw [ht] at hn
    by_cases he : job = s.nextObject
    · subst he
      rw [Function.update_self] at hn
      cases hn
    · rw [Function.update_of_ne he] at hn
      obtain ⟨sid', record', h1, h2, h3⟩ := h.notifying job fd hn
      exact ⟨sid', record', (hsid sid' job fd h1).1, by rw [hj, Function.update_of_ne he, h2], h3⟩

/-- The session of the first notification takes its result: the notification is spent. -/
theorem take {fd : Int} (h : Notices (fd :: q) s) (jobs : JobsOwned s) {job : Nat}
    (hclient : ∀ sid' job', s.waits sid' = some (job', fd) → sid' = sid)
    (hold : s.waits sid = some (job, fd)) (hwo : ∀ sid', sid' ≠ sid → s'.waits sid' = s.waits sid')
    (hj : s'.jobs = Function.update s.jobs job none) (ht : s'.threads = s.threads) : Notices q s' := by
  have hsid : ∀ sid' job' fd', fd' ≠ fd → s.waits sid' = some (job', fd') →
      s'.waits sid' = some (job', fd') ∧ job' ≠ job := by
    intro sid' job' fd' hne hws
    have he : sid' ≠ sid := by
      rintro rfl
      rw [hold] at hws
      cases hws
      exact hne rfl
    refine ⟨by rw [hwo sid' he, hws], ?_⟩
    rintro rfl
    exact he (jobs.waits_inj hws hold)
  have hnd := List.nodup_cons.mp h.nodup
  refine ⟨fun fd' hfd => ?_, hnd.2, fun job' fd' hn => ?_⟩
  · have hne : fd' ≠ fd := by
      rintro rfl
      exact hnd.1 hfd
    obtain ⟨sid', job', record', h1, h2, h3, h4⟩ := h.queued fd' (List.mem_cons_of_mem _ hfd)
    obtain ⟨h1', hne'⟩ := hsid sid' job' fd' hne h1
    exact ⟨sid', job', record', h1', by rw [hj, Function.update_of_ne hne', h2], h3, by rw [ht, h4]⟩
  · rw [ht] at hn
    obtain ⟨sid', record', h1, h2, h3⟩ := h.notifying job' fd' hn
    have hne : fd' ≠ fd := by
      rintro rfl
      -- the thread of the job taken has finished, so it cannot still be about to notify
      obtain ⟨sid0, job0, _, hw0, _, _, hf0⟩ := h.queued fd' List.mem_cons_self
      have e0 := hclient sid0 job0 hw0
      have e1 := hclient sid' job' h1
      subst e0
      subst e1
      rw [hw0] at h1
      cases h1
      rw [hf0] at hn
      cases hn
    obtain ⟨h1', hne'⟩ := hsid sid' job' fd' hne h1
    exact ⟨sid', record', h1', by rw [hj, Function.update_of_ne hne', h2], h3⟩

end Notices

namespace Attended

variable {q : List Int}

/-- What is on its way depends on what the sessions wait for and on the threads. -/
theorem congr (h : Attended q s) (hp : s'.phase = s.phase) (hw : ∀ sid, s'.waits sid = s.waits sid)
    (ht : s'.threads = s.threads) : Attended q s' := by
  intro hne sid job fd hws
  rw [hw] at hws
  have := h (hp ▸ hne) sid job fd hws
  unfold Server.Coming at this ⊢
  rwa [ht]

/-- The thread of a job just started is at work. -/
theorem start (h : Attended q s) (jobs : JobsOwned s) (hp : s'.phase = s.phase) {fd : Int}
    (hw : s'.waits sid = some (s.nextObject, fd)) (hwo : ∀ sid', sid' ≠ sid → s'.waits sid' = s.waits sid')
    (ht : s'.threads = Function.update s.threads s.nextObject .resolving) : Attended q s' := by
  intro hne sid' job fd' hws
  unfold Server.Coming
  rw [ht]
  by_cases he : sid' = sid
  · subst he
    rw [hw] at hws
    cases hws
    exact .inl (Function.update_self _ _ _)
  · rw [hwo sid' he] at hws
    have hlt := jobs.lt_nextObject hws
    rw [Function.update_of_ne (by omega)]
    exact h (hp ▸ hne) sid' job fd' hws

/-- A session that waits no more needs no notification. -/
theorem leave (h : Attended q s) (hp : s'.phase = s.phase) (hw : s'.waits sid = none)
    (hwo : ∀ sid', sid' ≠ sid → s'.waits sid' = s.waits sid') (ht : s'.threads = s.threads) : Attended q s' := by
  intro hne sid' job fd hws
  by_cases he : sid' = sid
  · subst he
    rw [hw] at hws
    cases hws
  · rw [hwo sid' he] at hws
    have := h (hp ▸ hne) sid' job fd hws
    unfold Server.Coming at this ⊢
    rwa [ht]

/-- A longer queue serves as well. -/
theorem cons (h : Attended q s) (fd : Int) : Attended (fd :: q) s := by
  intro hne sid job fd' hws
  rcases h hne sid job fd' hws with h' | h' | h'
  · exact .inl h'
  · exact .inr (.inl h')
  · exact .inr (.inr (List.mem_cons_of_mem _ h'))

/-- The notification of a client that nobody waits with is not needed. -/
theorem spend {fd : Int} (h : Attended (fd :: q) s) (hno : ∀ sid job, s.waits sid ≠ some (job, fd)) : Attended q s := by
  intro hne sid job fd' hws
  have hfd : fd' ≠ fd := by
    rintro rfl
    exact hno sid job hws
  rcases h hne sid job fd' hws with h' | h' | h'
  · exact .inl h'
  · exact .inr (.inl h')
  · exact .inr (.inr ((List.mem_cons.mp h').resolve_left hfd))

end Attended

namespace Notified

variable {q q' q'' : List Int}

/-- Nothing changed. -/
theorem refl (q : List Int) (s : Server) : Notified q q s s := ⟨id, id⟩

/-- One change after another. -/
theorem trans {s'' : Server} (h : Notified q q' s s') (h' : Notified q' q'' s' s'') : Notified q q'' s s'' :=
  ⟨fun hn => h'.notices (h.notices hn), fun ha => h'.attended (h.attended ha)⟩

/-- The notifications depend on what the sessions wait for, the jobs and the threads. -/
theorem congr (hp : s'.phase = s.phase) (hw : ∀ sid, s'.waits sid = s.waits sid) (hj : s'.jobs = s.jobs)
    (ht : s'.threads = s.threads) : Notified q q s s' :=
  ⟨fun h => h.congr hw hj ht, fun h => h.congr hp hw ht⟩

end Notified

end SocksProxy
