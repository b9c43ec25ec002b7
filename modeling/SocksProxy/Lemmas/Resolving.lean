import SocksProxy.Lemmas.Dispatch

/-!
# Resolver threads and their notifications

The three steps a resolver thread may take, and the draining of the queue it pushes to. The threads touch no session; the
draining lets each session named in the queue take its result, one after another.
-/

namespace SocksProxy

section Threads

variable {s : Server}

/-- The thread of a job publishes its result: the job is still a session's, or it is left to the thread. -/
theorem JobsOwned.publish (h : JobsOwned s) {job : Nat} {record : ResolverJob} (hr : s.jobs job = some record)
    (status : Int) (result : List AddrInfo) :
    JobsOwned { s with
      jobs := Function.update s.jobs job (some { record with result, status, done := true })
      threads := Function.update s.threads job
        (if record.state.isSome then ThreadPhase.notifying record.clientFd else .releasing) } := by
  have hback : ∀ job' record', Function.update s.jobs job (some { record with result, status, done := true }) job' =
      some record' → job' = job ∧ record' = { record with result, status, done := true } ∨
        job' ≠ job ∧ s.jobs job' = some record' := by
    intro job' record' hr'
    by_cases he : job' = job
    · subst he
      rw [Function.update_self, Option.some.injEq] at hr'
      exact .inl ⟨rfl, hr'.symm⟩
    · exact .inr ⟨he, by simpa [Function.update_of_ne he] using hr'⟩
  constructor
  case owned =>
    intro sid job' fd hw
    obtain ⟨record', hr', hst, hfd⟩ := h.owned sid job' fd hw
    by_cases he : job' = job
    · subst he
      rw [hr] at hr'
      cases hr'
      exact ⟨_, Function.update_self _ _ _, hst, hfd⟩
    · exact ⟨record', (Function.update_of_ne he _ _).trans hr', hst, hfd⟩
  case waiting =>
    intro job' record' sid hr' hst
    rcases hback job' record' hr' with ⟨rfl, rfl⟩ | ⟨_, hr'⟩
    · exact h.waiting job' record sid hr hst
    · exact h.waiting job' record' sid hr' hst
  case undone =>
    intro job' record' hr' hd
    rcases hback job' record' hr' with ⟨rfl, rfl⟩ | ⟨he, hr'⟩
    · cases hd
    · exact (Function.update_of_ne he _ _).trans (h.undone job' record' hr' hd)
  case done =>
    intro job' record' hr' hd
    rcases hback job' record' hr' with ⟨rfl, rfl⟩ | ⟨he, hr'⟩
    · simp only [Function.update_self]
      split <;> simp
    · simp only [Function.update_of_ne he]
      exact h.done job' record' hr' hd
  case abandoned =>
    intro job' record' hr' hst
    rcases hback job' record' hr' with ⟨rfl, rfl⟩ | ⟨he, hr'⟩
    · simp only at hst
      simp [hst]
    · simp only [Function.update_of_ne he]
      exact h.abandoned job' record' hr' hst
  case resolving =>
    intro job' hp
    by_cases he : job' = job
    · subst he
      simp only [Function.update_self] at hp
      split at hp <;> cases hp
    · simp only [Function.update_of_ne he] at hp ⊢
      exact h.resolving job' hp
  case releasing =>
    intro job' hp
    by_cases he : job' = job
    · subst he
      simp only [Function.update_self] at hp ⊢
      split at hp
      · cases hp
      · exact ⟨_, rfl, by simpa using ‹¬record.state.isSome = true›⟩
    · simp only [Function.update_of_ne he] at hp ⊢
      exact h.releasing job' hp
  case fresh =>
    intro job' hle
    have he : job' ≠ job := by
      rintro rfl
      rw [(h.fresh job' hle).2] at hr
      cases hr
    simp only [Function.update_of_ne he]
    exact h.fresh job' hle

/-- The thread of a job publishes its result: if a session waits, the thread is about to notify it. -/
theorem Notices.publish {q : List Int} (h : Notices q s) (jobs : JobsOwned s) {job : Nat} {record : ResolverJob}
    (hr : s.jobs job = some record) (hp : s.threads job = .resolving) (status : Int) (result : List AddrInfo) :
    Notices q { s with
      jobs := Function.update s.jobs job (some { record with result, status, done := true })
      threads := Function.update s.threads job
        (if record.state.isSome then ThreadPhase.notifying record.clientFd else .releasing) } := by
  refine ⟨fun fd hfd => ?_, h.nodup, fun job' fd hn => ?_⟩
  · obtain ⟨sid, job', record', hw, hr', hd, hf⟩ := h.queued fd hfd
    have he : job' ≠ job := by
      rintro rfl
      rw [hp] at hf
      cases hf
    exact ⟨sid, job', record', hw, (Function.update_of_ne he _ _).trans hr', hd, (Function.update_of_ne he _ _).trans hf⟩
  · by_cases he : job' = job
    · subst he
      simp only [Function.update_self] at hn ⊢
      split at hn
      · rename_i hs
        cases hn
        obtain ⟨sid, hst⟩ := Option.isSome_iff_exists.mp hs
        obtain ⟨fd, hw⟩ := jobs.waiting job' record sid hr hst
        obtain ⟨record', hr', _, hfd⟩ := jobs.owned sid job' fd hw
        rw [hr] at hr'
        cases hr'
        exact ⟨sid, _, hfd ▸ hw, rfl, rfl⟩
      · cases hn
    · simp only [Function.update_of_ne he] at hn ⊢
      exact h.notifying job' fd hn

/-- The thread of a job publishes its result: it is about to notify the session that waits. -/
theorem Attended.publish {q : List Int} (h : Attended q s) (jobs : JobsOwned s) {job : Nat} {record : ResolverJob}
    (hr : s.jobs job = some record) (status : Int) (result : List AddrInfo) :
    Attended q { s with
      jobs := Function.update s.jobs job (some { record with result, status, done := true })
      threads := Function.update s.threads job
        (if record.state.isSome then ThreadPhase.notifying record.clientFd else .releasing) } := by
  intro hne sid job' fd hw
  unfold Server.Coming
  by_cases he : job' = job
  · subst he
    obtain ⟨record', hr', hst, hfd⟩ := jobs.owned sid job' fd hw
    rw [hr] at hr'
    cases hr'
    refine .inr (.inl ?_)
    simp [hst, hfd]
  · simp only [Function.update_of_ne he]
    exact h hne sid job' fd hw

/-- Publishing a result keeps the invariant. -/
theorem publishResult_inv (h : Inv s) (job : Nat) (status : Int) (result : List AddrInfo) :
    Inv (publishResult s job status result) ∧
      Lives (s.env (.publish job status result)) s (publishResult s job status result) := by
  unfold publishResult
  split
  · rename_i hp
    obtain ⟨record, hr, _⟩ := h.jobs.resolving job hp
    simp only [hr]
    have ha : Aside s { s with
        jobs := Function.update s.jobs job (some { record with result, status, done := true })
        threads := Function.update s.threads job
          (if record.state.isSome then ThreadPhase.notifying record.clientFd else .releasing) } := .same rfl (fun _ => rfl) rfl rfl (Nat.le_refl _) id rfl rfl
    exact h.aside ha { h.own with } (h.jobs.publish hr status result)
      (fun hne => (h.notices hne).publish h.jobs hr hp status result) (fun _ hatt => hatt.publish h.jobs hr status result)
      { h.listening with }
  · exact ⟨h, .refl s⟩

/-- The thread of a job is done with it. -/
theorem JobsOwned.finish (h : JobsOwned s) {job : Nat} {fd : Int} (hp : s.threads job = .notifying fd) :
    JobsOwned { s with threads := Function.update s.threads job .finished } := by
  have hto : ∀ job', job' ≠ job → Function.update s.threads job .finished job' = s.threads job' := fun job' he =>
    Function.update_of_ne he _ _
  have hne : ∀ job' record, s.jobs job' = some record → record.done = false ∨ record.state = none → job' ≠ job := by
    rintro job' record hr hor rfl
    rcases hor with hd | hst
    · rw [h.undone job' record hr hd] at hp
      cases hp
    · rcases h.abandoned job' record hr hst with h' | h' <;> rw [h'] at hp <;> cases hp
  refine ⟨h.owned, h.waiting, fun job' record hr hd => ?_, fun job' record hr hd => ?_, fun job' record hr hst => ?_,
    fun job' hp' => ?_, fun job' hp' => ?_, fun job' hle => ?_⟩
  · exact (hto job' (hne job' record hr (.inl hd))).trans (h.undone job' record hr hd)
  · by_cases he : job' = job
    · subst he
      simp
    · simp only [hto job' he]
      exact h.done job' record hr hd
  · simp only [hto job' (hne job' record hr (.inr hst))]
    exact h.abandoned job' record hr hst
  · by_cases he : job' = job
    · subst he
      simp at hp'
    · simp only [hto job' he] at hp'
      exact h.resolving job' hp'
  · by_cases he : job' = job
    · subst he
      simp at hp'
    · simp only [hto job' he] at hp'
      exact h.releasing job' hp'
  · refine ⟨?_, (h.fresh job' hle).2⟩
    by_cases he : job' = job
    · subst he
      simp
    · exact (hto job' he).trans (h.fresh job' hle).1

/-- A thread that does not push its notification leaves the others as they are. -/
theorem Notices.finish {q : List Int} (h : Notices q s) {job : Nat} {fd : Int} (hp : s.threads job = .notifying fd) :
    Notices q { s with threads := Function.update s.threads job .finished } := by
  refine ⟨fun fd' hfd => ?_, h.nodup, fun job' fd' hn => ?_⟩
  · obtain ⟨sid, job', record, hw, hr, hd, hf⟩ := h.queued fd' hfd
    refine ⟨sid, job', record, hw, hr, hd, ?_⟩
    by_cases he : job' = job
    · subst he
      simp
    · exact (Function.update_of_ne he _ _).trans hf
  · by_cases he : job' = job
    · subst he
      simp at hn
    · simp only [Function.update_of_ne he] at hn
      exact h.notifying job' fd' hn

/-- The notification of a thread is pushed: its descriptor is not in the queue yet, since only one session has it. -/
theorem Notices.push {q : List Int} (h : Notices q s) (own : Own s) {job : Nat} {fd : Int}
    (hp : s.threads job = .notifying fd) :
    Notices (fd :: q) { s with threads := Function.update s.threads job .finished } := by
  have hf := h.finish hp
  obtain ⟨sid, record, hw, hr, hd⟩ := h.notifying job fd hp
  refine ⟨fun fd' hfd => ?_, List.nodup_cons.mpr ⟨fun hmem => ?_, h.nodup⟩, hf.notifying⟩
  · rcases List.mem_cons.mp hfd with rfl | hfd
    · exact ⟨sid, job, record, hw, hr, hd, by simp⟩
    · exact hf.queued fd' hfd
  · obtain ⟨sid', job', record', hw', _, _, hfin⟩ := h.queued fd hmem
    obtain ⟨state, hst, hfd, hj⟩ := session_of_waits hw
    obtain ⟨state', hst', hfd', hj'⟩ := session_of_waits hw'
    have he := own.client_inj hst hst' (hfd.trans hfd'.symm)
    subst he
    rw [hst] at hst'
    cases hst'
    rw [hj] at hj'
    cases hj'
    rw [hp] at hfin
    cases hfin

/-- The notification of a thread is pushed: it is in the queue now. -/
theorem Attended.push {q : List Int} (h : Attended q s) {job : Nat} {fd : Int} (hp : s.threads job = .notifying fd) :
    Attended (fd :: q) { s with threads := Function.update s.threads job .finished } := by
  intro hne sid job' fd' hw
  unfold Server.Coming
  by_cases he : job' = job
  · subst he
    rcases h hne sid job' fd' hw with h' | h' | h'
    · rw [hp] at h'
      cases h'
    · rw [hp] at h'
      cases h'
      exact .inr (.inr List.mem_cons_self)
    · exact .inr (.inr (List.mem_cons_of_mem _ h'))
  · simp only [Function.update_of_ne he]
    exact h.cons fd hne sid job' fd' hw

/-- Notifying a session keeps the invariant: the only fault is to push to a selector that is destroyed. -/
theorem notifyClient_inv (h : Inv s) (job : Nat) (allocated : Bool) :
    Inv (notifyClient s job allocated) ∧ Lives (s.env (.notify job allocated)) s (notifyClient s job allocated) := by
  unfold notifyClient
  split
  · rename_i fd hp
    dsimp only
    split
    · exact h.aside (.same rfl (fun _ => rfl) rfl rfl (Nat.le_refl _) id rfl rfl) { h.own with } (h.jobs.finish hp)
        (fun hne => (h.notices hne).finish hp) (fun hlost => absurd ⟨job, by simp_all⟩ (hlost 0)) { h.listening with }
    · split
      · rename_i hph
        refine h.aside (.same rfl (fun _ => rfl) rfl rfl (Nat.le_refl _) id rfl rfl) { h.own with faults := fun f hf => ?_ }
          { h.jobs.finish hp with } (fun hne => absurd hph hne) (fun _ _ hne => absurd hph hne) { h.listening with }
        rcases List.mem_cons.mp hf with rfl | hf
        · rfl
        · exact h.own.faults f hf
      · rename_i hph
        exact h.aside (.same rfl (fun _ => rfl) rfl rfl (Nat.le_refl _) id rfl rfl) { h.own with selector := { h.own.selector with } }
          { h.jobs.finish hp with } (fun _ => { (h.notices hph).push h.own hp with }) (fun _ hatt _ => hatt.push hp hph) { h.listening with }
  · exact ⟨h, .refl s⟩

/-- Releasing a job frees the one its thread was left with. -/
theorem JobsOwned.free (h : JobsOwned s) {job : Nat} (hp : s.threads job = .releasing) :
    JobsOwned { s with
      jobs := Function.update s.jobs job none
      threads := Function.update s.threads job .finished } := by
  obtain ⟨record0, hr0, hst0⟩ := h.releasing job hp
  have hto : ∀ job', job' ≠ job → Function.update s.threads job .finished job' = s.threads job' := fun job' he =>
    Function.update_of_ne he _ _
  have hjo : ∀ job' record, Function.update s.jobs job none job' = some record → job' ≠ job ∧ s.jobs job' = some record := by
    intro job' record hr
    by_cases he : job' = job
    · subst he
      simp at hr
    · exact ⟨he, by simpa [Function.update_of_ne he] using hr⟩
  refine ⟨fun sid job' fd hw => ?_, fun job' record sid hr hst => ?_, fun job' record hr hd => ?_,
    fun job' record hr hd => ?_, fun job' record hr hst => ?_, fun job' hp' => ?_, fun job' hp' => ?_, fun job' hle => ?_⟩
  · obtain ⟨record, hr, hst, hfd⟩ := h.owned sid job' fd hw
    have he : job' ≠ job := by
      rintro rfl
      rw [hr0] at hr
      cases hr
      rw [hst0] at hst
      cases hst
    exact ⟨record, (Function.update_of_ne he _ _).trans hr, hst, hfd⟩
  · obtain ⟨_, hr⟩ := hjo job' record hr
    exact h.waiting job' record sid hr hst
  · obtain ⟨he, hr⟩ := hjo job' record hr
    exact (hto job' he).trans (h.undone job' record hr hd)
  · obtain ⟨he, hr⟩ := hjo job' record hr
    simp only [hto job' he]
    exact h.done job' record hr hd
  · obtain ⟨he, hr⟩ := hjo job' record hr
    simp only [hto job' he]
    exact h.abandoned job' record hr hst
  · by_cases he : job' = job
    · subst he
      simp at hp'
    · simp only [hto job' he] at hp'
      simp only [Function.update_of_ne he]
      exact h.resolving job' hp'
  · by_cases he : job' = job
    · subst he
      simp at hp'
    · simp only [hto job' he] at hp'
      simp only [Function.update_of_ne he]
      exact h.releasing job' hp'
  · by_cases he : job' = job
    · subst he
      simp
    · simp only [hto job' he, Function.update_of_ne he]
      exact h.fresh job' hle

/-- A job that its thread was left with is nobody's notification. -/
theorem Notices.free {q : List Int} (h : Notices q s) {job : Nat} (hp : s.threads job = .releasing) :
    Notices q { s with
      jobs := Function.update s.jobs job none
      threads := Function.update s.threads job .finished } := by
  refine ⟨fun fd hfd => ?_, h.nodup, fun job' fd hn => ?_⟩
  · obtain ⟨sid, job', record, hw, hr, hd, hf⟩ := h.queued fd hfd
    have he : job' ≠ job := by
      rintro rfl
      rw [hp] at hf
      cases hf
    exact ⟨sid, job', record, hw, (Function.update_of_ne he _ _).trans hr, hd, (Function.update_of_ne he _ _).trans hf⟩
  · by_cases he : job' = job
    · subst he
      simp at hn
    · simp only [Function.update_of_ne he] at hn ⊢
      exact h.notifying job' fd hn

/-- Nobody waits for the job its thread was left with. -/
theorem Attended.free {q : List Int} (h : Attended q s) {job : Nat} (hp : s.threads job = .releasing) :
    Attended q { s with
      jobs := Function.update s.jobs job none
      threads := Function.update s.threads job .finished } := by
  intro hne sid job' fd hw
  unfold Server.Coming
  by_cases he : job' = job
  · subst he
    rcases h hne sid job' fd hw with h' | h' | h'
    · rw [hp] at h'
      cases h'
    · rw [hp] at h'
      cases h'
    · exact .inr (.inr h')
  · simp only [Function.update_of_ne he]
    exact h hne sid job' fd hw

/-- Releasing a job keeps the invariant. -/
theorem releaseJob_inv {env : Nat → Env} (h : Inv s) (job : Nat) : Inv (releaseJob s job) ∧ Lives env s (releaseJob s job) := by
  unfold releaseJob
  split
  · rename_i hp
    obtain ⟨record, hr, _⟩ := h.jobs.releasing job hp
    simp only [hr]
    have ha : Aside s { s with
        jobs := Function.update s.jobs job none
        threads := Function.update s.threads job .finished } := .same rfl (fun _ => rfl) rfl rfl (Nat.le_refl _) id rfl rfl
    exact h.aside ha { h.own with } (h.jobs.free hp) (fun hne => (h.notices hne).free hp) (fun _ hatt => hatt.free hp)
      { h.listening with }
  · exact ⟨h, .refl s⟩

end Threads

/-! ## The draining of the queue -/

/-- What holds while the queue of notifications is drained: all that holds between two steps, but that the notifications on their
way are those of `q`, the part of the queue still to be visited. -/
structure Draining (env : Nat → Env) (q : List Int) (s0 s : Server) : Prop where
  own : Own s
  jobs : JobsOwned s
  notices : Notices q s
  lives : Lives env s0 s
  attended : (∀ sid, ¬(env sid).lost) → Attended s0.selector.resolutionJobs s0 → Attended q s
  listening : Listening s
  accounts : s.accounts = s.trace.foldl Accounts.countObs .zeroed
  errno : (∀ sid, s.sessions sid = none) ∨ s.errno ≠ 0
  undisturbed : Undisturbed s0 s
  unheard : Unheard s0 s
  untaken : ∀ fd ∈ q, ∃ sid job record, s.Awaits sid job fd record ∧ s0.Awaits sid job fd record

section Draining

variable {env : Nat → Env} {s0 s : Server}

/-- The notification `fd` finds the session it is for: the slot of `fd` is that of the session's client, the session is in
`RESOLVING` and waits for a job whose result is there, as it was when the draining began, and `handle_block` lets the session take
that result. -/
structure Finds (env : Nat → Env) (s0 s : Server) (fd : Int) (sid job : Nat) (record : ResolverJob) : Prop where
  slot : s.Registered fd .clientHandler (some sid)
  resolving : ∃ state, s.sessions sid = some state ∧ state.clientFd = fd ∧ state.stage = .resolving
  awaits : s.Awaits sid job fd record
  before : s0.Awaits sid job fd record
  calls : ∀ a, handleBlock s fd a = targetConnectionOnResolve s { fd, data := some sid } a
  handled : ∀ a, Own (handleBlock s fd a) ∧ JobsOwned (handleBlock s fd a) ∧ (∀ q, Notified (fd :: q) q s (handleBlock s fd a)) ∧
    ∃ acts, Frame sid s (handleBlock s fd a) acts ∧ SessionSteps (env sid) (s.life sid) acts ((handleBlock s fd a).life sid)

/-- Every notification finds the session it is for. -/
theorem Draining.finds {fd : Int} {q : List Int} (h : Draining env (fd :: q) s0 s) (h0 : ∀ sid, (s0.life sid).Ready)
    (hp : ∀ sid job fd record, s0.Awaits sid job fd record → (env sid).published record.status record.result) :
    ∃ sid job record, Finds env s0 s fd sid job record := by
  obtain ⟨sid, job, record, ⟨hw, hr, hd⟩, h0w⟩ := h.untaken fd List.mem_cons_self
  obtain ⟨state, hs, rfl, hj⟩ := session_of_waits hw
  obtain ⟨item, hi, hh, hdata⟩ := h.own.client sid state hs
  have hl := Server.life_of_some hs
  have ready : (s.viewOf state).Ready := by
    have := h.lives.ready h0 sid
    rw [hl] at this
    exact this
  have he : s.errno ≠ 0 := by
    refine h.errno.resolve_left fun hno => ?_
    rw [hno sid] at hs
    cases hs
  have heq : ∀ a, SocksProxy.handleBlock s state.clientFd a =
      targetConnectionOnResolve s { fd := state.clientFd, data := some sid } a := by
    intro a
    have hlt : state.clientFd.toNat < s.selector.fdSize := by
      have := invalidFd_eq_false_iff.mp (FdSelector.valid_of_slot hi)
      rw [h.own.size]
      omega
    obtain ⟨hit, hu⟩ := FdSelector.fds_of_slot hi
    unfold SocksProxy.handleBlock
    simp only [FdSelector.touch_of_lt hlt, hit, hu, if_true, hh, hdata, h.own.indexed _ item hi]
  exact ⟨sid, job, record, ⟨item, hi, hh, hdata⟩, ⟨state, hs, rfl, ready.resolver.mp (by simp [Server.viewOf, hj])⟩, ⟨hw, hr, hd⟩, h0w,
    heq, fun a => targetConnectionOnResolve_handled h.own h.jobs hl ready hj hr hd (hp sid job _ record h0w) he a _ (heq a)⟩

/-- One notification: the session it is for takes its result. -/
theorem Draining.handleBlock {fd : Int} {q : List Int} (h : Draining env (fd :: q) s0 s) (h0 : ∀ sid, (s0.life sid).Ready)
    (hp : ∀ sid job fd record, s0.Awaits sid job fd record → (env sid).published record.status record.result) (a : Answers) :
    Draining env q s0 (handleBlock s fd a) := by
  obtain ⟨sid, job, record, hf⟩ := h.finds h0 hp
  obtain ⟨own', jobs', hn, acts, fr, hst⟩ := hf.handled a
  obtain ⟨state, hs, rfl, _⟩ := hf.resolving
  obtain ⟨_, _, _, _, _, _, _, hq, _⟩ := Server.shared_eq fr.shared
  have he : s.errno ≠ 0 := by
    refine h.errno.resolve_left fun hno => ?_
    rw [hno sid] at hs
    cases hs
  have hkeep : Attended s.selector.resolutionJobs s → Attended (SocksProxy.handleBlock s state.clientFd a).selector.resolutionJobs
      (SocksProxy.handleBlock s state.clientFd a) := by
    intro ha
    rw [hq]
    exact (hn _).attended (ha.cons _)
  refine ⟨own', jobs', (hn q).notices h.notices, h.lives.trans (fr.lives h.own own' hkeep hst),
    fun hlost ha => (hn q).attended (h.attended hlost ha), fr.listening h.listening, fr.accounts_eq h.accounts,
    .inr (fr.errno he), h.undisturbed.trans (.of_frame fr), h.unheard.trans (.of_frame (by simp [hs]) fr), fun fd' hm => ?_⟩
  -- the other notifications are for other sessions
  obtain ⟨sid', job', record', haw, h0w'⟩ := h.untaken fd' (List.mem_cons_of_mem _ hm)
  refine ⟨sid', job', record', fr.awaits h.jobs ?_ haw, h0w'⟩
  rintro rfl
  have hwaits := haw.waits
  rw [hf.awaits.waits] at hwaits
  cases hwaits
  exact (List.nodup_cons.mp h.notices.nodup).1 hm

/-- The loop over the first part of the queue. -/
theorem Draining.loop {q q' : List Int} (h : Draining env (q ++ q') s0 s) (h0 : ∀ sid, (s0.life sid).Ready)
    (hp : ∀ sid job fd record, s0.Awaits sid job fd record → (env sid).published record.status record.result)
    (as : List Answers) : Draining env q' s0 (handleBlockLoop q as s) := by
  induction q generalizing s as with
  | nil => exact h
  | cons fd q ih => exact ih (h.handleBlock h0 hp _) as.tail

/-- What holds once a part of the queue was drained. -/
theorem Inv.draining (h : Inv s) (hph : s.phase ≠ .destroyed) {q q' : List Int} (hq : s.selector.resolutionJobs = q ++ q')
    (as as' : List Answers) : Draining (s.env (.notifications as)) q' s (handleBlockLoop q as' s) := by
  have hn := h.notices hph
  rw [hq] at hn
  have hd : Draining (s.env (.notifications as)) (q ++ q') s s :=
    ⟨h.own, h.jobs, hn, .refl s, fun _ ha => hq ▸ ha, h.listening, h.accounts, h.errno, .refl s, .refl s, fun fd hm => by
      obtain ⟨sid, job, record, hw, hr, hd, _⟩ := hn.queued fd hm
      exact ⟨sid, job, record, ⟨hw, hr, hd⟩, ⟨hw, hr, hd⟩⟩⟩
  exact hd.loop h.ready (fun sid job fd record ha => ⟨⟨as, rfl⟩, job, fd, record, ha.waits, ha.job, ha.done, rfl, rfl⟩) as'

/-- Draining the notifications keeps the invariant. -/
theorem handleBlockNotifications_inv (h : Inv s) (hph : s.phase ≠ .destroyed) (as : List Answers) :
    Inv (handleBlockNotifications s as) ∧ Lives (s.env (.notifications as)) s (handleBlockNotifications s as) := by
  have hend := h.draining hph (List.append_nil _).symm as as
  unfold handleBlockNotifications
  generalize handleBlockLoop s.selector.resolutionJobs as s = s' at hend ⊢
  have hl : Lives (s.env (.notifications as)) s
      { s' with selector := { s'.selector with resolutionJobs := [] } } :=
    ⟨hend.lives.steps, { hend.lives.custody with }, hend.attended⟩
  exact ⟨⟨⟨{ hend.own with selector := { hend.own.selector with } }, { hend.jobs with }, fun _ => { hend.notices with }, hl.ready h.ready, { hend.listening with },
    hend.accounts⟩, hend.errno⟩, hl⟩

end Draining

end SocksProxy
