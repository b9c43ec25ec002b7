import SocksProxy.Lemmas.Reading
import SocksProxy.EventLoop

/-!
# The invariant of the server

What holds of the process between any two of its steps, and what one step means for every session at once: each takes some
steps of its own life, most of them none.
-/

namespace SocksProxy

/-- The accounts of a process that has just started. -/
def Accounts.zeroed : Accounts := ⟨ServerMetrics.zeroed, 0, []⟩

/-- What holds between two steps, and also in the middle of an accept loop. -/
structure Sound (s : Server) : Prop where
  own : Own s
  jobs : JobsOwned s
  notices : s.phase ≠ .destroyed → Notices s.selector.resolutionJobs s
  ready : ∀ sid, (s.life sid).Ready
  listening : Listening s
  accounts : s.accounts = s.trace.foldl Accounts.countObs .zeroed

/-- What holds between two steps. Once there is a session, some call has failed and `errno` is not zero: the loop that accepted
it ended that way. -/
structure Inv (s : Server) : Prop extends Sound s where
  errno : (∀ sid, s.sessions sid = none) ∨ s.errno ≠ 0

/-- Every session takes some steps of its life, each in its own environment; no result is published but what the environments
say, no file comes into new hands, and no session is left waiting unless a notification is lost. -/
structure Lives (env : Nat → Env) (s s' : Server) : Prop where
  steps : ∀ sid, ∃ acts, s'.acts sid = s.acts sid ++ acts ∧ SessionSteps (env sid) (s.life sid) acts (s'.life sid)
  custody : Custody s s'
  attended : (∀ sid, ¬(env sid).lost) → Attended s.selector.resolutionJobs s → Attended s'.selector.resolutionJobs s'

namespace Lives

variable {env : Nat → Env} {s s' s'' : Server}

/-- Nothing happens to any session. -/
theorem refl (s : Server) : Lives env s s := ⟨fun _ => ⟨[], by simp, .refl _⟩, .refl s, fun _ => id⟩

/-- One step after another. -/
theorem trans (h : Lives env s s') (h' : Lives env s' s'') : Lives env s s'' := by
  refine ⟨fun sid => ?_, h.custody.trans h'.custody, fun hlost ha => h'.attended hlost (h.attended hlost ha)⟩
  · obtain ⟨acts, ha, hs⟩ := h.steps sid
    obtain ⟨acts', ha', hs'⟩ := h'.steps sid
    exact ⟨acts ++ acts', by rw [ha', ha, List.append_assoc], hs.trans hs'⟩

/-- Sessions that were ready stay ready. -/
theorem ready (h : Lives env s s') (hr : ∀ sid, (s.life sid).Ready) (sid : Nat) : (s'.life sid).Ready := by
  obtain ⟨_, _, hs⟩ := h.steps sid
  exact SessionSteps.ready hs (hr sid)

end Lives

namespace Frame

variable {env : Nat → Env} {sid : Nat} {s s' : Server} {acts : List Act}

/-- The other sessions live on as they did; numbers that were given out meanwhile belong to no session. -/
theorem lives (fr : Frame sid s s' acts) (own : Own s) (own' : Own s')
    (ha : Attended s.selector.resolutionJobs s → Attended s'.selector.resolutionJobs s')
    (hs : SessionSteps (env sid) (s.life sid) acts (s'.life sid)) : Lives env s s' := by
  refine ⟨fun sid' => ?_, fr.custody own own', fun _ => ha⟩
  by_cases he : sid' = sid
  · subst he
    exact ⟨acts, fr.acts_self, hs⟩
  · refine ⟨[], by rw [fr.acts_other he, List.append_nil], ?_⟩
    cases hsess : s.sessions sid' with
    | some state =>
      have hv := fr.view_other own he hsess (by rw [own'.opened]; simp)
      rw [Server.life_of_some hsess, Server.life_of_some ((fr.sessions sid' he).trans hsess), hv]
      exact .refl _
    | none =>
      have hsess' := (fr.sessions sid' he).trans hsess
      have hn := fr.nextObject
      simp only [Server.life, hsess, hsess']
      by_cases h1 : sid' < s.nextObject
      · rw [if_pos h1, if_pos (by omega)]
        exact .refl _
      · rw [if_neg h1]
        split
        · exact .single .never
        · exact .refl _

/-- The accounts still add up. -/
theorem accounts_eq (fr : Frame sid s s' acts) (h : s.accounts = s.trace.foldl Accounts.countObs .zeroed) :
    s'.accounts = s'.trace.foldl Accounts.countObs .zeroed := by
  obtain ⟨obs, ht, _, _, ha⟩ := fr.trace
  rw [ha, ht, List.foldl_append, h]

/-- A slot that is no session's keeps its registration. -/
theorem registered (fr : Frame sid s s' acts) {fd : Int} {handler : FdHandler} {data : Option Nat}
    (hh : handler ≠ .clientHandler ∧ handler ≠ .targetHandler) (h : s.Registered fd handler data) :
    s'.Registered fd handler data := by
  obtain ⟨item, hi, hh', hd⟩ := h
  refine ⟨item, (fr.kept fd item hi ?_).1, hh', hd⟩
  rintro ⟨h | h, _⟩ <;> rw [hh'] at h <;> cases h
  · exact hh.1 rfl
  · exact hh.2 rfl

/-- The listeners still stand. -/
theorem listening (fr : Frame sid s s' acts) (h : Listening s) : Listening s' := by
  obtain ⟨_, _, hl, hl', hsa, hp, _⟩ := Server.shared_eq fr.shared
  have hback : ∀ fd item, s'.selector.slot fd = some item → item.Listens → s.selector.slot fd = some item := by
    intro fd item hi hh
    refine fr.foreign fd item hi ?_
    rintro ⟨h' | h', _⟩ <;> rcases hh with hh | hh <;> rw [hh] at h' <;> cases h'
  refine ⟨fun h1 h2 => ?_, fun h1 fd item hi hh => ?_, fun fd item hi hh => h.interest fd item (hback fd item hi hh) hh⟩
  · rw [hsa] at h1
    rw [hp] at h2
    rw [hl, hl']
    exact ⟨fr.registered (by decide) (h.registered h1 h2).1, fr.registered (by decide) (h.registered h1 h2).2⟩
  · rw [hsa] at h1
    exact h.stopped h1 fd item (hback fd item hi hh) hh

end Frame

/-- A change around one session keeps the server sound. -/
theorem Sound.frame {env : Nat → Env} {sid : Nat} {s s' : Server} {acts : List Act} (h : Sound s) (own' : Own s')
    (jobs' : JobsOwned s') (notified : ∀ q, Notified q q s s') (fr : Frame sid s s' acts)
    (hs : SessionSteps (env sid) (s.life sid) acts (s'.life sid)) : Sound s' ∧ Lives env s s' := by
  obtain ⟨_, _, _, _, _, hp, _, hq, _⟩ := Server.shared_eq fr.shared
  have hl := fr.lives h.own own' (fun ha => by rw [hq]; exact (notified _).attended ha) hs
  refine ⟨⟨own', jobs', fun hne => ?_, hl.ready h.ready, fr.listening h.listening, fr.accounts_eq h.accounts⟩, hl⟩
  rw [hq]
  exact (notified _).notices (h.notices (by rw [← hp]; exact hne))

/-- A handler at work for a session that is there keeps the invariant. -/
theorem Inv.handled {env : Nat → Env} {sid : Nat} {s s' : Server} {v : View} (h : Inv s) (hl : s.life sid = .live v)
    (hh : Handled (env sid) sid s s') : Inv s' ∧ Lives env s s' := by
  obtain ⟨acts, fr, hs⟩ := hh.steps
  obtain ⟨h1, h2⟩ := h.toSound.frame hh.own hh.jobs hh.notified fr hs
  refine ⟨⟨h1, .inr (fr.errno ?_)⟩, h2⟩
  refine h.errno.resolve_left fun hno => ?_
  have := (Server.sessions_of_life hl).1
  rw [hno sid] at this
  cases this

/-- A session that is there is ready. -/
theorem Sound.ready_live {sid : Nat} {s : Server} {v : View} (h : Sound s) (hl : s.life sid = .live v) : v.Ready := by
  have := h.ready sid
  rw [hl] at this
  exact this

/-- Once there is a session, `errno` is not zero. -/
theorem Inv.errno_ne {sid : Nat} {s : Server} {v : View} (h : Inv s) (hl : s.life sid = .live v) : s.errno ≠ 0 := by
  refine h.errno.resolve_left fun hno => ?_
  have := (Server.sessions_of_life hl).1
  rw [hno sid] at this
  cases this

/-- From one server to another, nothing of any session changed. -/
structure Aside (s s' : Server) : Prop where
  sessions : s'.sessions = s.sessions
  kept : ∀ sid fd item, item.Of sid → s.selector.slot fd = some item →
    s'.selector.slot fd = some item ∧ s'.files fd = s.files fd
  nextObject : s.nextObject ≤ s'.nextObject
  errno : s.errno ≠ 0 → s'.errno ≠ 0
  custody : Own s → Own s' → Custody s s'
  trace : ∃ obs, s'.trace = s.trace ++ obs ∧ (∀ sid, Obs.acts sid obs = []) ∧
    s'.accounts = obs.foldl Accounts.countObs s.accounts

namespace Aside

variable {env : Nat → Env} {s s' s'' : Server}

/-- Nothing changed. -/
theorem refl (s : Server) : Aside s s :=
  ⟨rfl, fun _ _ _ _ h => ⟨h, rfl⟩, Nat.le_refl _, id, fun _ _ => .refl s, [], by simp, fun _ => rfl, rfl⟩

/-- Sessions, slots, files and acts are the same. -/
theorem same (sessions : s'.sessions = s.sessions) (slots : ∀ fd, s'.selector.slot fd = s.selector.slot fd)
    (files : s'.files = s.files) (nextFile : s'.nextFile = s.nextFile) (nextObject : s.nextObject ≤ s'.nextObject)
    (errno : s.errno ≠ 0 → s'.errno ≠ 0) (trace : s'.trace = s.trace) (accounts : s'.accounts = s.accounts) : Aside s s' :=
  ⟨sessions, fun _ fd _ _ hi => ⟨(slots fd).trans hi, by rw [files]⟩, nextObject, errno, fun _ _ =>
    .of_sub nextFile (fun _ f hf => ⟨f, files ▸ hf, rfl⟩) (fun fd _ hi => (slots fd).symm.trans hi)
      (trace ▸ List.prefix_rfl), [], by simp [trace],
    fun _ => rfl, accounts⟩

/-- One change after another. -/
theorem trans (h : Aside s s') (own' : Own s') (h' : Aside s' s'') : Aside s s'' := by
  obtain ⟨obs, ht, ha, hc⟩ := h.trace
  obtain ⟨obs', ht', ha', hc'⟩ := h'.trace
  refine ⟨h'.sessions.trans h.sessions, fun sid fd item ho hi => ?_, Nat.le_trans h.nextObject h'.nextObject,
    fun he => h'.errno (h.errno he), fun own own'' => (h.custody own own').trans (h'.custody own' own''), obs ++ obs', by rw [ht', ht, List.append_assoc], fun sid => ?_, ?_⟩
  · obtain ⟨h1, h2⟩ := h.kept sid fd item ho hi
    obtain ⟨h3, h4⟩ := h'.kept sid fd item ho h1
    exact ⟨h3, h4.trans h2⟩
  · rw [Obs.acts_append, ha, ha', List.append_nil]
  · rw [hc', hc, List.foldl_append]

/-- Every session looks the same. -/
theorem viewOf (h : Aside s s') (own : Own s) (own' : Own s') {sid : Nat} {state : ClientState}
    (hs : s.sessions sid = some state) : s'.viewOf state = s.viewOf state := by
  obtain ⟨item, hi, ho⟩ := own.client_slot hs
  have hc := (h.kept sid _ item ho hi).1
  unfold Server.viewOf Server.interest Server.connect
  rw [hc, hi]
  by_cases ht : state.targetFd = -1
  · rw [ht, own.files_neg_one, own'.files_neg_one]
    simp
  · obtain ⟨item', hi', ho'⟩ := Registered.of_target (own.target sid state hs ht)
    obtain ⟨h1, h2⟩ := h.kept sid _ item' ho' hi'
    rw [h1, hi', h2]

/-- Every session lives on as it did. -/
theorem lives (h : Aside s s') (own : Own s) (own' : Own s')
    (hatt : (∀ sid, ¬(env sid).lost) → Attended s.selector.resolutionJobs s → Attended s'.selector.resolutionJobs s') :
    Lives env s s' := by
  obtain ⟨obs, ht, ha, _⟩ := h.trace
  refine ⟨fun sid => ?_, h.custody own own', hatt⟩
  refine ⟨[], by simp only [Server.acts, ht, Obs.acts_append, ha], ?_⟩
  cases hs : s.sessions sid with
  | some state =>
    rw [Server.life_of_some hs, Server.life_of_some (by rw [h.sessions, hs]), h.viewOf own own' hs]
    exact .refl _
  | none =>
    have hs' : s'.sessions sid = none := by rw [h.sessions, hs]
    have hn := h.nextObject
    simp only [Server.life, hs, hs']
    by_cases h1 : sid < s.nextObject
    · rw [if_pos h1, if_pos (by omega)]
      exact .refl _
    · rw [if_neg h1]
      split
      · exact .single .never
      · exact .refl _

/-- Every session waits for what it waited for. -/
theorem waits (h : Aside s s') (sid : Nat) : s'.waits sid = s.waits sid := waits_congr (by rw [h.sessions])

/-- The accounts still add up. -/
theorem accounts_eq (h : Aside s s') (ha : s.accounts = s.trace.foldl Accounts.countObs .zeroed) :
    s'.accounts = s'.trace.foldl Accounts.countObs .zeroed := by
  obtain ⟨obs, ht, _, hc⟩ := h.trace
  rw [hc, ht, List.foldl_append, ha]

end Aside

/-- A change aside from all sessions keeps the server sound. -/
theorem Sound.aside {env : Nat → Env} {s s' : Server} (h : Sound s) (ha : Aside s s') (own' : Own s')
    (jobs' : JobsOwned s')
    (notices : s'.phase ≠ .destroyed → Notices s'.selector.resolutionJobs s')
    (attended : (∀ sid, ¬(env sid).lost) → Attended s.selector.resolutionJobs s → Attended s'.selector.resolutionJobs s')
    (listening : Listening s') :
    Sound s' ∧ Lives env s s' := by
  have hl : Lives env s s' := ha.lives h.own own' attended
  exact ⟨⟨own', jobs', notices, hl.ready h.ready, listening, ha.accounts_eq h.accounts⟩, hl⟩

/-- A change aside from all sessions keeps the invariant. -/
theorem Inv.aside {env : Nat → Env} {s s' : Server} (h : Inv s) (ha : Aside s s') (own' : Own s')
    (jobs' : JobsOwned s') (notices : s'.phase ≠ .destroyed → Notices s'.selector.resolutionJobs s')
    (attended : (∀ sid, ¬(env sid).lost) → Attended s.selector.resolutionJobs s → Attended s'.selector.resolutionJobs s')
    (listening : Listening s') : Inv s' ∧ Lives env s s' := by
  obtain ⟨h1, h2⟩ := h.toSound.aside ha own' jobs' notices attended listening
  refine ⟨⟨h1, ?_⟩, h2⟩
  rw [ha.sessions]
  exact h.errno.imp_right ha.errno

end SocksProxy
