import SocksProxy.Runs
import SocksProxy.Theorems.Lifetimes

/-!
# Session isolation

All sessions share one table of slots, and a session is closed by unregistering the descriptors its own record names. The handlers
that run for one session leave everything of every other session as it is, in the middle of a draining and of the destruction of
the selector as well as between two events.
-/

namespace SocksProxy

/-- From one server to another, nothing but what belongs to session `sid` has changed, apart from the counters, the count of active
connections, the access log and `max_fd`.

Every other session has its record, its slots with their interests and its open files, and a resolver job that is not the
session's is as it was, with its thread. Nobody else has got a slot. The management connections, the users, the listeners, the
flags, the queue of notifications and the size of the table are the same. The accounts have grown by what the session did, and no
other session has done anything. -/
structure Isolated (sid : Nat) (s s' : Server) : Prop where
  sessions : ∀ sid', sid' ≠ sid → s'.sessions sid' = s.sessions sid'
  slots : ∀ fd item, ¬item.Of sid → (s'.selector.slot fd = some item ↔ s.selector.slot fd = some item)
  files : ∀ fd item, s.selector.slot fd = some item → ¬item.Of sid → s'.files fd = s.files fd
  interests : ∀ fd item, s.selector.slot fd = some item → ¬item.Of sid →
    s'.selector.masterR fd = s.selector.masterR fd ∧ s'.selector.masterW fd = s.selector.masterW fd
  jobs : ∀ job, job < s.nextObject → s.Spares sid job → s'.jobs job = s.jobs job
  threads : ∀ job, job < s.nextObject → s'.threads job = s.threads job
  shared : s'.shared = s.shared
  acts : ∀ sid', sid' ≠ sid → s'.acts sid' = s.acts sid'
  accounts : ∃ acts, s'.acts sid = s.acts sid ++ acts ∧ s'.accounts = acts.foldl Accounts.count s.accounts

/-- What is observed of one session alone counts as its acts do. -/
theorem Accounts.foldl_countObs {sid : Nat} {obs : List Obs} (h : ∀ sid', sid' ≠ sid → Obs.acts sid' obs = []) (c : Accounts) :
    obs.foldl Accounts.countObs c = (Obs.acts sid obs).foldl Accounts.count c := by
  induction obs generalizing c with
  | nil => rfl
  | cons o obs ih =>
    have hcons : ∀ sid', Obs.acts sid' (o :: obs) = Obs.acts sid' [o] ++ Obs.acts sid' obs := fun sid' => Obs.acts_append sid' [o] obs
    have hrest : ∀ sid', sid' ≠ sid → Obs.acts sid' obs = [] := by
      intro sid' hne
      have := h sid' hne
      rw [hcons] at this
      exact (List.append_eq_nil_iff.mp this).2
    rw [List.foldl_cons, ih hrest, hcons, List.foldl_append]
    congr 1
    cases o with
    | opened file fd => rfl
    | closed file => rfl
    | act sid' a =>
      by_cases he : sid' = sid
      · subst he
        simp [Obs.acts, Accounts.countObs]
      · have := h sid' he
        simp [Obs.acts] at this

section Frames

variable {s s' : Server} {sid : Nat} {acts : List Act}

/-- A change around one session isolates it. -/
theorem Frame.isolated (fr : Frame sid s s' acts) (own : Own s) : Isolated sid s s' := by
  have hslots : ∀ fd item, ¬item.Of sid → (s'.selector.slot fd = some item ↔ s.selector.slot fd = some item) :=
    fun fd item ho => ⟨fun hi => fr.foreign fd item hi ho, fun hi => (fr.kept fd item hi ho).1⟩
  have hsel := fr.selector own.selector
  refine ⟨fr.sessions, hslots, fun fd item hi ho => (fr.kept fd item hi ho).2, fun fd item hi ho => ?_,
    fun job hlt hs => (fr.jobs job hlt hs).1, fun job hlt => ?_, fr.shared, fun sid' hne => fr.acts_other hne, acts, fr.acts_self, ?_⟩
  · rw [hsel.readable, hsel.writable, own.selector.readable, own.selector.writable, hi, (hslots fd item ho).mpr hi]
    exact ⟨rfl, rfl⟩
  · rcases fr.threads job with h | ⟨hle, _⟩
    · exact h
    · omega
  · obtain ⟨obs, _, ha, hn, hc⟩ := fr.trace
    rw [hc, Accounts.foldl_countObs hn, ha]

/-- Another session looks the same when one has been isolated: its record, the interests of its descriptors and the connection of
its target. -/
theorem Isolated.viewOf (h : Isolated sid s s') (own : Own s) (own' : Own s') {sid' : Nat} (hne : sid' ≠ sid) {state : ClientState}
    (hs : s.sessions sid' = some state) : s'.viewOf state = s.viewOf state := by
  have hno : ∀ item : Item FdHandler Nat, item.data = some sid' → ¬item.Of sid := by
    rintro item hd ⟨_, hd'⟩
    rw [hd] at hd'
    exact hne (Option.some.inj hd')
  obtain ⟨item, hi, _, hd⟩ := own.client sid' state hs
  have hc := (h.slots _ item (hno item hd)).mpr hi
  unfold Server.viewOf Server.interest Server.connect
  rw [hc, hi]
  by_cases ht : state.targetFd = -1
  · rw [ht, own.files_neg_one, own'.files_neg_one]
    simp
  · obtain ⟨item', hi', _, hd'⟩ := own.target sid' state hs ht
    rw [(h.slots _ item' (hno item' hd')).mpr hi', hi', h.files _ item' hi' (hno item' hd')]

/-- Unregistering a slot of a session, with the nested callbacks, is a change around that session. -/
theorem unregister_frame (own : Own s) (jobs : JobsOwned s) {fd : Int} {item : Item FdHandler Nat}
    (hi : s.selector.slot fd = some item) (ho : item.Of sid) :
    Own (s.unregister fd).1 ∧ ∃ acts, Frame sid s (s.unregister fd).1 acts := by
  obtain ⟨hh | hh, hd⟩ := ho
  · obtain ⟨sid', v, hl, rfl, hd', _⟩ := own.clientSlot hi hh
    rw [hd] at hd'
    cases hd'
    have hs := (Server.sessions_of_life hl).1
    rw [unregister_client own jobs hs]
    exact ⟨own_drop own hs, _, frame_drop own hs⟩
  · obtain ⟨sid', v, hl, rfl, hd', _⟩ := own.targetSlot hi hh
    rw [hd] at hd'
    cases hd'
    have hw := unregister_target_worked own jobs hl (ne_neg_one_of_slot hi)
    exact ⟨hw.own, _, hw.frame⟩

end Frames

/-- The handling of one event of session `sid`, from a state that a process can reach: the selector calls the read or the write
handler of one of the session's slots, `handle_block_notifications` comes to the session's notification, having handled those
before it in the queue, or one of the session's slots is unregistered. -/
inductive Config.Handles (c : Config) (sid : Nat) : Server → Server → Prop where
  | read (es : List Event) (fd : Int) (item : Item FdHandler Nat) (a : Answers) : (run c.start es).phase = .running →
    (run c.start es).selector.slot fd = some item → item.interest.read = true → item.Of sid →
    c.Handles sid (run c.start es) (handleRead a item.handler { fd := item.fd, data := item.data } (run c.start es))
  | write (es : List Event) (fd : Int) (item : Item FdHandler Nat) (a : Answers) : (run c.start es).phase = .running →
    (run c.start es).selector.slot fd = some item → item.interest.write = true → item.Of sid →
    c.Handles sid (run c.start es) (handleWrite a item.handler { fd := item.fd, data := item.data } (run c.start es))
  | block (es : List Event) (before after : List Int) (fd : Int) (item : Item FdHandler Nat) (as : List Answers) (a : Answers) :
    (run c.start es).phase = .running → (run c.start es).selector.resolutionJobs = before ++ fd :: after →
    (handleBlockLoop before as (run c.start es)).selector.slot fd = some item → item.Of sid →
    c.Handles sid (handleBlockLoop before as (run c.start es)) (handleBlock (handleBlockLoop before as (run c.start es)) fd a)
  | close (es : List Event) (s : Server) (fd : Int) (item : Item FdHandler Nat) : c.Visits es s →
    s.selector.slot fd = some item → item.Of sid → c.Handles sid s (s.unregister fd).1

/-- The handling of an event of a session is a change around that session, and ownership is in order before and after it. -/
theorem Config.Handles.frame {c : Config} {sid : Nat} {s s' : Server} (h : c.Handles sid s s') :
    Own s ∧ JobsOwned s ∧ Own s' ∧ ∃ acts, Frame sid s s' acts := by
  cases h with
  | read es fd item a hp hi hr ho =>
    have hinv := run_inv c es
    obtain ⟨_, _, hh⟩ := handleRead_handled hinv hp hi hr ho a
    obtain ⟨acts, fr, _⟩ := hh.steps
    exact ⟨hinv.own, hinv.jobs, hh.own, acts, fr⟩
  | write es fd item a hp hi hw ho =>
    have hinv := run_inv c es
    obtain ⟨_, _, hh⟩ := handleWrite_handled hinv hp hi hw ho a
    obtain ⟨acts, fr, _⟩ := hh.steps
    exact ⟨hinv.own, hinv.jobs, hh.own, acts, fr⟩
  | block es before after fd item as a hp hq hi ho =>
    have hinv := run_inv c es
    have hd := hinv.draining (by simp [hp]) hq [] as
    obtain ⟨sid', job, record, hf⟩ := hd.finds hinv.ready fun sid job fd record ha =>
      ⟨⟨[], rfl⟩, job, fd, record, ha.waits, ha.job, ha.done, rfl, rfl⟩
    -- the notification is for the session whose slot it names
    obtain ⟨item', hi', _, hd'⟩ := hf.slot
    rw [hi] at hi'
    cases hi'
    have hsid := ho.2
    rw [hd'] at hsid
    cases hsid
    obtain ⟨own', _, _, acts, fr, _⟩ := hf.handled a
    exact ⟨hd.own, hd.jobs, own', acts, fr⟩
  | close es s fd item hv hi ho =>
    have own := hv.own.1
    have jobs : JobsOwned s := by
      cases hv with
      | between => exact (run_inv c es).jobs
      | destroying turns hp => exact (destroyUntil_ending (run_inv c es) (by simp [hp]) turns).1.jobs
    obtain ⟨own', acts, fr⟩ := unregister_frame own jobs hi ho
    exact ⟨own, jobs, own', acts, fr⟩

/-- In every reachable state, the handling of one event of a session changes nothing of any other session: not its record, not the
slots and interests of its descriptors, not the connection of its target, not its resolver job. Apart from the session it changes
the counters, the count of active connections, the access log and `max_fd` alone. -/
theorem session_isolation (c : Config) (sid : Nat) {s s' : Server} (h : c.Handles sid s s') :
    Isolated sid s s' ∧ ∀ sid' state, sid' ≠ sid → s.sessions sid' = some state →
      s'.sessions sid' = some state ∧ s'.viewOf state = s.viewOf state ∧
      ∀ job fd, s.waits sid' = some (job, fd) → s'.jobs job = s.jobs job ∧ s'.threads job = s.threads job := by
  obtain ⟨own, jobs, own', acts, fr⟩ := h.frame
  have hi := fr.isolated own
  refine ⟨hi, fun sid' state hne hs => ⟨(hi.sessions sid' hne).trans hs, hi.viewOf own own' hne hs, fun job fd hw => ?_⟩⟩
  have hlt := jobs.lt_nextObject hw
  have hspares : s.Spares sid job := fun fd' hw' => hne (jobs.waits_inj hw hw')
  exact ⟨hi.jobs job hlt hspares, hi.threads job hlt⟩

/-- Two clients have connected, and the first has sent its greeting. -/
def twoSessions : List Event :=
  [.read 3 { accepts := [.accepted 5 .ok true, .accepted 6 .ok true] }, .read 5 { recv := .data [5, 1, 0] }]

/-- The first of the two sessions is closed, and the second is as it was. -/
theorem session_isolation_close : ((run (Config.first .zeroed).start twoSessions).unregister 5).1.sessions 1 =
    some ((((run (Config.first .zeroed).start twoSessions).sessions 1).get (by decide +kernel))) :=
  ((session_isolation (Config.first .zeroed) 0 (.close twoSessions _ 5
    (((run (Config.first .zeroed).start twoSessions).selector.slot 5).get (by decide +kernel)) .between
    (Option.some_get _).symm ⟨.inl (by decide +kernel), by decide +kernel⟩)).2 1 _ (by decide) (Option.some_get _).symm).1

end SocksProxy
