import SocksProxy.Machine
import SocksProxy.Ownership

/-!
# Serving one session

What a handler does to the process on behalf of one session, as far as it stays inside that session: it writes the session's
record, sets the interests of the session's own descriptors, performs acts, and leaves everything else as it is. `Served` is
that relation; each primitive operation of the model extends it by one step, so that the effect of a handler is read off by
following its text.
-/

namespace SocksProxy

/-- The counters and the access log: what the acts of the sessions add up to. -/
structure Accounts where
  metrics : ServerMetrics
  active : Nat
  accessLog : List AccessLogEntry

/-- What one act adds to the accounts. -/
def Accounts.count (c : Accounts) : Act → Accounts
  | .accepted => { c with metrics := c.metrics.connectionOpened, active := c.active + 1 }
  | .freed => { c with metrics := c.metrics.connectionClosed, active := c.active - 1 }
  | .succeeded => { c with metrics := c.metrics.connectionSucceeded }
  | .failed => { c with metrics := c.metrics.connectionFailed }
  | .sentTarget bytes => { c with metrics := c.metrics.addClientToTargetBytes bytes.length }
  | .sentClient bytes => { c with metrics := c.metrics.addTargetToClientBytes bytes.length }
  | .logged entry => { c with accessLog := c.accessLog ++ [entry] }
  | _ => c

/-- What one observation adds to the accounts: what its act adds, whichever session it is for. -/
def Accounts.countObs (c : Accounts) : Obs → Accounts
  | .act _ a => c.count a
  | _ => c

/-- What no handler of a session ever changes. -/
structure Shared where
  managements : Nat → Option ManagementState
  managedUsers : ManagedUsers
  serverFd : Int
  managementFd : Int
  shutdownRequested : Bool
  forceShutdown : Bool
  stoppedAccepting : Bool
  phase : RunPhase
  faults : List Fault
  queue : List Int
  fdSize : Nat

/-- The kernel's side and the heap's: what changes only when a descriptor or an object is made or given up. -/
structure Resources where
  files : Int → Option OpenFile
  nextFile : Nat
  jobs : Nat → Option ResolverJob
  threads : Nat → ThreadPhase
  nextObject : Nat

/-- A slot without its interest: what makes it the registration it is. -/
def Item.bare {H D : Type} (item : Item H D) : Item H D := item.withInterest opNoop

namespace Server

/-- The accounts of a server. -/
def accounts (s : Server) : Accounts := ⟨s.metrics, s.activeClientConnections, s.accessLog⟩

/-- The part of a server no handler of a session changes. -/
def shared (s : Server) : Shared where
  managements := s.managements
  managedUsers := s.managedUsers
  serverFd := s.serverFd
  managementFd := s.managementFd
  shutdownRequested := s.shutdownRequested
  forceShutdown := s.forceShutdown
  stoppedAccepting := s.stoppedAccepting
  phase := s.phase
  faults := s.faults
  queue := s.selector.resolutionJobs
  fdSize := s.selector.fdSize

/-- The resources of a server. -/
def resources (s : Server) : Resources := ⟨s.files, s.nextFile, s.jobs, s.threads, s.nextObject⟩

/-- The interest registered for a descriptor. -/
def interest (s : Server) (fd : Int) : Option FdInterest := (s.selector.slot fd).map (·.interest)

/-- The connection of the socket a descriptor names. -/
def connect (s : Server) (fd : Int) : Option ConnectStatus := (s.files fd).map (·.connect)

/-- A session as it looks on this server, from its record. -/
def viewOf (s : Server) (state : ClientState) : View where
  state := state
  clientInterest := s.interest state.clientFd
  targetInterest := s.interest state.targetFd
  connect := s.connect state.targetFd

/-- The life of a session on this server. -/
def life (s : Server) (sid : Nat) : Life :=
  match s.sessions sid with
  | some state => .live (s.viewOf state)
  | none => if sid < s.nextObject then .gone else .unborn

/-- The life of a session that is there. -/
theorem life_of_some {s : Server} {sid : Nat} {state : ClientState} (h : s.sessions sid = some state) :
    s.life sid = .live (s.viewOf state) := by
  simp [life, h]

/-- A session seen from outside is there. -/
theorem sessions_of_life {s : Server} {sid : Nat} {v : View} (h : s.life sid = .live v) :
    s.sessions sid = some v.state ∧ s.viewOf v.state = v := by
  unfold life at h
  split at h
  · rename_i state hs
    cases h
    exact ⟨hs, rfl⟩
  · split at h <;> cases h

@[simp] theorem setInterest_queue (s : Server) (fd : Int) (i : FdInterest) :
    (s.setInterest fd i).selector.resolutionJobs = s.selector.resolutionJobs :=
  FdSelector.selectorSetInterest_resolutionJobs _ _ _

@[simp] theorem setInterest_fdSize (s : Server) (fd : Int) (i : FdInterest) :
    (s.setInterest fd i).selector.fdSize = s.selector.fdSize :=
  FdSelector.selectorSetInterest_fdSize _ _ _

/-- Setting an interest changes the interest of that descriptor's slot, if it has one. -/
theorem slot_setInterest (s : Server) (fd : Int) (i : FdInterest) (fd' : Int) :
    (s.setInterest fd i).selector.slot fd' =
      if fd' = fd then (s.selector.slot fd).map (·.withInterest i) else s.selector.slot fd' :=
  FdSelector.slot_selectorSetInterest _ _ _ _

/-- The interest of a descriptor after an interest was set. -/
theorem interest_setInterest (s : Server) (fd : Int) (i : FdInterest) (fd' : Int) :
    (s.setInterest fd i).interest fd' = if fd' = fd then (s.interest fd).map (fun _ => i) else s.interest fd' := by
  unfold interest
  rw [slot_setInterest]
  split
  · simp [Option.map_map, Function.comp_def, Item.withInterest]
  · rfl

/-- The part nobody changes is unchanged by setting an interest. -/
@[simp] theorem shared_setInterest (s : Server) (fd : Int) (i : FdInterest) : (s.setInterest fd i).shared = s.shared := by
  simp only [shared, setInterest_queue, setInterest_fdSize]
  rfl

end Server

/-- A session does not wait for this job. -/
def Server.Spares (s : Server) (sid job : Nat) : Prop := ∀ fd, s.waits sid ≠ some (job, fd)

/-- Whether a session waits for a job depends on what it waits for. -/
theorem Server.Spares.congr {s s' : Server} {sid job : Nat} (hw : s'.waits sid = s.waits sid) (h : s.Spares sid job) :
    s'.Spares sid job := by
  intro fd
  rw [hw]
  exact h fd

/-- The result of a resolver job, once its thread has published it. -/
def Server.resultOf (s : Server) (job : Nat) : Option (Int × List AddrInfo) :=
  (s.jobs job).bind fun record => if record.done then some (record.status, record.result) else none

/-- The results depend on the jobs. -/
theorem Server.resultOf_congr {s s' : Server} {job : Nat} (h : s'.jobs job = s.jobs job) : s'.resultOf job = s.resultOf job := by
  rw [resultOf, h, resultOf]

/-- From one server to another, only what belongs to session `sid` has changed, and it performed these acts. Descriptors may
have been opened and closed on its behalf, and a resolver started. -/
structure Frame (sid : Nat) (s s' : Server) (acts : List Act) : Prop where
  sessions : ∀ sid', sid' ≠ sid → s'.sessions sid' = s.sessions sid'
  kept : ∀ fd item, s.selector.slot fd = some item → ¬item.Of sid →
    s'.selector.slot fd = some item ∧ s'.files fd = s.files fd
  foreign : ∀ fd item, s'.selector.slot fd = some item → ¬item.Of sid → s.selector.slot fd = some item
  selector : s.selector.Consistent → s'.selector.Consistent
  shared : s'.shared = s.shared
  nextObject : s.nextObject ≤ s'.nextObject
  errno : s.errno ≠ 0 → s'.errno ≠ 0
  jobs : ∀ job, job < s.nextObject → s.Spares sid job → s'.jobs job = s.jobs job ∧ s'.Spares sid job
  threads : ∀ job, s'.threads job = s.threads job ∨ s.nextObject ≤ job ∧ s'.threads job = .resolving
  results : ∀ job, s'.resultOf job = none ∨ s'.resultOf job = s.resultOf job
  trace : ∃ obs, s'.trace = s.trace ++ obs ∧ Obs.acts sid obs = acts ∧ (∀ sid', sid' ≠ sid → Obs.acts sid' obs = []) ∧
    s'.accounts = obs.foldl Accounts.countObs s.accounts
  ledger : Ledger s.files s.nextFile s.trace → Ledger s'.files s'.nextFile s'.trace

/-- The descriptors of a session are in order: two different ones, the client's registered, and the target's if there is one. -/
structure View.Held (v : View) : Prop where
  apart : v.state.clientFd ≠ v.state.targetFd
  client : v.clientInterest.isSome = true
  target : v.state.targetFd ≠ -1 → v.targetInterest.isSome = true

/-- From one server to another, only session `sid` was served: its record is now that of the view `v`, its interests are those
of `v`, and it performed these acts. -/
structure Served (sid : Nat) (s s' : Server) (v : View) (acts : List Act) : Prop where
  session : ∃ state, s.sessions sid = some state ∧ v.state.clientFd = state.clientFd ∧ v.state.targetFd = state.targetFd ∧
    v.state.resolverJob = state.resolverJob
  sessions : s'.sessions = Function.update s.sessions sid (some v.state)
  view : s'.viewOf v.state = v
  held : v.Held
  bare : ∀ fd, (s'.selector.slot fd).map (·.bare) = (s.selector.slot fd).map (·.bare)
  others : ∀ fd, fd ≠ v.state.clientFd → fd ≠ v.state.targetFd → s'.selector.slot fd = s.selector.slot fd
  selector : s.selector.Consistent → s'.selector.Consistent
  shared : s'.shared = s.shared
  resources : s'.resources = s.resources
  errno : s.errno ≠ 0 → s'.errno ≠ 0
  accounts : s'.accounts = acts.foldl Accounts.count s.accounts
  trace : s'.trace = s.trace ++ acts.map (.act sid)

namespace Served

variable {sid : Nat} {s s' s'' : Server} {v v' : View} {acts acts' : List Act}

/-- Doing nothing serves a session. -/
theorem refl (h : s.life sid = .live v) (held : v.Held) : Served sid s s v [] := by
  obtain ⟨hs, hv⟩ := Server.sessions_of_life h
  exact {
    session := ⟨v.state, hs, rfl, rfl, rfl⟩
    sessions := by rw [← hs, Function.update_eq_self]
    view := hv
    held
    bare := fun _ => rfl
    others := fun _ _ _ => rfl
    selector := id
    shared := rfl
    resources := rfl
    errno := id
    accounts := rfl
    trace := by simp }

/-- A session that was served is there. -/
theorem now (h : Served sid s s' v acts) : s'.sessions sid = some v.state := by
  simp [h.sessions]

/-- The life of a session that was served. -/
theorem life (h : Served sid s s' v acts) : s'.life sid = .live v := by
  rw [Server.life_of_some h.now, h.view]

/-- Serving a session that was served. -/
theorem trans (h : Served sid s s' v acts) (h' : Served sid s' s'' v' acts') : Served sid s s'' v' (acts ++ acts') := by
  obtain ⟨state, hs, hc, ht, hj⟩ := h.session
  obtain ⟨state', hs', hc', ht', hj'⟩ := h'.session
  rw [h.now] at hs'
  cases hs'
  exact {
    session := ⟨state, hs, hc'.trans hc, ht'.trans ht, hj'.trans hj⟩
    sessions := by rw [h'.sessions, h.sessions, Function.update_idem]
    view := h'.view
    held := h'.held
    bare := fun fd => (h'.bare fd).trans (h.bare fd)
    others := fun fd h1 h2 => (h'.others fd h1 h2).trans (h.others fd (hc' ▸ h1) (ht' ▸ h2))
    selector := fun hc => h'.selector (h.selector hc)
    shared := h'.shared.trans h.shared
    resources := h'.resources.trans h.resources
    errno := fun he => h'.errno (h.errno he)
    accounts := by rw [h'.accounts, h.accounts, List.foldl_append]
    trace := by rw [h'.trace, h.trace, List.map_append, List.append_assoc] }

/-- Reading the session of a server that served it. -/
theorem withSession (h : Served sid s s' v acts) (k : ClientState → Server) : s'.withSession sid k = k v.state := by
  simp [Server.withSession, h.now]

/-- Writing the session's record, its descriptors and its job apart. -/
theorem put (h : Served sid s s' v acts) (state : ClientState) (hc : state.clientFd = v.state.clientFd)
    (ht : state.targetFd = v.state.targetFd) (hj : state.resolverJob = v.state.resolverJob) :
    Served sid s (s'.put sid state) { v with state } acts := by
  obtain ⟨state0, hs, hc0, ht0, hj0⟩ := h.session
  have hv := h.view
  exact { h with
    session := ⟨state0, hs, hc.trans hc0, ht.trans ht0, hj.trans hj0⟩
    sessions := by simp [Server.put, h.sessions]
    view := by
      rw [← hv]
      simp only [Server.viewOf, hc, ht]
      rfl
    held := ⟨by simpa [hc, ht] using h.held.apart, h.held.client, by simpa [ht] using h.held.target⟩
    others := fun fd h1 h2 => h.others fd (hc ▸ h1) (ht ▸ h2) }

/-- Performing an act that no account counts. -/
theorem observe (h : Served sid s s' v acts) (as : List Act) (hn : ∀ a ∈ as, ∀ c, Accounts.count c a = c) :
    Served sid s (s'.observe (as.map (.act sid))) v (acts ++ as) := by
  have hf : ∀ c, as.foldl Accounts.count c = c := by
    intro c
    induction as with
    | nil => rfl
    | cons a as ih =>
      rw [List.foldl_cons, hn a (by simp)]
      exact ih fun b hb => hn b (by simp [hb])
  exact { h with
    accounts := by
      rw [List.foldl_append, hf, ← h.accounts]
      rfl
    trace := by simp [Server.observe, h.trace] }

/-- Performing one act that no account counts. -/
theorem act (h : Served sid s s' v acts) (a : Act) (hn : ∀ c, Accounts.count c a = c) :
    Served sid s (s'.observe [.act sid a]) v (acts ++ [a]) :=
  h.observe [a] (by simpa using hn)

/-- A system call of the session failed. -/
theorem setErrno (h : Served sid s s' v acts) (e : Errno) : Served sid s (s'.setErrno e) v acts :=
  { h with errno := fun _ => e.ne_zero }

/-- A loop of `send` ended. -/
theorem afterSend (h : Served sid s s' v acts) (ending : SendEnd) : Served sid s (s'.afterSend ending) v acts := by
  match ending with
  | .drained => exact h
  | .wouldBlock => exact h.setErrno _
  | .failed none => exact h
  | .failed (some e) => exact h.setErrno e

/-- Setting the interest of the client. -/
theorem setClient (h : Served sid s s' v acts) (i : FdInterest) :
    Served sid s (s'.setInterest v.state.clientFd i) { v with clientInterest := some i } acts := by
  have hci : (s'.interest v.state.clientFd).isSome = true := by
    have := h.held.client
    rw [← h.view] at this
    exact this
  have hc : (s'.interest v.state.clientFd).map (fun _ => i) = some i := by
    obtain ⟨j, hj⟩ := Option.isSome_iff_exists.mp hci
    simp [hj]
  exact { h with
    sessions := h.sessions
    view := by
      have hv := h.view
      unfold Server.viewOf at hv ⊢
      rw [Server.interest_setInterest, Server.interest_setInterest, if_pos rfl, if_neg h.held.apart.symm, hc]
      conv_rhs => rw [← hv]
      rfl
    held := ⟨h.held.apart, rfl, h.held.target⟩
    bare := fun fd => by
      rw [← h.bare fd, Server.slot_setInterest]
      split
      · subst_vars
        simp [Option.map_map, Function.comp_def, Item.bare, Item.withInterest]
      · rfl
    others := fun fd h1 h2 => by
      rw [Server.slot_setInterest, if_neg h1]
      exact h.others fd h1 h2
    selector := fun hc => ((h.selector hc).selectorSetInterest _ _).1
    shared := (Server.shared_setInterest _ _ _).trans h.shared }

/-- Setting the interest of the target. -/
theorem setTarget (h : Served sid s s' v acts) (ht : v.state.targetFd ≠ -1) (i : FdInterest) :
    Served sid s (s'.setInterest v.state.targetFd i) { v with targetInterest := some i } acts := by
  have hti : (s'.interest v.state.targetFd).isSome = true := by
    have := h.held.target ht
    rw [← h.view] at this
    exact this
  have hc : (s'.interest v.state.targetFd).map (fun _ => i) = some i := by
    obtain ⟨j, hj⟩ := Option.isSome_iff_exists.mp hti
    simp [hj]
  exact { h with
    sessions := h.sessions
    view := by
      have hv := h.view
      unfold Server.viewOf at hv ⊢
      rw [Server.interest_setInterest, Server.interest_setInterest, if_pos rfl, if_neg h.held.apart, hc]
      conv_rhs => rw [← hv]
      rfl
    held := ⟨h.held.apart, h.held.client, fun _ => rfl⟩
    bare := fun fd => by
      rw [← h.bare fd, Server.slot_setInterest]
      split
      · subst_vars
        simp [Option.map_map, Function.comp_def, Item.bare, Item.withInterest]
      · rfl
    others := fun fd h1 h2 => by
      rw [Server.slot_setInterest, if_neg h2]
      exact h.others fd h1 h2
    selector := fun hc => ((h.selector hc).selectorSetInterest _ _).1
    shared := (Server.shared_setInterest _ _ _).trans h.shared }

end Served

end SocksProxy
