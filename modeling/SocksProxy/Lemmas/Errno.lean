import SocksProxy.Lemmas.Dispatch
import SocksProxy.ServerRun

/-!
# `errno`

A `pselect` that fails sets `errno`, whatever the handlers do afterwards. None of them reads it before a call of its own has set it,
with one exception: `register_connecting_socket` keeps it as the error of a connection that was established at once but could not be
registered. There the same comes of another answer, a `connect` that fails with that error. So the answers can be chosen in such a
way that the server goes the same way as without the failure, but for `errno`.
-/

namespace SocksProxy

/-- `selector_register` in a table with room for every descriptor leaves its size, and leaves all of it when it fails. -/
theorem selectorRegister_room {sel : FdSelector FdHandler Nat} (hs : 1024 ≤ sel.fdSize) (fd : Int) (handler : FdHandler)
    (i : FdInterest) (data : Option Nat) :
    (sel.selectorRegister fd (some handler) i data true).1.fdSize = sel.fdSize ∧
      ((sel.selectorRegister fd (some handler) i data true).2 ≠ .success →
        (sel.selectorRegister fd (some handler) i data true).1 = sel) := by
  cases hv : invalidFd fd with
  | true =>
    rw [FdSelector.selectorRegister_of_invalid hv]
    exact ⟨rfl, fun _ => rfl⟩
  | false =>
    have hlt : fd.toNat < sel.fdSize := by
      have := invalidFd_eq_false_iff.mp hv
      omega
    simp only [FdSelector.selectorRegister, hv, Option.isNone_some, Bool.or_self, Bool.false_eq_true, if_false, not_lt_of_gt hlt,
      gt_iff_lt, ne_eq, not_true_eq_false, FdSelector.touch_of_lt hlt]
    split
    · exact ⟨rfl, fun _ => rfl⟩
    · refine ⟨?_, fun h => absurd rfl h⟩
      dsimp only
      split <;> rfl

/-- The first server is the second, or the second with `errno` as this error has left it, and with room for every descriptor. -/
def SameButErrno (e : Errno) (s t : Server) : Prop := s = t ∨ s = t.setErrno e ∧ 1024 ≤ t.selector.fdSize

namespace SameButErrno

variable {e : Errno} {s t : Server}

theorem refl (s : Server) : SameButErrno e s s := .inl rfl

/-- What is read of both, unless it is `errno`. -/
theorem same {α : Type} (h : SameButErrno e s t) (g : Server → α) (hg : ∀ s, g (s.setErrno e) = g s) : g s = g t := by
  rcases h with rfl | ⟨rfl, -⟩
  · rfl
  · exact hg t

/-- The same is done to both, leaving `errno`. -/
theorem mapRoom (h : SameButErrno e s t) (f : Server → Server) (hf : ∀ s, f (s.setErrno e) = (f s).setErrno e)
    (hroom : ∀ s, 1024 ≤ s.selector.fdSize → 1024 ≤ (f s).selector.fdSize) : SameButErrno e (f s) (f t) := by
  rcases h with rfl | ⟨rfl, hsize⟩
  · exact refl _
  · exact .inr ⟨hf t, hroom t hsize⟩

/-- The same is done to both, leaving `errno` and the table. -/
theorem map (h : SameButErrno e s t) (f : Server → Server) (hf : ∀ s, f (s.setErrno e) = (f s).setErrno e)
    (hsel : ∀ s, (f s).selector = s.selector) : SameButErrno e (f s) (f t) :=
  h.mapRoom f hf fun s hs => by rwa [hsel]

theorem sessions (h : SameButErrno e s t) : s.sessions = t.sessions := h.same Server.sessions fun _ => rfl

theorem managements (h : SameButErrno e s t) : s.managements = t.managements := h.same Server.managements fun _ => rfl

theorem jobs (h : SameButErrno e s t) : s.jobs = t.jobs := h.same Server.jobs fun _ => rfl

theorem threads (h : SameButErrno e s t) : s.threads = t.threads := h.same Server.threads fun _ => rfl

theorem files (h : SameButErrno e s t) : s.files = t.files := h.same Server.files fun _ => rfl

theorem selector (h : SameButErrno e s t) : s.selector = t.selector := h.same Server.selector fun _ => rfl

theorem nextObject (h : SameButErrno e s t) : s.nextObject = t.nextObject := h.same Server.nextObject fun _ => rfl

theorem phase (h : SameButErrno e s t) : s.phase = t.phase := h.same Server.phase fun _ => rfl

/-! ## What leaves `errno` -/

theorem fault (h : SameButErrno e s t) (f : Fault) : SameButErrno e (s.fault f) (t.fault f) :=
  h.map (·.fault f) (fun _ => rfl) fun _ => rfl

theorem observe (h : SameButErrno e s t) (o : List Obs) : SameButErrno e (s.observe o) (t.observe o) :=
  h.map (·.observe o) (fun _ => rfl) fun _ => rfl

theorem put (h : SameButErrno e s t) (sid : Nat) (state : ClientState) : SameButErrno e (s.put sid state) (t.put sid state) :=
  h.map (·.put sid state) (fun _ => rfl) fun _ => rfl

theorem withSession (h : SameButErrno e s t) (sid : Nat) {k k' : ClientState → Server}
    (hk : ∀ state, SameButErrno e (k state) (k' state)) : SameButErrno e (s.withSession sid k) (t.withSession sid k') := by
  unfold Server.withSession
  rw [h.sessions]
  cases t.sessions sid with
  | none => exact h.fault _
  | some state => exact hk state

/-- The same, where the answers may depend on the session. -/
theorem withSession_of {α : Type} (h : SameButErrno e s t) (sid : Nat) (a : α) {k : ClientState → Server}
    {k' : α → ClientState → Server} (hk : ∀ state, ∃ a, SameButErrno e (k state) (k' a state)) :
    ∃ a, SameButErrno e (s.withSession sid k) (t.withSession sid (k' a)) := by
  unfold Server.withSession
  rw [h.sessions]
  cases t.sessions sid with
  | none => exact ⟨a, h.fault _⟩
  | some state => exact hk state

theorem free (h : SameButErrno e s t) (sid : Nat) : SameButErrno e (s.free sid) (t.free sid) :=
  h.withSession sid fun _ => h.map (fun s => { s with sessions := Function.update s.sessions sid none }) (fun _ => rfl) fun _ => rfl

theorem openFd (h : SameButErrno e s t) (fd : Int) : SameButErrno e (s.openFd fd) (t.openFd fd) :=
  h.map (·.openFd fd) (fun _ => rfl) fun _ => rfl

theorem close (h : SameButErrno e s t) (fd : Int) : SameButErrno e (s.close fd) (t.close fd) := by
  refine h.map (·.close fd) (fun s => ?_) fun s => ?_
  · simp only [Server.close, Server.setErrno]
    cases s.files fd <;> rfl
  · simp only [Server.close]
    cases s.files fd <;> rfl

theorem setConnect (h : SameButErrno e s t) (fd : Int) (connect : ConnectStatus) :
    SameButErrno e (s.setConnect fd connect) (t.setConnect fd connect) := by
  refine h.map (·.setConnect fd connect) (fun s => ?_) fun s => ?_
  · simp only [Server.setConnect, Server.setErrno]
    cases s.files fd <;> rfl
  · simp only [Server.setConnect]
    cases s.files fd <;> rfl

theorem setInterest (h : SameButErrno e s t) (fd : Int) (i : FdInterest) :
    SameButErrno e (s.setInterest fd i) (t.setInterest fd i) := by
  refine h.mapRoom (·.setInterest fd i) (fun _ => rfl) fun s hs => ?_
  rwa [Server.setInterest, FdSelector.selectorSetInterest_fdSize]

theorem register (h : SameButErrno e s t) (fd : Int) (handler : FdHandler) (i : FdInterest) (data : Option Nat) :
    SameButErrno e (s.register fd handler i data).1 (t.register fd handler i data).1 ∧
      (s.register fd handler i data).2 = (t.register fd handler i data).2 :=
  ⟨h.mapRoom (fun s => (s.register fd handler i data).1) (fun _ => rfl)
      fun _ hs => hs.trans (selectorRegister_room hs fd handler i data).1.ge,
    h.same (fun s => (s.register fd handler i data).2) fun _ => rfl⟩

theorem handOut (h : SameButErrno e s t) (r : Except Errno Int) : s.handOut r = t.handOut r :=
  h.same (·.handOut r) fun _ => rfl

theorem connectionClosed (h : SameButErrno e s t) (sid : Nat) :
    SameButErrno e (s.connectionClosed sid) (t.connectionClosed sid) := h.map (·.connectionClosed sid) (fun _ => rfl) fun _ => rfl

theorem connectionSucceeded (h : SameButErrno e s t) (sid : Nat) :
    SameButErrno e (s.connectionSucceeded sid) (t.connectionSucceeded sid) :=
  h.map (·.connectionSucceeded sid) (fun _ => rfl) fun _ => rfl

theorem connectionFailed (h : SameButErrno e s t) (sid : Nat) :
    SameButErrno e (s.connectionFailed sid) (t.connectionFailed sid) := h.map (·.connectionFailed sid) (fun _ => rfl) fun _ => rfl

theorem prepareReply (h : SameButErrno e s t) (sid : Nat) (state : ClientState) (reply : Reply) :
    SameButErrno e (s.prepareReply sid state reply) (t.prepareReply sid state reply) :=
  h.map (·.prepareReply sid state reply) (fun _ => rfl) fun _ => rfl

theorem updateRelayInterests (h : SameButErrno e s t) (sid : Nat) :
    SameButErrno e (clientSessionUpdateRelayInterests s sid) (clientSessionUpdateRelayInterests t sid) := by
  refine h.withSession sid fun state => ?_
  split
  · exact h
  · dsimp only
    split <;> split
    · exact (h.setInterest _ _).setInterest _ _
    · exact h.setInterest _ _
    · exact h.setInterest _ _
    · exact h

theorem freeAddresses (h : SameButErrno e s t) (sid : Nat) :
    SameButErrno e (targetConnectionFreeAddresses s sid) (targetConnectionFreeAddresses t sid) :=
  h.withSession sid fun _ => h.put _ _

theorem detachResolver (h : SameButErrno e s t) (sid : Nat) :
    SameButErrno e (targetConnectionDetachResolver s sid) (targetConnectionDetachResolver t sid) := by
  refine h.withSession sid fun state => ?_
  cases state.resolverJob with
  | none => exact h
  | some job =>
    dsimp only
    rw [h.jobs]
    cases t.jobs job with
    | none => exact h.fault _
    | some record =>
      refine put ?_ _ _
      split
      · exact h.map (fun s => { s with jobs := Function.update t.jobs job none }) (fun _ => rfl) fun _ => rfl
      · exact h.map (fun s => { s with jobs := Function.update t.jobs job (some { record with state := none }) }) (fun _ => rfl)
          fun _ => rfl

/-! ## Unregistering -/

/-- Two results that go together: the servers, and what was returned. -/
def Paired {α : Type} (e : Errno) (p q : Server × α) : Prop := SameButErrno e p.1 q.1 ∧ p.2 = q.2

theorem closeUnlessUnregistered {p q : Server × SelectorStatus} (h : Paired e p q) (fd : Int) :
    SameButErrno e (SocksProxy.closeUnlessUnregistered fd p) (SocksProxy.closeUnlessUnregistered fd q) := by
  obtain ⟨s, status⟩ := p
  obtain ⟨t, status'⟩ := q
  obtain ⟨hs, rfl⟩ : SameButErrno e s t ∧ status = status' := h
  cases status with
  | success => exact hs
  | _ => exact hs.close fd

/-- The `handle_close` of a handler. -/
theorem handleClose {unregister : Server → Int → Server × SelectorStatus}
    (hu : ∀ s t fd, SameButErrno e s t → Paired e (unregister s fd) (unregister t fd)) (h : SameButErrno e s t)
    (handler : Option FdHandler) (key : SelectorKey Nat) :
    SameButErrno e (SocksProxy.handleClose unregister handler key s) (SocksProxy.handleClose unregister handler key t) := by
  cases handler with
  | none => exact h.fault _
  | some handler =>
    cases handler with
    | clientHandler =>
      refine close ?_ _
      cases key.data with
      | none => exact h
      | some sid =>
        refine h.withSession sid fun state => ?_
        refine free (connectionClosed (freeAddresses (detachResolver ?_ sid) sid) sid) sid
        dsimp only
        split
        · split
          · exact closeUnlessUnregistered (hu _ _ _ ((h.put _ _).put _ _)) _
          · exact h.put _ _
        · split
          · exact closeUnlessUnregistered (hu _ _ _ ((h.put _ _).put _ _)) _
          · exact h.put _ _
    | targetHandler =>
      refine close ?_ _
      cases key.data with
      | none => exact h
      | some sid =>
        refine h.withSession sid fun state => ?_
        split
        · exact h.put _ _
        · exact h
    | managementClientHandler =>
      refine close ?_ _
      cases key.data with
      | none => exact h
      | some mid =>
        dsimp only
        rw [h.managements]
        cases t.managements mid with
        | none => exact h.fault _
        | some state =>
          exact h.map (fun s => { s with managements := Function.update t.managements mid none }) (fun _ => rfl) fun _ => rfl
    | acceptHandler => exact h
    | managementAcceptHandler => exact h

/-- An operation of the selector. -/
theorem onSelector (h : SameButErrno e s t) (f : FdSelector FdHandler Nat → FdSelector FdHandler Nat)
    (hf : ∀ sel, (f sel).fdSize = sel.fdSize) : SameButErrno e (SocksProxy.onSelector f s) (SocksProxy.onSelector f t) :=
  h.mapRoom (SocksProxy.onSelector f) (fun _ => rfl) fun s hs => hs.trans (hf s.selector).ge

theorem unregisterFd (depth : Nat) (h : SameButErrno e s t) (fd : Int) :
    Paired e (SocksProxy.unregisterFd depth s fd) (SocksProxy.unregisterFd depth t fd) := by
  induction depth generalizing s t fd with
  | zero => exact ⟨h.fault _, rfl⟩
  | succ depth ih =>
    unfold SocksProxy.unregisterFd selectorUnregisterFd
    have htouch := h.onSelector (·.touch fd.toNat) (FdSelector.touch_fdSize · _)
    have hsel : SelectorWorld.selector (SocksProxy.onSelector (·.touch fd.toNat) s) =
        SelectorWorld.selector (SocksProxy.onSelector (·.touch fd.toNat) t) := htouch.selector
    dsimp only
    rw [hsel]
    split
    · exact ⟨h, rfl⟩
    · split
      · exact ⟨htouch, rfl⟩
      · exact ⟨(handleClose (fun _ _ fd h => ih h fd) htouch _ _).onSelector (·.clearItem fd)
          (FdSelector.clearItem_fdSize · _), rfl⟩

theorem unregister (h : SameButErrno e s t) (fd : Int) : Paired e (s.unregister fd) (t.unregister fd) := h.unregisterFd 2 fd

theorem closeConnection (h : SameButErrno e s t) (sid : Nat) :
    SameButErrno e (clientSessionCloseConnection s sid) (clientSessionCloseConnection t sid) := by
  refine h.withSession sid fun state => ?_
  split
  · exact ((h.put _ _).unregister _).1
  · split
    · exact closeUnlessUnregistered ((h.put _ _).unregister _) _
    · exact h

/-! ## Handlers that keep their answers -/

theorem setErrno (h : SameButErrno e s t) (e' : Errno) : SameButErrno e (s.setErrno e') (t.setErrno e') := by
  rcases h with rfl | ⟨rfl, -⟩
  · exact refl _
  · exact .inl rfl

theorem afterSend (h : SameButErrno e s t) (ending : SendEnd) : SameButErrno e (s.afterSend ending) (t.afterSend ending) := by
  cases ending with
  | drained => exact h
  | wouldBlock => exact h.setErrno _
  | failed errno =>
    cases errno with
    | none => exact h
    | some e' => exact h.setErrno e'

theorem accessLog (h : SameButErrno e s t) (sid : Nat) (success : Bool) :
    SameButErrno e (accessLogClientConnection s sid success) (accessLogClientConnection t sid success) := by
  refine h.withSession sid fun state => ?_
  split
  · exact h
  · have hlogged : ∀ entry : AccessLogEntry, SameButErrno e { s with accessLog := s.accessLog ++ [entry] }
        { t with accessLog := t.accessLog ++ [entry] } := fun entry =>
      h.map (fun s => { s with accessLog := s.accessLog ++ [entry] }) (fun _ => rfl) fun _ => rfl
    exact ((hlogged _).put _ _).observe _

theorem failRequest (h : SameButErrno e s t) (fd : Int) (sid : Nat) (code : Byte) :
    SameButErrno e (SocksProxy.failRequest s fd sid code) (SocksProxy.failRequest t fd sid code) :=
  h.withSession sid fun _ => (((h.prepareReply _ _ _).connectionFailed _).accessLog _ _).withSession sid fun _ =>
    ((((h.prepareReply _ _ _).connectionFailed _).accessLog _ _).put _ _).setInterest _ _

theorem answerConnect (h : SameButErrno e s t) (sid : Nat) (connected : Bool) :
    SameButErrno e (SocksProxy.answerConnect s sid connected) (SocksProxy.answerConnect t sid connected) := by
  refine h.withSession sid fun state => ?_
  have hcounted : ∀ code, SameButErrno e
      (if connected then (s.prepareReply sid state (.request code)).connectionSucceeded sid
        else (s.prepareReply sid state (.request code)).connectionFailed sid)
      (if connected then (t.prepareReply sid state (.request code)).connectionSucceeded sid
        else (t.prepareReply sid state (.request code)).connectionFailed sid) := by
    intro code
    cases connected with
    | true => exact (h.prepareReply _ _ _).connectionSucceeded _
    | false => exact (h.prepareReply _ _ _).connectionFailed _
  exact ((hcounted _).accessLog _ _).withSession sid fun _ => (((hcounted _).accessLog _ _).put _ _).setInterest _ _

theorem rejectRequest (h : SameButErrno e s t) (key : SelectorKey Nat) (sid : Nat) (state : ClientState) (code : Byte) :
    SameButErrno e (SocksProxy.rejectRequest s key sid state code) (SocksProxy.rejectRequest t key sid state code) :=
  ((h.prepareReply _ _ _).connectionFailed _).setInterest _ _

theorem clientReadGreeting (h : SameButErrno e s t) (key : SelectorKey Nat) (sid : Nat) (state : ClientState) :
    SameButErrno e (SocksProxy.clientReadGreeting s key sid state) (SocksProxy.clientReadGreeting t key sid state) := by
  unfold SocksProxy.clientReadGreeting
  rw [h.same Server.managedUsers fun _ => rfl]
  split
  · exact h
  · split
    · split
      · split
        · exact h
        · exact (h.unregister _).1
      · split
        · exact h.fault _
        · exact (h.prepareReply _ _ _).setInterest _ _
    · exact h.fault _

theorem clientReadAuth (h : SameButErrno e s t) (key : SelectorKey Nat) (sid : Nat) (state : ClientState) :
    SameButErrno e (SocksProxy.clientReadAuth s key sid state) (SocksProxy.clientReadAuth t key sid state) := by
  unfold SocksProxy.clientReadAuth
  rw [h.same Server.managedUsers fun _ => rfl]
  split
  · exact h.fault _
  · exact h
  · exact (h.prepareReply _ _ _).setInterest _ _

theorem clientWriteRelay (h : SameButErrno e s t) (sid : Nat) (state : ClientState) (sends : List SendResult) :
    SameButErrno e (SocksProxy.clientWriteRelay s sid state sends) (SocksProxy.clientWriteRelay t sid state sends) := by
  unfold SocksProxy.clientWriteRelay
  generalize sendLoop (state.t2cBuffer.drop state.t2cOff) sends = r
  obtain ⟨chunks, ending⟩ := r
  have hcounted := (((h.put sid { state with t2cOff := state.t2cOff + chunks.flatten.length }).observe
    (chunks.map (.act sid <| .sentClient ·))).map (fun s => { s with
      metrics := chunks.foldl (fun m (chunk : List Byte) => m.addTargetToClientBytes chunk.length) s.metrics })
    (fun _ => rfl) fun _ => rfl).afterSend ending
  cases ending with
  | wouldBlock => exact hcounted
  | failed => exact hcounted.closeConnection _
  | drained => exact (hcounted.put _ _).updateRelayInterests _

theorem clientWrite (h : SameButErrno e s t) (key : SelectorKey Nat) (sends : List SendResult) :
    SameButErrno e (SocksProxy.clientWrite s key sends) (SocksProxy.clientWrite t key sends) := by
  unfold SocksProxy.clientWrite
  cases key.data with
  | none => exact h.fault _
  | some sid =>
    refine h.withSession sid fun state => ?_
    generalize sendLoop (state.writeBuffer.drop state.writeOff) sends = r
    obtain ⟨chunks, ending⟩ := r
    have hsent := ((h.put sid { state with writeOff := state.writeOff + chunks.flatten.length }).observe
      (chunks.map (.act sid <| .sentReply ·))).afterSend ending
    cases ending with
    | wouldBlock => exact hsent
    | failed => exact hsent.closeConnection _
    | drained =>
      dsimp only
      split
      · split
        · exact ((hsent.put _ _).unregister _).1
        · split
          · exact ((hsent.put _ _).put _ _).updateRelayInterests _
          · exact (hsent.put _ _).setInterest _ _
      · split
        · exact hsent.setInterest _ _
        · exact hsent.clientWriteRelay _ _ _

theorem targetRead (h : SameButErrno e s t) (key : SelectorKey Nat) (a : Answers) :
    SameButErrno e (SocksProxy.targetRead s key a) (SocksProxy.targetRead t key a) := by
  unfold SocksProxy.targetRead
  cases key.data with
  | none => exact h.fault _
  | some sid =>
    refine h.withSession sid fun state => ?_
    split
    · exact h.updateRelayInterests _
    · cases a.recv.limit serverBufferSize with
      | data bytes =>
        have hgot := ((h.put sid { state with t2cBuffer := bytes, t2cOff := 0 }).observe
          [.act sid (.recvTarget bytes)]).updateRelayInterests sid
        refine hgot.withSession sid fun state => ?_
        split
        · exact hgot.clientWrite _ _
        · exact hgot
      | eof => exact (h.observe _).closeConnection _
      | error e' =>
        dsimp only
        split
        · exact h.setErrno _
        · exact (h.setErrno _).closeConnection _

theorem putManagement (h : SameButErrno e s t) (mid : Nat) (state : ManagementState) :
    SameButErrno e (s.putManagement mid state) (t.putManagement mid state) :=
  h.map (·.putManagement mid state) (fun _ => rfl) fun _ => rfl

theorem managementWrite (h : SameButErrno e s t) (key : SelectorKey Nat) (sends : List SendResult) :
    SameButErrno e (SocksProxy.managementWrite s key sends) (SocksProxy.managementWrite t key sends) := by
  unfold SocksProxy.managementWrite
  cases key.data with
  | none => exact h.fault _
  | some mid =>
    dsimp only
    rw [h.managements]
    cases t.managements mid with
    | none => exact h.fault _
    | some state =>
      dsimp only
      generalize sendLoop (state.writeBuffer.drop state.writeOff) sends = r
      obtain ⟨chunks, ending⟩ := r
      have hsent := (h.putManagement mid { state with writeOff := state.writeOff + chunks.flatten.length }).afterSend ending
      cases ending with
      | wouldBlock => exact hsent
      | failed => exact (hsent.unregister _).1
      | drained => exact (hsent.unregister _).1

theorem managementRead (h : SameButErrno e s t) (key : SelectorKey Nat) (a : Answers) :
    SameButErrno e (SocksProxy.managementRead s key a) (SocksProxy.managementRead t key a) := by
  unfold SocksProxy.managementRead
  cases key.data with
  | none => exact h.fault _
  | some mid =>
    dsimp only
    rw [h.managements]
    cases t.managements mid with
    | none => exact h.fault _
    | some state =>
      dsimp only
      cases a.recv.limit (managementBufferSize - state.readBuffer.length - 1) with
      | data bytes =>
        have hput := h.putManagement mid { state with readBuffer := state.readBuffer ++ bytes }
        dsimp only
        rw [hput.same (fun s => managementPrepareResponse s.managedUsers s.metrics (state.readBuffer ++ bytes)) fun _ => rfl]
        split
        · generalize managementPrepareResponse _ _ _ = r
          obtain ⟨users, response⟩ := r
          exact ((hput.map (fun s => { s with managedUsers := users }) (fun _ => rfl) fun _ => rfl).putManagement _ _).setInterest _ _
        · exact hput
      | eof => exact (h.unregister _).1
      | error e' =>
        dsimp only
        split
        · exact h.setErrno _
        · exact ((h.setErrno _).unregister _).1

theorem acceptConnection (h : SameButErrno e s t) (answers : List AcceptResult) :
    SameButErrno e (SocksProxy.acceptConnection s answers) (SocksProxy.acceptConnection t answers) := by
  induction answers generalizing s t with
  | nil => exact h.setErrno _
  | cons answer rest ih =>
    cases answer with
    | error e' => exact h.setErrno e'
    | accepted fd setNonblocking allocated =>
      unfold SocksProxy.acceptConnection
      rw [h.handOut]
      cases t.handOut (.ok fd) with
      | error e' => exact h.setErrno e'
      | ok clientFd =>
        have hopen := h.openFd clientFd
        cases setNonblocking with
        | error e' => exact ih ((hopen.setErrno e').close clientFd)
        | ok =>
          dsimp only
          split
          · exact ih (hopen.close clientFd)
          · rw [hopen.nextObject]
            have hput := (hopen.map (fun s => { s with nextObject := (t.openFd clientFd).nextObject + 1 }) (fun _ => rfl) fun _ => rfl).put
              (t.openFd clientFd).nextObject (ClientState.accepted clientFd)
            have hreg := hput.register clientFd .clientHandler opRead (some (t.openFd clientFd).nextObject)
            revert hreg
            generalize Server.register _ _ _ _ _ = p
            generalize Server.register _ _ _ _ _ = q
            intro hreg
            obtain ⟨s', status⟩ := p
            obtain ⟨t', status'⟩ := q
            obtain ⟨hs, rfl⟩ : SameButErrno e s' t' ∧ status = status' := hreg
            cases status with
            | success => exact ih (hs.map (·.connectionOpened _) (fun _ => rfl) fun _ => rfl)
            | _ => exact ih ((hs.free _).close _)

theorem acceptManagementConnection (h : SameButErrno e s t) (answers : List AcceptResult) :
    SameButErrno e (SocksProxy.acceptManagementConnection s answers) (SocksProxy.acceptManagementConnection t answers) := by
  induction answers generalizing s t with
  | nil => exact h.setErrno _
  | cons answer rest ih =>
    cases answer with
    | error e' => exact h.setErrno e'
    | accepted fd setNonblocking allocated =>
      unfold SocksProxy.acceptManagementConnection
      rw [h.handOut]
      cases t.handOut (.ok fd) with
      | error e' => exact h.setErrno e'
      | ok clientFd =>
        have hopen := h.openFd clientFd
        cases setNonblocking with
        | error e' => exact ih ((hopen.setErrno e').close clientFd)
        | ok =>
          dsimp only
          split
          · exact ih (hopen.close clientFd)
          · rw [hopen.nextObject]
            have hput := (hopen.map (fun s => { s with nextObject := (t.openFd clientFd).nextObject + 1 }) (fun _ => rfl) fun _ => rfl).putManagement
              (t.openFd clientFd).nextObject { readBuffer := [], writeBuffer := [], writeOff := 0 }
            have hreg := hput.register clientFd .managementClientHandler opRead (some (t.openFd clientFd).nextObject)
            revert hreg
            generalize Server.register _ _ _ _ _ = p
            generalize Server.register _ _ _ _ _ = q
            intro hreg
            obtain ⟨s', status⟩ := p
            obtain ⟨t', status'⟩ := q
            obtain ⟨hs, rfl⟩ : SameButErrno e s' t' ∧ status = status' := hreg
            cases status with
            | success => exact ih hs
            | _ =>
              dsimp only
              rw [hs.managements]
              exact ih ((hs.map (fun s => { s with
                managements := Function.update t'.managements (t.openFd clientFd).nextObject none }) (fun _ => rfl) fun _ => rfl).close _)

/-! ## Handlers with answers of their own -/

theorem startTargetResolution (h : SameButErrno e s t) (sid : Nat) (host : CString) (port : UInt16) (start : ResolverStart) :
    Paired e (SocksProxy.startTargetResolution s sid host port start) (SocksProxy.startTargetResolution t sid host port start) := by
  rcases h with rfl | ⟨rfl, hs⟩
  · exact ⟨refl _, rfl⟩
  · unfold SocksProxy.startTargetResolution
    rw [show (t.setErrno e).sessions sid = t.sessions sid from rfl]
    cases t.sessions sid with
    | none => exact ⟨.inr ⟨rfl, hs⟩, rfl⟩
    | some state =>
      cases start with
      | _ => exact ⟨.inr ⟨rfl, hs⟩, rfl⟩

/-- A socket that could not be registered is closed, and what has become of its connection does not matter. -/
theorem registerConnectingSocket_failed {t : Server} {sid : Nat} {fd : Int} {state : ClientState}
    (hs : 1024 ≤ t.selector.fdSize) (hst : t.sessions sid = some state)
    (hne : (t.register fd .targetHandler opWrite (some sid)).2 ≠ .success) (connect : ConnectStatus) :
    SocksProxy.registerConnectingSocket (t.setConnect fd connect) sid fd =
      ((t.put sid { state with lastConnectError := t.errno, targetFd := -1 }).close fd, false) := by
  have hsel : (t.selector.selectorRegister fd (some .targetHandler) opWrite (some sid) true).1 = t.selector :=
    (selectorRegister_room hs fd .targetHandler opWrite (some sid)).2 hne
  have hfailed : ∀ t' : Server, t'.selector = t.selector → t'.sessions = t.sessions → t'.errno = t.errno →
      SocksProxy.registerConnectingSocket t' sid fd =
        ((t'.put sid { state with lastConnectError := t.errno, targetFd := -1 }).close fd, false) := by
    intro t' hsel' hses' herr'
    have hkept : t'.register fd .targetHandler opWrite (some sid) =
        (t', (t.register fd .targetHandler opWrite (some sid)).2) := by
      unfold Server.register
      dsimp only
      rw [hsel', hsel, ← hsel']
    unfold SocksProxy.registerConnectingSocket
    rw [hkept]
    dsimp only
    rw [hses', hst, herr']
    exact if_pos hne
  unfold Server.setConnect
  cases hf : t.files fd with
  | none => exact hfailed t rfl rfl rfl
  | some file =>
    dsimp only
    refine (hfailed { t with files := Function.update t.files fd (some { file with connect }) } rfl rfl rfl).trans ?_
    dsimp only [Server.close, Server.put]
    rw [Function.update_self, hf]
    dsimp only
    rw [Function.update_idem]

/-- A socket that is registered, unless it could not be. -/
theorem registerConnectingSocket (h : SameButErrno e s t) (sid : Nat) (fd : Int)
    (hok : (t.register fd .targetHandler opWrite (some sid)).2 = .success) :
    Paired e (SocksProxy.registerConnectingSocket s sid fd) (SocksProxy.registerConnectingSocket t sid fd) := by
  obtain ⟨hreg, hstatus⟩ := h.register fd .targetHandler opWrite (some sid)
  unfold SocksProxy.registerConnectingSocket
  dsimp only
  rw [hstatus, hok, hreg.sessions]
  cases (t.register fd .targetHandler opWrite (some sid)).1.sessions sid with
  | none => exact ⟨hreg.fault _, rfl⟩
  | some state => exact ⟨hreg.put _ _, rfl⟩

/-- An attempt at a connection, with the same answers, or with a `connect` that fails with the error that was left. -/
theorem startTargetConnection (h : SameButErrno e s t) (sid : Nat) (addr : SockAddr) (attempt : Attempt) :
    ∃ attempt', Paired e (SocksProxy.startTargetConnection s sid addr attempt)
      (SocksProxy.startTargetConnection t sid addr attempt') := by
  obtain ⟨socket, setNonblocking, connect⟩ := attempt
  have h := h.observe [.act sid (.attempted addr)]
  unfold SocksProxy.startTargetConnection
  dsimp only
  generalize s.observe [.act sid (.attempted addr)] = s at h ⊢
  generalize t.observe [.act sid (.attempted addr)] = t at h ⊢
  rw [h.sessions]
  cases hst : t.sessions sid with
  | none => exact ⟨⟨socket, setNonblocking, connect⟩, h.fault _, rfl⟩
  | some state =>
    dsimp only
    cases hout : s.handOut socket with
    | error e' =>
      refine ⟨⟨socket, setNonblocking, connect⟩, ?_⟩
      rw [← h.handOut, hout]
      exact ⟨(h.put _ _).setErrno _, rfl⟩
    | ok fd =>
      have hopen := h.openFd fd
      cases setNonblocking with
      | error e' =>
        refine ⟨⟨socket, .error e', connect⟩, ?_⟩
        rw [← h.handOut, hout]
        exact ⟨((hopen.put _ _).setErrno _).close _, rfl⟩
      | ok =>
        have hput := hopen.put sid { state with targetFd := fd }
        cases connect with
        | error e' =>
          refine ⟨⟨socket, .ok, .error e'⟩, ?_⟩
          rw [← h.handOut, hout]
          dsimp only
          split
          · exact ⟨((hput.setErrno _).put _ _).close _, rfl⟩
          · have heq : ((s.openFd fd).put sid { state with targetFd := fd }).setErrno e' =
                ((t.openFd fd).put sid { state with targetFd := fd }).setErrno e' := by
              rcases hput with heq | ⟨heq, -⟩ <;> rw [heq]
              rfl
            rw [heq]
            exact ⟨refl _, rfl⟩
        | ok =>
          rcases hput with heq | ⟨heq, hs⟩
          · refine ⟨⟨socket, .ok, .ok⟩, ?_⟩
            rw [← h.handOut, hout]
            dsimp only
            rw [heq]
            exact ⟨refl _, rfl⟩
          · by_cases hreg : (((t.openFd fd).put sid { state with targetFd := fd }).register fd .targetHandler opWrite
                (some sid)).2 = .success
            · refine ⟨⟨socket, .ok, .ok⟩, ?_⟩
              rw [← h.handOut, hout]
              refine ((SameButErrno.setConnect (.inr ⟨heq, hs⟩) _ _)).registerConnectingSocket sid fd ?_
              unfold Server.setConnect
              cases ((t.openFd fd).put sid { state with targetFd := fd }).files fd <;> exact hreg
            · refine ⟨⟨socket, .ok, .error e⟩, ?_⟩
              have hfailed := registerConnectingSocket_failed
                (t := ((t.openFd fd).put sid { state with targetFd := fd }).setErrno e) hs (Function.update_self ..) hreg
              rw [← h.handOut, hout]
              dsimp only
              rw [heq, hfailed]
              split
              · exact ⟨refl _, rfl⟩
              · rw [hfailed]
                exact ⟨refl _, rfl⟩

theorem startNextLoop (h : SameButErrno e s t) (sid : Nat) (addresses : List AddrInfo) (attempts : List Attempt) :
    ∃ attempts', Paired e (SocksProxy.startNextLoop sid addresses attempts s)
      (SocksProxy.startNextLoop sid addresses attempts' t) := by
  induction addresses generalizing s t attempts with
  | nil => exact ⟨[], h, rfl⟩
  | cons current next ih =>
    unfold SocksProxy.startNextLoop
    rw [h.sessions]
    cases t.sessions sid with
    | none => exact ⟨[], h.fault _, rfl⟩
    | some state =>
      have hput := h.put sid { state with targetAddressCurrent := next }
      dsimp only
      by_cases hf : current.family ≠ .inet ∧ current.family ≠ .inet6
      · obtain ⟨attempts', hp⟩ := ih hput attempts
        refine ⟨attempts', ?_⟩
        rw [if_pos hf, if_pos hf]
        exact hp
      · obtain ⟨attempt', hs, hr⟩ := hput.startTargetConnection sid current.addr (attempts.headD .exhausted)
        generalize SocksProxy.startTargetConnection (s.put _ _) _ _ _ = p at hs hr ⊢
        obtain ⟨s1, r⟩ := p
        generalize hq : SocksProxy.startTargetConnection (t.put _ _) _ _ _ = q at hs hr
        obtain ⟨t1, r'⟩ := q
        obtain rfl : r = r' := hr
        obtain ⟨attempts', hp⟩ := ih hs attempts.tail
        refine ⟨attempt' :: attempts', ?_⟩
        rw [if_neg hf, if_neg hf, List.headD_cons, hq, List.tail_cons]
        cases r with
        | true => exact ⟨hs, rfl⟩
        | false => exact hp

theorem startNextTargetConnection (h : SameButErrno e s t) (sid : Nat) (attempts : List Attempt) :
    ∃ attempts', Paired e (SocksProxy.startNextTargetConnection s sid attempts)
      (SocksProxy.startNextTargetConnection t sid attempts') := by
  unfold SocksProxy.startNextTargetConnection
  rw [h.sessions]
  cases t.sessions sid with
  | none => exact ⟨[], h.fault _, rfl⟩
  | some state => exact h.startNextLoop sid state.targetAddressCurrent attempts

theorem connectNext (h : SameButErrno e s t) (sid : Nat) (attempts : List Attempt) :
    ∃ attempts', SameButErrno e (SocksProxy.connectNext s sid attempts) (SocksProxy.connectNext t sid attempts') := by
  obtain ⟨attempts', hs, hr⟩ := h.startNextTargetConnection sid attempts
  refine ⟨attempts', ?_⟩
  unfold SocksProxy.connectNext
  generalize SocksProxy.startNextTargetConnection s _ _ = p at hs hr ⊢
  generalize SocksProxy.startNextTargetConnection t _ _ = q at hs hr ⊢
  obtain ⟨s1, r⟩ := p
  obtain ⟨t1, r'⟩ := q
  obtain rfl : r = r' := hr
  cases r with
  | true => exact hs
  | false => exact hs.answerConnect sid false

theorem connectResolved (h : SameButErrno e s t) (fd : Int) (sid : Nat) (attempts : List Attempt) :
    ∃ attempts', SameButErrno e (SocksProxy.connectResolved s fd sid attempts) (SocksProxy.connectResolved t fd sid attempts') := by
  obtain ⟨attempts', hs, hr⟩ := h.startNextTargetConnection sid attempts
  refine ⟨attempts', ?_⟩
  unfold SocksProxy.connectResolved
  generalize SocksProxy.startNextTargetConnection s _ _ = p at hs hr ⊢
  generalize SocksProxy.startNextTargetConnection t _ _ = q at hs hr ⊢
  obtain ⟨s1, r⟩ := p
  obtain ⟨t1, r'⟩ := q
  obtain rfl : r = r' := hr
  cases r with
  | true => exact hs.setInterest fd opNoop
  | false => exact hs.withSession sid fun _ => hs.failRequest _ _ _

theorem beginConnection (h : SameButErrno e s t) (fd : Int) (sid : Nat) (request : Socks5Request) (attempt : Attempt) :
    ∃ attempt', SameButErrno e (SocksProxy.beginConnection s fd sid request attempt)
      (SocksProxy.beginConnection t fd sid request attempt') := by
  refine h.withSession_of sid attempt fun state => ?_
  obtain ⟨attempt', hs, hr⟩ := (h.put sid { state with targetAddr := request.addr }).startTargetConnection sid request.addr attempt
  refine ⟨attempt', ?_⟩
  dsimp only
  generalize SocksProxy.startTargetConnection (s.put _ _) _ _ _ = p at hs hr ⊢
  generalize SocksProxy.startTargetConnection (t.put _ _) _ _ _ = q at hs hr ⊢
  obtain ⟨s1, r⟩ := p
  obtain ⟨t1, r'⟩ := q
  obtain rfl : r = r' := hr
  cases r with
  | true => exact hs.setInterest fd opNoop
  | false => exact hs.withSession sid fun _ => hs.failRequest _ _ _

theorem beginResolution (h : SameButErrno e s t) (fd : Int) (sid : Nat) (request : Socks5Request) (start : ResolverStart) :
    SameButErrno e (SocksProxy.beginResolution s fd sid request start) (SocksProxy.beginResolution t fd sid request start) := by
  obtain ⟨hs, hr⟩ := (h.detachResolver sid).startTargetResolution sid (CString.ofBuffer request.host) request.port start
  unfold SocksProxy.beginResolution
  dsimp only
  generalize SocksProxy.startTargetResolution (targetConnectionDetachResolver s sid) _ _ _ _ = p at hs hr ⊢
  generalize SocksProxy.startTargetResolution (targetConnectionDetachResolver t sid) _ _ _ _ = q at hs hr ⊢
  obtain ⟨s1, r⟩ := p
  obtain ⟨t1, r'⟩ := q
  obtain rfl : r = r' := hr
  cases r with
  | true => exact hs.withSession sid fun _ => (hs.put _ _).setInterest _ _
  | false => exact hs.failRequest _ _ _

theorem targetConnectionBegin (h : SameButErrno e s t) (key : SelectorKey Nat) (sid : Nat) (request : Socks5Request)
    (a : Answers) : ∃ attempts, SameButErrno e (SocksProxy.targetConnectionBegin s key sid request a)
      (SocksProxy.targetConnectionBegin t key sid request { a with attempts }) := by
  have hfree := (h.observe [.act sid (.begun request)]).freeAddresses sid
  refine hfree.withSession_of sid a.attempts fun state => ?_
  have hput := hfree.put sid (rememberRequestDestination { state with lastConnectError := 0 } request)
  dsimp only
  split
  · exact ⟨a.attempts, hput.beginResolution _ _ _ _⟩
  · obtain ⟨attempt', hb⟩ := hput.beginConnection key.fd sid request (a.attempts.headD .exhausted)
    exact ⟨[attempt'], hb⟩

theorem clientReadRequest (h : SameButErrno e s t) (key : SelectorKey Nat) (sid : Nat) (state : ClientState) (a : Answers) :
    ∃ attempts, SameButErrno e (SocksProxy.clientReadRequest s key sid state a)
      (SocksProxy.clientReadRequest t key sid state { a with attempts }) := by
  unfold SocksProxy.clientReadRequest
  split
  · exact ⟨[], h⟩
  · cases socks5RequestReplyFor state.readBuffer with
    | none => exact ⟨[], h.fault _⟩
    | some requestReply =>
      dsimp only
      split
      · refine ⟨[], ?_⟩
        cases socks5RequestIsIncomplete state.readBuffer with
        | none => exact h.fault _
        | some incomplete =>
          cases incomplete with
          | true => exact h
          | false => exact h.rejectRequest _ _ _ _
      · cases socks5ParseConnectRequest state.readBuffer with
        | none => exact ⟨[], h.fault _⟩
        | some parsed =>
          cases parsed with
          | none => exact ⟨[], h.rejectRequest _ _ _ _⟩
          | some request =>
            obtain ⟨attempts, hb⟩ := h.targetConnectionBegin key sid request a
            exact ⟨attempts, hb.withSession sid fun _ => hb.put _ _⟩

theorem targetWriteConnecting (h : SameButErrno e s t) (key : SelectorKey Nat) (sid : Nat) (state : ClientState) (a : Answers) :
    ∃ attempts, SameButErrno e (SocksProxy.targetWriteConnecting s key sid state a)
      (SocksProxy.targetWriteConnecting t key sid state { a with attempts }) := by
  have hasked : targetConnectionSucceeded s key.fd a.getsockopt = targetConnectionSucceeded t key.fd a.getsockopt :=
    h.same (targetConnectionSucceeded · key.fd a.getsockopt) fun _ => rfl
  unfold SocksProxy.targetWriteConnecting
  rw [hasked]
  dsimp only
  cases a.getsockopt with
  | ok =>
    split
    · exact ⟨[], (h.setInterest _ _).answerConnect _ _⟩
    · exact (((h.put _ _).unregister _).1).connectNext sid a.attempts
  | error e' =>
    have herr := h.setErrno e'
    split
    · exact ⟨[], (herr.setInterest _ _).answerConnect _ _⟩
    · exact (((herr.put _ _).unregister _).1).connectNext sid a.attempts

theorem targetWrite (h : SameButErrno e s t) (key : SelectorKey Nat) (a : Answers) :
    ∃ attempts, SameButErrno e (SocksProxy.targetWrite s key a) (SocksProxy.targetWrite t key { a with attempts }) := by
  unfold SocksProxy.targetWrite
  cases key.data with
  | none => exact ⟨[], h.fault _⟩
  | some sid =>
    refine h.withSession_of sid [] fun state => ?_
    dsimp only
    split
    · exact h.targetWriteConnecting key sid state a
    · refine ⟨[], ?_⟩
      generalize sendLoop (state.c2tBuffer.drop state.c2tOff) a.sends = r
      obtain ⟨chunks, ending⟩ := r
      have hcounted := (((h.put sid { state with c2tOff := state.c2tOff + chunks.flatten.length }).observe
        (chunks.map (.act sid <| .sentTarget ·))).map (fun s => { s with
          metrics := chunks.foldl (fun m (chunk : List Byte) => m.addClientToTargetBytes chunk.length) s.metrics })
        (fun _ => rfl) fun _ => rfl).afterSend ending
      cases ending with
      | wouldBlock => exact hcounted
      | failed => exact hcounted.closeConnection _
      | drained => exact (hcounted.put _ _).updateRelayInterests _

theorem clientReadRelay (h : SameButErrno e s t) (sid : Nat) (state : ClientState) (a : Answers) :
    ∃ attempts, SameButErrno e (SocksProxy.clientReadRelay s sid state a)
      (SocksProxy.clientReadRelay t sid state { a with attempts }) := by
  unfold SocksProxy.clientReadRelay
  split
  · exact ⟨[], h.updateRelayInterests _⟩
  · dsimp only
    cases a.recv.limit serverBufferSize with
    | data bytes =>
      have hgot := ((h.put sid { state with c2tBuffer := bytes, c2tOff := 0 }).observe
        [.act sid (.recvClient bytes)]).updateRelayInterests sid
      refine hgot.withSession_of sid [] fun state => ?_
      split
      · exact hgot.targetWrite _ a
      · exact ⟨[], hgot⟩
    | eof => exact ⟨[], (h.observe _).closeConnection _⟩
    | error e' =>
      refine ⟨[], ?_⟩
      dsimp only
      split
      · exact h.setErrno _
      · exact (h.setErrno _).closeConnection _

/-- The `handle_read` of a client that relays or awaits a message. -/
theorem clientRead (h : SameButErrno e s t) (key : SelectorKey Nat) (a : Answers)
    (hawaits : ∀ sid state, key.data = some sid → t.sessions sid = some state →
      state.stage = .relay ∨ state.stage = .greeting ∨ state.stage = .auth ∨ state.stage = .request) :
    ∃ attempts, SameButErrno e (SocksProxy.clientRead s key a) (SocksProxy.clientRead t key { a with attempts }) := by
  unfold SocksProxy.clientRead
  cases hk : key.data with
  | none => exact ⟨[], h.fault _⟩
  | some sid =>
    dsimp only [Server.withSession]
    rw [h.sessions]
    cases hst : t.sessions sid with
    | none => exact ⟨[], h.fault _⟩
    | some state =>
      dsimp only
      have hstage := hawaits sid state hk hst
      by_cases hrelay : state.stage = .relay
      · rw [if_pos hrelay]
        obtain ⟨attempts, hr⟩ := h.clientReadRelay sid state a
        exact ⟨attempts, by rw [if_pos hrelay]; exact hr⟩
      · rw [if_neg hrelay]
        simp only [if_neg hrelay]
        cases a.recv.limit (serverBufferSize - state.readLen) with
        | data bytes =>
          have hgot := (h.put sid { state with readBuffer := state.readBuffer ++ bytes }).observe [.act sid (.recvHandshake bytes)]
          dsimp only
          generalize ({ state with readBuffer := state.readBuffer ++ bytes } : ClientState) = state' at hgot ⊢
          rcases hstage.resolve_left hrelay with hstage | hstage | hstage <;> simp only [hstage]
          · exact ⟨[], hgot.clientReadGreeting _ _ _⟩
          · exact ⟨[], hgot.clientReadAuth _ _ _⟩
          · exact hgot.clientReadRequest _ _ _ a
        | eof => exact ⟨[], (h.observe _).closeConnection _⟩
        | error e' =>
          refine ⟨[], ?_⟩
          dsimp only
          split
          · exact h.setErrno _
          · exact (h.setErrno _).closeConnection _

/-! ## Notifications -/

theorem targetConnectionOnResolve (h : SameButErrno e s t) (key : SelectorKey Nat) (a : Answers) :
    ∃ attempts, SameButErrno e (SocksProxy.targetConnectionOnResolve s key a)
      (SocksProxy.targetConnectionOnResolve t key { a with attempts }) := by
  unfold SocksProxy.targetConnectionOnResolve
  cases key.data with
  | none => exact ⟨[], h⟩
  | some sid =>
    refine h.withSession_of sid [] fun state => ?_
    split
    · exact ⟨[], h⟩
    · cases state.resolverJob with
      | none => exact ⟨[], h⟩
      | some job =>
        dsimp only
        cases hj : s.jobs job with
        | none =>
          rw [← h.jobs, hj]
          exact ⟨[], h.fault _⟩
        | some record =>
          rw [← h.jobs, hj]
          dsimp only
          split
          · exact ⟨[], h⟩
          · have hfreed := ((h.map (fun s => { s with jobs := Function.update s.jobs job none }) (fun _ => rfl) fun _ => rfl).put sid
              { state with resolverJob := none }).observe [.act sid (.resolved record.status record.result)]
            rw [← h.jobs] at hfreed
            split
            · exact ⟨[], hfreed.failRequest _ _ _⟩
            · exact (hfreed.put _ _).connectResolved key.fd sid a.attempts

theorem handleBlock (h : SameButErrno e s t) (fd : Int) (a : Answers) :
    ∃ a', SameButErrno e (SocksProxy.handleBlock s fd a) (SocksProxy.handleBlock t fd a') := by
  have htouch := h.mapRoom (fun s => { s with selector := s.selector.touch fd.toNat }) (fun _ => rfl)
    fun s hs => hs.trans (FdSelector.touch_fdSize _ _).ge
  unfold SocksProxy.handleBlock
  dsimp only
  rw [h.selector] at htouch ⊢
  split
  · split
    · obtain ⟨attempts, hr⟩ := htouch.targetConnectionOnResolve _ a
      exact ⟨_, hr⟩
    · exact ⟨a, htouch.fault _⟩
  · exact ⟨a, htouch⟩

theorem handleBlockLoop (h : SameButErrno e s t) (fds : List Int) (as : List Answers) :
    ∃ as', SameButErrno e (SocksProxy.handleBlockLoop fds as s) (SocksProxy.handleBlockLoop fds as' t) := by
  induction fds generalizing s t as with
  | nil => exact ⟨[], h⟩
  | cons fd fds ih =>
    obtain ⟨a', hb⟩ := h.handleBlock fd (as.headD {})
    obtain ⟨as', hl⟩ := ih hb as.tail
    exact ⟨a' :: as', hl⟩

theorem handleBlockNotifications (h : SameButErrno e s t) (as : List Answers) :
    ∃ as', SameButErrno e (SocksProxy.handleBlockNotifications s as) (SocksProxy.handleBlockNotifications t as') := by
  obtain ⟨as', hl⟩ := h.handleBlockLoop t.selector.resolutionJobs as
  refine ⟨as', ?_⟩
  unfold SocksProxy.handleBlockNotifications
  rw [h.selector]
  exact hl.mapRoom (fun s => { s with selector := { s.selector with resolutionJobs := [] } }) (fun _ => rfl) fun _ => id

/-! ## Steps -/

theorem closeListeners (h : SameButErrno e s t) : SameButErrno e (SocksProxy.closeListeners s) (SocksProxy.closeListeners t) := by
  have hserver := (h.unregister t.serverFd).1
  have hboth := (hserver.unregister (t.unregister t.serverFd).1.managementFd).1
  unfold SocksProxy.closeListeners
  dsimp only
  rw [h.same Server.serverFd fun _ => rfl, hserver.same Server.managementFd fun _ => rfl, hboth.same Server.serverFd fun _ => rfl,
    hboth.same Server.managementFd fun _ => rfl]
  exact (hboth.close _).close _

/-- A branch on something of both. -/
theorem branch (h : SameButErrno e s t) (c : Server → Bool) (hc : ∀ s, c (s.setErrno e) = c s) {s1 s2 t1 t2 : Server}
    (h1 : SameButErrno e s1 t1) (h2 : SameButErrno e s2 t2) : SameButErrno e (if c s then s1 else s2) (if c t then t1 else t2) := by
  rw [h.same c hc]
  split
  · exact h1
  · exact h2

theorem shutdownCheck (h : SameButErrno e s t) : SameButErrno e (SocksProxy.shutdownCheck s) (SocksProxy.shutdownCheck t) := by
  have hclosed : SameButErrno e
      (if s.shutdownRequested && !s.stoppedAccepting then SocksProxy.closeListeners { s with stoppedAccepting := true } else s)
      (if t.shutdownRequested && !t.stoppedAccepting then SocksProxy.closeListeners { t with stoppedAccepting := true } else t) :=
    h.branch (fun s => s.shutdownRequested && !s.stoppedAccepting) (fun _ => rfl)
      (h.map (fun s => { s with stoppedAccepting := true }) (fun _ => rfl) fun _ => rfl).closeListeners h
  exact hclosed.branch (fun s => s.stoppedAccepting && s.activeClientConnections == 0) (fun _ => rfl)
    (hclosed.map (fun s => { s with phase := .exited }) (fun _ => rfl) fun _ => rfl) hclosed

theorem loopTest (h : SameButErrno e s t) : SameButErrno e (SocksProxy.loopTest s) (SocksProxy.loopTest t) :=
  h.branch Server.forceShutdown (fun _ => rfl) (h.map (fun s => { s with phase := .exited }) (fun _ => rfl) fun _ => rfl) h

theorem teardown (h : SameButErrno e s t) : SameButErrno e (SocksProxy.teardown s) (SocksProxy.teardown t) := by
  have hslots : ∀ (turns : List Nat) {s t : Server}, SameButErrno e s t →
      SameButErrno e (turns.foldl destroySlot s) (turns.foldl destroySlot t) := by
    intro turns
    induction turns with
    | nil => exact id
    | cons i turns ih =>
      intro s t h
      refine ih ?_
      unfold destroySlot
      rw [h.selector]
      split
      · exact (h.unregister _).1
      · exact h
  have hlisteners : SameButErrno e (if !s.stoppedAccepting then SocksProxy.closeListeners s else s)
      (if !t.stoppedAccepting then SocksProxy.closeListeners t else t) :=
    h.branch (fun s => !s.stoppedAccepting) (fun _ => rfl) h.closeListeners h
  unfold SocksProxy.teardown destroyUntil
  rw [h.selector]
  exact (hslots _ hlisteners).mapRoom
    (fun s => { s with phase := .destroyed, selector := { s.selector with resolutionJobs := [] } }) (fun _ => rfl) fun _ => id

/-- The steps of the others are the same. -/
theorem outside (h : SameButErrno e s t) {ev : Event} (ho : ev.outside = true) :
    SameButErrno e (SocksProxy.step s ev) (SocksProxy.step t ev) := by
  rcases h with rfl | ⟨rfl, hs⟩
  · exact refl _
  · refine .inr ?_
    cases ev with
    | publish job status result =>
      by_cases hp : t.threads job = .resolving
      · cases hj : t.jobs job <;> simp only [SocksProxy.step, publishResult, Server.setErrno, hp, hj, if_true] <;>
          exact ⟨by trivial, hs⟩
      · simp only [SocksProxy.step, publishResult, Server.setErrno, hp, if_false]
        exact ⟨by trivial, hs⟩
    | notify job allocated =>
      cases hp : t.threads job with
      | notifying fd =>
        cases allocated with
        | false =>
          simp only [SocksProxy.step, notifyClient, Server.setErrno, hp]
          exact ⟨by trivial, hs⟩
        | true =>
          by_cases hd : t.phase = .destroyed <;>
            simp only [SocksProxy.step, notifyClient, Server.setErrno, hp, hd, Bool.not_true, Bool.false_eq_true, if_false,
              if_true] <;> exact ⟨by trivial, hs⟩
      | _ =>
        simp only [SocksProxy.step, notifyClient, Server.setErrno, hp]
        exact ⟨by trivial, hs⟩
    | release job =>
      by_cases hp : t.threads job = .releasing
      · cases hj : t.jobs job <;> simp only [SocksProxy.step, releaseJob, Server.setErrno, hp, hj, if_true] <;>
          exact ⟨by trivial, hs⟩
      · simp only [SocksProxy.step, releaseJob, Server.setErrno, hp, if_false]
        exact ⟨by trivial, hs⟩
    | connectDone fd error =>
      cases hf : t.files fd with
      | none =>
        simp only [SocksProxy.step, connectDone, Server.setErrno, hf]
        exact ⟨by trivial, hs⟩
      | some file =>
        by_cases hp : file.connect = .pending <;>
          simp only [SocksProxy.step, connectDone, Server.setConnect, Server.setErrno, hf, hp, if_true, if_false] <;>
          exact ⟨by trivial, hs⟩
    | signal =>
      cases hr : t.shutdownRequested <;>
        simp only [SocksProxy.step, sigtermHandler, Server.setErrno, hr, if_true, Bool.false_eq_true, if_false] <;>
        exact ⟨by trivial, hs⟩
    | _ => cases ho

/-- The read handler of a slot. -/
theorem handleRead (h : SameButErrno e s t) (hinv : Inv t) {fd : Int} {item : Item FdHandler Nat}
    (hi : t.selector.slot fd = some item) (hr : item.interest.read = true) (a : Answers) :
    ∃ a', SameButErrno e (SocksProxy.handleRead a item.handler { fd := item.fd, data := item.data } s)
      (SocksProxy.handleRead a' item.handler { fd := item.fd, data := item.data } t) := by
  cases hh : item.handler with
  | none => exact ⟨a, h.fault _⟩
  | some handler =>
    cases handler with
    | acceptHandler => exact ⟨a, h.acceptConnection a.accepts⟩
    | managementAcceptHandler => exact ⟨a, h.acceptManagementConnection a.accepts⟩
    | managementClientHandler => exact ⟨a, h.managementRead _ a⟩
    | targetHandler => exact ⟨a, h.targetRead _ a⟩
    | clientHandler =>
      obtain ⟨attempts, hc⟩ := h.clientRead { fd := item.fd, data := item.data } a fun sid state hd hst => by
        obtain ⟨sid', v, hl, -, hd', hci⟩ := hinv.own.clientSlot hi hh
        obtain rfl : sid' = sid := Option.some.inj (hd'.symm.trans hd)
        obtain rfl : v.state = state := Option.some.inj ((Server.sessions_of_life hl).1.symm.trans hst)
        have ready := hinv.ready_live hl
        rcases ready.reading hci hr with ⟨hs, -⟩ | ⟨-, hst⟩
        · exact .inl (ready.relaying hs).1
        · exact .inr hst
      exact ⟨_, hc⟩

/-- The write handler of a slot. -/
theorem handleWrite (h : SameButErrno e s t) (handler : Option FdHandler) (key : SelectorKey Nat) (a : Answers) :
    ∃ a', SameButErrno e (SocksProxy.handleWrite a handler key s) (SocksProxy.handleWrite a' handler key t) := by
  cases handler with
  | none => exact ⟨a, h.fault _⟩
  | some handler =>
    cases handler with
    | clientHandler => exact ⟨a, h.clientWrite key a.sends⟩
    | targetHandler =>
      obtain ⟨attempts, hw⟩ := h.targetWrite key a
      exact ⟨_, hw⟩
    | managementClientHandler => exact ⟨a, h.managementWrite key a.sends⟩
    | _ => exact ⟨a, h.fault _⟩

/-- Every step is matched: that of somebody else by itself, and that of the main thread by one with answers of its own. -/
theorem step (h : SameButErrno e s t) (hinv : Inv t) (ev : Event) :
    ∃ ev', SameButErrno e (SocksProxy.step s ev) (SocksProxy.step t ev') ∧ ev'.outside = ev.outside ∧
      (ev.outside = true → ev' = ev) := by
  cases ho : ev.outside with
  | true => exact ⟨ev, h.outside ho, ho, fun _ => rfl⟩
  | false =>
    have hmain : ∀ ev', SameButErrno e (SocksProxy.step s ev) (SocksProxy.step t ev') → ev'.outside = false →
        ∃ ev', SameButErrno e (SocksProxy.step s ev) (SocksProxy.step t ev') ∧ ev'.outside = false ∧
          (false = true → ev' = ev) := fun ev' hs ho' => ⟨ev', hs, ho', fun hf => by cases hf⟩
    cases ev with
    | read fd a =>
      cases hi : t.selector.slot fd with
      | none => exact hmain (.read fd a) (by simp only [SocksProxy.step, h.selector, hi]; exact h) rfl
      | some item =>
        by_cases hc : t.phase = .running ∧ item.interest.read = true
        · obtain ⟨a', hr⟩ := h.handleRead hinv hi hc.2 a
          refine hmain (.read fd a') ?_ rfl
          simp only [SocksProxy.step, h.selector, h.phase, hi]
          rw [if_pos hc, if_pos hc]
          exact hr
        · refine hmain (.read fd a) ?_ rfl
          simp only [SocksProxy.step, h.selector, h.phase, hi]
          rw [if_neg hc, if_neg hc]
          exact h
    | write fd a =>
      cases hi : t.selector.slot fd with
      | none => exact hmain (.write fd a) (by simp only [SocksProxy.step, h.selector, hi]; exact h) rfl
      | some item =>
        by_cases hc : t.phase = .running ∧ item.interest.write = true
        · obtain ⟨a', hr⟩ := h.handleWrite item.handler { fd := item.fd, data := item.data } a
          refine hmain (.write fd a') ?_ rfl
          simp only [SocksProxy.step, h.selector, h.phase, hi]
          rw [if_pos hc, if_pos hc]
          exact hr
        · refine hmain (.write fd a) ?_ rfl
          simp only [SocksProxy.step, h.selector, h.phase, hi]
          rw [if_neg hc, if_neg hc]
          exact h
    | notifications as =>
      obtain ⟨as', hn⟩ := h.handleBlockNotifications as
      refine hmain (.notifications as') ?_ rfl
      simp only [SocksProxy.step, h.phase]
      split
      · exact hn
      · exact h
    | shutdownCheck =>
      refine hmain .shutdownCheck ?_ rfl
      simp only [SocksProxy.step, h.phase]
      split
      · exact h.shutdownCheck
      · exact h
    | loopTest =>
      refine hmain .loopTest ?_ rfl
      simp only [SocksProxy.step, h.phase]
      split
      · exact h.loopTest
      · exact h
    | teardown =>
      refine hmain .teardown ?_ rfl
      simp only [SocksProxy.step, h.phase]
      split
      · exact h.teardown
      · exact h
    | _ => cases ho

end SameButErrno

end SocksProxy
