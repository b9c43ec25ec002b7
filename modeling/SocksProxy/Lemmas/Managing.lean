import SocksProxy.Invariant

/-!
# Management connections

What the handlers of a management connection do to the process: nothing to any session. They may change the users table.
-/

namespace SocksProxy

/-- What no handler of a management connection ever changes. -/
structure Quiet where
  sessions : Nat → Option ClientState
  jobs : Nat → Option ResolverJob
  threads : Nat → ThreadPhase
  queue : List Int
  fdSize : Nat
  serverFd : Int
  managementFd : Int
  shutdownRequested : Bool
  forceShutdown : Bool
  phase : RunPhase
  stoppedAccepting : Bool
  faults : List Fault
  accounts : Accounts

/-- The part of a server that no handler of a management connection changes. -/
def Server.quiet (s : Server) : Quiet where
  sessions := s.sessions
  jobs := s.jobs
  threads := s.threads
  queue := s.selector.resolutionJobs
  fdSize := s.selector.fdSize
  serverFd := s.serverFd
  managementFd := s.managementFd
  shutdownRequested := s.shutdownRequested
  forceShutdown := s.forceShutdown
  phase := s.phase
  stoppedAccepting := s.stoppedAccepting
  faults := s.faults
  accounts := s.accounts

/-- The quiet part decides these fields. -/
theorem Server.quiet_eq {s s' : Server} (h : s'.quiet = s.quiet) :
    s'.jobs = s.jobs ∧ s'.threads = s.threads ∧ s'.selector.resolutionJobs = s.selector.resolutionJobs ∧
    s'.serverFd = s.serverFd ∧ s'.managementFd = s.managementFd ∧ s'.phase = s.phase ∧
    s'.stoppedAccepting = s.stoppedAccepting ∧ s'.faults = s.faults :=
  ⟨congrArg Quiet.jobs h, congrArg Quiet.threads h, congrArg Quiet.queue h, congrArg Quiet.serverFd h,
    congrArg Quiet.managementFd h, congrArg Quiet.phase h, congrArg Quiet.stoppedAccepting h, congrArg Quiet.faults h⟩

/-- From one server to another, only what belongs to the management connection `mid`, at descriptor `fd0`, has changed. -/
structure Managed (mid : Nat) (fd0 : Int) (s s' : Server) : Prop where
  quiet : s'.quiet = s.quiet
  others : ∀ fd, fd ≠ fd0 → s'.selector.slot fd = s.selector.slot fd ∧ s'.files fd = s.files fd
  before : ∀ item, s.selector.slot fd0 = some item → item.handler = some .managementClientHandler ∧ item.data = some mid
  after : ∀ item, s'.selector.slot fd0 = some item →
    item.fd = fd0 ∧ item.handler = some .managementClientHandler ∧ item.data = some mid ∧ s'.managements mid ≠ none
  opened : (s'.files fd0).isSome = (s'.selector.slot fd0).isSome
  selector : s.selector.Consistent → s'.selector.Consistent
  unique : ∀ fd, s.Registered fd .managementClientHandler (some mid) → fd = fd0
  managements : ∀ mid', mid' ≠ mid → s'.managements mid' = s.managements mid'
  born : s'.managements mid ≠ none → mid < s'.nextObject
  nextObject : s.nextObject ≤ s'.nextObject
  errno : s.errno ≠ 0 → s'.errno ≠ 0
  trace : ∃ obs, s'.trace = s.trace ++ obs ∧ (∀ sid, Obs.acts sid obs = []) ∧ ∀ c, obs.foldl Accounts.countObs c = c
  ledger : Ledger s.files s.nextFile s.trace → Ledger s'.files s'.nextFile s'.trace

namespace Managed

variable {env : Nat → Env} {mid : Nat} {fd0 : Int} {s s' : Server}

/-- One change after another. -/
theorem trans {s'' : Server} (h : Managed mid fd0 s s') (h' : Managed mid fd0 s' s'') : Managed mid fd0 s s'' := by
  obtain ⟨obs, ht, ha, hc⟩ := h.trace
  obtain ⟨obs', ht', ha', hc'⟩ := h'.trace
  exact {
    quiet := h'.quiet.trans h.quiet
    others := fun fd hne => ⟨(h'.others fd hne).1.trans (h.others fd hne).1, (h'.others fd hne).2.trans (h.others fd hne).2⟩
    before := h.before
    after := h'.after
    opened := h'.opened
    selector := fun hs => h'.selector (h.selector hs)
    unique := h.unique
    managements := fun mid' hne => (h'.managements mid' hne).trans (h.managements mid' hne)
    born := h'.born
    nextObject := Nat.le_trans h.nextObject h'.nextObject
    errno := fun he => h'.errno (h.errno he)
    trace := ⟨obs ++ obs', by rw [ht', ht, List.append_assoc], fun sid => by rw [Obs.acts_append, ha, ha', List.append_nil],
      fun c => by rw [List.foldl_append, hc, hc']⟩
    ledger := fun hl => h'.ledger (h.ledger hl) }

/-- Nothing of any session changed. -/
theorem aside (h : Managed mid fd0 s s') : Aside s s' := by
  obtain ⟨obs, ht, ha, hc⟩ := h.trace
  refine ⟨congrArg Quiet.sessions h.quiet, fun sid fd item ho hi => ?_, h.nextObject, h.errno, fun own own' => ?_, obs, ht, ha,
    ?_⟩
  · have hne : fd ≠ fd0 := by
      rintro rfl
      obtain ⟨hh, _⟩ := h.before item hi
      rcases ho with ⟨h' | h', _⟩ <;> rw [hh] at h' <;> cases h'
    exact ⟨(h.others fd hne).1.trans hi, (h.others fd hne).2⟩
  · -- what is the connection's stays the connection's
    refine .of_owner own own' ht (o := (some .managementClientHandler, some mid)) (fun fd item hi hno => ?_)
      (fun fd item hi hno => ?_)
    · have hne : fd ≠ fd0 := by
        rintro rfl
        obtain ⟨hh, hd⟩ := h.before item hi
        exact hno (by simp [Item.owner, hh, hd])
      exact ⟨(h.others fd hne).1.trans hi, (h.others fd hne).2⟩
    · have hne : fd ≠ fd0 := by
        rintro rfl
        obtain ⟨_, hh, hd, _⟩ := h.after item hi
        exact hno (by simp [Item.owner, hh, hd])
      exact (h.others fd hne).1.symm.trans hi
  · rw [hc]
    exact congrArg Quiet.accounts h.quiet

/-- Ownership is kept. -/
theorem own (own : Own s) (h : Managed mid fd0 s s') : Own s' := by
  have hs : s'.sessions = s.sessions := congrArg Quiet.sessions h.quiet
  obtain ⟨_, _, _, hl, hl', _, _, hf⟩ := Server.quiet_eq h.quiet
  have hslot : ∀ fd item, s'.selector.slot fd = some item → fd = fd0 ∨ fd ≠ fd0 ∧ s.selector.slot fd = some item := by
    intro fd item hi
    by_cases he : fd = fd0
    · exact .inl he
    · exact .inr ⟨he, (h.others fd he).1.symm.trans hi⟩
  have hkeep : ∀ fd sid handler, handler = FdHandler.clientHandler ∨ handler = FdHandler.targetHandler →
      s.Registered fd handler (some sid) → s'.Registered fd handler (some sid) := by
    rintro fd sid handler hh ⟨item, hi, hh', hd⟩
    have hne : fd ≠ fd0 := by
      rintro rfl
      obtain ⟨hm, _⟩ := h.before item hi
      rw [hm] at hh'
      rcases hh with rfl | rfl <;> cases hh'
    exact ⟨item, (h.others fd hne).1.trans hi, hh', hd⟩
  refine {
    selector := h.selector own.selector
    size := (congrArg Quiet.fdSize h.quiet).trans own.size
    indexed := fun fd item hi => ?_
    owned := fun fd item hi => ?_
    client := fun sid state hst => hkeep _ _ _ (.inl rfl) (own.client sid state (hs ▸ hst))
    target := fun sid state hst ht => hkeep _ _ _ (.inr rfl) (own.target sid state (hs ▸ hst) ht)
    management := fun mid' fd fd' h1 h2 => ?_
    opened := fun fd => ?_
    ledger := h.ledger own.ledger
    fresh := fun o ho => ?_
    faults := fun f hm => own.faults f (hf ▸ hm) }
  · rcases hslot fd item hi with rfl | ⟨_, hi'⟩
    · exact (h.after item hi).1
    · exact own.indexed fd item hi'
  · rcases hslot fd item hi with rfl | ⟨hne, hi'⟩
    · obtain ⟨_, hh, hd, hm⟩ := h.after item hi
      unfold Server.SlotOwned
      rw [hh, hd]
      exact Option.ne_none_iff_exists'.mp hm
    · have ho := own.owned fd item hi'
      unfold Server.SlotOwned at ho ⊢
      split at ho
      · rw [hs]
        exact ho
      · rw [hs]
        exact ho
      · rename_i mid' hh hd
        have hne' : mid' ≠ mid := by
          rintro rfl
          exact hne (h.unique fd ⟨item, hi', hh, hd⟩)
        rw [h.managements mid' hne']
        exact ho
      · exact ho.trans hl.symm
      · exact ho.trans hl'.symm
      · exact ho
  · have hback : ∀ fd, s'.Registered fd .managementClientHandler (some mid') → mid' ≠ mid →
        s.Registered fd .managementClientHandler (some mid') := by
      rintro fd ⟨item, hi, hh, hd⟩ hne
      rcases hslot fd item hi with rfl | ⟨_, hi'⟩
      · obtain ⟨_, _, hd', _⟩ := h.after item hi
        rw [hd] at hd'
        exact absurd (Option.some.inj hd') hne
      · exact ⟨item, hi', hh, hd⟩
    have hself : ∀ fd, s'.Registered fd .managementClientHandler (some mid) → fd = fd0 := by
      rintro fd ⟨item, hi, hh, hd⟩
      rcases hslot fd item hi with rfl | ⟨_, hi'⟩
      · rfl
      · exact h.unique fd ⟨item, hi', hh, hd⟩
    by_cases he : mid' = mid
    · subst he
      rw [hself fd h1, hself fd' h2]
    · exact own.management mid' fd fd' (hback fd h1 he) (hback fd' h2 he)
  · by_cases he : fd = fd0
    · subst he
      exact h.opened
    · obtain ⟨h1, h2⟩ := h.others fd he
      rw [h1, h2]
      exact own.opened fd
  · have ho' : s.nextObject ≤ o := Nat.le_trans h.nextObject ho
    refine ⟨by rw [hs]; exact (own.fresh o ho').1, ?_⟩
    by_cases he : o = mid
    · subst he
      by_contra hne
      have := h.born hne
      omega
    · rw [h.managements o he]
      exact (own.fresh o ho').2

/-- A management connection's handler keeps the server sound. -/
theorem sound (h : Managed mid fd0 s s') (hs : Sound s) : Sound s' ∧ Lives env s s' := by
  have ha := h.aside
  obtain ⟨hj, ht, hq, hl, hl', hp, hsa, _⟩ := Server.quiet_eq h.quiet
  refine hs.aside ha (h.own hs.own) (hs.jobs.congr ha.waits hj ht h.nextObject) (fun hne => ?_)
    (fun _ hatt => by rw [hq]; exact hatt.congr hp ha.waits ht) ?_
  · rw [hq]
    exact (hs.notices (hp ▸ hne)).congr ha.waits hj ht
  · have hkeep : ∀ fd handler, handler = FdHandler.acceptHandler ∨ handler = FdHandler.managementAcceptHandler →
        s.Registered fd handler none → s'.Registered fd handler none := by
      rintro fd handler hh ⟨item, hi, hh', hd⟩
      have hne : fd ≠ fd0 := by
        rintro rfl
        obtain ⟨hm, _⟩ := h.before item hi
        rw [hm] at hh'
        rcases hh with rfl | rfl <;> cases hh'
      exact ⟨item, (h.others fd hne).1.trans hi, hh', hd⟩
    have hback : ∀ fd item, s'.selector.slot fd = some item → item.Listens → s.selector.slot fd = some item := by
      intro fd item hi hh
      by_cases he : fd = fd0
      · subst he
        obtain ⟨_, hm, _⟩ := h.after item hi
        rcases hh with hh | hh <;> rw [hm] at hh <;> cases hh
      · exact (h.others fd he).1.symm.trans hi
    refine ⟨fun h1 h2 => ?_, fun h1 fd item hi hh => hs.listening.stopped (hsa ▸ h1) fd item (hback fd item hi hh) hh,
      fun fd item hi hh => hs.listening.interest fd item (hback fd item hi hh) hh⟩
    obtain ⟨h3, h4⟩ := hs.listening.registered (hsa ▸ h1) (hp ▸ h2)
    rw [hl, hl']
    exact ⟨hkeep _ _ (.inl rfl) h3, hkeep _ _ (.inr rfl) h4⟩

end Managed

section Handlers

variable {s : Server} {mid : Nat} {fd : Int}

/-- The slot of a management connection, and what the ownership invariant says of it. -/
structure ManagementSlot (s : Server) (mid : Nat) (fd : Int) (item : Item FdHandler Nat) : Prop where
  slot : s.selector.slot fd = some item
  fd_eq : item.fd = fd
  handler : item.handler = some .managementClientHandler
  data : item.data = some mid
  state : ∃ state, s.managements mid = some state
  file : ∃ f, s.files fd = some f
  unique : ∀ fd', s.Registered fd' .managementClientHandler (some mid) → fd' = fd

/-- A management slot, from the ownership invariant. -/
theorem Own.managementSlot (own : Own s) {item : Item FdHandler Nat} (hi : s.selector.slot fd = some item)
    (hh : item.handler = some .managementClientHandler) : ∃ mid, ManagementSlot s mid fd item := by
  have ho := own.owned fd item hi
  unfold Server.SlotOwned at ho
  rw [hh] at ho
  cases hd : item.data with
  | none =>
    rw [hd] at ho
    exact ho.elim
  | some mid =>
    rw [hd] at ho
    have hopen := own.opened fd
    rw [hi] at hopen
    exact ⟨mid, hi, own.indexed fd item hi, hh, hd, ho, Option.isSome_iff_exists.mp hopen, fun fd' h =>
      own.management mid fd' fd h ⟨item, hi, hh, hd⟩⟩

/-- What does not touch the slots or the files of a management connection leaves all else alone. -/
theorem Managed.of_slot {s' : Server} (own : Own s) {item : Item FdHandler Nat} (h : ManagementSlot s mid fd item)
    (quiet : s'.quiet = s.quiet) (slots : ∀ fd', fd' ≠ fd → s'.selector.slot fd' = s.selector.slot fd')
    (here : (s'.selector.slot fd).map (·.bare) = some item.bare) (selector : s.selector.Consistent → s'.selector.Consistent)
    (files : s'.files = s.files) (next : s'.nextFile = s.nextFile)
    (trace : s'.trace = s.trace) (nextObject : s'.nextObject = s.nextObject) (errno : s.errno ≠ 0 → s'.errno ≠ 0)
    (managements : ∀ mid', mid' ≠ mid → s'.managements mid' = s.managements mid') (still : s'.managements mid ≠ none) :
    Managed mid fd s s' := by
  rw [Option.map_eq_some_iff] at here
  obtain ⟨item', hi', hb⟩ := here
  refine ⟨quiet, fun fd' hne => ⟨slots fd' hne, by rw [files]⟩, fun item0 hi0 => ?_, fun item0 hi0 => ?_, ?_, selector,
    h.unique, managements, fun _ => ?_, nextObject.ge, errno, ⟨[], by simp [trace], fun _ => rfl, fun _ => rfl⟩, fun hl => ?_⟩
  · rw [h.slot] at hi0
    cases hi0
    exact ⟨h.handler, h.data⟩
  · rw [hi'] at hi0
    cases hi0
    exact ⟨(Item.fd_of_bare hb).trans h.fd_eq, (Item.handler_of_bare hb).trans h.handler, (Item.data_of_bare hb).trans h.data,
      still⟩
  · rw [files, hi', own.opened, h.slot]
    rfl
  · rw [nextObject]
    by_contra hlt
    obtain ⟨state, hst⟩ := h.state
    rw [(own.fresh mid (Nat.le_of_not_lt hlt)).2] at hst
    cases hst
  · rw [files, next, trace]
    exact hl

/-- Nothing was done for a management connection. -/
theorem Managed.refl (own : Own s) {item : Item FdHandler Nat} (h : ManagementSlot s mid fd item) : Managed mid fd s s := by
  obtain ⟨state, hst⟩ := h.state
  exact .of_slot own h rfl (fun _ _ => rfl) (congrArg (Option.map (·.bare)) h.slot) id rfl rfl rfl rfl id (fun _ _ => rfl)
    (by simp [hst])

/-- Unregistering a management connection frees it and gives up its descriptor. -/
theorem unregister_management_eq {s1 : Server} (own : Own s1) {item : Item FdHandler Nat} (h : ManagementSlot s1 mid fd item) :
    (s1.unregister fd).1 = ({ s1 with managements := Function.update s1.managements mid none } : Server).forget fd := by
  obtain ⟨state, hst⟩ := h.state
  obtain ⟨f, hf⟩ := h.file
  unfold Server.unregister unregisterFd
  rw [selectorUnregisterFd_of_slot own.size h.slot, h.handler, h.data, h.fd_eq]
  simp only [handleClose, managementClose, hst]
  rw [Server.close_of_open (f := f) (by exact hf)]
  simp only [Server.forget, hf, Option.map_some, Option.toList_some]
  rfl

/-- Unregistering a management connection concerns that connection alone. -/
theorem unregister_management {s1 : Server} (own : Own s1) {item : Item FdHandler Nat} (h : ManagementSlot s1 mid fd item) :
    Managed mid fd s1 (s1.unregister fd).1 := by
  rw [unregister_management_eq own h]
  have hv := FdSelector.valid_of_slot h.slot
  have hslot := Server.slot_forget (s := { s1 with managements := Function.update s1.managements mid none }) hv
  have hfiles := Server.files_forget { s1 with managements := Function.update s1.managements mid none } fd
  refine ⟨rfl, fun fd' hne => ?_, fun item0 hi0 => ?_, fun item0 hi0 => ?_, ?_, fun hc => hc.clearItem hv, h.unique,
    fun mid' hne => ?_, fun hm => ?_, Nat.le_refl _, id, ?_, Server.ledger_forget (s := { s1 with managements := Function.update s1.managements mid none }) fd⟩
  · rw [hslot, hfiles, if_neg hne, if_neg hne]
    exact ⟨rfl, rfl⟩
  · rw [h.slot] at hi0
    cases hi0
    exact ⟨h.handler, h.data⟩
  · rw [hslot, if_pos rfl] at hi0
    cases hi0
  · rw [hslot, hfiles, if_pos rfl, if_pos rfl]
    rfl
  · exact Function.update_of_ne hne _ _
  · exact absurd (by simp [Server.forget]) hm
  · exact Server.forget_trace { s1 with managements := Function.update s1.managements mid none } fd

/-- A management connection's handler keeps the invariant. -/
theorem Managed.inv {env : Nat → Env} {s' : Server} (h : Managed mid fd s s') (hi : Inv s) : Inv s' ∧ Lives env s s' := by
  obtain ⟨h1, h2⟩ : _ ∧ Lives env _ _ := h.sound hi.toSound
  refine ⟨⟨h1, ?_⟩, h2⟩
  rw [h.aside.sessions]
  exact hi.errno.imp_right h.errno

/-- A slot of a management connection that was served. -/
theorem ManagementSlot.congr {s' : Server} {item : Item FdHandler Nat} (h : ManagementSlot s mid fd item)
    (hsel : s'.selector = s.selector) (hfiles : s'.files = s.files) (hm : ∃ state, s'.managements mid = some state) :
    ManagementSlot s' mid fd item := by
  refine ⟨by rw [hsel]; exact h.slot, h.fd_eq, h.handler, h.data, hm, by rw [hfiles]; exact h.file, fun fd' hr => h.unique fd' ?_⟩
  unfold Server.Registered at hr ⊢
  rw [hsel] at hr
  exact hr

/-- Writing the record of a management connection. -/
theorem putManagement_managed (own : Own s) {item : Item FdHandler Nat} (h : ManagementSlot s mid fd item)
    (state : ManagementState) (users : ManagedUsers) :
    Managed mid fd s { s.putManagement mid state with managedUsers := users } ∧
      ManagementSlot { s.putManagement mid state with managedUsers := users } mid fd item :=
  ⟨.of_slot own h rfl (fun _ _ => rfl) (congrArg (Option.map (·.bare)) h.slot) id rfl rfl rfl rfl id
    (fun mid' hne => Function.update_of_ne hne _ _) (by simp [Server.putManagement]),
    h.congr rfl rfl (by simp [Server.putManagement])⟩

/-- A failed call of a management connection. -/
theorem setErrno_managed (own : Own s) {item : Item FdHandler Nat} (h : ManagementSlot s mid fd item) (e : Errno) :
    Managed mid fd s (s.setErrno e) := by
  obtain ⟨state, hst⟩ := h.state
  exact .of_slot own h rfl (fun _ _ => rfl) (congrArg (Option.map (·.bare)) h.slot) id rfl rfl rfl rfl
    (fun _ => e.ne_zero) (fun _ _ => rfl) (by simp [Server.setErrno, hst])

/-- Setting the interest of a management connection. -/
theorem setInterest_managed (own : Own s) {item : Item FdHandler Nat} (h : ManagementSlot s mid fd item) (i : FdInterest) :
    Managed mid fd s (s.setInterest fd i) := by
  obtain ⟨state, hst⟩ := h.state
  refine .of_slot own h ?_ (fun fd' hne => ?_) ?_ (fun hc => (hc.selectorSetInterest fd i).1) rfl rfl rfl rfl id (fun _ _ => rfl) (by simp [Server.setInterest, hst])
  · simp only [Server.quiet, Server.setInterest_queue, Server.setInterest_fdSize]
    rfl
  · rw [Server.slot_setInterest, if_neg hne]
  · rw [Server.slot_setInterest, if_pos rfl, h.slot]
    rfl

/-- The end of a loop of `send` on a management connection. -/
theorem afterSend_managed (own : Own s) {item : Item FdHandler Nat} (h : ManagementSlot s mid fd item) (ending : SendEnd) :
    Managed mid fd s (s.afterSend ending) ∧ ManagementSlot (s.afterSend ending) mid fd item := by
  match ending with
  | .drained => exact ⟨.refl own h, h⟩
  | .wouldBlock => exact ⟨setErrno_managed own h _, h.congr rfl rfl h.state⟩
  | .failed none => exact ⟨.refl own h, h⟩
  | .failed (some e) => exact ⟨setErrno_managed own h e, h.congr rfl rfl h.state⟩

/-- `management_write` concerns its connection alone. -/
theorem managementWrite_managed (own : Own s) {item : Item FdHandler Nat} (h : ManagementSlot s mid fd item)
    (sends : List SendResult) : Managed mid fd s (managementWrite s { fd := item.fd, data := item.data } sends) := by
  obtain ⟨state, hst⟩ := h.state
  unfold managementWrite
  rw [h.data, h.fd_eq]
  dsimp only
  rw [hst]
  dsimp only
  generalize sendLoop (state.writeBuffer.drop state.writeOff) sends = r
  obtain ⟨chunks, ending⟩ := r
  obtain ⟨w1, m1⟩ := putManagement_managed own h { state with writeOff := state.writeOff + chunks.flatten.length } s.managedUsers
  obtain ⟨w2, m2⟩ := afterSend_managed (w1.own own) m1 ending
  have w3 := unregister_management (w2.own (w1.own own)) m2
  cases ending with
  | wouldBlock => exact w1.trans w2
  | failed e => exact (w1.trans w2).trans w3
  | drained => exact (w1.trans w2).trans w3

/-- `management_read` concerns its connection alone, and the users table. -/
theorem managementRead_managed (own : Own s) {item : Item FdHandler Nat} (h : ManagementSlot s mid fd item) (a : Answers) :
    Managed mid fd s (managementRead s { fd := item.fd, data := item.data } a) := by
  obtain ⟨state, hst⟩ := h.state
  unfold managementRead
  rw [h.data, h.fd_eq]
  dsimp only
  rw [hst]
  dsimp only
  split
  · rename_i bytes _
    obtain ⟨w1, m1⟩ := putManagement_managed own h { state with readBuffer := state.readBuffer ++ bytes } s.managedUsers
    split
    · obtain ⟨w2, m2⟩ := putManagement_managed (w1.own own) m1 { state with
        readBuffer := state.readBuffer ++ bytes
        writeBuffer := ((CString.ofBuffer (managementPrepareResponse s.managedUsers s.metrics
          (state.readBuffer ++ bytes)).2).snprintf managementBufferSize).bytes
        writeOff := 0 } (managementPrepareResponse s.managedUsers s.metrics (state.readBuffer ++ bytes)).1
      exact (w1.trans w2).trans (setInterest_managed (w2.own (w1.own own)) m2 opWrite)
    · exact w1
  · exact unregister_management own h
  · rename_i e _
    have w1 := setErrno_managed own h e
    split
    · exact w1
    · exact w1.trans (unregister_management (w1.own own) (h.congr rfl rfl h.state))

end Handlers

end SocksProxy
