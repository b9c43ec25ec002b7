import SocksProxy.Lemmas.Frames

/-!
# What closing amounts to

The mutually recursive closing paths, computed once and for all. `forget` is what becomes of a descriptor that is unregistered
and closed; `drop` is what becomes of a session. Each closing path of the source is shown to be one of the two.
-/

namespace SocksProxy

namespace Server

/-- A descriptor is unregistered and closed. -/
def forget (s : Server) (fd : Int) : Server :=
  { s with
    selector := s.selector.clearItem fd
    files := Function.update s.files fd none
    trace := s.trace ++ ((s.files fd).map (fun f => Obs.closed f.serial)).toList }

/-- The jobs after a session let go of its own: freed if its result is there, and otherwise left to its thread. -/
def jobsWithout (s : Server) (resolverJob : Option Nat) : Nat → Option ResolverJob :=
  match resolverJob with
  | none => s.jobs
  | some job =>
    match s.jobs job with
    | none => s.jobs
    | some record => Function.update s.jobs job (if record.done then none else some { record with state := none })

/-- The target of a session is given up, if it has one. -/
def forgetTarget (s : Server) (targetFd : Int) : Server := if targetFd = -1 then s else s.forget targetFd

/-- A session is closed and freed: its target, its job, its record and its client's descriptor are given up. -/
def drop (s : Server) (sid : Nat) (state : ClientState) : Server :=
  let s := s.forgetTarget state.targetFd
  let s := { s with jobs := s.jobsWithout state.resolverJob, sessions := Function.update s.sessions sid none }
  (s.connectionClosed sid).forget state.clientFd

end Server

/-- Unregistering a descriptor that has a slot calls the handler's callback and clears the slot. -/
theorem selectorUnregisterFd_of_slot {s : Server} (hz : s.selector.fdSize = 1025) {fd : Int} {item : Item FdHandler Nat}
    (h : s.selector.slot fd = some item) (callback : Option FdHandler → SelectorKey Nat → Server → Server) :
    selectorUnregisterFd callback s fd =
      (onSelector (·.clearItem fd) (callback item.handler { fd := item.fd, data := item.data } s), .success) := by
  have hv := FdSelector.valid_of_slot h
  have hlt : fd.toNat < s.selector.fdSize := by
    have := invalidFd_eq_false_iff.mp hv
    omega
  have hw : onSelector (·.touch fd.toNat) s = s := by
    show ({ s with selector := s.selector.touch fd.toNat } : Server) = s
    rw [FdSelector.touch_of_lt hlt]
  obtain ⟨hi, hu⟩ := FdSelector.fds_of_slot h
  have hi' : (SelectorWorld.selector s).fds fd.toNat = item := hi
  unfold selectorUnregisterFd
  simp only [hv, Bool.false_eq_true, if_false, hw, hi', hu, Bool.not_true]

/-- Closing a descriptor that is open. -/
theorem Server.close_of_open {s : Server} {fd : Int} {f : OpenFile} (h : s.files fd = some f) :
    s.close fd = { s with files := Function.update s.files fd none, trace := s.trace ++ [.closed f.serial] } := by
  simp [Server.close, h]

/-- Unregistering the target of a session, from its own handler or from its client's. -/
theorem unregisterFd_target {s : Server} (hz : s.selector.fdSize = 1025) (depth : Nat) {sid : Nat} {state : ClientState}
    {fd : Int} {item : Item FdHandler Nat} {f : OpenFile} (hs : s.sessions sid = some state)
    (hfd : state.targetFd = fd ∨ state.targetFd = -1) (hi : s.selector.slot fd = some item) (hix : item.fd = fd)
    (hh : item.handler = some .targetHandler) (hd : item.data = some sid) (hf : s.files fd = some f) :
    unregisterFd (depth + 1) s fd = ((s.put sid { state with targetFd := -1 }).forget fd, .success) := by
  have hput : (if state.targetFd = fd then s.put sid { state with targetFd := -1 } else s) =
      s.put sid { state with targetFd := -1 } := by
    rcases hfd with hfd | hfd
    · rw [if_pos hfd]
    · split
      · rfl
      · have : ({ state with targetFd := -1 } : ClientState) = state := by rw [← hfd]
        rw [this, Server.put, ← hs, Function.update_eq_self]
  have hf' : (s.put sid { state with targetFd := -1 }).files fd = some f := hf
  rw [unregisterFd, selectorUnregisterFd_of_slot hz hi, hh, hd, hix]
  simp only [handleClose, targetClose, Server.withSession, hs, hput, Server.close_of_open hf']
  simp only [Server.forget, hf', Option.map_some, Option.toList_some]
  rfl

/-- A session lets go of its resolver job. -/
theorem targetConnectionDetachResolver_eq {s : Server} {sid : Nat} {state : ClientState} (hs : s.sessions sid = some state)
    (hj : ∀ job, state.resolverJob = some job → ∃ record, s.jobs job = some record) :
    targetConnectionDetachResolver s sid =
      { s with
        jobs := s.jobsWithout state.resolverJob
        sessions := Function.update s.sessions sid (some { state with resolverJob := none }) } := by
  unfold targetConnectionDetachResolver Server.withSession
  simp only [hs]
  split
  · rename_i hn
    have : ({ state with resolverJob := none } : ClientState) = state := by rw [← hn]
    rw [this, ← hs, Function.update_eq_self]
    simp [Server.jobsWithout, hn]
  · rename_i job hn
    obtain ⟨record, hr⟩ := hj job hn
    simp only [hr, Server.jobsWithout, hn]
    split <;> rfl

/-- Unregistering the client of a session drops the session. -/
theorem unregisterFd_client {s : Server} (hz : s.selector.fdSize = 1025) (depth : Nat) {sid : Nat} {state state0 : ClientState}
    {item : Item FdHandler Nat} {f : OpenFile} (hs : s.sessions sid = some state)
    (hstate : state = state0 ∨ state = { state0 with clientFd := -1 })
    (hi : s.selector.slot state0.clientFd = some item) (hix : item.fd = state0.clientFd)
    (hh : item.handler = some .clientHandler) (hd : item.data = some sid) (hf : s.files state0.clientFd = some f)
    (hne : state0.clientFd ≠ state0.targetFd)
    (ht : state0.targetFd ≠ -1 → ∃ item f, s.selector.slot state0.targetFd = some item ∧ item.fd = state0.targetFd ∧
      item.handler = some .targetHandler ∧ item.data = some sid ∧ s.files state0.targetFd = some f)
    (hj : ∀ job, state0.resolverJob = some job → ∃ record, s.jobs job = some record) :
    unregisterFd (depth + 2) s state0.clientFd = (s.drop sid state0, .success) := by
  have hstate1 : (if state.clientFd = state0.clientFd then { state with clientFd := -1 } else state) =
      { state0 with clientFd := -1 } := by
    rcases hstate with rfl | rfl
    · rw [if_pos rfl]
    · split <;> rfl
  rw [unregisterFd, selectorUnregisterFd_of_slot hz hi, hh, hd, hix]
  simp only [handleClose, clientClose, Server.withSession, hs, hstate1]
  by_cases htf : state0.targetFd = -1
  · have hput : (s.put sid { state0 with clientFd := -1, targetFd := -1 }).sessions sid =
        some { state0 with clientFd := -1, targetFd := -1 } := by
      simp [Server.put]
    simp only [htf, ne_eq, not_true_eq_false, if_false]
    rw [targetConnectionDetachResolver_eq hput hj]
    simp only [targetConnectionFreeAddresses, Server.withSession, Function.update_self, Server.put, Function.update_idem,
      Server.free, Server.connectionClosed]
    rw [Server.close_of_open (f := f) (by exact hf)]
    simp only [Server.drop, Server.forgetTarget, htf, if_true, Server.forget, Server.connectionClosed, hf, Option.map_some,
      Option.toList_some]
    rfl
  · obtain ⟨item', f', hi', hix', hh', hd', hf'⟩ := ht htf
    simp only [ne_eq, htf, not_false_eq_true, if_true, Server.put, Function.update_idem]
    rw [unregisterFd_target (by exact hz) depth
      (show Server.sessions _ sid = some { state0 with clientFd := -1, targetFd := -1 } by simp) (by simp) (by exact hi') hix' hh' hd' (by exact hf')]
    simp only [closeUnlessUnregistered]
    rw [targetConnectionDetachResolver_eq
      (show Server.sessions _ sid = some { state0 with clientFd := -1, targetFd := -1 } by simp [Server.forget, Server.put])
      (by exact hj)]
    simp only [targetConnectionFreeAddresses, Server.withSession, Function.update_self, Server.put, Function.update_idem,
      Server.free, Server.connectionClosed, Server.forget]
    rw [Server.close_of_open (f := f) (by simpa [Function.update_of_ne hne] using hf)]
    simp only [Server.drop, Server.forgetTarget, htf, if_false, Server.forget, Server.connectionClosed,
      Function.update_of_ne hne, hf, Option.map_some, Option.toList_some]
    rfl

/-! ## A descriptor given up -/

namespace Server

/-- The slots after a descriptor was given up. -/
theorem slot_forget {s : Server} {fd : Int} (hv : invalidFd fd = false) (fd' : Int) :
    (s.forget fd).selector.slot fd' = if fd' = fd then none else s.selector.slot fd' :=
  FdSelector.slot_clearItem hv fd'

/-- The files after a descriptor was given up. -/
theorem files_forget (s : Server) (fd fd' : Int) : (s.forget fd).files fd' = if fd' = fd then none else s.files fd' := by
  simp [forget, Function.update_apply]

/-- The ledger after a descriptor was given up, open or not. -/
theorem ledger_forget {s : Server} (fd : Int) (h : Ledger s.files s.nextFile s.trace) :
    Ledger (s.forget fd).files (s.forget fd).nextFile (s.forget fd).trace := by
  cases hf : s.files fd with
  | none =>
    have : Function.update s.files fd none = s.files := by rw [← hf, Function.update_eq_self]
    simpa [forget, hf, this] using h
  | some f => simpa [forget, hf] using h.close hf

/-- Nobody acts when a descriptor is given up. -/
theorem forget_trace (s : Server) (fd : Int) : ∃ obs, (s.forget fd).trace = s.trace ++ obs ∧ (∀ sid, Obs.acts sid obs = []) ∧
    ∀ c, obs.foldl Accounts.countObs c = c := by
  refine ⟨_, rfl, fun sid => ?_, fun c => ?_⟩ <;> cases s.files fd <;> rfl

/-- The target of a session, given up: its slot and its file are gone. -/
theorem slot_forgetTarget {s : Server} {fd : Int} (hv : fd ≠ -1 → invalidFd fd = false) (fd' : Int) :
    (s.forgetTarget fd).selector.slot fd' = if fd' = fd then none else s.selector.slot fd' := by
  unfold forgetTarget
  split
  · split
    · subst_vars
      simp
    · rfl
  · exact slot_forget (hv ‹_›) fd'

/-- The files after a session gave up its target. -/
theorem files_forgetTarget {s : Server} {fd : Int} (hn : s.files (-1) = none) (fd' : Int) :
    (s.forgetTarget fd).files fd' = if fd' = fd then none else s.files fd' := by
  unfold forgetTarget
  split
  · split
    · subst_vars
      exact hn
    · rfl
  · exact files_forget s fd fd'

/-- The ledger after a session gave up its target. -/
theorem ledger_forgetTarget {s : Server} (fd : Int) (h : Ledger s.files s.nextFile s.trace) :
    Ledger (s.forgetTarget fd).files (s.forgetTarget fd).nextFile (s.forgetTarget fd).trace := by
  unfold forgetTarget
  split
  · exact h
  · exact ledger_forget fd h

/-- Nobody acts when a target is given up. -/
theorem forgetTarget_trace (s : Server) (fd : Int) :
    ∃ obs, (s.forgetTarget fd).trace = s.trace ++ obs ∧ (∀ sid, Obs.acts sid obs = []) ∧
      ∀ c, obs.foldl Accounts.countObs c = c := by
  unfold forgetTarget
  split
  · exact ⟨[], by simp, fun _ => rfl, fun _ => rfl⟩
  · exact forget_trace s fd

/-- The fields that giving up a target leaves alone. -/
theorem forgetTarget_rest (s : Server) (fd : Int) :
    (s.forgetTarget fd).sessions = s.sessions ∧ (s.forgetTarget fd).shared = s.shared ∧
    (s.forgetTarget fd).accounts = s.accounts ∧ (s.forgetTarget fd).errno = s.errno ∧ (s.forgetTarget fd).jobs = s.jobs ∧
    (s.forgetTarget fd).threads = s.threads ∧ (s.forgetTarget fd).nextObject = s.nextObject := by
  unfold forgetTarget
  split <;> exact ⟨rfl, rfl, rfl, rfl, rfl, rfl, rfl⟩

end Server

/-! ## A session dropped -/

section Drop

variable {s : Server} {sid : Nat} {state : ClientState}

/-- What the ownership invariant says of the descriptors of a session that is there. -/
structure Own.Fds (s : Server) (sid : Nat) (state : ClientState) : Prop where
  client : ∃ item f, s.selector.slot state.clientFd = some item ∧ item.fd = state.clientFd ∧
    item.handler = some .clientHandler ∧ item.data = some sid ∧ s.files state.clientFd = some f
  target : state.targetFd ≠ -1 → ∃ item f, s.selector.slot state.targetFd = some item ∧ item.fd = state.targetFd ∧
    item.handler = some .targetHandler ∧ item.data = some sid ∧ s.files state.targetFd = some f
  apart : state.clientFd ≠ state.targetFd

/-- The descriptors of a session. -/
theorem Own.fds (own : Own s) (hs : s.sessions sid = some state) : Own.Fds s sid state := by
  have hopen : ∀ fd item, s.selector.slot fd = some item → ∃ f, s.files fd = some f := by
    intro fd item hi
    have := own.opened fd
    rw [hi] at this
    exact Option.isSome_iff_exists.mp this
  obtain ⟨item, hi, hh, hd⟩ := own.client sid state hs
  obtain ⟨f, hf⟩ := hopen _ item hi
  refine ⟨⟨item, f, hi, own.indexed _ item hi, hh, hd, hf⟩, fun ht => ?_, (own.held (Server.life_of_some hs)).apart⟩
  obtain ⟨item', hi', hh', hd'⟩ := own.target sid state hs ht
  obtain ⟨f', hf'⟩ := hopen _ item' hi'
  exact ⟨item', f', hi', own.indexed _ item' hi', hh', hd', hf'⟩

/-- -1 is not open. -/
theorem Own.files_neg_one (own : Own s) : s.files (-1) = none := by
  simpa using own.opened (-1)

/-- A session's job is there. -/
theorem JobsOwned.job (jobs : JobsOwned s) (hs : s.sessions sid = some state) :
    ∀ job, state.resolverJob = some job → ∃ record, s.jobs job = some record := by
  intro job hj
  obtain ⟨record, hr, _⟩ := jobs.owned sid job state.clientFd (by simp [Server.waits, hs, hj])
  exact ⟨record, hr⟩

/-- Unregistering the client of a session drops the session. -/
theorem unregister_client (own : Own s) (jobs : JobsOwned s) (hs : s.sessions sid = some state) :
    s.unregister state.clientFd = (s.drop sid state, .success) := by
  have fds := own.fds hs
  obtain ⟨item, f, hi, hix, hh, hd, hf⟩ := fds.client
  exact unregisterFd_client own.size 0 hs (.inl rfl) hi hix hh hd hf fds.apart fds.target (jobs.job hs)

/-- Closing a connection drops the session. -/
theorem clientSessionCloseConnection_eq (own : Own s) (jobs : JobsOwned s) (hs : s.sessions sid = some state) :
    clientSessionCloseConnection s sid = s.drop sid state := by
  have fds := own.fds hs
  obtain ⟨item, f, hi, hix, hh, hd, hf⟩ := fds.client
  unfold clientSessionCloseConnection
  simp only [Server.withSession, hs, ne_eq, own.clientFd_ne hs, not_false_eq_true, if_true]
  have hput : (s.put sid { state with clientFd := -1 }).sessions sid = some { state with clientFd := -1 } := by simp [Server.put]
  have hu := unregisterFd_client (s := s.put sid { state with clientFd := -1 }) own.size 0 hput (.inr rfl) hi hix hh hd hf fds.apart fds.target (jobs.job hs)
  show (unregisterFd 2 _ _).1 = _
  rw [hu]
  simp only [Server.drop, Server.forgetTarget, Server.put]
  split <;> simp [Server.forget, Server.connectionClosed, Server.jobsWithout]

/-- The slots after a session was dropped. -/
theorem slot_drop (own : Own s) (hs : s.sessions sid = some state) (fd : Int) :
    (s.drop sid state).selector.slot fd =
      if fd = state.clientFd ∨ fd = state.targetFd then none else s.selector.slot fd := by
  have fds := own.fds hs
  obtain ⟨item, f, hi, _⟩ := fds.client
  have ht : state.targetFd ≠ -1 → invalidFd state.targetFd = false := by
    intro hne
    obtain ⟨item', f', hi', _⟩ := fds.target hne
    exact FdSelector.valid_of_slot hi'
  unfold Server.drop
  rw [Server.slot_forget (FdSelector.valid_of_slot hi)]
  by_cases hc : fd = state.clientFd
  · simp [hc]
  · simp only [hc, if_false, false_or]
    exact Server.slot_forgetTarget ht fd

/-- The files after a session was dropped. -/
theorem files_drop (own : Own s) (fd : Int) :
    (s.drop sid state).files fd = if fd = state.clientFd ∨ fd = state.targetFd then none else s.files fd := by
  unfold Server.drop
  rw [Server.files_forget]
  by_cases hc : fd = state.clientFd
  · simp [hc]
  · simp only [hc, if_false, false_or]
    exact Server.files_forgetTarget own.files_neg_one fd

/-- The sessions after one was dropped. -/
theorem sessions_drop : (s.drop sid state).sessions = Function.update s.sessions sid none := by
  simp only [Server.drop, Server.forget, Server.connectionClosed, (Server.forgetTarget_rest s state.targetFd).1]

/-- The jobs after a session was dropped. -/
theorem jobs_drop : (s.drop sid state).jobs = s.jobsWithout state.resolverJob := by
  simp only [Server.drop, Server.forget, Server.connectionClosed, Server.jobsWithout,
    (Server.forgetTarget_rest s state.targetFd).2.2.2.2.1]

/-- The threads and the numbering after a session was dropped. -/
theorem threads_drop : (s.drop sid state).threads = s.threads ∧ (s.drop sid state).nextObject = s.nextObject := by
  obtain ⟨_, _, _, _, _, ht, hn⟩ := Server.forgetTarget_rest s state.targetFd
  exact ⟨ht, hn⟩

/-- Letting go of a job publishes nothing. -/
theorem jobsWithout_done {resolverJob : Option Nat} {job : Nat} {record : ResolverJob}
    (h : s.jobsWithout resolverJob job = some record) (hd : record.done = true) : s.jobs job = some record := by
  cases resolverJob with
  | none => exact h
  | some job0 =>
    simp only [Server.jobsWithout] at h
    cases hr : s.jobs job0 with
    | none =>
      rw [hr] at h
      exact h
    | some record0 =>
      rw [hr] at h
      by_cases he : job = job0
      · subst he
        simp only [Function.update_self] at h
        split at h
        · cases h
        · cases h
          contradiction
      · simpa [Function.update_of_ne he] using h

/-- Letting go of a job leaves the others. -/
theorem jobsWithout_of_ne {resolverJob : Option Nat} {job : Nat} (h : resolverJob ≠ some job) :
    s.jobsWithout resolverJob job = s.jobs job := by
  cases resolverJob with
  | none => rfl
  | some job' =>
    have hne : job ≠ job' := by
      rintro rfl
      exact h rfl
    cases hr : s.jobs job' <;> simp [Server.jobsWithout, hr, Function.update_of_ne hne]

/-- Dropping a session is a frame, and its only act is to be freed. -/
theorem frame_drop (own : Own s) (hs : s.sessions sid = some state) : Frame sid s (s.drop sid state) [.freed] := by
  obtain ⟨h1, h2, h3, h4, h5, h6, h7⟩ := Server.forgetTarget_rest s state.targetFd
  have hfd : ∀ fd item, s.selector.slot fd = some item → ¬item.Of sid → ¬(fd = state.clientFd ∨ fd = state.targetFd) := by
    intro fd item hi ho he
    have fds := own.fds hs
    rcases he with rfl | rfl
    · obtain ⟨item', f', hi', _, hh, hd, _⟩ := fds.client
      rw [hi] at hi'
      cases hi'
      exact ho ⟨.inl hh, hd⟩
    · by_cases ht : state.targetFd = -1
      · rw [ht] at hi
        simp at hi
      · obtain ⟨item', f', hi', _, hh, hd, _⟩ := fds.target ht
        rw [hi] at hi'
        cases hi'
        exact ho ⟨.inr hh, hd⟩
  exact {
    sessions := fun sid' hne => by rw [sessions_drop, Function.update_of_ne hne]
    kept := fun fd item hi ho => by
      rw [slot_drop own hs, files_drop own, if_neg (hfd fd item hi ho), if_neg (hfd fd item hi ho)]
      exact ⟨hi, rfl⟩
    foreign := fun fd item hi _ => by
      rw [slot_drop own hs] at hi
      split at hi
      · cases hi
      · exact hi
    selector := fun hc => by
      have fds := own.fds hs
      obtain ⟨item, _, hi, _⟩ := fds.client
      refine FdSelector.Consistent.clearItem ?_ (FdSelector.valid_of_slot hi)
      show (s.forgetTarget state.targetFd).selector.Consistent
      unfold Server.forgetTarget
      split
      · exact hc
      · obtain ⟨item', _, hi', _⟩ := fds.target ‹_›
        exact hc.clearItem (FdSelector.valid_of_slot hi')
    shared := h2
    nextObject := h7.ge
    errno := fun he => by
      show (s.forgetTarget state.targetFd).errno ≠ 0
      rw [h4]
      exact he
    jobs := fun job _ hsp => by
      refine ⟨?_, fun fd => ?_⟩
      · rw [jobs_drop]
        refine jobsWithout_of_ne ?_
        intro he
        exact hsp state.clientFd (by simp [Server.waits, hs, he])
      · simp [Server.waits, sessions_drop]
    threads := fun job => .inl (congrFun threads_drop.1 job)
    results := fun job => by
      unfold Server.resultOf
      rw [jobs_drop]
      cases hr : s.jobsWithout state.resolverJob job with
      | none => exact .inl rfl
      | some record =>
        by_cases hd : record.done = true
        · rw [jobsWithout_done hr hd]
          exact .inr rfl
        · exact .inl (by simp [hd])
    trace := by
      obtain ⟨obs, ht, ha, hc⟩ := Server.forgetTarget_trace s state.targetFd
      obtain ⟨obs', ht', ha', hc'⟩ := Server.forget_trace
        (({ s.forgetTarget state.targetFd with
          jobs := (s.forgetTarget state.targetFd).jobsWithout state.resolverJob
          sessions := Function.update (s.forgetTarget state.targetFd).sessions sid none } : Server).connectionClosed sid)
        state.clientFd
      refine ⟨obs ++ [.act sid .freed] ++ obs', ?_, ?_, fun sid' hne => ?_, ?_⟩
      · simp only [Server.drop]
        rw [ht']
        simp only [Server.connectionClosed, ht, List.append_assoc]
      · simp [ha, ha', Obs.acts_act]
      · simp [ha, ha', Obs.acts_act, hne.symm]
      · rw [List.foldl_append, List.foldl_append, hc, hc']
        simp only [Server.drop, Server.forget, Server.connectionClosed, List.foldl_cons, List.foldl_nil, Accounts.countObs,
          Accounts.count]
        have := congrArg Accounts.metrics h3
        have := congrArg Accounts.active h3
        have := congrArg Accounts.accessLog h3
        simp_all [Server.accounts]
    ledger := fun hl => by
      have hl1 := Server.ledger_forgetTarget state.targetFd hl
      have hl2 := hl1.acts sid [.freed]
      exact Server.ledger_forget (s := (({ s.forgetTarget state.targetFd with
        jobs := (s.forgetTarget state.targetFd).jobsWithout state.resolverJob
        sessions := Function.update (s.forgetTarget state.targetFd).sessions sid none } : Server).connectionClosed sid))
        state.clientFd hl2 }

/-- What is left when a session was dropped is in order. -/
theorem own_drop (own : Own s) (hs : s.sessions sid = some state) : Own (s.drop sid state) := by
  refine own.frame (frame_drop own hs) {
    slots := fun fd item hi ho => ?_
    client := fun state' h => ?_
    target := fun state' h _ => ?_
    opened := fun fd => ?_
    born := fun h => ?_ }
  · rw [slot_drop own hs] at hi
    split at hi
    · cases hi
    · rename_i hne
      obtain ⟨state', hs', hfd⟩ := own.fd_of_slot hi ho
      rw [hs] at hs'
      cases hs'
      rcases hfd with ⟨_, hfd⟩ | ⟨_, hfd⟩
      · exact absurd (.inl hfd.symm) hne
      · exact absurd (.inr hfd.symm) hne
  · rw [sessions_drop, Function.update_self] at h
    cases h
  · rw [sessions_drop, Function.update_self] at h
    cases h
  · rw [slot_drop own hs, files_drop own]
    split
    · rfl
    · exact own.opened fd
  · rw [sessions_drop, Function.update_self] at h
    exact absurd rfl h

/-- A session that was dropped is gone. -/
theorem life_drop (own : Own s) (hs : s.sessions sid = some state) : (s.drop sid state).life sid = .gone := by
  have hlt : sid < s.nextObject := by
    by_contra hlt
    rw [(own.fresh sid (by omega)).1] at hs
    cases hs
  simp [Server.life, sessions_drop, threads_drop.2, hlt]

end Drop

end SocksProxy
