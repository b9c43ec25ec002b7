import SocksProxy.Lemmas.Handled

/-!
# Connecting to a target

What an attempt to connect achieves, whatever the kernel answers: either a socket is open, registered and owned by the session,
or none is left behind and the session holds the error. From there the loop over the addresses, the beginning of a request, the
arrival of a resolver's result and the completion of a connection follow the source.
-/

namespace SocksProxy

/-- From one server to another, session `sid` was worked for: it is there and looks like `v`, it performed these acts, and all
invariants hold. Unlike service, this allows descriptors and jobs to come and go. -/
structure Worked (sid : Nat) (s s' : Server) (v : View) (acts : List Act) : Prop where
  own : Own s'
  jobs : JobsOwned s'
  notified : ∀ q, Notified q q s s'
  frame : Frame sid s s' acts
  life : s'.life sid = .live v

namespace Worked

variable {env : Env} {sid : Nat} {s s' s'' : Server} {v v' v'' : View} {acts acts' : List Act}

/-- Service of a session. -/
theorem of_served (own : Own s) (jobs : JobsOwned s) (h : Served sid s s' v acts) : Worked sid s s' v acts := by
  obtain ⟨_, _, hj, ht, hn⟩ := Server.resources_eq h.resources
  exact ⟨h.own own, jobs.congr h.waits hj ht hn.ge, fun _ => .congr (Server.shared_eq h.shared).2.2.2.2.2.1 h.waits hj ht,
    h.frame own, h.life⟩

/-- Work after work. -/
theorem trans (h : Worked sid s s' v acts) (h' : Worked sid s' s'' v' acts') : Worked sid s s'' v' (acts ++ acts') :=
  ⟨h'.own, h'.jobs, fun q => (h.notified q).trans (h'.notified q), h.frame.trans h'.frame, h'.life⟩

/-- Service after work. -/
theorem serve (h : Worked sid s s' v acts) (h' : Served sid s' s'' v' acts') : Worked sid s s'' v' (acts ++ acts') :=
  h.trans (of_served h.own h.jobs h')

/-- The session as it stands, ready to be served. -/
theorem refl (h : Worked sid s s' v acts) : Served sid s' s' v [] :=
  Served.refl h.life (h.own.held h.life)

/-- Work that is a sequence of steps of the session's life. -/
theorem handled (h : Worked sid s s' v' acts) (hl : s.life sid = .live v) (hs : SessionSteps env (.live v) acts (.live v')) :
    Handled env sid s s' := by
  refine ⟨h.own, h.jobs, h.notified, acts, h.frame, ?_⟩
  rw [hl, h.life]
  exact hs

end Worked

namespace Server

/-- A descriptor was opened and closed again. -/
def blink (s : Server) (fd : Int) : Server :=
  { s with nextFile := s.nextFile + 1, trace := s.trace ++ [.opened s.nextFile fd, .closed s.nextFile] }

/-- A descriptor was opened, its connection started, and registered as the target of a session. -/
def attach (s : Server) (sid : Nat) (state : ClientState) (fd : Int) (connect : ConnectStatus) : Server :=
  { s with
    selector := (s.selector.selectorRegister fd (some .targetHandler) opWrite (some sid) true).1
    sessions := Function.update s.sessions sid (some { state with targetFd := fd, stage := .connecting })
    files := Function.update s.files fd (some { serial := s.nextFile, connect })
    nextFile := s.nextFile + 1
    trace := s.trace ++ [.opened s.nextFile fd] }

/-- A descriptor the kernel hands out is not open and not negative. -/
theorem handOut_ok {s : Server} {r : Except Errno Int} {fd : Int} (h : s.handOut r = .ok fd) : 0 ≤ fd ∧ s.files fd = none := by
  unfold handOut at h
  split at h
  · split at h
    · rename_i hf
      cases h
      simpa [fdFree] using hf
    · cases h
  · cases h

end Server

section Attempt

variable {s : Server} {sid : Nat} {v : View}

/-- A descriptor that was opened and closed again is nobody's. -/
theorem frame_blink (sid : Nat) {fd : Int} (hf : s.files fd = none) : Frame sid s (s.blink fd) [] := {
  Frame.refl sid s with
  trace := ⟨_, rfl, rfl, fun _ _ => rfl, rfl⟩
  ledger := fun hl => by
    have h1 := (hl.openFd hf .unconnected).close
      (Function.update_self fd (some { serial := s.nextFile, connect := .unconnected }) s.files)
    have hu : Function.update (Function.update s.files fd (some { serial := s.nextFile, connect := .unconnected })) fd none =
        s.files := by
      rw [Function.update_idem, ← hf, Function.update_eq_self]
    rw [hu, List.append_assoc] at h1
    exact h1 }

/-- A descriptor that was opened and closed again leaves ownership in order. -/
theorem own_blink (own : Own s) {fd : Int} (hf : s.files fd = none) : Own (s.blink fd) :=
  { own with ledger := (frame_blink 0 hf).ledger own.ledger }

/-- A descriptor that was opened and closed again leaves everything in order. -/
theorem worked_blink (own : Own s) (jobs : JobsOwned s) (hl : s.life sid = .live v) {fd : Int} (hf : s.files fd = none) :
    Worked sid s (s.blink fd) v [] :=
  ⟨own_blink own hf, { jobs with }, fun _ => .congr rfl (fun _ => rfl) rfl rfl, frame_blink sid hf, hl⟩

/-- A socket attached to a session leaves everything in order. -/
theorem worked_attach (own : Own s) (jobs : JobsOwned s) (hl : s.life sid = .live v) (ht : v.state.targetFd = -1) {fd : Int}
    (hv : invalidFd fd = false) (hf : s.files fd = none) (c : ConnectStatus) :
    Worked sid s (s.attach sid v.state fd c)
      { v with
        state := { v.state with targetFd := fd, stage := .connecting }
        targetInterest := some opWrite
        connect := some c } [] := by
  obtain ⟨hs, hview⟩ := Server.sessions_of_life hl
  have hslot : s.selector.slot fd = none := by
    have := own.opened fd
    rw [hf] at this
    simpa using this.symm
  obtain ⟨_, hz, hq, hreg⟩ := FdSelector.selectorRegister_of_free hv (by rw [own.size]; omega) hslot FdHandler.targetHandler
    opWrite (some sid) true
  have hne : fd ≠ -1 := by
    rintro rfl
    simp at hv
  have hcne : v.state.clientFd ≠ fd := by
    rintro rfl
    obtain ⟨item, hi, _⟩ := own.client_slot hs
    rw [hslot] at hi
    cases hi
  have hfile : ∀ fd', fd' ≠ fd → (s.attach sid v.state fd c).files fd' = s.files fd' := by
    intro fd' he
    simp [Server.attach, Function.update_of_ne he]
  have hother : ∀ fd', fd' ≠ fd → (s.attach sid v.state fd c).selector.slot fd' = s.selector.slot fd' := by
    intro fd' he
    exact (hreg fd').trans (if_neg he)
  have hself : (s.attach sid v.state fd c).selector.slot fd =
      some { fd, interest := opWrite, handler := some .targetHandler, data := some sid, serial := s.selector.serial } :=
    (hreg fd).trans (if_pos rfl)
  have hsess : (s.attach sid v.state fd c).sessions sid = some { v.state with targetFd := fd, stage := .connecting } := by
    simp [Server.attach]
  have fr : Frame sid s (s.attach sid v.state fd c) [] := {
    sessions := fun sid' hne => by simp [Server.attach, Function.update_of_ne hne]
    kept := fun fd' item hi _ => by
      have he : fd' ≠ fd := by
        rintro rfl
        rw [hslot] at hi
        cases hi
      exact ⟨(hother fd' he).trans hi, hfile fd' he⟩
    foreign := fun fd' item hi ho => by
      have he : fd' ≠ fd := by
        rintro rfl
        rw [hself] at hi
        cases hi
        exact ho ⟨.inr rfl, rfl⟩
      exact (hother fd' he).symm.trans hi
    selector := fun hc => (hc.selectorRegister fd (some FdHandler.targetHandler) opWrite (some sid) true).1
    shared := by
      simp only [Server.shared, Server.attach, hz, hq]
    nextObject := Nat.le_refl _
    errno := id
    jobs := fun job _ hsp => ⟨rfl, hsp.congr (by rw [waits_of_some hsess, waits_of_some hs])⟩
    threads := fun _ => .inl rfl
    results := fun _ => .inr rfl
    trace := ⟨_, rfl, rfl, fun _ _ => rfl, rfl⟩
    ledger := fun hl => hl.openFd hf c }
  have hw : ∀ sid', (s.attach sid v.state fd c).waits sid' = s.waits sid' := by
    intro sid'
    by_cases he : sid' = sid
    · subst he
      rw [waits_of_some hsess, waits_of_some hs]
    · exact waits_congr (fr.sessions sid' he)
  have own' : Own (s.attach sid v.state fd c) := by
    refine own.frame fr {
      slots := fun fd' item hi ho => ?_
      client := fun st hst => ?_
      target := fun st hst _ => ?_
      opened := fun fd' => ?_
      born := fun _ => ?_ }
    · by_cases he : fd' = fd
      · subst he
        rw [hself] at hi
        cases hi
        exact ⟨rfl, _, hsess, rfl⟩
      · have hi := (hother fd' he).symm.trans hi
        refine ⟨own.indexed fd' item hi, ?_⟩
        obtain ⟨state, hs', hfd⟩ := own.fd_of_slot hi ho
        rw [hs] at hs'
        cases hs'
        rcases hfd with ⟨hh, hfd⟩ | ⟨_, hfd⟩
        · unfold Server.SlotOwned
          rw [hh, ho.2]
          exact ⟨_, hsess, hfd⟩
        · rw [ht] at hfd
          rw [← hfd] at hi
          simp at hi
    · rw [hsess] at hst
      cases hst
      obtain ⟨item, hi, hh, hd⟩ := own.client sid _ hs
      exact ⟨item, (hother _ hcne).trans hi, hh, hd⟩
    · rw [hsess] at hst
      cases hst
      exact ⟨_, hself, rfl, rfl⟩
    · by_cases he : fd' = fd
      · subst he
        rw [hself]
        simp [Server.attach]
      · rw [hfile fd' he, hother fd' he]
        exact own.opened fd'
    · by_contra hlt
      have := (own.fresh sid (Nat.le_of_not_lt hlt)).1
      rw [hs] at this
      cases this
  refine ⟨own', jobs.congr hw rfl rfl (Nat.le_refl _), fun _ => .congr rfl hw rfl rfl, fr, ?_⟩
  rw [Server.life_of_some hsess]
  have hci := congrArg View.clientInterest hview
  simp only [Server.viewOf, Server.interest, Server.connect] at hci ⊢
  rw [hother _ hcne, hself, hci]
  simp [Server.attach]

/-- An attempt to connect: a connection was started on a socket the session now owns, or the error is saved and nothing is
left. -/
theorem startTargetConnection_worked (own : Own s) (jobs : JobsOwned s) (hl : s.life sid = .live v)
    (ht : v.state.targetFd = -1) (he : s.errno ≠ 0) (addr : SockAddr) (attempt : Attempt) :
    (∃ e s', e ≠ 0 ∧ startTargetConnection s sid addr attempt = (s', false) ∧
      Worked sid s s' { v with state := { v.state with lastConnectError := e } } [.attempted addr]) ∨
    ∃ fd c s', fd ≠ -1 ∧ c.Started ∧ startTargetConnection s sid addr attempt = (s', true) ∧
      Worked sid s s'
        { v with
          state := { v.state with targetFd := fd, stage := .connecting }
          targetInterest := some opWrite
          connect := some c } [.attempted addr] := by
  obtain ⟨hs, _⟩ := Server.sessions_of_life hl
  have h0 := (Served.refl hl (own.held hl)).observe [.attempted addr] (by simp [Accounts.count])
  have hfail : ∀ e : Nat, ({ v.state with lastConnectError := e, targetFd := -1 } : ClientState) =
      { v.state with lastConnectError := e } := by
    intro e
    rw [← ht]
  have hs0 : (s.observe ([.attempted addr].map (.act sid))).sessions sid = some v.state := hs
  unfold startTargetConnection
  simp only [show s.observe [.act sid (.attempted addr)] = s.observe ([.attempted addr].map (.act sid)) from rfl, hs0]
  -- what a failed attempt leaves: the error, and a descriptor that was opened and closed again
  have hblink : ∀ (s1 : Server) (e : Nat) (fd : Int), e ≠ 0 → s.files fd = none →
      Served sid s s1 { v with state := { v.state with lastConnectError := e } } [.attempted addr] →
      Worked sid s (s1.blink fd) { v with state := { v.state with lastConnectError := e } } [.attempted addr] := by
    intro s1 e fd _ hf h1
    have hw := Worked.of_served own jobs h1
    have hf1 : s1.files fd = none := by
      rw [(Server.resources_eq h1.resources).1]
      exact hf
    have := hw.trans (worked_blink hw.own hw.jobs hw.life hf1)
    simpa using this
  cases ho : (s.observe ([.attempted addr].map (.act sid))).handOut attempt.socket with
  | error e =>
    refine .inl ⟨e.code, _, e.ne_zero, rfl, ?_⟩
    exact .of_served own jobs ((h0.put { v.state with lastConnectError := e.code } rfl rfl rfl).setErrno e)
  | ok fd =>
    obtain ⟨hpos, hf⟩ := Server.handOut_ok ho
    have hf : s.files fd = none := hf
    have hclose : Function.update (Function.update s.files fd (some ⟨s.nextFile, .unconnected⟩)) fd none = s.files := by
      rw [Function.update_idem, ← hf, Function.update_eq_self]
    cases attempt.setNonblocking with
    | error e =>
      refine .inl ⟨e.code, _, e.ne_zero, rfl, ?_⟩
      have := hblink _ e.code fd e.ne_zero hf ((h0.put { v.state with lastConnectError := e.code } rfl rfl rfl).setErrno e)
      simpa [Server.blink, Server.openFd, Server.put, Server.setErrno, Server.close, Server.observe, hclose] using this
    | ok =>
      -- the end of both branches of `connect`: the socket is registered if its number is valid
      have hregister : ∀ (s1 : Server) (c : ConnectStatus), c.Started → s1.errno ≠ 0 → s1.selector = s.selector →
          Served sid s s1 v [.attempted addr] →
          (∃ e s', e ≠ 0 ∧ registerConnectingSocket (((s1.openFd fd).put sid { v.state with targetFd := fd }).setConnect fd c)
              sid fd = (s', false) ∧
            Worked sid s s' { v with state := { v.state with lastConnectError := e } } [.attempted addr]) ∨
          ∃ s', registerConnectingSocket (((s1.openFd fd).put sid { v.state with targetFd := fd }).setConnect fd c) sid fd =
              (s', true) ∧
            Worked sid s s'
              { v with
                state := { v.state with targetFd := fd, stage := .connecting }
                targetInterest := some opWrite
                connect := some c } [.attempted addr] := by
        intro s1 c hc he1 hsel h1
        have hw1 := Worked.of_served own jobs h1
        have hf1 : s1.files fd = none := by
          rw [(Server.resources_eq h1.resources).1]
          exact hf
        have hup : Function.update (Function.update (Function.update s1.files fd (some ⟨s1.nextFile, .unconnected⟩)) fd
            (some ⟨s1.nextFile, c⟩)) fd none = s1.files := by
          rw [Function.update_idem, Function.update_idem, ← hf1, Function.update_eq_self]
        unfold registerConnectingSocket Server.register
        cases hv : invalidFd fd with
        | true =>
          refine .inl ⟨s1.errno, _, he1, ?_, hblink (s1.put sid { v.state with lastConnectError := s1.errno }) s1.errno fd he1
            hf (h1.put _ rfl rfl rfl)⟩
          simp only [FdSelector.selectorRegister_of_invalid hv, Server.openFd, Server.put, Server.setConnect,
            Function.update_self, Function.update_idem, ne_eq, reduceCtorEq, not_false_eq_true, if_true, Server.close, hfail,
            Server.blink, List.append_assoc, List.singleton_append]
          rw [← hf1, Function.update_eq_self]
        | false =>
          refine .inr ⟨_, ?_, by simpa using hw1.trans (worked_attach hw1.own hw1.jobs hw1.life ht hv hf1 c)⟩
          have hslot : s1.selector.slot fd = none := by
            have := hw1.own.opened fd
            rw [hf1] at this
            simpa using this.symm
          obtain ⟨hst, _⟩ := FdSelector.selectorRegister_of_free hv (by rw [hw1.own.size]; omega) hslot FdHandler.targetHandler
            opWrite (some sid) true
          simp only [Server.openFd, Server.put, Server.setConnect, Function.update_self, Function.update_idem, hst, ne_eq,
            not_true_eq_false, if_false, Server.attach]
      cases attempt.connect with
      | error e =>
        by_cases hp : e = .einprogress
        · have h1 := h0.setErrno e
          dsimp only
          rw [if_neg (not_not.mpr hp)]
          rcases hregister ((s.observe ([.attempted addr].map (.act sid))).setErrno e) .pending (.inl rfl) e.ne_zero rfl h1 with
            ⟨e', s', h1, h2, h3⟩ | ⟨s', h2, h3⟩
          · exact .inl ⟨e', s', h1, h2, h3⟩
          · exact .inr ⟨fd, .pending, s', by omega, .inl rfl, h2, h3⟩
        · dsimp only
          rw [if_pos hp]
          refine .inl ⟨e.code, _, e.ne_zero, rfl, ?_⟩
          have := hblink _ e.code fd e.ne_zero hf ((h0.put { v.state with lastConnectError := e.code } rfl rfl rfl).setErrno e)
          simpa [Server.blink, Server.openFd, Server.put, Server.setErrno, Server.close, Server.observe, hclose, hfail] using this
      | ok =>
        rcases hregister (s.observe ([.attempted addr].map (.act sid))) (.completed 0) (.inr rfl) he rfl h0 with ⟨e', s', h1, h2, h3⟩ | ⟨s', h2, h3⟩
        · exact .inl ⟨e', s', h1, h2, h3⟩
        · exact .inr ⟨fd, .completed 0, s', by omega, .inr rfl, h2, h3⟩

/-- The loop over the addresses follows the trying of addresses one after another. -/
theorem startNextLoop_worked (l : List AddrInfo) (attempts : List Attempt) (own : Own s) (jobs : JobsOwned s)
    (hl : s.life sid = .live v) (ht : v.state.targetFd = -1) (he : s.errno ≠ 0) :
    (∃ st' acts s', Tries v.state l acts st' none ∧ startNextLoop sid l attempts s = (s', false) ∧
      Worked sid s s' { v with state := st' } acts) ∨
    ∃ st' acts c s', Tries v.state l acts st' (some c) ∧ startNextLoop sid l attempts s = (s', true) ∧
      Worked sid s s' { v with state := st', targetInterest := some opWrite, connect := some c } acts := by
  induction l generalizing s v attempts with
  | nil => exact .inl ⟨v.state, [], s, .exhausted _, rfl, .of_served own jobs (Served.refl hl (own.held hl))⟩
  | cons current next ih =>
    obtain ⟨hs, _⟩ := Server.sessions_of_life hl
    have h1 := (Served.refl hl (own.held hl)).put { v.state with targetAddressCurrent := next } rfl rfl rfl
    have hw1 := Worked.of_served own jobs h1
    unfold startNextLoop
    simp only [hs]
    by_cases hfam : current.family ≠ .inet ∧ current.family ≠ .inet6
    · rw [if_pos hfam]
      rcases ih attempts hw1.own hw1.jobs hw1.life ht he with ⟨st', acts, s', htr, heq, hw⟩ | ⟨st', acts, c, s', htr, heq, hw⟩
      · exact .inl ⟨st', acts, s', .skipped hfam.1 hfam.2 htr, heq, by simpa using hw1.trans hw⟩
      · exact .inr ⟨st', acts, c, s', .skipped hfam.1 hfam.2 htr, heq, by simpa using hw1.trans hw⟩
    · rw [if_neg hfam]
      have hfam' : current.family = .inet ∨ current.family = .inet6 := by
        rw [not_and_or, not_not, not_not] at hfam
        exact hfam
      rcases startTargetConnection_worked hw1.own hw1.jobs hw1.life ht he current.addr (attempts.headD .exhausted) with
        ⟨e, s2, hne, heq2, hw2⟩ | ⟨fd, c, s2, hfd, hc, heq2, hw2⟩
      · rw [heq2]
        have hw12 := hw1.trans hw2
        rcases ih attempts.tail hw12.own hw12.jobs hw12.life ht (hw12.frame.errno he) with
          ⟨st', acts, s', htr, heq, hw⟩ | ⟨st', acts, c, s', htr, heq, hw⟩
        · exact .inl ⟨st', _, s', .failed hfam' hne htr, heq, hw12.trans hw⟩
        · exact .inr ⟨st', _, c, s', .failed hfam' hne htr, heq, hw12.trans hw⟩
      · rw [heq2]
        exact .inr ⟨_, _, c, s2, .started hfam' hfd hc, rfl, by simpa using hw1.trans hw2⟩

/-- Starting with the saved position in the list. -/
theorem startNextTargetConnection_eq (hl : s.life sid = .live v) (attempts : List Attempt) :
    startNextTargetConnection s sid attempts = startNextLoop sid v.state.targetAddressCurrent attempts s := by
  simp [startNextTargetConnection, (Server.sessions_of_life hl).1]

end Attempt

/-! ## Resolver jobs -/

section Resolver

variable {s : Server} {sid : Nat} {v : View}

/-- A session whose slots and descriptors are as before is settled. -/
theorem Settled.same {s' : Server} {state state' : ClientState} (own : Own s) (hs : s.sessions sid = some state)
    (hsel : s'.selector = s.selector) (hfiles : s'.files = s.files) (hsh : s'.shared = s.shared)
    (hs' : s'.sessions sid = some state') (hc : state'.clientFd = state.clientFd) (ht : state'.targetFd = state.targetFd)
    (hso : ∀ sid', sid' ≠ sid → s'.sessions sid' = s.sessions sid') (hn : s.nextObject ≤ s'.nextObject) : Settled sid s' := by
  obtain ⟨hm, _, hl, hl', _⟩ := Server.shared_eq hsh
  refine ⟨fun fd item hi ho => ?_, fun st hst => ?_, fun st hst hne => ?_, fun fd => ?_, fun _ => ?_⟩
  · rw [hsel] at hi
    refine ⟨own.indexed fd item hi, SlotOwned.congr rfl (fun sid' _ st hst => ?_) (fun mid hmid => hm ▸ hmid) hl hl'
      (own.owned fd item hi)⟩
    by_cases he : sid' = sid
    · subst he
      rw [hs] at hst
      cases hst
      exact ⟨state', hs', hc, ht⟩
    · exact ⟨st, (hso sid' he).trans hst, rfl, rfl⟩
  · rw [hs'] at hst
    cases hst
    unfold Server.Registered
    rw [hsel, hc]
    exact own.client sid state hs
  · rw [hs'] at hst
    cases hst
    unfold Server.Registered
    rw [hsel, ht]
    exact own.target sid state hs (ht ▸ hne)
  · rw [hsel, hfiles]
    exact own.opened fd
  · by_contra hlt
    rw [(own.fresh sid (by omega)).1] at hs
    cases hs

/-- An object that was made and given up at once is nobody's. -/
theorem frame_skip (sid : Nat) (s : Server) : Frame sid s { s with nextObject := s.nextObject + 1 } [] :=
  { Frame.refl sid s with nextObject := Nat.le_succ _ }

/-- An object that was made and given up at once leaves ownership in order. -/
theorem own_skip (own : Own s) : Own { s with nextObject := s.nextObject + 1 } :=
  { own with fresh := fun o ho => own.fresh o (Nat.le_of_succ_le ho) }

/-- An object that was made and given up at once leaves everything in order. -/
theorem worked_skip (own : Own s) (jobs : JobsOwned s) (hl : s.life sid = .live v) :
    Worked sid s { s with nextObject := s.nextObject + 1 } v [] := by
  obtain ⟨hs, hv⟩ := Server.sessions_of_life hl
  refine ⟨own_skip own, jobs.congr (fun _ => rfl) rfl rfl (Nat.le_succ _), fun _ => .congr rfl (fun _ => rfl) rfl rfl,
    frame_skip sid s, ?_⟩
  rw [Server.life_of_some (s := { s with nextObject := s.nextObject + 1 }) hs]
  exact congrArg Life.live hv

/-- A resolver was started for a session, or it could not be and nothing has changed. -/
theorem startTargetResolution_worked (own : Own s) (jobs : JobsOwned s) (hl : s.life sid = .live v)
    (hj : v.state.resolverJob = none) (host : CString) (port : UInt16) (start : ResolverStart) :
    (∃ s', startTargetResolution s sid host port start = (s', false) ∧ Worked sid s s' v []) ∨
    ∃ job s', startTargetResolution s sid host port start = (s', true) ∧
      Worked sid s s' { v with state := { v.state with resolverJob := some job } } [] := by
  obtain ⟨hs, hv⟩ := Server.sessions_of_life hl
  have hold : s.waits sid = none := by simp [waits_of_some hs, hj]
  unfold startTargetResolution
  rw [hs]
  cases start with
  | noMemory => exact .inl ⟨s, rfl, .of_served own jobs (Served.refl hl (own.held hl))⟩
  | noMutex => exact .inl ⟨_, rfl, worked_skip own jobs hl⟩
  | noThread =>
    have hw := worked_skip own jobs hl
    have hsame : ({ v.state with resolverJob := none } : ClientState) = v.state := by rw [← hj]
    have hp := hw.serve (hw.refl.put v.state rfl rfl rfl)
    exact .inl ⟨_, rfl, by simpa [hsame] using hp⟩
  | started =>
    refine .inr ⟨s.nextObject, _, rfl, ?_⟩
    set record : ResolverJob :=
      { clientFd := v.state.clientFd, state := some sid, host := host.snprintf (socks5MaxDomainLength + 1),
        port := decimal port.toNat, result := [], status := eaiAgain, done := false } with hrec
    set s' : Server := Server.put
      { s with
        nextObject := s.nextObject + 1
        jobs := Function.update s.jobs s.nextObject (some record)
        threads := Function.update s.threads s.nextObject .resolving } sid
      { v.state with resolverJob := some s.nextObject } with hs'
    have hsess : s'.sessions sid = some { v.state with resolverJob := some s.nextObject } := by simp [hs', Server.put]
    have hso : ∀ sid', sid' ≠ sid → s'.sessions sid' = s.sessions sid' := by
      intro sid' hne
      simp [hs', Server.put, Function.update_of_ne hne]
    have fr : Frame sid s s' [] :=
      { Frame.refl sid s with
        sessions := hso
        nextObject := Nat.le_succ _
        jobs := fun job hlt _ => by
          refine ⟨Function.update_of_ne (Nat.ne_of_lt hlt) _ _, fun fd => ?_⟩
          rw [waits_of_some hsess]
          simp only [Option.map_some, ne_eq, Option.some.injEq, Prod.mk.injEq, not_and]
          omega
        threads := fun job => by
          by_cases he : job = s.nextObject
          · subst he
            exact .inr ⟨Nat.le_refl _, Function.update_self _ _ _⟩
          · exact .inl (Function.update_of_ne he _ _)
        results := fun job => by
          by_cases he : job = s.nextObject
          · subst he
            exact .inl (by simp [Server.resultOf, hs', Server.put, hrec])
          · exact .inr (Server.resultOf_congr (Function.update_of_ne he _ _)) }
    have hw : s'.waits sid = some (s.nextObject, v.state.clientFd) := by rw [waits_of_some hsess]; rfl
    have hwo : ∀ sid', sid' ≠ sid → s'.waits sid' = s.waits sid' := fun sid' hne => waits_congr (hso sid' hne)
    refine ⟨own.frame fr (.same own hs rfl rfl rfl hsess rfl rfl hso (Nat.le_succ _)),
      jobs.start record v.state.clientFd rfl rfl rfl hold hw hwo rfl rfl rfl,
      fun _ => ⟨fun hq => hq.start jobs record hold hwo rfl rfl, fun ha => ha.start jobs rfl hw hwo rfl⟩, fr, ?_⟩
    rw [Server.life_of_some hsess]
    exact congrArg (fun w : View => Life.live { w with state := { v.state with resolverJob := some s.nextObject } }) hv

end Resolver

end SocksProxy
