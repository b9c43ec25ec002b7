import SocksProxy.Lemmas.Resolving

/-!
# The main loop and its end

The steps of the process that no handler takes: the kernel completes a connection, a signal arrives, the listeners are closed,
the loop is left, and the selector is destroyed, slot by slot.
-/

namespace SocksProxy

section Kernel

variable {env : Nat → Env} {s : Server}

/-- A connection that was under way has completed. -/
theorem connectDone_inv (h : Inv s) (fd : Int) (error : Nat) :
    Inv (connectDone s fd error) ∧ Lives env s (connectDone s fd error) := by
  unfold connectDone
  cases hf : s.files fd with
  | none => exact ⟨h, .refl s⟩
  | some file =>
    dsimp only
    split
    · rename_i hp
      have heq : s.setConnect fd (.completed error) =
          { s with files := Function.update s.files fd (some { file with connect := .completed error }) } := by
        simp [Server.setConnect, hf]
      rw [heq]
      obtain ⟨item, hi⟩ : ∃ item, s.selector.slot fd = some item := by
        have := h.own.opened fd
        rw [hf] at this
        exact Option.isSome_iff_exists.mp this.symm
      have own' : Own { s with files := Function.update s.files fd (some { file with connect := .completed error }) } :=
        { h.own with
          opened := fun fd' => by
            by_cases he : fd' = fd
            · subst he
              simp [hi]
            · simp only [Function.update_of_ne he]
              exact h.own.opened fd'
          ledger := h.own.ledger.setConnect hf _ }
      by_cases ho : ∃ sid, item.Of sid
      · obtain ⟨sid, ho⟩ := ho
        obtain ⟨state, hs, hfd⟩ := h.own.fd_of_slot hi ho
        have fr : Frame sid s { s with files := Function.update s.files fd (some { file with connect := .completed error }) }
            [] := { Frame.refl sid s with
          kept := fun fd' item' hi' ho' => by
            have he : fd' ≠ fd := by
              rintro rfl
              rw [hi] at hi'
              cases hi'
              exact ho' ho
            exact ⟨hi', Function.update_of_ne he _ _⟩
          ledger := fun hl => hl.setConnect hf _ }
        refine h.handled (Server.life_of_some hs) ⟨own', { h.jobs with }, fun _ => .congr rfl (fun _ => rfl) rfl rfl, [], fr, ?_⟩
        rw [Server.life_of_some hs, @Server.life_of_some _ _ state (by exact hs)]
        rcases hfd with ⟨_, rfl⟩ | ⟨_, rfl⟩
        · -- a client's socket: the session sees nothing of it
          have hne := (h.own.fds hs).apart
          have : s.viewOf state = Server.viewOf { s with
              files := Function.update s.files state.clientFd (some { file with connect := .completed error }) } state := by
            simp [Server.viewOf, Server.interest, Server.connect, Function.update_of_ne hne.symm]
          rw [← this]
          exact .refl _
        · have hc : (s.viewOf state).connect = some .pending := by simp [Server.viewOf, Server.connect, hf, hp]
          have : SessionStep (env sid) _ _ (.live { s.viewOf state with connect := some (.completed error) }) := .connectDone hc
          refine .single ?_
          simpa [Server.viewOf, Server.interest, Server.connect] using this
      · refine h.aside ⟨rfl, fun sid fd' item' ho' hi' => ?_, Nat.le_refl _, id, fun _ _ => .of_sub rfl (fun fd' f hf' => ?_)
          (fun _ _ hi' => hi') List.prefix_rfl, [], by simp, fun _ => rfl, rfl⟩ own' { h.jobs with }
          (fun hne => { h.notices hne with }) (fun _ => id) { h.listening with }
        · have he : fd' ≠ fd := by
            rintro rfl
            rw [hi] at hi'
            cases hi'
            exact ho ⟨sid, ho'⟩
          exact ⟨hi', Function.update_of_ne he _ _⟩
        · by_cases he : fd' = fd
          · subst he
            simp only [Function.update_self, Option.some.injEq] at hf'
            exact ⟨file, hf, by rw [← hf']⟩
          · exact ⟨f, by simpa [Function.update_of_ne he] using hf', rfl⟩
    · exact ⟨h, .refl s⟩

/-- A signal changes two flags. -/
theorem sigtermHandler_inv (h : Inv s) : Inv (sigtermHandler s) ∧ Lives env s (sigtermHandler s) := by
  unfold sigtermHandler
  split
  · exact h.aside (.same rfl (fun _ => rfl) rfl rfl (Nat.le_refl _) id rfl rfl) { h.own with } { h.jobs with } (fun hne => { h.notices hne with })
      (fun _ => id) { h.listening with }
  · exact h.aside (.same rfl (fun _ => rfl) rfl rfl (Nat.le_refl _) id rfl rfl) { h.own with } { h.jobs with } (fun hne => { h.notices hne with })
      (fun _ => id) { h.listening with }

/-- The main loop is left. -/
theorem Inv.exit (h : Inv s) (hp : s.phase ≠ .destroyed) :
    Inv { s with phase := .exited } ∧ Lives env s { s with phase := .exited } :=
  h.aside (.same rfl (fun _ => rfl) rfl rfl (Nat.le_refl _) id rfl rfl) { h.own with } { h.jobs with } (fun _ => { h.notices hp with })
    (fun _ ha _ => ha hp) { h.listening with registered := fun h1 _ => h.listening.registered h1 hp }

/-- The test of the main loop. -/
theorem loopTest_inv (h : Inv s) (hp : s.phase ≠ .destroyed) : Inv (loopTest s) ∧ Lives env s (loopTest s) := by
  unfold loopTest
  split
  · exact h.exit hp
  · exact ⟨h, .refl s⟩

end Kernel

/-! ## The listeners -/

section Listeners

variable {env : Nat → Env} {s : Server} {fd : Int} {item : Item FdHandler Nat}

/-- A slot of a listener is no session's and no management connection's. -/
theorem Item.Listens.ne {handler : FdHandler} (hl : item.Listens) (hh : item.handler = some handler)
    (hne : handler ≠ .acceptHandler ∧ handler ≠ .managementAcceptHandler) : False := by
  rcases hl with h | h <;> rw [hh] at h <;> cases h
  · exact hne.1 rfl
  · exact hne.2 rfl

/-- A listener that is given up leaves the registrations of the others. -/
theorem Registered.forget_listener (hi : s.selector.slot fd = some item) (hl : item.Listens) {fd' : Int}
    {handler : FdHandler} {data : Option Nat} (hne : handler ≠ .acceptHandler ∧ handler ≠ .managementAcceptHandler)
    (h : s.Registered fd' handler data) : (s.forget fd).Registered fd' handler data := by
  obtain ⟨item', hi', hh, hd⟩ := h
  refine ⟨item', ?_, hh, hd⟩
  rw [Server.slot_forget (FdSelector.valid_of_slot hi), if_neg ?_, hi']
  rintro rfl
  rw [hi] at hi'
  cases hi'
  exact hl.ne hh hne

/-- A listener that is given up leaves ownership in order. -/
theorem own_forget_listener (own : Own s) (hi : s.selector.slot fd = some item) (hl : item.Listens) : Own (s.forget fd) := by
  have hv := FdSelector.valid_of_slot hi
  have hback : ∀ fd' item', (s.forget fd).selector.slot fd' = some item' → s.selector.slot fd' = some item' := by
    intro fd' item' hi'
    rw [Server.slot_forget hv] at hi'
    split at hi'
    · cases hi'
    · exact hi'
  refine {
    selector := own.selector.clearItem hv
    size := own.size
    indexed := fun fd' item' hi' => own.indexed fd' item' (hback fd' item' hi')
    owned := fun fd' item' hi' => own.owned fd' item' (hback fd' item' hi')
    client := fun sid state hs => Registered.forget_listener hi hl (by decide) (own.client sid state hs)
    target := fun sid state hs ht => Registered.forget_listener hi hl (by decide) (own.target sid state hs ht)
    management := fun mid fd1 fd2 ⟨i1, h1, hd1⟩ ⟨i2, h2, hd2⟩ =>
      own.management mid fd1 fd2 ⟨i1, hback fd1 i1 h1, hd1⟩ ⟨i2, hback fd2 i2 h2, hd2⟩
    opened := fun fd' => ?_
    ledger := Server.ledger_forget fd own.ledger
    fresh := own.fresh
    faults := own.faults }
  rw [Server.slot_forget hv, Server.files_forget]
  split
  · rfl
  · exact own.opened fd'

/-- A listener that is given up is no session's. -/
theorem aside_forget_listener (hi : s.selector.slot fd = some item) (hl : item.Listens) : Aside s (s.forget fd) := by
  obtain ⟨obs, ht, ha, hc⟩ := Server.forget_trace s fd
  have hv := FdSelector.valid_of_slot hi
  refine ⟨rfl, fun sid fd' item' ho hi' => ?_, Nat.le_refl _, id, fun _ _ => .of_sub rfl (fun fd' f hf => ?_)
    (fun fd' item' hi' => ?_) (ht ▸ List.prefix_append ..), obs, ht, ha, (hc _).symm⟩
  · have hne : fd' ≠ fd := by
      rintro rfl
      rw [hi] at hi'
      cases hi'
      rcases ho.1 with hh | hh
      · exact hl.ne hh (by decide)
      · exact hl.ne hh (by decide)
    rw [Server.slot_forget hv, Server.files_forget, if_neg hne, if_neg hne]
    exact ⟨hi', rfl⟩
  · rw [Server.files_forget] at hf
    split at hf
    · cases hf
    · exact ⟨f, hf, rfl⟩
  · rw [Server.slot_forget hv] at hi'
    split at hi'
    · cases hi'
    · exact hi'

/-- Unregistering a listener clears its slot and calls nothing. -/
theorem unregister_listener (own : Own s) (hi : s.selector.slot fd = some item) (hl : item.Listens) :
    (s.unregister fd).1 = { s with selector := s.selector.clearItem fd } := by
  unfold Server.unregister unregisterFd
  rw [selectorUnregisterFd_of_slot own.size hi]
  rcases hl with hh | hh <;> rw [hh] <;> rfl

/-- What the server is once its listeners are closed. -/
structure Stopped (s s' : Server) : Prop where
  own : Own s'
  aside : Aside s s'
  jobs : s'.jobs = s.jobs
  threads : s'.threads = s.threads
  queue : s'.selector.resolutionJobs = s.selector.resolutionJobs
  phase : s'.phase = s.phase
  stoppedAccepting : s'.stoppedAccepting = s.stoppedAccepting
  nextObject : s'.nextObject = s.nextObject
  undisturbed : Undisturbed s s'
  active : s'.activeClientConnections = s.activeClientConnections
  unheard : Unheard s s'
  silent : ∀ fd item, s'.selector.slot fd = some item → ¬item.Listens
  foreign : ∀ fd item, s'.selector.slot fd = some item → s.selector.slot fd = some item

/-- Closing the listeners gives up their descriptors and nothing else. -/
theorem closeListeners_eq (own : Own s) (hr : s.Registered s.serverFd .acceptHandler none)
    (hr' : s.Registered s.managementFd .managementAcceptHandler none) :
    s.managementFd ≠ s.serverFd ∧ closeListeners s = (s.forget s.serverFd).forget s.managementFd := by
  obtain ⟨item, hi, hh, _⟩ := hr
  obtain ⟨item', hi', hh', _⟩ := hr'
  have hne : s.managementFd ≠ s.serverFd := by
    intro he
    rw [he, hi] at hi'
    cases hi'
    rw [hh] at hh'
    cases hh'
  have hi1 : (s.forget s.serverFd).selector.slot s.managementFd = some item' := by
    rw [Server.slot_forget (FdSelector.valid_of_slot hi), if_neg hne, hi']
  have hopen : ∀ fd item, s.selector.slot fd = some item → ∃ f, s.files fd = some f := by
    intro fd item hi
    have := own.opened fd
    rw [hi] at this
    exact Option.isSome_iff_exists.mp this
  obtain ⟨f, hf⟩ := hopen _ _ hi
  obtain ⟨f', hf'⟩ := hopen _ _ hi'
  have hstep : (Server.unregister { s with selector := s.selector.clearItem s.serverFd } s.managementFd).1 =
      { s with selector := (s.selector.clearItem s.serverFd).clearItem s.managementFd } := by
    unfold Server.unregister unregisterFd
    rw [selectorUnregisterFd_of_slot (s := { s with selector := s.selector.clearItem s.serverFd }) own.size hi1, hh']
    rfl
  refine ⟨hne, ?_⟩
  unfold closeListeners
  simp only [unregister_listener own hi (.inl hh), hstep]
  simp [Server.close, Server.forget, hf, hf', Function.update_of_ne hne]

/-- The slots that are left when the listeners are closed. -/
theorem slot_forget_listeners (hr : s.Registered s.serverFd .acceptHandler none)
    (hr' : s.Registered s.managementFd .managementAcceptHandler none) (fd : Int) :
    ((s.forget s.serverFd).forget s.managementFd).selector.slot fd =
      if fd = s.managementFd ∨ fd = s.serverFd then none else s.selector.slot fd := by
  obtain ⟨item, hi, _⟩ := hr
  obtain ⟨item', hi', _⟩ := hr'
  rw [Server.slot_forget (FdSelector.valid_of_slot hi'), Server.slot_forget (FdSelector.valid_of_slot hi)]
  by_cases hm : fd = s.managementFd
  · rw [if_pos hm, if_pos (.inl hm)]
  · by_cases hs : fd = s.serverFd
    · rw [if_neg hm, if_pos hs, if_pos (.inr hs)]
    · rw [if_neg hm, if_neg hs, if_neg (not_or.mpr ⟨hm, hs⟩)]

/-- Closing the listeners closes their descriptors and clears their slots. -/
theorem closeListeners_stopped (own : Own s) (hr : s.Registered s.serverFd .acceptHandler none)
    (hr' : s.Registered s.managementFd .managementAcceptHandler none) : Stopped s (closeListeners s) := by
  obtain ⟨hne, heq⟩ := closeListeners_eq own hr hr'
  have hback : ∀ fd item0, ((s.forget s.serverFd).forget s.managementFd).selector.slot fd = some item0 →
      fd ≠ s.managementFd ∧ fd ≠ s.serverFd ∧ s.selector.slot fd = some item0 := by
    intro fd item0 h0
    rw [slot_forget_listeners hr hr'] at h0
    split at h0
    · cases h0
    · rename_i hno
      exact ⟨fun he => hno (.inl he), fun he => hno (.inr he), h0⟩
  obtain ⟨item, hi, hh, _⟩ := hr
  obtain ⟨item', hi', hh', _⟩ := hr'
  have own1 := own_forget_listener own hi (.inl hh)
  have hi1 : (s.forget s.serverFd).selector.slot s.managementFd = some item' := by
    rw [Server.slot_forget (FdSelector.valid_of_slot hi), if_neg hne, hi']
  have own2 := own_forget_listener own1 hi1 (.inr hh')
  rw [heq]
  refine ⟨own2, (aside_forget_listener hi (.inl hh)).trans own1 (aside_forget_listener hi1 (.inr hh')), rfl, rfl, rfl, rfl, rfl, rfl,
    .same rfl rfl (Nat.le_refl _) rfl fun _ => rfl, rfl, ⟨⟨fun _ h => h, fun _ h => h, fun fd item0 h0 _ => (hback fd item0 h0).2.2⟩,
      rfl, fun _ state h => ⟨state, _, h, rfl⟩⟩, fun fd item0 h0 hl => ?_,
    fun fd item0 h0 => (hback fd item0 h0).2.2⟩
  obtain ⟨h1, h2, h3⟩ := hback fd item0 h0
  have ho := own.owned fd item0 h3
  unfold Server.SlotOwned at ho
  rcases hl with hh0 | hh0 <;> rw [hh0] at ho
  · exact h2 ho
  · exact h1 ho

/-- The shutdown's part in the main loop keeps the invariant. -/
theorem shutdownCheck_inv (h : Inv s) (hp : s.phase ≠ .destroyed) : Inv (shutdownCheck s) ∧ Lives env s (shutdownCheck s) := by
  have hfirst : ∃ s1, s1 = (if s.shutdownRequested && !s.stoppedAccepting then closeListeners { s with stoppedAccepting := true }
      else s) ∧ s1.phase ≠ .destroyed ∧ Inv s1 ∧ Lives env s s1 := by
    refine ⟨_, rfl, ?_⟩
    split
    · rename_i hc
      have hsa : s.stoppedAccepting = false := by
        rw [Bool.and_eq_true] at hc
        simpa using hc.2
      obtain ⟨hr, hr'⟩ := h.listening.registered hsa hp
      have hst := closeListeners_stopped (s := { s with stoppedAccepting := true }) { h.own with } hr hr'
      have hflag : Aside s { s with stoppedAccepting := true } :=
        .same rfl (fun _ => rfl) rfl rfl (Nat.le_refl _) id rfl rfl
      have ha : Aside s (closeListeners { s with stoppedAccepting := true }) := hflag.trans { h.own with } hst.aside
      refine ⟨by rw [hst.phase]; exact hp, h.aside ha hst.own ?_ (fun _ => ?_)
        (fun _ hatt => by rw [hst.queue]; exact hatt.congr hst.phase ha.waits hst.threads) ?_⟩
      · exact h.jobs.congr ha.waits hst.jobs hst.threads hst.nextObject.ge
      · rw [hst.queue]
        exact (h.notices hp).congr ha.waits hst.jobs hst.threads
      · refine ⟨fun h1 => ?_, fun _ => hst.silent, fun fd item hi hl => absurd hl (hst.silent fd item hi)⟩
        rw [hst.stoppedAccepting] at h1
        cases h1
    · exact ⟨hp, h, .refl s⟩
  obtain ⟨s1, hs1, hp1, h1, l1⟩ := hfirst
  unfold shutdownCheck
  rw [← hs1]
  dsimp only
  split
  · obtain ⟨h2, l2⟩ : _ ∧ Lives env _ _ := h1.exit hp1
    exact ⟨h2, l1.trans l2⟩
  · exact ⟨h1, l1⟩

end Listeners

/-! ## The end of the selector -/

/-- What holds while the selector is destroyed: ownership, and every session is as it was or has been freed. -/
structure Ending (s0 s : Server) : Prop where
  own : Own s
  jobs : JobsOwned s
  silent : ∀ fd item, s.selector.slot fd = some item → ¬item.Listens
  fate : ∀ sid, s.sessions sid ≠ none ∧ s0.sessions sid ≠ none ∧ s.acts sid = s0.acts sid ∨
    s.sessions sid = none ∧ s.acts sid = s0.acts sid ++ if s0.sessions sid = none then [] else [.freed]
  undisturbed : Undisturbed s0 s
  unheard : Unheard s0 s
  custody : Custody s0 s
  accounts : s.accounts = s.trace.foldl Accounts.countObs .zeroed

section Destroy

variable {env : Nat → Env} {s0 s : Server}

/-- A session gave up its target, on the way to being freed itself. -/
theorem Ending.target (h : Ending s0 s) {sid : Nat} {v v' : View} {s' : Server} (hl : s.life sid = .live v)
    (hw : Worked sid s s' v' []) : Ending s0 s' := by
  have hs := (Server.sessions_of_life hl).1
  have hs' := (Server.sessions_of_life hw.life).1
  refine ⟨hw.own, hw.jobs, fun fd item hi hli => ?_, fun sid' => ?_, h.undisturbed.trans (.of_frame hw.frame),
    h.unheard.trans (.of_frame (by simp [hs]) hw.frame), h.custody.trans (hw.frame.custody h.own hw.own),
    hw.frame.accounts_eq h.accounts⟩
  · refine h.silent fd item (hw.frame.foreign fd item hi ?_) hli
    rintro ⟨hh | hh, _⟩
    · exact hli.ne hh (by decide)
    · exact hli.ne hh (by decide)
  · by_cases he : sid' = sid
    · subst he
      have ha := hw.frame.acts_self
      rw [List.append_nil] at ha
      rw [hs', ha]
      rcases h.fate sid' with ⟨_, h2, h3⟩ | ⟨h1, _⟩
      · exact .inl ⟨by simp, h2, h3⟩
      · rw [hs] at h1
        cases h1
    · rw [hw.frame.sessions sid' he, hw.frame.acts_other he]
      exact h.fate sid'

/-- A session was freed. -/
theorem Ending.drop (h : Ending s0 s) {sid : Nat} {state : ClientState} (hs : s.sessions sid = some state) :
    Ending s0 (s.drop sid state) := by
  have fr := frame_drop h.own hs
  refine ⟨own_drop h.own hs, h.jobs.drop hs, fun fd item hi hli => ?_, fun sid' => ?_, h.undisturbed.trans (.of_frame fr),
    h.unheard.trans (.of_frame (by simp [hs]) fr), h.custody.trans (fr.custody h.own (own_drop h.own hs)),
    fr.accounts_eq h.accounts⟩
  · rw [slot_drop h.own hs] at hi
    split at hi
    · cases hi
    · exact h.silent fd item hi hli
  · by_cases he : sid' = sid
    · subst he
      rw [fr.acts_self, sessions_drop, Function.update_self]
      rcases h.fate sid' with ⟨_, h2, h3⟩ | ⟨h1, _⟩
      · exact .inr ⟨rfl, by rw [h3, if_neg h2]⟩
      · rw [hs] at h1
        cases h1
    · rw [fr.sessions sid' he, fr.acts_other he]
      exact h.fate sid'

/-- Something happened aside from all sessions. -/
theorem Ending.aside (h : Ending s0 s) {s' : Server} (ha : Aside s s') (hu : Undisturbed s s') (hn : Unheard s s')
    (own' : Own s') (hj : s'.jobs = s.jobs) (ht : s'.threads = s.threads)
    (silent : ∀ fd item, s'.selector.slot fd = some item → ¬item.Listens) : Ending s0 s' := by
  obtain ⟨obs, htr, hacts, _⟩ := ha.trace
  refine ⟨own', h.jobs.congr ha.waits hj ht ha.nextObject, silent, fun sid => ?_, h.undisturbed.trans hu, h.unheard.trans hn,
    h.custody.trans (ha.custody h.own own'),
    ha.accounts_eq h.accounts⟩
  have : s'.acts sid = s.acts sid := by simp only [Server.acts, htr, Obs.acts_append, hacts, List.append_nil]
  rw [this, ha.sessions]
  exact h.fate sid

/-- One slot in use is unregistered: it is cleared, and no slot comes into use. -/
theorem Ending.unregister (h : Ending s0 s) {fd : Int} {item : Item FdHandler Nat} (hi : s.selector.slot fd = some item) :
    Ending s0 (s.unregister fd).1 ∧ (s.unregister fd).1.selector.slot fd = none ∧
      ∀ fd', s.selector.slot fd' = none → (s.unregister fd).1.selector.slot fd' = none := by
  cases hh : item.handler with
  | none =>
    have ho := h.own.owned fd item hi
    unfold Server.SlotOwned at ho
    rw [hh] at ho
    exact ho.elim
  | some handler =>
    cases handler with
    | acceptHandler => exact absurd (.inl hh) (h.silent fd item hi)
    | managementAcceptHandler => exact absurd (.inr hh) (h.silent fd item hi)
    | clientHandler =>
      obtain ⟨sid, v, hl, rfl, _, _⟩ := h.own.clientSlot hi hh
      have hs := (Server.sessions_of_life hl).1
      rw [unregister_client h.own h.jobs hs]
      refine ⟨h.drop hs, by rw [slot_drop h.own hs, if_pos (.inl rfl)], fun fd' hn => ?_⟩
      rw [slot_drop h.own hs, hn]
      simp
    | targetHandler =>
      obtain ⟨sid, v, hl, rfl, _, _⟩ := h.own.targetSlot hi hh
      have ht := ne_neg_one_of_slot hi
      refine ⟨h.target hl (unregister_target_worked h.own h.jobs hl ht), ?_⟩
      rw [unregister_target_eq h.own hl ht]
      have hslot := Server.slot_forget (s := s.put sid { v.state with targetFd := -1 }) (FdSelector.valid_of_slot hi)
      refine ⟨(hslot _).trans (if_pos rfl), fun fd' hn => ?_⟩
      rw [hslot]
      split
      · rfl
      · exact hn
    | managementClientHandler =>
      obtain ⟨mid, hm⟩ := h.own.managementSlot hi hh
      have hman := unregister_management h.own hm
      obtain ⟨hj, ht, _⟩ := Server.quiet_eq hman.quiet
      have hslot : ∀ fd', (s.unregister fd).1.selector.slot fd' = if fd' = fd then none else s.selector.slot fd' := by
        rw [unregister_management_eq h.own hm]
        exact Server.slot_forget (s := { s with managements := Function.update s.managements mid none })
          (FdSelector.valid_of_slot hi)
      refine ⟨h.aside hman.aside (.of_managed hman) (.unregister_management h.own hm) (hman.own h.own) hj ht
        (fun fd' item' hi' => ?_), (hslot fd).trans (if_pos rfl), fun fd' hn => ?_⟩
      · rw [hslot] at hi'
        split at hi'
        · cases hi'
        · exact h.silent fd' item' hi'
      · rw [hslot, hn]
        simp

/-- One turn of the loop: the slot of the index is cleared, whether it was in use or not. -/
theorem Ending.turn (h : Ending s0 s) (i : Nat) :
    Ending s0 (destroySlot s i) ∧ (∀ fd : Int, fd.toNat = i → (destroySlot s i).selector.slot fd = none) ∧
      ∀ fd, s.selector.slot fd = none → (destroySlot s i).selector.slot fd = none := by
  unfold destroySlot
  cases hi : s.selector.slot i with
  | none =>
    have hslot : ∀ fd : Int, fd.toNat = i → s.selector.slot fd = none := by
      intro fd he
      cases hv : invalidFd fd with
      | true => exact FdSelector.slot_of_invalid hv
      | false =>
        have := invalidFd_eq_false_iff.mp hv
        rw [show fd = (i : Int) by omega]
        exact hi
    split
    · -- an index beyond the valid descriptors
      have hv : invalidFd (i : Int) = true := by
        by_contra hv
        have hnu := FdSelector.not_used_of_slot_none (by simpa using hv) hi
        rw [Int.toNat_natCast] at hnu
        simp_all
      have : (s.unregister i).1 = s := by simp [Server.unregister, unregisterFd, selectorUnregisterFd, hv]
      rw [this]
      exact ⟨h, hslot, fun _ hn => hn⟩
    · exact ⟨h, hslot, fun _ hn => hn⟩
  | some item =>
    obtain ⟨hit, hu⟩ := FdSelector.fds_of_slot hi
    rw [Int.toNat_natCast] at hit
    rw [if_pos (by rw [hit]; exact hu)]
    obtain ⟨h1, h2, h3⟩ := h.unregister hi
    refine ⟨h1, fun fd he => ?_, h3⟩
    cases hv : invalidFd fd with
    | true => exact FdSelector.slot_of_invalid hv
    | false =>
      have := invalidFd_eq_false_iff.mp hv
      rw [show fd = (i : Int) by omega]
      exact h2

/-- The loop over the table: every slot of the part visited is cleared. -/
theorem Ending.loop (l : List Nat) (h : Ending s0 s) :
    Ending s0 (l.foldl destroySlot s) ∧
      (∀ fd : Int, fd.toNat ∈ l → (l.foldl destroySlot s).selector.slot fd = none) ∧
      ∀ fd, s.selector.slot fd = none → (l.foldl destroySlot s).selector.slot fd = none := by
  induction l generalizing s with
  | nil => exact ⟨h, fun _ hm => absurd hm List.not_mem_nil, fun _ hn => hn⟩
  | cons i l ih =>
    obtain ⟨h1, hnone, hkeep⟩ := h.turn i
    rw [List.foldl_cons]
    obtain ⟨h2, h3, h4⟩ := ih h1
    refine ⟨h2, fun fd hm => ?_, fun fd hn => h4 fd (hkeep fd hn)⟩
    rcases List.mem_cons.mp hm with he | hm
    · exact h4 fd (hnone fd he)
    · exact h3 fd hm

/-- What holds in the midst of `selector_destroy`, and that the slots visited are clear. -/
theorem destroyUntil_ending (h : Inv s) (hp : s.phase ≠ .destroyed) (turns : Nat) :
    Ending s (destroyUntil s turns) ∧ ∀ fd : Int, fd.toNat < turns → (destroyUntil s turns).selector.slot fd = none := by
  have hstart : ∀ s1 : Server, Aside s s1 → Undisturbed s s1 → Unheard s s1 → s1.jobs = s.jobs → s1.threads = s.threads → Own s1 →
      (∀ fd item, s1.selector.slot fd = some item → ¬item.Listens) → Ending s s1 := by
    intro s1 ha hu hn hj ht own1 hsilent
    obtain ⟨obs, htr, hacts, _⟩ := ha.trace
    refine ⟨own1, h.jobs.congr ha.waits hj ht ha.nextObject, hsilent, fun sid => ?_, hu, hn,
      ha.custody h.own own1, ha.accounts_eq h.accounts⟩
    have hact : s1.acts sid = s.acts sid := by simp only [Server.acts, htr, Obs.acts_append, hacts, List.append_nil]
    rw [ha.sessions, hact]
    by_cases hn : s.sessions sid = none
    · exact .inr ⟨hn, by simp [hn]⟩
    · exact .inl ⟨hn, hn, rfl⟩
  have h1 : Ending s (if !s.stoppedAccepting then closeListeners s else s) := by
    split
    · rename_i hsa
      obtain ⟨hr, hr'⟩ := h.listening.registered (by simpa using hsa) hp
      have hst := closeListeners_stopped h.own hr hr'
      exact hstart _ hst.aside hst.undisturbed hst.unheard hst.jobs hst.threads hst.own
        hst.silent
    · rename_i hsa
      exact hstart s (.refl s) (.refl s) (.refl s) rfl rfl h.own (h.listening.stopped (by simpa using hsa))
  obtain ⟨h2, h3, _⟩ := h1.loop (List.range turns)
  exact ⟨h2, fun fd hlt => h3 fd (List.mem_range.mpr hlt)⟩

/-- Once the loop of `selector_destroy` is over, every slot is clear. -/
theorem slot_destroyUntil (h : Inv s) (hp : s.phase ≠ .destroyed) (fd : Int) :
    (destroyUntil s s.selector.fdSize).selector.slot fd = none := by
  cases hv : invalidFd fd with
  | true => exact FdSelector.slot_of_invalid hv
  | false =>
    have := invalidFd_eq_false_iff.mp hv
    refine (destroyUntil_ending h hp s.selector.fdSize).2 fd ?_
    rw [h.own.size]
    omega

/-- The end of the server keeps the invariant: every session is freed. -/
theorem teardown_inv (h : Inv s) (hp : s.phase ≠ .destroyed) : Inv (teardown s) ∧ Lives env s (teardown s) := by
  have h2 := (destroyUntil_ending h hp s.selector.fdSize).1
  have hempty := slot_destroyUntil h hp
  unfold teardown
  dsimp only
  generalize destroyUntil s s.selector.fdSize = s2 at h2 hempty ⊢
  have hno : ∀ sid, s2.sessions sid = none := by
    intro sid
    cases hs : s2.sessions sid with
    | none => rfl
    | some state =>
      obtain ⟨item, hi, _⟩ := h2.own.client sid state hs
      rw [hempty] at hi
      cases hi
  have hno' : ∀ {fd item}, s2.selector.slot fd ≠ some item := by
    intro fd item hi
    rw [hempty] at hi
    cases hi
  have hl : Lives env s { s2 with phase := .destroyed, selector := { s2.selector with resolutionJobs := [] } } := by
    refine ⟨fun sid => ⟨if s.sessions sid = none then [] else [.freed], ?_, ?_⟩, { h2.custody with }, fun _ _ hne => absurd rfl hne⟩
    · rcases h2.fate sid with ⟨hs, _⟩ | ⟨_, ha⟩
      · exact absurd (hno sid) hs
      · exact ha
    · have hn := h2.undisturbed.nextObject
      cases hs : s.sessions sid with
      | none =>
        rw [if_pos rfl]
        simp only [Server.life, hs, hno sid]
        by_cases hlt : sid < s.nextObject
        · rw [if_pos hlt, if_pos (by omega)]
          exact .refl _
        · rw [if_neg hlt]
          split
          · exact .single .never
          · exact .refl _
      | some state =>
        have hlt : sid < s.nextObject := by
          by_contra hlt
          rw [(h.own.fresh sid (by omega)).1] at hs
          cases hs
        rw [if_neg (by simp), Server.life_of_some hs]
        simp only [Server.life, hno sid, if_pos (show sid < s2.nextObject by omega)]
        exact .single .closed
  refine ⟨⟨⟨{ h2.own with selector := { h2.own.selector with } }, { h2.jobs with }, fun hne => absurd rfl hne,
    hl.ready h.ready, ⟨fun _ hne => absurd rfl hne, fun _ fd item hi => absurd hi hno', fun fd item hi => absurd hi hno'⟩,
    h2.accounts⟩, .inl hno⟩, hl⟩

end Destroy

end SocksProxy
