import SocksProxy.Environment
import SocksProxy.Lemmas.Accepting

/-!
# Dispatch

The selector calls a handler for a slot. Whose the slot is decides the handler and its session, and the wake-ups a ready session
has registered decide what the handler is called for.
-/

namespace SocksProxy

/-- A client that is written to relays, or has a reply to take. -/
theorem View.Ready.writing {v : View} (h : v.Ready) {i : FdInterest} (hi : v.clientInterest = some i) (hw : i.write = true) :
    v.state.relayStarted = true ∨ v.Answering := by
  have hno : ∀ j : FdInterest, v.clientInterest = some j → j.write = false → False := by
    intro j hj hf
    rw [hi] at hj
    cases hj
    rw [hw] at hf
    cases hf
  have ha := h.awake
  unfold Awake at ha
  cases hst : v.state.stage <;> simp only [hst] at ha
  case greeting => exact (hno _ ha.2.2 rfl).elim
  case auth => exact .inr (ha.resolve_left fun ha => hno _ ha.2.2 rfl)
  case request => exact .inr (ha.resolve_left fun ha => hno _ ha.2.2 rfl)
  case resolving => exact (hno _ ha.2.2.2 rfl).elim
  case connecting => exact (hno _ ha.1.2.2.2 rfl).elim
  case relay =>
    split at ha
    · exact .inl ‹_›
    · exact .inr ha.1
  case closing => exact .inr ha

/-- A target that is written to is being connected to, or relays. -/
theorem View.Ready.targetWriting {v : View} (h : v.Ready) {i : FdInterest} (hi : v.targetInterest = some i)
    (hw : i.write = true) (ht : v.state.targetFd ≠ -1) : v.state.stage = .connecting ∨ v.state.relayStarted = true := by
  rcases h.target.mp ht with hst | hst
  · exact .inl hst
  · have ha := h.awake
    unfold Awake at ha
    simp only [hst] at ha
    split at ha
    · exact .inr ‹_›
    · have hi' := ha.2
      rw [hi] at hi'
      cases hi'
      cases hw

section Slots

variable {s : Server} {fd : Int} {item : Item FdHandler Nat}

/-- A client slot is that of a session, with the session's interest. -/
theorem Own.clientSlot (own : Own s) (hi : s.selector.slot fd = some item) (hh : item.handler = some .clientHandler) :
    ∃ sid v, s.life sid = .live v ∧ v.state.clientFd = fd ∧ item.data = some sid ∧ v.clientInterest = some item.interest := by
  have ho := own.owned fd item hi
  unfold Server.SlotOwned at ho
  rw [hh] at ho
  cases hd : item.data with
  | none =>
    rw [hd] at ho
    exact ho.elim
  | some sid =>
    rw [hd] at ho
    obtain ⟨state, hst, hfd⟩ := ho
    exact ⟨sid, s.viewOf state, Server.life_of_some hst, hfd, rfl, by simp [Server.viewOf, Server.interest, hfd, hi]⟩

/-- A target slot is that of a session, with the session's interest. -/
theorem Own.targetSlot (own : Own s) (hi : s.selector.slot fd = some item) (hh : item.handler = some .targetHandler) :
    ∃ sid v, s.life sid = .live v ∧ v.state.targetFd = fd ∧ item.data = some sid ∧ v.targetInterest = some item.interest := by
  have ho := own.owned fd item hi
  unfold Server.SlotOwned at ho
  rw [hh] at ho
  cases hd : item.data with
  | none =>
    rw [hd] at ho
    exact ho.elim
  | some sid =>
    rw [hd] at ho
    obtain ⟨state, hst, hfd⟩ := ho
    exact ⟨sid, s.viewOf state, Server.life_of_some hst, hfd, rfl, by simp [Server.viewOf, Server.interest, hfd, hi]⟩

/-- A slot in use does not have -1 for its descriptor. -/
theorem ne_neg_one_of_slot (hi : s.selector.slot fd = some item) : fd ≠ -1 := by
  rintro rfl
  simp at hi

end Slots

/-- A slot in use is a session's, a management connection's or a listener's. -/
theorem Own.slot_cases {s : Server} (own : Own s) {fd : Int} {item : Item FdHandler Nat} (hi : s.selector.slot fd = some item) :
    (∃ sid, item.Of sid) ∨ (∃ mid, ManagementSlot s mid fd item) ∨ item.Listens := by
  have ho := own.owned fd item hi
  unfold Server.SlotOwned at ho
  cases hh : item.handler with
  | none =>
    rw [hh] at ho
    exact ho.elim
  | some handler =>
    cases handler with
    | acceptHandler => exact .inr (.inr (.inl hh))
    | managementAcceptHandler => exact .inr (.inr (.inr hh))
    | clientHandler =>
      obtain ⟨sid, _, _, _, hd, _⟩ := own.clientSlot hi hh
      exact .inl ⟨sid, .inl hh, hd⟩
    | targetHandler =>
      obtain ⟨sid, _, _, _, hd, _⟩ := own.targetSlot hi hh
      exact .inl ⟨sid, .inr hh, hd⟩
    | managementClientHandler => exact .inr (.inl (own.managementSlot hi hh))

/-! ## The handlers of a session -/

section Sessions

variable {s : Server} {fd : Int} {item : Item FdHandler Nat} {sid : Nat}

/-- The read handler of a session's slot is at work for the session. -/
theorem handleRead_handled (h : Inv s) (hp : s.phase = .running) (hi : s.selector.slot fd = some item)
    (hr : item.interest.read = true) (ho : item.Of sid) (a : Answers) :
    ∃ v, s.life sid = .live v ∧
      Handled (s.env (.read fd a) sid) sid s (handleRead a item.handler { fd := item.fd, data := item.data } s) := by
  rw [h.own.indexed fd item hi]
  obtain ⟨hh | hh, hd⟩ := ho
  · obtain ⟨sid', v, hl, rfl, hd', hci⟩ := h.own.clientSlot hi hh
    rw [hd] at hd'
    cases hd'
    rw [hh, hd]
    exact ⟨v, hl, clientRead_handled h.own h.jobs hl (h.ready_live hl) hci hr rfl (h.errno_ne hl) a
      ⟨hp, hl, ⟨_, hci, hr⟩, a, rfl, rfl⟩⟩
  · obtain ⟨sid', v, hl, rfl, hd', hti⟩ := h.own.targetSlot hi hh
    rw [hd] at hd'
    cases hd'
    rw [hh, hd]
    obtain ⟨hs, hb⟩ := (h.ready_live hl).targetReading hti hr (ne_neg_one_of_slot hi)
    exact ⟨v, hl, targetRead_handled h.own h.jobs hl (h.ready_live hl) hs hb a ⟨hp, hl, ⟨_, hti, hr⟩, a, rfl, rfl⟩⟩

/-- `target_write`, for a session in `CONNECTING`. -/
theorem targetWrite_of_connecting {v : View} (hl : s.life sid = .live v) (hst : v.state.stage = .connecting) (a : Answers) :
    targetWrite s { fd := v.state.targetFd, data := some sid } a =
      targetWriteConnecting s { fd := v.state.targetFd, data := some sid } sid v.state a := by
  simp only [targetWrite, Server.withSession, (Server.sessions_of_life hl).1, hst, if_true]

/-- A target that is written to while it is being connected to: the session takes one step and stays. -/
theorem targetWrite_connecting (h : Inv s) {v : View} (hl : s.life sid = .live v) {a : Answers}
    (hw : (Event.write v.state.targetFd a).Writes s sid v) (hst : v.state.stage = .connecting) :
    ∃ acts v', Worked sid s (targetWrite s { fd := v.state.targetFd, data := some sid } a) v' acts ∧
      SessionStep (s.env (.write v.state.targetFd a) sid) (.live v) acts (.live v') := by
  rw [targetWrite_of_connecting hl hst]
  refine targetWriteConnecting_worked h.own h.jobs hl (h.ready_live hl) hst (h.errno_ne hl) hw (fun hp => ?_) a
  rw [← (Server.sessions_of_life hl).2] at hp
  obtain ⟨file, hf, hp⟩ := Option.map_eq_some_iff.mp hp
  exact ⟨_, a, file, rfl, hf, hp⟩

/-- The write handler of a session's slot is at work for the session. -/
theorem handleWrite_handled (h : Inv s) (hp : s.phase = .running) (hi : s.selector.slot fd = some item)
    (hw : item.interest.write = true) (ho : item.Of sid) (a : Answers) :
    ∃ v, s.life sid = .live v ∧
      Handled (s.env (.write fd a) sid) sid s (handleWrite a item.handler { fd := item.fd, data := item.data } s) := by
  rw [h.own.indexed fd item hi]
  obtain ⟨hh | hh, hd⟩ := ho
  · obtain ⟨sid', v, hl, rfl, hd', hci⟩ := h.own.clientSlot hi hh
    rw [hd] at hd'
    cases hd'
    rw [hh, hd]
    have ready := h.ready_live hl
    exact ⟨v, hl, clientWrite_handled h.own h.jobs hl ready (ready.writing hci hw) a.sends⟩
  · obtain ⟨sid', v, hl, rfl, hd', hti⟩ := h.own.targetSlot hi hh
    rw [hd] at hd'
    cases hd'
    rw [hh, hd]
    have ready := h.ready_live hl
    refine ⟨v, hl, ?_⟩
    rcases ready.targetWriting hti hw (ne_neg_one_of_slot hi) with hst | hs
    · obtain ⟨acts, v', hworked, hstep⟩ := targetWrite_connecting h hl ⟨hp, hl, ⟨_, hti, hw⟩, a, rfl⟩ hst
      exact hworked.handled hl (.single hstep)
    · exact targetWrite_handled h.own h.jobs hl ready hs a

/-- A listener is never written to. -/
theorem Inv.not_listens (h : Inv s) (hi : s.selector.slot fd = some item) (hw : item.interest.write = true) : ¬item.Listens := by
  intro hl
  rw [h.listening.interest fd item hi hl] at hw
  cases hw

end Sessions

/-! ## The handlers of every slot -/

section Slots

variable {s : Server} {fd : Int} {item : Item FdHandler Nat}

/-- The read handler of a slot keeps the invariant and disturbs nobody. -/
theorem handleRead_inv (h : Inv s) (hp : s.phase = .running) (hi : s.selector.slot fd = some item)
    (hr : item.interest.read = true) (a : Answers) :
    Inv (handleRead a item.handler { fd := item.fd, data := item.data } s) ∧
      Lives (s.env (.read fd a)) s (handleRead a item.handler { fd := item.fd, data := item.data } s) ∧
      Undisturbed s (handleRead a item.handler { fd := item.fd, data := item.data } s) := by
  rcases h.own.slot_cases hi with ⟨sid, ho⟩ | ⟨mid, hm⟩ | hl | hl
  · obtain ⟨v, hl, hh⟩ := handleRead_handled h hp hi hr ho a
    obtain ⟨h1, l1⟩ := h.handled hl hh
    obtain ⟨_, fr, _⟩ := hh.steps
    exact ⟨h1, l1, .of_frame fr⟩
  · have hw := managementRead_managed h.own hm a
    obtain ⟨h1, l1⟩ : _ ∧ Lives (s.env (.read fd a)) _ _ := hw.inv h
    rw [hm.handler]
    exact ⟨h1, l1, .of_managed hw⟩
  · obtain ⟨h1, l1⟩ : _ ∧ Lives (s.env (.read fd a)) _ _ := acceptConnection_inv h.toSound a.accepts
    rw [hl]
    exact ⟨h1, l1, acceptConnection_undisturbed h.own a.accepts⟩
  · obtain ⟨h1, l1⟩ : _ ∧ Lives (s.env (.read fd a)) _ _ := acceptManagementConnection_inv h.toSound a.accepts
    rw [hl]
    exact ⟨h1, l1, acceptManagementConnection_undisturbed h.own a.accepts⟩

/-- The write handler of a slot keeps the invariant and disturbs nobody. -/
theorem handleWrite_inv (h : Inv s) (hp : s.phase = .running) (hi : s.selector.slot fd = some item)
    (hw : item.interest.write = true) (a : Answers) :
    Inv (handleWrite a item.handler { fd := item.fd, data := item.data } s) ∧
      Lives (s.env (.write fd a)) s (handleWrite a item.handler { fd := item.fd, data := item.data } s) ∧
      Undisturbed s (handleWrite a item.handler { fd := item.fd, data := item.data } s) := by
  rcases h.own.slot_cases hi with ⟨sid, ho⟩ | ⟨mid, hm⟩ | hl
  · obtain ⟨v, hl, hh⟩ := handleWrite_handled h hp hi hw ho a
    obtain ⟨h1, l1⟩ := h.handled hl hh
    obtain ⟨_, fr, _⟩ := hh.steps
    exact ⟨h1, l1, .of_frame fr⟩
  · have hmw := managementWrite_managed h.own hm a.sends
    obtain ⟨h1, l1⟩ : _ ∧ Lives (s.env (.write fd a)) _ _ := hmw.inv h
    rw [hm.handler]
    exact ⟨h1, l1, .of_managed hmw⟩
  · exact absurd hl (h.not_listens hi hw)

/-- The read handler of a session's slot brings nobody, and hears nothing from a management connection. -/
theorem handleRead_unheard (h : Inv s) (hp : s.phase = .running) (hi : s.selector.slot fd = some item)
    (hr : item.interest.read = true) (hn : ¬item.Listens) (hm : item.handler ≠ some .managementClientHandler) (a : Answers) :
    Unheard s (handleRead a item.handler { fd := item.fd, data := item.data } s) := by
  rcases h.own.slot_cases hi with ⟨sid, ho⟩ | ⟨mid, hslot⟩ | hl
  · obtain ⟨v, hl, hh⟩ := handleRead_handled h hp hi hr ho a
    obtain ⟨_, fr, _⟩ := hh.steps
    exact .of_frame (by simp [(Server.sessions_of_life hl).1]) fr
  · exact absurd hslot.handler hm
  · exact absurd hl hn

/-- The write handler of a slot brings nobody, and hears nothing from a management connection. -/
theorem handleWrite_unheard (h : Inv s) (hp : s.phase = .running) (hi : s.selector.slot fd = some item)
    (hw : item.interest.write = true) (a : Answers) :
    Unheard s (handleWrite a item.handler { fd := item.fd, data := item.data } s) := by
  rcases h.own.slot_cases hi with ⟨sid, ho⟩ | ⟨mid, hm⟩ | hl
  · obtain ⟨v, hl, hh⟩ := handleWrite_handled h hp hi hw ho a
    obtain ⟨_, fr, _⟩ := hh.steps
    exact .of_frame (by simp [(Server.sessions_of_life hl).1]) fr
  · rw [hm.handler]
    exact managementWrite_unheard h.own hm a.sends
  · exact absurd hl (h.not_listens hi hw)

end Slots

/-! ## The events of a session -/

section Events

variable {s : Server} {sid : Nat} {v : View} {i : FdInterest}

/-- A client that is listened to is read from. -/
theorem step_read_client (h : Inv s) (hl : s.life sid = .live v) (hp : s.phase = .running) (hi : v.clientInterest = some i)
    (hr : i.read = true) (a : Answers) :
    step s (.read v.state.clientFd a) = clientRead s { fd := v.state.clientFd, data := some sid } a := by
  obtain ⟨hst, hv⟩ := Server.sessions_of_life hl
  obtain ⟨item, hs, hh, hd⟩ := h.own.client sid v.state hst
  rw [← hv] at hi
  obtain ⟨_, hs', rfl⟩ := Option.map_eq_some_iff.mp hi
  rw [show s.selector.slot v.state.clientFd = _ from hs] at hs'
  cases hs'
  simp only [step, hs, hp, hr, hh, hd, handleRead, h.own.indexed _ _ hs, and_self, if_true]

/-- A target that is listened to is read from. -/
theorem step_read_target (h : Inv s) (hl : s.life sid = .live v) (hp : s.phase = .running) (hi : v.targetInterest = some i)
    (hr : i.read = true) (a : Answers) :
    step s (.read v.state.targetFd a) = targetRead s { fd := v.state.targetFd, data := some sid } a := by
  obtain ⟨hst, hv⟩ := Server.sessions_of_life hl
  rw [← hv] at hi
  obtain ⟨item, hs, rfl⟩ := Option.map_eq_some_iff.mp hi
  obtain ⟨_, hs', hh, hd⟩ := h.own.target sid v.state hst (ne_neg_one_of_slot hs)
  rw [hs] at hs'
  cases hs'
  simp only [step, hs, hp, hr, hh, hd, handleRead, h.own.indexed _ _ hs, and_self, if_true]

/-- A target that is waited for is written to. -/
theorem step_write_target (h : Inv s) {a : Answers} (hw : (Event.write v.state.targetFd a).Writes s sid v) :
    step s (.write v.state.targetFd a) = targetWrite s { fd := v.state.targetFd, data := some sid } a := by
  obtain ⟨hp, hl, ⟨i, hi, hi'⟩, _⟩ := hw
  obtain ⟨hst, hv⟩ := Server.sessions_of_life hl
  rw [← hv] at hi
  obtain ⟨item, hs, rfl⟩ := Option.map_eq_some_iff.mp hi
  obtain ⟨_, hs', hh, hd⟩ := h.own.target sid v.state hst (ne_neg_one_of_slot hs)
  rw [hs] at hs'
  cases hs'
  simp only [step, hs, hp, hi', hh, hd, handleWrite, h.own.indexed _ _ hs, and_self, if_true]

end Events

end SocksProxy
