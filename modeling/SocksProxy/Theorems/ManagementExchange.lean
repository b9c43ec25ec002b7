import SocksProxy.Theorems.ManagementInput

/-!
# One line, one answer

A management connection from its acceptance to its end. It is listened to until its line is complete; at that moment its answer is
prepared, once and for all, from the users and the metrics of the moment; from then on it is only written to, and when `send` has
taken the whole answer the connection is closed and freed. Nothing else that happens in the process touches it.
-/

namespace SocksProxy

/-- The line of a connection is complete: a line feed has come, or the buffer is full. -/
def LineComplete (buffer : List Byte) : Prop := lineFeed ∈ buffer ∨ buffer.length = managementLineMax

instance (buffer : List Byte) : Decidable (LineComplete buffer) := inferInstanceAs (Decidable (_ ∨ _))

/-- The management connection whose write handler an event calls, and what the kernel answers it. -/
def Server.managementWrites (s : Server) : Event → Option (Nat × Answers)
  | .write fd a =>
    match s.selector.slot fd with
    | none => none
    | some item =>
      if s.phase = .running ∧ item.interest.write = true ∧ item.handler = some .managementClientHandler then
        item.data.map (·, a)
      else none
  | _ => none

/-- The bytes an event sends to a management connection: what `send` takes in its write handler. -/
def Server.told (s : Server) (mid : Nat) (e : Event) : List Byte :=
  match s.managementWrites e with
  | none => []
  | some (mid', a) =>
    if mid' = mid then
      match s.managements mid with
      | none => []
      | some state => (sendLoop (state.writeBuffer.drop state.writeOff) a.sends).1.flatten
    else []

/-- The answer an event prepares for a management connection, if it does. -/
def Server.answered (s : Server) (mid : Nat) (e : Event) : List (List Byte) :=
  ((s.prepares e mid).map (managementReply s.managedUsers s.metrics)).toList

/-- The bytes sent to a management connection in a run. -/
def Config.told (c : Config) (mid : Nat) (es : List Event) : List Byte := Traces.emitted step (·.told mid) c.start es

/-- The answers prepared for a management connection in a run. -/
def Config.answers (c : Config) (mid : Nat) (es : List Event) : List (List Byte) :=
  Traces.emitted step (·.answered mid) c.start es

/-! ## What a connection waits for -/

/-- What a management connection waits for, given the answers prepared for it and what was sent of them: a line that is not complete
is listened to, and an answer that was not sent to its end is written. -/
inductive ManagementState.Waits (state : ManagementState) (interest : FdInterest) : List (List Byte) → List Byte → Prop where
  | listening : state.writeBuffer = [] → ¬LineComplete state.readBuffer → interest = opRead → state.Waits interest [] []
  | answering : state.writeOff < state.writeBuffer.length → interest = opWrite →
    state.Waits interest [state.writeBuffer] (state.writeBuffer.take state.writeOff)

/-- A management connection, the answers prepared for it and what was sent of them: at most one answer, of which a first part was
sent; and as long as the connection is there it has a slot, which waits for the right thing. -/
structure Server.Exchanged (s : Server) (mid : Nat) (answers : List (List Byte)) (told : List Byte) : Prop where
  unborn : s.nextObject ≤ mid → answers = [] ∧ told = []
  once : answers.length ≤ 1
  begun : told <+: answers.flatten
  attended : ∀ state, s.managements mid = some state → ∃ fd item, s.selector.slot fd = some item ∧
    item.handler = some .managementClientHandler ∧ item.data = some mid ∧ state.Waits item.interest answers told

/-- From one server to another, a management connection was left alone: its record is the same, and its slot is still there. -/
structure Spared (mid : Nat) (s s' : Server) : Prop where
  record : s'.managements mid = s.managements mid
  slot : ∀ fd item, item.handler = some .managementClientHandler → item.data = some mid → s.selector.slot fd = some item →
    s'.selector.slot fd = some item

namespace Spared

variable {mid : Nat} {s s' s'' : Server}

/-- The records and the slots are the same. -/
theorem same (managements : s'.managements = s.managements) (slots : ∀ fd, s'.selector.slot fd = s.selector.slot fd) :
    Spared mid s s' :=
  ⟨congrFun managements mid, fun fd _ _ _ hi => (slots fd).trans hi⟩

/-- Nothing changed. -/
theorem refl (mid : Nat) (s : Server) : Spared mid s s := .same rfl fun _ => rfl

/-- One change after another. -/
theorem trans (h : Spared mid s s') (h' : Spared mid s' s'') : Spared mid s s'' :=
  ⟨h'.record.trans h.record, fun fd item hh hd hi => h'.slot fd item hh hd (h.slot fd item hh hd hi)⟩

/-- A change around a session. -/
theorem of_frame {sid : Nat} {acts : List Act} (fr : Frame sid s s' acts) : Spared mid s s' := by
  refine ⟨congrFun (Server.shared_eq fr.shared).1 mid, fun fd item hh _ hi => (fr.kept fd item hi ?_).1⟩
  rintro ⟨hs | hs, _⟩ <;> rw [hh] at hs <;> cases hs

/-- A change around another management connection. -/
theorem of_managed {mid' : Nat} {fd0 : Int} (h : Managed mid' fd0 s s') (hne : mid ≠ mid') : Spared mid s s' := by
  refine ⟨h.managements mid hne, fun fd item _ hd hi => (h.others fd ?_).1.trans hi⟩
  rintro rfl
  obtain ⟨_, hd'⟩ := h.before item hi
  rw [hd] at hd'
  exact hne (Option.some.inj hd')

/-- The closing of the listeners. -/
theorem of_closeListeners (own : Own s) (hr : s.Registered s.serverFd .acceptHandler none)
    (hr' : s.Registered s.managementFd .managementAcceptHandler none) : Spared mid s (closeListeners s) := by
  rw [(closeListeners_eq own hr hr').2]
  refine ⟨rfl, fun fd item hh _ hi => ?_⟩
  rw [slot_forget_listeners hr hr', if_neg ?_]
  · exact hi
  · -- the two slots are the listeners'
    rintro (rfl | rfl)
    · obtain ⟨item', hi', hh', _⟩ := hr'
      rw [hi'] at hi
      cases hi
      rw [hh'] at hh
      cases hh
    · obtain ⟨item', hi', hh', _⟩ := hr
      rw [hi'] at hi
      cases hi
      rw [hh'] at hh
      cases hh

end Spared

namespace Server.Exchanged

variable {mid : Nat} {s s' : Server} {answers : List (List Byte)} {told : List Byte}

/-- A connection that was left alone. -/
theorem spared (x : s.Exchanged mid answers told) (h : Spared mid s s') (hn : s.nextObject ≤ s'.nextObject) :
    s'.Exchanged mid answers told := by
  refine ⟨fun hle => x.unborn (Nat.le_trans hn hle), x.once, x.begun, fun state hst => ?_⟩
  obtain ⟨fd, item, hi, hh, hd, hw⟩ := x.attended state (h.record.symm.trans hst)
  exact ⟨fd, item, h.slot fd item hh hd hi, hh, hd, hw⟩

/-- A connection that was closed, perhaps after a last part of its answer was sent. -/
theorem closed (x : s.Exchanged mid answers told) (hn : s.nextObject ≤ s'.nextObject) (hlt : mid < s.nextObject)
    (hnone : s'.managements mid = none) {last : List Byte} (hlast : told ++ last <+: answers.flatten) :
    s'.Exchanged mid answers (told ++ last) := by
  refine ⟨fun hle => by omega, x.once, hlast, fun state hst => ?_⟩
  rw [hnone] at hst
  cases hst

/-- What the connection with this slot waits for. -/
theorem waits {fd : Int} {item : Item FdHandler Nat} {state : ManagementState} (x : s.Exchanged mid answers told)
    (h : ManagementSlot s mid fd item) (hst : s.managements mid = some state) : state.Waits item.interest answers told := by
  obtain ⟨fd', item', hi, hh, hd, hw⟩ := x.attended state hst
  obtain rfl := h.unique fd' ⟨item', hi, hh, hd⟩
  rw [h.slot] at hi
  cases hi
  exact hw

end Server.Exchanged

/-! ## The events of others -/

section Others

variable {mid : Nat} {s s0 : Server} {answers : List (List Byte)} {told : List Byte}

/-- The turns of the accept loops. -/
theorem turns_exchanged (mid : Nat) (answers : List (List Byte)) (told : List Byte) :
    Turns fun s => Own s ∧ s.Exchanged mid answers told where
  own := fun h => h.1
  fail := fun h _ => ⟨{ h.1 with }, h.2.spared (.same rfl fun _ => rfl) (Nat.le_refl _)⟩
  blink := fun h hf => ⟨own_blink h.1 hf, h.2.spared (.same rfl fun _ => rfl) (Nat.le_refl _)⟩
  skip := fun h => ⟨own_skip h.1, h.2.spared (.same rfl fun _ => rfl) (Nat.le_succ _)⟩

/-- The end of an accept loop. -/
theorem Server.Exchanged.setErrno (x : s.Exchanged mid answers told) (e : Errno) : (s.setErrno e).Exchanged mid answers told :=
  x.spared (.same rfl fun _ => rfl) (Nat.le_refl _)

/-- The accept loop of the sessions. -/
theorem acceptConnection_exchanged (own : Own s) (x : s.Exchanged mid answers told) (accepts : List AcceptResult) :
    (acceptConnection s accepts).Exchanged mid answers told := by
  obtain ⟨s1, e, h1, heq⟩ := acceptConnection_turns (turns_exchanged mid answers told)
    (fun h hv hf => ⟨own_enroll h.1 hv hf, h.2.spared (.of_frame (frame_enroll h.1 hv hf)) (Nat.le_succ _)⟩) ⟨own, x⟩ accepts
  rw [heq]
  exact h1.2.setErrno e

/-- A management connection that has just come is listened to. -/
theorem Server.Exchanged.came {fd : Int} (own : Own s) (x : s.Exchanged mid answers told) (hv : invalidFd fd = false)
    (hf : s.files fd = none) :
    ((s.stillbornManagement fd).register fd .managementClientHandler opRead (some s.nextObject)).1.Exchanged mid answers told := by
  obtain ⟨-, -, -, hslot⟩ := FdSelector.selectorRegister_of_free hv (by rw [own.size]; omega) (own.slot_of_closed hf)
    FdHandler.managementClientHandler opRead (some s.nextObject) true
  by_cases he : mid = s.nextObject
  · subst he
    obtain ⟨rfl, rfl⟩ := x.unborn (Nat.le_refl _)
    refine ⟨fun _ => ⟨rfl, rfl⟩, x.once, x.begun, fun state hst => ?_⟩
    have hnew : ((s.stillbornManagement fd).register fd .managementClientHandler opRead (some s.nextObject)).1.managements
        s.nextObject = some { readBuffer := [], writeBuffer := [], writeOff := 0 } := Function.update_self ..
    rw [hnew] at hst
    cases hst
    refine ⟨fd, _, (hslot fd).trans (if_pos rfl), rfl, rfl, .listening rfl ?_ rfl⟩
    rintro (hm | hl)
    · cases hm
    · cases hl
  · exact x.spared (.of_managed (register_management own hv hf).2 he) (Nat.le_succ _)

/-- The accept loop of the management connections. -/
theorem acceptManagementConnection_exchanged (own : Own s) (x : s.Exchanged mid answers told) (accepts : List AcceptResult) :
    (acceptManagementConnection s accepts).Exchanged mid answers told := by
  obtain ⟨s1, e, h1, heq⟩ := acceptManagementConnection_loop (turns_exchanged mid answers told)
    (fun h hv hf => ⟨(register_management h.1 hv hf).2.own h.1, h.2.came h.1 hv hf⟩) ⟨own, x⟩ accepts
  rw [heq]
  exact h1.2.setErrno e

/-- The draining of the queue leaves every management connection alone. -/
theorem Draining.spared {env : Nat → Env} {q : List Int} (h : Draining env q s0 s) (h0 : ∀ sid, (s0.life sid).Ready)
    (hp : ∀ sid job fd record, s0.Awaits sid job fd record → (env sid).published record.status record.result)
    (as : List Answers) : Spared mid s (handleBlockLoop q as s) := by
  induction q generalizing s as with
  | nil => exact .refl mid s
  | cons fd q ih =>
    obtain ⟨sid, job, record, hf⟩ := h.finds h0 hp
    obtain ⟨_, _, _, acts, fr, _⟩ := hf.handled (as.headD {})
    exact (Spared.of_frame fr).trans (ih (h.handleBlock h0 hp _) as.tail)

/-- The draining of the queue. -/
theorem handleBlockNotifications_spared (h : Inv s) (hp : s.phase ≠ .destroyed) (as : List Answers) :
    Spared mid s (handleBlockNotifications s as) := by
  have hd := h.draining hp (List.nil_append _).symm as []
  have hs : Spared mid s (handleBlockLoop s.selector.resolutionJobs as s) :=
    hd.spared h.ready (fun sid job fd record ha => ⟨⟨as, rfl⟩, job, fd, record, ha.waits, ha.job, ha.done, rfl, rfl⟩) as
  exact ⟨hs.record, hs.slot⟩

/-- A slot in use is unregistered on the way to the end. -/
theorem Ending.exchanged (h : Ending s0 s) (x : s.Exchanged mid answers told) {fd : Int} {item : Item FdHandler Nat}
    (hi : s.selector.slot fd = some item) : (s.unregister fd).1.Exchanged mid answers told := by
  rcases h.own.slot_cases hi with ⟨sid, ho⟩ | ⟨mid', hm⟩ | hl
  · obtain ⟨hh | hh, _⟩ := ho
    · obtain ⟨sid, v, hlife, rfl, _, _⟩ := h.own.clientSlot hi hh
      have hs := (Server.sessions_of_life hlife).1
      have fr := frame_drop h.own hs
      rw [unregister_client h.own h.jobs hs]
      exact x.spared (.of_frame fr) fr.nextObject
    · obtain ⟨sid, v, hlife, rfl, _, _⟩ := h.own.targetSlot hi hh
      have fr := (unregister_target_worked h.own h.jobs hlife (ne_neg_one_of_slot hi)).frame
      exact x.spared (.of_frame fr) fr.nextObject
  · have hw := unregister_management h.own hm
    by_cases he : mid = mid'
    · subst he
      have hlt : mid < s.nextObject := by
        by_contra hge
        obtain ⟨state, hst⟩ := hm.state
        rw [(h.own.fresh mid (Nat.le_of_not_lt hge)).2] at hst
        cases hst
      have hnone : (s.unregister fd).1.managements mid = none := by
        rw [unregister_management_eq h.own hm]
        exact Function.update_self ..
      have hbegun : told ++ [] <+: answers.flatten := by
        rw [List.append_nil]
        exact x.begun
      have hx := x.closed hw.nextObject hlt hnone hbegun
      rwa [List.append_nil] at hx
    · exact x.spared (.of_managed hw he) hw.nextObject
  · exact absurd hl (h.silent fd item hi)

/-- One turn of the loop of `selector_destroy`. -/
theorem Ending.exchanged_turn (h : Ending s0 s) (x : s.Exchanged mid answers told) (i : Nat) :
    (destroySlot s i).Exchanged mid answers told := by
  unfold destroySlot
  split
  · cases hi : s.selector.slot i with
    | some item => exact h.exchanged x hi
    | none =>
      -- an index beyond the valid descriptors
      rename_i hu
      have hv : invalidFd (i : Int) = true := by
        by_contra hv
        have hnu := FdSelector.not_used_of_slot_none (by simpa using hv) hi
        rw [Int.toNat_natCast] at hnu
        rw [hnu] at hu
        cases hu
      have hsame : (s.unregister i).1 = s := by simp [Server.unregister, unregisterFd, selectorUnregisterFd, hv]
      rw [hsame]
      exact x
  · exact x

/-- The loop of `selector_destroy`. -/
theorem Ending.exchanged_loop (h : Ending s0 s) (x : s.Exchanged mid answers told) (l : List Nat) :
    (l.foldl destroySlot s).Exchanged mid answers told := by
  induction l generalizing s with
  | nil => exact x
  | cons i l ih => exact ih (h.turn i).1 (h.exchanged_turn x i)

/-- The end of the server. -/
theorem teardown_exchanged (h : Inv s) (hp : s.phase ≠ .destroyed) (x : s.Exchanged mid answers told) :
    (teardown s).Exchanged mid answers told := by
  have hstart := (destroyUntil_ending h hp 0).1
  have hx : (destroyUntil s 0).Exchanged mid answers told := by
    unfold destroyUntil
    rw [List.range_zero, List.foldl_nil]
    split
    · rename_i hsa
      obtain ⟨hr, hr'⟩ := h.listening.registered (by simpa using hsa) hp
      exact x.spared (.of_closeListeners h.own hr hr') (closeListeners_stopped h.own hr hr').nextObject.ge
    · exact x
  exact (hstart.exchanged_loop hx (List.range s.selector.fdSize)).spared (.same rfl fun _ => rfl) (Nat.le_refl _)

/-- The shutdown's part in the main loop. -/
theorem shutdownCheck_exchanged (h : Inv s) (hp : s.phase ≠ .destroyed) (x : s.Exchanged mid answers told) :
    (shutdownCheck s).Exchanged mid answers told := by
  have hx : (if s.shutdownRequested && !s.stoppedAccepting then closeListeners { s with stoppedAccepting := true }
      else s).Exchanged mid answers told := by
    split
    · rename_i hc
      have hsa : s.stoppedAccepting = false := by
        rw [Bool.and_eq_true] at hc
        simpa using hc.2
      obtain ⟨hr, hr'⟩ := h.listening.registered hsa hp
      have own : Own { s with stoppedAccepting := true } := { h.own with }
      have hx : Server.Exchanged { s with stoppedAccepting := true } mid answers told :=
        x.spared (.same rfl fun _ => rfl) (Nat.le_refl _)
      exact hx.spared (.of_closeListeners own hr hr') (closeListeners_stopped own hr hr').nextObject.ge
    · exact x
  unfold shutdownCheck
  dsimp only
  generalize (if s.shutdownRequested && !s.stoppedAccepting then closeListeners { s with stoppedAccepting := true }
    else s) = s1 at hx ⊢
  split
  · exact hx.spared (.same rfl fun _ => rfl) (Nat.le_refl _)
  · exact hx

/-- An event that calls no handler of a management connection does nothing to any exchange. -/
theorem step_exchanged_others (h : Inv s) (x : s.Exchanged mid answers told) {e : Event} (hr : s.managementReads e = none)
    (hw : s.managementWrites e = none) : (step s e).Exchanged mid answers told := by
  cases e with
  | read fd a =>
    simp only [step]
    split
    · exact x
    · rename_i item hi
      split
      · rename_i hc
        rcases h.own.slot_cases hi with ⟨sid, ho⟩ | ⟨mid', hm⟩ | hl | hl
        · obtain ⟨v, _, hh⟩ := handleRead_handled h hc.1 hi hc.2 ho a
          obtain ⟨_, fr, _⟩ := hh.steps
          exact x.spared (.of_frame fr) fr.nextObject
        · simp only [Server.managementReads, hi] at hr
          rw [if_pos ⟨hc.1, hc.2, hm.handler⟩, hm.data] at hr
          cases hr
        · rw [hl]
          exact acceptConnection_exchanged h.own x a.accepts
        · rw [hl]
          exact acceptManagementConnection_exchanged h.own x a.accepts
      · exact x
  | write fd a =>
    simp only [step]
    split
    · exact x
    · rename_i item hi
      split
      · rename_i hc
        rcases h.own.slot_cases hi with ⟨sid, ho⟩ | ⟨mid', hm⟩ | hl
        · obtain ⟨v, _, hh⟩ := handleWrite_handled h hc.1 hi hc.2 ho a
          obtain ⟨_, fr, _⟩ := hh.steps
          exact x.spared (.of_frame fr) fr.nextObject
        · simp only [Server.managementWrites, hi] at hw
          rw [if_pos ⟨hc.1, hc.2, hm.handler⟩, hm.data] at hw
          cases hw
        · exact absurd hl (h.not_listens hi hc.2)
      · exact x
  | notifications as =>
    simp only [step]
    split
    · rename_i hp
      obtain ⟨s1, hu, _, heq⟩ := handleBlockNotifications_undisturbed h (by simp [hp]) as
      refine x.spared (handleBlockNotifications_spared h (by simp [hp]) as) ?_
      rw [heq]
      exact hu.nextObject
    · exact x
  | shutdownCheck =>
    simp only [step]
    split
    · rename_i hp
      exact shutdownCheck_exchanged h (by simp [hp]) x
    · exact x
  | teardown =>
    simp only [step]
    split
    · rename_i hp
      exact teardown_exchanged h (by simp [hp]) x
    · exact x
  | loopTest =>
    simp only [step, loopTest]
    split
    · split
      · exact x.spared (.same rfl fun _ => rfl) (Nat.le_refl _)
      · exact x
    · exact x
  | publish job status result =>
    refine x.spared ?_ (step_jobs h _).1
    simp only [step, publishResult]
    split
    · cases s.jobs job <;> exact .same rfl fun _ => rfl
    · exact .refl mid s
  | notify job allocated =>
    refine x.spared ?_ (step_jobs h _).1
    simp only [step, notifyClient]
    cases s.threads job with
    | notifying fd =>
      dsimp only
      split
      · exact .same rfl fun _ => rfl
      · split <;> exact .same rfl fun _ => rfl
    | _ => exact .refl mid s
  | release job =>
    refine x.spared ?_ (step_jobs h _).1
    simp only [step, releaseJob]
    split
    · cases s.jobs job <;> exact .same rfl fun _ => rfl
    · exact .refl mid s
  | connectDone fd error =>
    refine x.spared ?_ (step_jobs h _).1
    simp only [step, connectDone, Server.setConnect]
    cases s.files fd with
    | none => exact .refl mid s
    | some file =>
      dsimp only
      split
      · exact .same rfl fun _ => rfl
      · exact .refl mid s
  | signal =>
    refine x.spared ?_ (step_jobs h _).1
    simp only [step, sigtermHandler]
    split <;> exact .same rfl fun _ => rfl

end Others

/-! ## The events of a connection -/

section Handlers

variable {mid : Nat} {s : Server} {fd : Int} {item : Item FdHandler Nat} {answers : List (List Byte)} {told : List Byte}

/-- A management connection was given a number. -/
theorem ManagementSlot.born (own : Own s) (h : ManagementSlot s mid fd item) : mid < s.nextObject := by
  by_contra hge
  obtain ⟨state, hst⟩ := h.state
  rw [(own.fresh mid (Nat.le_of_not_lt hge)).2] at hst
  cases hst

/-- A connection that is read from has not been answered. -/
theorem ManagementState.Waits.of_read {state : ManagementState} {interest : FdInterest} (h : state.Waits interest answers told)
    (hr : interest.read = true) : answers = [] ∧ told = [] ∧ state.writeBuffer = [] := by
  cases h with
  | listening hb _ _ => exact ⟨rfl, rfl, hb⟩
  | answering _ hi =>
    rw [hi] at hr
    cases hr

/-- A connection that is written to has been answered, and not to the end. -/
theorem ManagementState.Waits.of_write {state : ManagementState} {interest : FdInterest} (h : state.Waits interest answers told)
    (hw : interest.write = true) :
    answers = [state.writeBuffer] ∧ told = state.writeBuffer.take state.writeOff ∧ state.writeOff < state.writeBuffer.length := by
  cases h with
  | listening _ _ hi =>
    rw [hi] at hw
    cases hw
  | answering hlt _ => exact ⟨rfl, rfl, hlt⟩

/-- A connection that has not been answered is read from. -/
theorem ManagementState.Waits.unanswered {state : ManagementState} {interest : FdInterest}
    (h : state.Waits interest answers told) (hnil : answers = []) : interest = opRead := by
  cases h with
  | listening _ _ hi => exact hi
  | answering => cases hnil

/-- A connection that has been answered is written to, and a part of its answer is left. -/
theorem ManagementState.Waits.answered {state : ManagementState} {interest : FdInterest} {reply : List Byte}
    (h : state.Waits interest answers told) (ha : answers = [reply]) : interest = opWrite ∧ told ≠ reply := by
  cases h with
  | listening => cases ha
  | answering hlt hi =>
    cases ha
    refine ⟨hi, fun he => ?_⟩
    have hlen := congrArg List.length he
    rw [List.length_take] at hlen
    omega

/-- A connection is closed before it was answered, or after its answer was cut off. -/
theorem Server.Exchanged.unregister (x : s.Exchanged mid answers told) (own : Own s) (h : ManagementSlot s mid fd item)
    {last : List Byte} (hlast : told ++ last <+: answers.flatten) : (s.unregister fd).1.Exchanged mid answers (told ++ last) := by
  refine x.closed (unregister_management own h).nextObject (h.born own) ?_ hlast
  rw [unregister_management_eq own h]
  exact Function.update_self ..

/-- A connection that has not been answered and is closed. -/
theorem Server.Exchanged.hangUp (x : s.Exchanged mid answers told) (own : Own s) (h : ManagementSlot s mid fd item) :
    (s.unregister fd).1.Exchanged mid answers told := by
  have hbegun : told ++ [] <+: answers.flatten := by
    rw [List.append_nil]
    exact x.begun
  have hx := x.unregister own h hbegun
  rwa [List.append_nil] at hx

/-- `management_read` that is given bytes which complete the line: the answer is prepared, and written from now on. -/
theorem managementRead_answers (own : Own s) (h : ManagementSlot s mid fd item) {state : ManagementState}
    (hst : s.managements mid = some state) {a : Answers} {bytes : List Byte}
    (hd : a.recv.limit (managementBufferSize - state.readBuffer.length - 1) = .data bytes)
    (hc : LineComplete (state.readBuffer ++ bytes)) :
    (managementRead s { fd := item.fd, data := item.data } a).Exchanged mid
      [managementReply s.managedUsers s.metrics (state.readBuffer ++ bytes)] [] := by
  have hw := managementRead_managed own h a
  have hrec := ((managementRead_data h hst hd).1 hc).2
  have hslot : (managementRead s { fd := item.fd, data := item.data } a).selector.slot fd = some (item.withInterest opWrite) := by
    have hcond : ((state.readBuffer ++ bytes).contains 0x0A = true ∨
        (state.readBuffer ++ bytes).length = managementBufferSize - 1) :=
      hc.imp List.contains_iff_mem.mpr id
    unfold managementRead
    rw [h.data, h.fd_eq]
    dsimp only
    rw [hst]
    dsimp only
    rw [hd]
    dsimp only
    rw [if_pos hcond, Server.slot_setInterest, if_pos rfl]
    exact congrArg (Option.map (·.withInterest opWrite)) h.slot
  have hpos : managementReply s.managedUsers s.metrics (state.readBuffer ++ bytes) ≠ [] := managementReply_ne_nil _ _ _
  refine ⟨fun hle => ?_, Nat.le_refl _, List.nil_prefix, fun state' hst' => ?_⟩
  · have := h.born own
    have := hw.nextObject
    omega
  · rw [hrec] at hst'
    cases hst'
    exact ⟨fd, _, hslot, h.handler, h.data, .answering (List.length_pos_iff.mpr hpos) rfl⟩

/-- `management_read` that is given bytes which do not complete the line: the connection is listened to as before. -/
theorem managementRead_listens (own : Own s) (h : ManagementSlot s mid fd item) (hr : item.interest.read = true)
    (x : s.Exchanged mid answers told) {state : ManagementState} (hst : s.managements mid = some state) {a : Answers}
    {bytes : List Byte} (hd : a.recv.limit (managementBufferSize - state.readBuffer.length - 1) = .data bytes)
    (hc : ¬LineComplete (state.readBuffer ++ bytes)) :
    (managementRead s { fd := item.fd, data := item.data } a).Exchanged mid answers told := by
  have hw := managementRead_managed own h a
  have hrec := ((managementRead_data h hst hd).2 hc).2
  have hslot : (managementRead s { fd := item.fd, data := item.data } a).selector.slot fd = some item := by
    have hcond : ¬((state.readBuffer ++ bytes).contains 0x0A = true ∨
        (state.readBuffer ++ bytes).length = managementBufferSize - 1) :=
      fun hn => hc (hn.imp List.contains_iff_mem.mp id)
    unfold managementRead
    rw [h.data, h.fd_eq]
    dsimp only
    rw [hst]
    dsimp only
    rw [hd]
    dsimp only
    rw [if_neg hcond]
    exact h.slot
  have hwait := x.waits h hst
  obtain ⟨rfl, rfl, hb⟩ := hwait.of_read hr
  refine ⟨fun _ => ⟨rfl, rfl⟩, x.once, x.begun, fun state' hst' => ?_⟩
  rw [hrec] at hst'
  cases hst'
  refine ⟨fd, _, hslot, h.handler, h.data, .listening hb hc ?_⟩
  cases hwait with
  | listening _ _ hi => exact hi

/-- `management_read` that is given no bytes: the connection is listened to as before, or closed. -/
theorem managementRead_silent (own : Own s) (h : ManagementSlot s mid fd item) (x : s.Exchanged mid answers told)
    {state : ManagementState} (hst : s.managements mid = some state) {a : Answers}
    (hd : ∀ bytes, a.recv.limit (managementBufferSize - state.readBuffer.length - 1) ≠ .data bytes) :
    (managementRead s { fd := item.fd, data := item.data } a).Exchanged mid answers told := by
  unfold managementRead
  rw [h.data, h.fd_eq]
  dsimp only
  rw [hst]
  dsimp only
  split
  · exact absurd ‹_› (hd _)
  · exact x.hangUp own h
  · rename_i e _
    split
    · exact x.setErrno e
    · exact (x.setErrno e).hangUp ((setErrno_managed own h e).own own) (h.congr rfl rfl h.state)

/-- `management_write`: the connection takes a part of its answer, and is closed when it has taken all of it. -/
theorem managementWrite_exchanged (own : Own s) (h : ManagementSlot s mid fd item) (hw : item.interest.write = true)
    (x : s.Exchanged mid answers told) {state : ManagementState} (hst : s.managements mid = some state)
    (sends : List SendResult) :
    (managementWrite s { fd := item.fd, data := item.data } sends).Exchanged mid answers
      (told ++ (sendLoop (state.writeBuffer.drop state.writeOff) sends).1.flatten) := by
  obtain ⟨rest, hsplit, hdrained⟩ := sendLoop_spec (state.writeBuffer.drop state.writeOff) sends
  have hwait := x.waits h hst
  obtain ⟨rfl, rfl, hlt⟩ := hwait.of_write hw
  have hbegun : state.writeBuffer.take state.writeOff ++ (sendLoop (state.writeBuffer.drop state.writeOff) sends).1.flatten <+:
      [state.writeBuffer].flatten := by
    refine ⟨rest, ?_⟩
    rw [List.append_assoc, ← hsplit, List.take_append_drop, List.flatten_singleton]
  unfold managementWrite
  rw [h.data, h.fd_eq]
  dsimp only
  rw [hst]
  dsimp only
  generalize sendLoop (state.writeBuffer.drop state.writeOff) sends = r at hsplit hdrained hbegun ⊢
  obtain ⟨chunks, ending⟩ := r
  dsimp only at hsplit hdrained hbegun ⊢
  obtain ⟨w1, m1⟩ := putManagement_managed own h { state with writeOff := state.writeOff + chunks.flatten.length } s.managedUsers
  obtain ⟨w2, m2⟩ := afterSend_managed (w1.own own) m1 ending
  have hclosed : ∀ {s1 : Server}, Own s1 → ManagementSlot s1 mid fd item → s.nextObject ≤ s1.nextObject →
      (s1.unregister fd).1.Exchanged mid [state.writeBuffer] (state.writeBuffer.take state.writeOff ++ chunks.flatten) := by
    intro s1 own1 hs1 hn
    refine x.closed (Nat.le_trans hn (unregister_management own1 hs1).nextObject) (h.born own) ?_ hbegun
    rw [unregister_management_eq own1 hs1]
    exact Function.update_self ..
  have hthere := hclosed (w2.own (w1.own own)) m2 (Nat.le_trans w1.nextObject w2.nextObject)
  cases ending with
  | failed e => exact hthere
  | drained => exact hthere
  | wouldBlock =>
    have hmore : rest ≠ [] := fun hnil => by cases hdrained.mpr hnil
    have hlen := congrArg List.length hsplit
    rw [List.length_drop, List.length_append] at hlen
    have hpos := List.length_pos_iff.mpr hmore
    refine ⟨fun hle => ?_, Nat.le_refl _, hbegun, fun state' hst' => ?_⟩
    · have := h.born own
      have : s.nextObject ≤ mid := hle
      omega
    · have hrec : (s.putManagement mid { state with writeOff := state.writeOff + chunks.flatten.length }).managements mid = some
          { state with writeOff := state.writeOff + chunks.flatten.length } := Function.update_self ..
      have hst' : (s.putManagement mid { state with writeOff := state.writeOff + chunks.flatten.length }).managements mid =
          some state' := hst'
      rw [hrec] at hst'
      cases hst'
      have htake : state.writeBuffer.take state.writeOff ++ chunks.flatten =
          state.writeBuffer.take (state.writeOff + chunks.flatten.length) := by
        rw [List.take_add, hsplit, List.take_left]
      rw [htake]
      have hi : item.interest = opWrite := by
        cases hwait with
        | answering _ hi => exact hi
      refine ⟨fd, item, m2.slot, h.handler, h.data, .answering ?_ hi⟩
      dsimp only
      omega

end Handlers

/-! ## Every event -/

section Steps

variable {mid : Nat} {s : Server} {answers : List (List Byte)} {told : List Byte}

/-- The slot of a management connection whose read handler an event calls. -/
theorem Server.managementReads_slot (h : Inv s) {e : Event} {mid : Nat} {a : Answers} (hm : s.managementReads e = some (mid, a)) :
    ∃ fd item, e = .read fd a ∧ ManagementSlot s mid fd item ∧ item.interest.read = true ∧
      step s e = managementRead s { fd := item.fd, data := item.data } a := by
  unfold Server.managementReads at hm
  split at hm
  · rename_i fd a'
    split at hm
    · cases hm
    · rename_i item hi
      split at hm
      · rename_i hc
        obtain ⟨mid', hslot⟩ := h.own.managementSlot hi hc.2.2
        rw [hslot.data] at hm
        cases hm
        refine ⟨fd, item, rfl, hslot, hc.2.1, ?_⟩
        simp only [step, hi]
        rw [if_pos ⟨hc.1, hc.2.1⟩, hc.2.2]
        rfl
      · cases hm
  · cases hm

/-- The slot of a management connection whose write handler an event calls. -/
theorem Server.managementWrites_slot (h : Inv s) {e : Event} {mid : Nat} {a : Answers}
    (hm : s.managementWrites e = some (mid, a)) :
    ∃ fd item, e = .write fd a ∧ ManagementSlot s mid fd item ∧ item.interest.write = true ∧
      step s e = managementWrite s { fd := item.fd, data := item.data } a.sends := by
  unfold Server.managementWrites at hm
  split at hm
  · rename_i fd a'
    split at hm
    · cases hm
    · rename_i item hi
      split at hm
      · rename_i hc
        obtain ⟨mid', hslot⟩ := h.own.managementSlot hi hc.2.2
        rw [hslot.data] at hm
        cases hm
        refine ⟨fd, item, rfl, hslot, hc.2.1, ?_⟩
        simp only [step, hi]
        rw [if_pos ⟨hc.1, hc.2.1⟩, hc.2.2]
        rfl
      · cases hm
  · cases hm

/-- An event that calls no read handler of the connection brings nothing to it, and no answer is prepared. -/
theorem Server.answered_of_silent {e : Event} (h : s.heard e mid = []) : s.answered mid e = [] := by
  unfold Server.answered
  rw [Server.prepares_of_silent h]
  rfl

/-- What an event that calls the read handler of a connection does to the exchange. -/
theorem step_exchanged_read (h : Inv s) (x : s.Exchanged mid answers told) {e : Event} {a : Answers}
    (hm : s.managementReads e = some (mid, a)) :
    answers = [] ∧ (step s e).Exchanged mid (answers ++ s.answered mid e) told := by
  obtain ⟨fd, item, _, hslot, hr, heq⟩ := Server.managementReads_slot h hm
  obtain ⟨state, hst⟩ := hslot.state
  obtain ⟨rfl, rfl, _⟩ := (x.waits hslot hst).of_read hr
  refine ⟨rfl, ?_⟩
  rw [heq, List.nil_append]
  by_cases hd : ∃ bytes, a.recv.limit (managementBufferSize - state.readBuffer.length - 1) = .data bytes
  · obtain ⟨bytes, hd⟩ := hd
    have hheard : s.heard e mid = bytes := by simp only [Server.heard, hm, if_true, hst, hd]
    have hne := (limit_data hd).1
    by_cases hc : LineComplete (state.readBuffer ++ bytes)
    · have hx : s.prepares e mid = some (state.readBuffer ++ bytes) := by
        simp only [Server.prepares, hst, hheard]
        exact if_pos ⟨hne, hc⟩
      unfold Server.answered
      rw [hx]
      exact managementRead_answers h.own hslot hst hd hc
    · have hx : s.prepares e mid = none := by
        simp only [Server.prepares, hst, hheard]
        exact if_neg fun hn => hc hn.2
      unfold Server.answered
      rw [hx]
      exact managementRead_listens h.own hslot hr x hst hd hc
  · have hno : ∀ bytes, a.recv.limit (managementBufferSize - state.readBuffer.length - 1) ≠ .data bytes :=
      fun bytes hb => hd ⟨bytes, hb⟩
    have hheard : s.heard e mid = [] := by simp only [Server.heard, hm, if_true, hst]
    rw [Server.answered_of_silent hheard]
    exact managementRead_silent h.own hslot x hst hno

/-- What an event does to the exchange of a connection, and that nothing more is received once the answer is prepared. -/
theorem step_exchanged (h : Inv s) (x : s.Exchanged mid answers told) (e : Event) :
    (step s e).Exchanged mid (answers ++ s.answered mid e) (told ++ s.told mid e) ∧ (answers ≠ [] → s.heard e mid = []) := by
  cases hr : s.managementReads e with
  | some r =>
    obtain ⟨mid', a⟩ := r
    obtain ⟨fd, item, rfl, hslot, hread, heq⟩ := Server.managementReads_slot h hr
    have htold : s.told mid (.read fd a) = [] := rfl
    rw [htold, List.append_nil]
    by_cases he : mid = mid'
    · subst he
      obtain ⟨hnil, hx⟩ := step_exchanged_read h x hr
      exact ⟨hx, fun hne => absurd hnil hne⟩
    · have hheard : s.heard (.read fd a) mid = [] := by
        simp only [Server.heard, hr]
        exact if_neg (Ne.symm he)
      rw [Server.answered_of_silent hheard, List.append_nil, heq]
      have hw := managementRead_managed h.own hslot a
      exact ⟨x.spared (.of_managed hw he) hw.nextObject, fun _ => hheard⟩
  | none =>
    have hheard : s.heard e mid = [] := by simp only [Server.heard, hr]
    rw [Server.answered_of_silent hheard, List.append_nil]
    refine ⟨?_, fun _ => hheard⟩
    cases hw : s.managementWrites e with
    | none =>
      have htold : s.told mid e = [] := by simp only [Server.told, hw]
      rw [htold, List.append_nil]
      exact step_exchanged_others h x hr hw
    | some r =>
      obtain ⟨mid', a⟩ := r
      obtain ⟨fd, item, rfl, hslot, hwrite, heq⟩ := Server.managementWrites_slot h hw
      rw [heq]
      by_cases he : mid = mid'
      · subst he
        obtain ⟨state, hst⟩ := hslot.state
        have htold : s.told mid (.write fd a) = (sendLoop (state.writeBuffer.drop state.writeOff) a.sends).1.flatten := by
          simp only [Server.told, hw, if_true, hst]
        rw [htold]
        exact managementWrite_exchanged h.own hslot hwrite x hst a.sends
      · have htold : s.told mid (.write fd a) = [] := by
          simp only [Server.told, hw]
          exact if_neg (Ne.symm he)
        rw [htold, List.append_nil]
        have hman := managementWrite_managed h.own hslot a.sends
        exact x.spared (.of_managed hman he) hman.nextObject

end Steps

/-! ## Every run -/

section Runs

variable (c : Config) {mid : Nat}

/-- The answers prepared in a run one event longer. -/
theorem Config.answers_concat (es : List Event) (e : Event) :
    c.answers mid (es ++ [e]) = c.answers mid es ++ (run c.start es).answered mid e :=
  Traces.emitted_concat ..

/-- The exchange of a connection in a run. -/
theorem run_exchanged (es : List Event) : (run c.start es).Exchanged mid (c.answers mid es) (c.told mid es) := by
  induction es using List.reverseRecOn with
  | nil =>
    refine ⟨fun _ => ⟨rfl, rfl⟩, Nat.zero_le _, List.nil_prefix, fun state hst => ?_⟩
    cases hst
  | append_singleton es e ih =>
    rw [run_append, c.answers_concat, show c.told mid (es ++ [e]) = c.told mid es ++ (run c.start es).told mid e from
      Traces.emitted_concat ..]
    exact (step_exchanged (run_inv c es) ih e).1

/-- As long as no answer was prepared for a connection, it has received no complete line. -/
theorem run_unanswered (es : List Event) (hnil : c.answers mid es = []) : ¬LineComplete (c.received mid es) := by
  induction es using List.reverseRecOn with
  | nil => exact fun hc => hc.elim (fun hm => by cases hm) (fun hl => by cases hl)
  | append_singleton es e ih =>
    rw [c.answers_concat] at hnil
    obtain ⟨hbefore, hnow⟩ := List.append_eq_nil_iff.mp hnil
    rw [c.received_append]
    by_cases hno : (run c.start es).heard e mid = []
    · rw [hno, List.append_nil]
      exact ih hbefore
    · rcases step_hears (run_inv c es) e with ⟨mid0, state0, hh⟩ | ⟨hsilent, _⟩
      · by_cases he : mid = mid0
        · subst he
          rw [← (run_received c es).1 state0 hh.record]
          intro hc
          have hx : (run c.start es).prepares e mid = some (state0.readBuffer ++ (run c.start es).heard e mid) := by
            simp only [Server.prepares, hh.record]
            exact if_pos ⟨hno, hc⟩
          unfold Server.answered at hnow
          rw [hx] at hnow
          cases hnow
        · exact absurd (hh.others mid he).1 hno
      · exact absurd (hsilent mid) hno

/-- An answer is the only one, it is for all that the connection has ever received, and it was prepared at the moment that became
a complete line. -/
theorem run_prepared (pre : List Event) (e : Event) (post : List Event) {buf : List Byte}
    (hx : (run c.start pre).prepares e mid = some buf) :
    c.received mid (pre ++ e :: post) = buf ∧ LineComplete buf ∧ ¬LineComplete (c.received mid pre) ∧
      c.answers mid (pre ++ e :: post) = [managementReply (run c.start pre).managedUsers (run c.start pre).metrics buf] := by
  obtain ⟨hbuf, hdone⟩ := run_prepares c pre hx
  have hnow : (run c.start pre).answered mid e =
      [managementReply (run c.start pre).managedUsers (run c.start pre).metrics buf] := by
    unfold Server.answered
    rw [hx]
    rfl
  have hbefore : c.answers mid pre = [] := by
    have honce := (@run_exchanged c mid (pre ++ [e])).once
    rw [c.answers_concat, hnow, List.length_append, List.length_singleton] at honce
    exact List.length_eq_zero_iff.mp (by omega)
  have hafter : c.received mid (pre ++ [e] ++ post) = buf ∧ c.answers mid (pre ++ [e] ++ post) =
      [managementReply (run c.start pre).managedUsers (run c.start pre).metrics buf] := by
    induction post using List.reverseRecOn with
    | nil =>
      rw [List.append_nil, c.answers_concat, hbefore, hnow]
      exact ⟨hbuf.symm, rfl⟩
    | append_singleton post e' ih =>
      obtain ⟨_, hsilent⟩ := step_exchanged (run_inv c (pre ++ [e] ++ post)) (@run_exchanged c mid _) e'
      have hheard := hsilent (by rw [ih.2]; exact List.cons_ne_nil _ _)
      rw [← List.append_assoc, c.received_append, c.answers_concat, hheard, Server.answered_of_silent hheard, List.append_nil,
        List.append_nil]
      exact ih
  rw [List.append_assoc] at hafter
  exact ⟨hafter.1, hdone, run_unanswered c pre hbefore, hafter.2⟩

/-- Where an answer was prepared. -/
theorem run_answers (es : List Event) :
    c.answers mid es = [] ∨ ∃ pre e post, es = pre ++ e :: post ∧
      (run c.start pre).prepares e mid = some (c.received mid es) := by
  cases ha : c.answers mid es with
  | nil => exact .inl rfl
  | cons reply rest =>
    right
    have hone : ∀ (s : Server) (e : Event), (s.answered mid e).length ≤ 1 := fun s e => Option.length_toList_le
    obtain ⟨pre, e, post, rfl, _, hx⟩ := Traces.emitted_split hone (show Traces.emitted step (·.answered mid) c.start es =
      [] ++ reply :: rest from ha)
    cases hp : (run c.start pre).prepares e mid with
    | none =>
      have hnil : (run c.start pre).answered mid e = [] := by
        unfold Server.answered
        rw [hp]
        rfl
      exact absurd (hnil.symm.trans hx) (List.cons_ne_nil _ _).symm
    | some buf => exact ⟨pre, e, post, rfl, by rw [(run_prepared c pre e post hp).1, hp]⟩

end Runs

/-- One line, one answer: every management connection in every run. As long as its line is not complete, no answer is prepared and
nothing is sent. If it is complete, it became so at one moment, and nothing was received since; the one answer is that to the line at
that moment, and a first part of it was sent; once all of it was sent the connection is closed and freed. While the connection is
there it has one slot, which waits for its line and then for its answer to be taken; without a slot there is no connection. -/
theorem management_exchange (c : Config) (es : List Event) (mid : Nat) :
    (¬LineComplete (c.received mid es) ∧ c.answers mid es = [] ∧ c.told mid es = [] ∨
      ∃ pre e post reply, es = pre ++ e :: post ∧ ¬LineComplete (c.received mid pre) ∧ LineComplete (c.received mid es) ∧
        c.received mid es = c.received mid (pre ++ [e]) ∧
        reply = managementReply (run c.start pre).managedUsers (run c.start pre).metrics (c.received mid es) ∧
        c.answers mid es = [reply] ∧ c.told mid es <+: reply ∧
        (c.told mid es = reply → (run c.start es).managements mid = none)) ∧
    (∀ state, (run c.start es).managements mid = some state →
      ∃ fd, (run c.start es).Registered fd .managementClientHandler (some mid) ∧
        (∀ fd', (run c.start es).Registered fd' .managementClientHandler (some mid) → fd' = fd) ∧
        (run c.start es).interest fd = some (if LineComplete (c.received mid es) then opWrite else opRead)) ∧
    ∀ fd, (run c.start es).Registered fd .managementClientHandler (some mid) → (run c.start es).managements mid ≠ none := by
  have h := run_inv c es
  have hx := @run_exchanged c mid es
  refine ⟨?_, fun state hst => ?_, fun fd hr => ?_⟩
  · obtain hnil | ⟨pre, e, post, rfl, hp⟩ := @run_answers c mid es
    · refine .inl ⟨run_unanswered c es hnil, hnil, ?_⟩
      have hb := hx.begun
      rw [hnil] at hb
      exact List.prefix_nil.mp hb
    · obtain ⟨_, hc, hno, ha⟩ := run_prepared c pre e post hp
      refine .inr ⟨pre, e, post, _, rfl, hno, hc, (run_prepares c pre hp).1, rfl, ha, ?_, fun hall => ?_⟩
      · have hb := hx.begun
        rwa [ha, List.flatten_singleton] at hb
      · cases hst : (run c.start (pre ++ e :: post)).managements mid with
        | none => rfl
        | some state =>
          obtain ⟨_, _, _, _, _, hw⟩ := hx.attended state hst
          exact absurd hall (hw.answered ha).2
  · obtain ⟨fd, item, hi, hh, hd, hw⟩ := hx.attended state hst
    refine ⟨fd, ⟨item, hi, hh, hd⟩, fun fd' hr => h.own.management mid fd' fd hr ⟨item, hi, hh, hd⟩, ?_⟩
    unfold Server.interest
    rw [hi, Option.map_some]
    obtain hnil | ⟨pre, e, post, rfl, hp⟩ := @run_answers c mid es
    · rw [if_neg (run_unanswered c es hnil), hw.unanswered hnil]
    · obtain ⟨_, hc, _, ha⟩ := run_prepared c pre e post hp
      rw [if_pos hc, (hw.answered ha).1]
  · obtain ⟨item, hi, hh, hd⟩ := hr
    obtain ⟨mid', hm⟩ := h.own.managementSlot hi hh
    rw [hm.data] at hd
    cases hd
    obtain ⟨state, hst⟩ := hm.state
    rw [hst]
    exact Option.some_ne_none state

end SocksProxy
