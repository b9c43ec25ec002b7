import SocksProxy.Lemmas.Undisturbed

/-!
# Accepting connections

The two accept loops. Each turn opens a descriptor and either makes an object for it or closes it again; the loop ends with a
call that fails, so that `errno` is not zero once there is a session.
-/

namespace SocksProxy

section Turns

variable {env : Nat → Env} {s : Server}

/-- A system call that failed, outside of any session. -/
theorem Sound.setErrno (h : Sound s) (e : Errno) : Inv (s.setErrno e) ∧ Lives env s (s.setErrno e) := by
  have ha : Aside s (s.setErrno e) := .same rfl (fun _ => rfl) rfl rfl (Nat.le_refl _) (fun _ => e.ne_zero) rfl rfl
  obtain ⟨h1, h2⟩ : _ ∧ Lives env _ _ := h.aside ha { h.own with } { h.jobs with }
    (fun hne => { h.notices hne with }) (fun _ => id) { h.listening with }
  exact ⟨⟨h1, .inr e.ne_zero⟩, h2⟩

/-- A descriptor that was accepted and closed again. -/
theorem Sound.blink (h : Sound s) {fd : Int} (hf : s.files fd = none) :
    Sound (s.blink fd) ∧ Lives env s (s.blink fd) :=
  h.frame (own_blink h.own hf) { h.jobs with } (fun _ => .congr rfl (fun _ => rfl) rfl rfl) (frame_blink 0 hf) (.refl _)

/-- An object that was made and given up at once. -/
theorem Sound.skip (h : Sound s) :
    Sound { s with nextObject := s.nextObject + 1 } ∧ Lives env s { s with nextObject := s.nextObject + 1 } :=
  h.aside (.same rfl (fun _ => rfl) rfl rfl (Nat.le_succ _) id rfl rfl) (own_skip h.own)
    (h.jobs.congr (fun _ => rfl) rfl rfl (Nat.le_succ _)) (fun hne => { h.notices hne with }) (fun _ => id) { h.listening with }

/-- A descriptor that is not open has no slot. -/
theorem Own.slot_of_closed (own : Own s) {fd : Int} (hf : s.files fd = none) : s.selector.slot fd = none := by
  have := own.opened fd
  rw [hf] at this
  simpa using this.symm

/-- A descriptor opened and closed at once. -/
theorem Server.openFd_close {fd : Int} (hf : s.files fd = none) : (s.openFd fd).close fd = s.blink fd := by
  have hu : Function.update (Function.update s.files fd (some ⟨s.nextFile, .unconnected⟩)) fd none = s.files := by
    rw [Function.update_idem, ← hf, Function.update_eq_self]
  simp [Server.close, Server.openFd, Server.blink, hu]

/-- A property that the turns of an accept loop preserve, but for those that make an object. -/
structure Turns (P : Server → Prop) : Prop where
  own : ∀ {s}, P s → Own s
  fail : ∀ {s}, P s → ∀ e : Errno, P (s.setErrno e)
  blink : ∀ {s} {fd : Int}, P s → s.files fd = none → P (s.blink fd)
  skip : ∀ {s : Server}, P s → P { s with nextObject := s.nextObject + 1 }

/-- The turns keep the server sound, and no session notices them. -/
theorem turns_sound (env : Nat → Env) (s0 : Server) : Turns fun s => Sound s ∧ Lives env s0 s where
  own := fun h => h.1.own
  fail := fun h e => by
    obtain ⟨h1, l1⟩ : _ ∧ Lives env _ _ := h.1.setErrno e
    exact ⟨h1.toSound, h.2.trans l1⟩
  blink := fun h hf => by
    obtain ⟨h1, l1⟩ : _ ∧ Lives env _ _ := h.1.blink hf
    exact ⟨h1, h.2.trans l1⟩
  skip := fun h => by
    obtain ⟨h1, l1⟩ : _ ∧ Lives env _ _ := h.1.skip
    exact ⟨h1, h.2.trans l1⟩

/-- The turns disturb nobody. -/
theorem turns_undisturbed (s0 : Server) : Turns fun s => Own s ∧ Undisturbed s0 s where
  own := fun h => h.1
  fail := fun h _ => ⟨{ h.1 with }, h.2.trans (.same rfl rfl (Nat.le_refl _) rfl fun _ => rfl)⟩
  blink := fun h hf => ⟨own_blink h.1 hf, h.2.trans (.of_frame (frame_blink 0 hf))⟩
  skip := fun h => ⟨own_skip h.1, h.2.trans (.same rfl rfl (Nat.le_succ _) rfl fun _ => rfl)⟩

end Turns

/-! ## Sessions -/

/-- A session is made for a descriptor just accepted. -/
def Server.enroll (s : Server) (fd : Int) : Server :=
  { s with
    selector := (s.selector.selectorRegister fd (some .clientHandler) opRead (some s.nextObject) true).1
    sessions := Function.update s.sessions s.nextObject (some (ClientState.accepted fd))
    nextObject := s.nextObject + 1
    files := Function.update s.files fd (some { serial := s.nextFile, connect := .unconnected })
    nextFile := s.nextFile + 1
    metrics := s.metrics.connectionOpened
    activeClientConnections := s.activeClientConnections + 1
    trace := s.trace ++ [.opened s.nextFile fd, .act s.nextObject .accepted] }

section Enroll

variable {env : Nat → Env} {s : Server} {fd : Int}

/-- The slots once a session was admitted. -/
theorem slot_enroll (own : Own s) (hv : invalidFd fd = false) (hf : s.files fd = none) (fd' : Int) :
    (s.enroll fd).selector.slot fd' =
      if fd' = fd then
        some { fd, interest := opRead, handler := some .clientHandler, data := some s.nextObject, serial := s.selector.serial }
      else s.selector.slot fd' :=
  (FdSelector.selectorRegister_of_free hv (by rw [own.size]; omega) (own.slot_of_closed hf) FdHandler.clientHandler
    opRead (some s.nextObject) true).2.2.2 fd'

/-- Admitting a session is a frame around it. -/
theorem frame_enroll (own : Own s) (hv : invalidFd fd = false) (hf : s.files fd = none) :
    Frame s.nextObject s (s.enroll fd) [.accepted] := by
  obtain ⟨_, hz, hq, _⟩ := FdSelector.selectorRegister_of_free hv (by rw [own.size]; omega) (own.slot_of_closed hf)
    FdHandler.clientHandler opRead (some s.nextObject) true
  have hne : ∀ fd' item, s.selector.slot fd' = some item → fd' ≠ fd := by
    rintro fd' item hi rfl
    rw [own.slot_of_closed hf] at hi
    cases hi
  exact {
    sessions := fun sid' h => Function.update_of_ne h _ _
    kept := fun fd' item hi _ => by
      rw [slot_enroll own hv hf, if_neg (hne fd' item hi)]
      exact ⟨hi, Function.update_of_ne (hne fd' item hi) _ _⟩
    foreign := fun fd' item hi ho => by
      rw [slot_enroll own hv hf] at hi
      split at hi
      · cases hi
        exact absurd ⟨.inl rfl, rfl⟩ ho
      · exact hi
    selector := fun hc => (hc.selectorRegister fd (some FdHandler.clientHandler) opRead (some s.nextObject) true).1
    shared := by simp only [Server.shared, Server.enroll, hz, hq]
    nextObject := Nat.le_succ _
    errno := id
    jobs := fun job _ _ => ⟨rfl, fun fd => by simp [Server.waits, Server.enroll, ClientState.accepted]⟩
    threads := fun _ => .inl rfl
    results := fun _ => .inr rfl
    trace := by
      refine ⟨_, rfl, by simp [Obs.acts], fun sid' h => ?_, rfl⟩
      simp [Obs.acts, h.symm]
    ledger := fun hl => by
      have := (hl.openFd hf .unconnected).acts s.nextObject [.accepted]
      rw [List.append_assoc] at this
      exact this }

/-- A session just admitted owns its descriptor. -/
theorem own_enroll (own : Own s) (hv : invalidFd fd = false) (hf : s.files fd = none) : Own (s.enroll fd) := by
  have hsess : (s.enroll fd).sessions s.nextObject = some (ClientState.accepted fd) := by simp [Server.enroll]
  refine own.frame (frame_enroll own hv hf) {
    slots := fun fd' item hi ho => ?_
    client := fun st hst => ?_
    target := fun st hst hne => ?_
    opened := fun fd' => ?_
    born := fun _ => Nat.lt_succ_self _ }
  · rw [slot_enroll own hv hf] at hi
    split at hi
    · cases hi
      subst_vars
      exact ⟨rfl, _, hsess, rfl⟩
    · -- the number is new, so no old slot is the new session's
      obtain ⟨state, hs, _⟩ := own.fd_of_slot hi ho
      rw [(own.fresh _ (Nat.le_refl _)).1] at hs
      cases hs
  · rw [hsess] at hst
    cases hst
    refine ⟨_, (slot_enroll own hv hf fd).trans (if_pos rfl), rfl, rfl⟩
  · rw [hsess] at hst
    cases hst
    exact absurd rfl hne
  · rw [slot_enroll own hv hf]
    by_cases he : fd' = fd
    · subst he
      simp [Server.enroll]
    · rw [if_neg he, ← own.opened fd']
      simp [Server.enroll, Function.update_of_ne he]

/-- The life of a session just admitted begins. -/
theorem life_enroll (own : Own s) (hv : invalidFd fd = false) (hf : s.files fd = none) :
    s.life s.nextObject = .unborn ∧ (s.enroll fd).life s.nextObject = .live (.accepted fd) := by
  refine ⟨by simp [Server.life, (own.fresh _ (Nat.le_refl _)).1], ?_⟩
  have hsess : (s.enroll fd).sessions s.nextObject = some (ClientState.accepted fd) := by simp [Server.enroll]
  have hne : (-1 : Int) ≠ fd := by
    rintro rfl
    simp at hv
  rw [Server.life_of_some hsess]
  unfold Server.viewOf Server.interest Server.connect
  rw [slot_enroll own hv hf, slot_enroll own hv hf]
  simp only [ClientState.accepted, if_true, if_neg hne, FdSelector.slot_neg_one]
  simp [Server.enroll, Function.update_of_ne hne, own.files_neg_one, View.accepted, ClientState.accepted]

/-- Admitting a session. -/
theorem Sound.enroll (h : Sound s) (hv : invalidFd fd = false) (hf : s.files fd = none) :
    Sound (s.enroll fd) ∧ Lives env s (s.enroll fd) := by
  obtain ⟨hb, ha⟩ := life_enroll h.own hv hf
  have hne : fd ≠ -1 := by
    rintro rfl
    simp at hv
  have hw : ∀ sid, (s.enroll fd).waits sid = s.waits sid := by
    intro sid
    by_cases he : sid = s.nextObject
    · subst he
      rw [waits_of_none (h.own.fresh _ (Nat.le_refl _)).1, waits_of_some (Function.update_self _ _ _)]
      rfl
    · exact waits_congr (Function.update_of_ne he _ _)
  refine h.frame (own_enroll h.own hv hf) (h.jobs.congr hw rfl rfl (Nat.le_succ _)) (fun _ => .congr rfl hw rfl rfl)
    (frame_enroll h.own hv hf) ?_
  rw [hb, ha]
  exact .single (.accepted hne)

/-- The session of a descriptor just accepted, before it is registered. -/
def Server.stillborn (s : Server) (fd : Int) : Server :=
  { s.openFd fd with nextObject := s.nextObject + 1 }.put s.nextObject (ClientState.accepted fd)

/-- Registering the descriptor of a session just made admits it. -/
theorem register_enroll (own : Own s) (hv : invalidFd fd = false) (hf : s.files fd = none) :
    (s.stillborn fd).register fd .clientHandler opRead (some s.nextObject) =
      (((s.stillborn fd).register fd .clientHandler opRead (some s.nextObject)).1, .success) ∧
    ((s.stillborn fd).register fd .clientHandler opRead (some s.nextObject)).1.connectionOpened s.nextObject =
      s.enroll fd := by
  have hreg := (FdSelector.selectorRegister_of_free hv (by rw [own.size]; omega) (own.slot_of_closed hf)
    FdHandler.clientHandler opRead (some s.nextObject) true).1
  refine ⟨Prod.ext rfl hreg, ?_⟩
  simp [Server.register, Server.stillborn, Server.put, Server.openFd, Server.connectionOpened, Server.enroll]

/-- Giving up a session that could not be registered leaves a descriptor opened and closed, and a number used up. -/
theorem free_enroll (own : Own s) (hf : s.files fd = none) :
    ((s.stillborn fd).free s.nextObject).close fd = { s.blink fd with nextObject := s.nextObject + 1 } := by
  have hsess : Function.update (Function.update s.sessions s.nextObject (some (ClientState.accepted fd))) s.nextObject none =
      s.sessions := by
    rw [Function.update_idem, ← (own.fresh _ (Nat.le_refl _)).1, Function.update_eq_self]
  have hu : Function.update (Function.update s.files fd (some ⟨s.nextFile, .unconnected⟩)) fd none = s.files := by
    rw [Function.update_idem, ← hf, Function.update_eq_self]
  simp [Server.stillborn, Server.free, Server.withSession, Server.put, Server.openFd, Server.close, Server.blink, hsess, hu]

/-- A descriptor too large for the selector is not registered. -/
theorem register_invalid (s : Server) (hv : invalidFd fd = true) (handler : FdHandler) (interest : FdInterest)
    (data : Option Nat) : s.register fd handler interest data = (s, .iargs) := by
  unfold Server.register
  rw [FdSelector.selectorRegister_of_invalid hv]

/-- A turn of the loop whose calls all succeed, but perhaps the registration: the descriptor may be too large for it. -/
theorem acceptConnection_made (own : Own s) {r : Int} (ho : s.handOut (.ok r) = .ok fd) (hf : s.files fd = none)
    (rest : List AcceptResult) :
    acceptConnection s (.accepted r .ok true :: rest) =
      acceptConnection (if invalidFd fd then { s.blink fd with nextObject := s.nextObject + 1 } else s.enroll fd) rest := by
  rw [acceptConnection, ho]
  dsimp only
  rw [if_neg (by decide)]
  cases hv : invalidFd fd with
  | false =>
    obtain ⟨hr, ha⟩ := register_enroll own hv hf
    rw [if_neg Bool.false_ne_true, ← ha]
    split
    · rename_i s' heq
      rw [show ((s.stillborn fd).register fd .clientHandler opRead (some s.nextObject)).1 = s' from congrArg Prod.fst heq]
      rfl
    · rename_i hno heq
      exact (hno (congrArg Prod.snd (heq.symm.trans hr))).elim
  | true =>
    have hr := register_invalid (s.stillborn fd) hv .clientHandler opRead (some s.nextObject)
    rw [if_pos rfl, ← free_enroll own hf]
    split
    · rename_i s' heq
      cases hr.symm.trans heq
    · rename_i s' _ _ heq
      rw [show s' = s.stillborn fd from congrArg Prod.fst (heq.symm.trans hr)]
      rfl

/-- What the turns of the loop preserve holds when the loop ends, which it does with a call that fails. -/
theorem acceptConnection_turns {P : Server → Prop} (turns : Turns P)
    (enroll : ∀ {s} {fd : Int}, P s → invalidFd fd = false → s.files fd = none → P (s.enroll fd)) (h : P s)
    (accepts : List AcceptResult) : ∃ s1 e, P s1 ∧ acceptConnection s accepts = s1.setErrno e := by
  induction accepts generalizing s with
  | nil => exact ⟨s, _, h, rfl⟩
  | cons r rest ih =>
    cases r with
    | error e => exact ⟨s, e, h, rfl⟩
    | accepted fd nonblocking allocated =>
      match ho : s.handOut (.ok fd) with
      | .error e =>
        rw [acceptConnection, ho]
        exact ⟨s, e, h, rfl⟩
      | .ok clientFd =>
        obtain ⟨_, hf⟩ := Server.handOut_ok ho
        cases nonblocking with
        | error e =>
          rw [acceptConnection, ho]
          refine ih ?_
          rw [show (s.openFd clientFd).setErrno e = (s.setErrno e).openFd clientFd from rfl,
            Server.openFd_close (s := s.setErrno e) hf]
          exact turns.blink (turns.fail h e) hf
        | ok =>
          cases allocated with
          | false =>
            rw [acceptConnection, ho]
            refine ih ?_
            rw [Server.openFd_close hf]
            exact turns.blink h hf
          | true =>
            rw [acceptConnection_made (turns.own h) ho hf]
            split
            · -- the session is freed before it was ever served
              exact ih (turns.skip (turns.blink h hf))
            · exact ih (enroll h (by simpa using ‹¬invalidFd clientFd = true›) hf)

/-- `accept_connection` keeps the invariant. -/
theorem acceptConnection_inv (h : Sound s) (accepts : List AcceptResult) :
    Inv (acceptConnection s accepts) ∧ Lives env s (acceptConnection s accepts) := by
  obtain ⟨s1, e, ⟨h1, l1⟩, heq⟩ := acceptConnection_turns (turns_sound env s) (fun h hv hf => by
    obtain ⟨h2, l2⟩ : _ ∧ Lives env _ _ := h.1.enroll hv hf
    exact ⟨h2, h.2.trans l2⟩) ⟨h, .refl s⟩ accepts
  rw [heq]
  obtain ⟨h2, l2⟩ : _ ∧ Lives env _ _ := h1.setErrno e
  exact ⟨h2, l1.trans l2⟩

/-- `accept_connection` disturbs nobody. -/
theorem acceptConnection_undisturbed (own : Own s) (accepts : List AcceptResult) :
    Undisturbed s (acceptConnection s accepts) := by
  obtain ⟨s1, e, h1, heq⟩ := acceptConnection_turns (turns_undisturbed s) (fun h hv hf =>
    ⟨own_enroll h.1 hv hf, h.2.trans (.of_frame (frame_enroll h.1 hv hf))⟩) ⟨own, .refl s⟩ accepts
  rw [heq]
  exact ((turns_undisturbed s).fail h1 e).2

end Enroll

/-! ## Management connections -/

/-- A management connection is made for a descriptor just accepted, before it is registered. -/
def Server.stillbornManagement (s : Server) (fd : Int) : Server :=
  { s.openFd fd with nextObject := s.nextObject + 1 }.putManagement s.nextObject
    { readBuffer := [], writeBuffer := [], writeOff := 0 }

section EnrollManagement

variable {env : Nat → Env} {s : Server} {fd : Int}

/-- Registering the descriptor of a management connection just made. -/
theorem register_management (own : Own s) (hv : invalidFd fd = false) (hf : s.files fd = none) :
    ((s.stillbornManagement fd).register fd .managementClientHandler opRead (some s.nextObject)).2 = .success ∧
    Managed s.nextObject fd s
      ((s.stillbornManagement fd).register fd .managementClientHandler opRead (some s.nextObject)).1 := by
  obtain ⟨hreg, hz, hq, hslot⟩ := FdSelector.selectorRegister_of_free hv (by rw [own.size]; omega) (own.slot_of_closed hf)
    FdHandler.managementClientHandler opRead (some s.nextObject) true
  refine ⟨hreg, ?_, fun fd' hne => ⟨(hslot fd').trans (if_neg hne), Function.update_of_ne hne _ _⟩, fun item hi => ?_,
    fun item hi => ?_, ?_, fun hc => (hc.selectorRegister fd (some FdHandler.managementClientHandler) opRead (some s.nextObject) true).1,
    fun fd' hr => ?_, fun mid' hne => Function.update_of_ne hne _ _, fun _ => Nat.lt_succ_self _,
    Nat.le_succ _, id, ⟨_, rfl, fun _ => rfl, fun _ => rfl⟩, fun hl => hl.openFd hf .unconnected⟩
  · simp only [Server.quiet, Server.register, Server.stillbornManagement, Server.putManagement, Server.openFd, hz, hq]
    rfl
  · rw [own.slot_of_closed hf] at hi
    cases hi
  · have hi := ((hslot fd).trans (if_pos rfl)).symm.trans hi
    cases hi
    exact ⟨rfl, rfl, rfl, by simp [Server.register, Server.stillbornManagement, Server.putManagement]⟩
  · have hi := (hslot fd).trans (if_pos rfl)
    simp only [Server.register, Server.stillbornManagement, Server.putManagement, Server.openFd, hi, Function.update_self,
      Option.isSome_some]
  · -- the number is new, so no slot is the new connection's
    obtain ⟨item, hi, hh, hd⟩ := hr
    have ho := own.owned fd' item hi
    unfold Server.SlotOwned at ho
    rw [hh, hd] at ho
    obtain ⟨state, hst⟩ := ho
    rw [(own.fresh _ (Nat.le_refl _)).2] at hst
    cases hst

/-- A turn of the loop whose calls all succeed, but perhaps the registration. -/
theorem acceptManagementConnection_made (own : Own s) {r : Int} (ho : s.handOut (.ok r) = .ok fd) (hf : s.files fd = none)
    (rest : List AcceptResult) :
    acceptManagementConnection s (.accepted r .ok true :: rest) =
      acceptManagementConnection
        (if invalidFd fd then { s.blink fd with nextObject := s.nextObject + 1 }
        else ((s.stillbornManagement fd).register fd .managementClientHandler opRead (some s.nextObject)).1) rest := by
  rw [acceptManagementConnection, ho]
  dsimp only
  rw [if_neg (by decide)]
  cases hv : invalidFd fd with
  | false =>
    have hr := (register_management own hv hf).1
    rw [if_neg Bool.false_ne_true]
    split
    · rename_i s' heq
      rw [← show ((s.stillbornManagement fd).register fd .managementClientHandler opRead (some s.nextObject)).1 = s' from
        congrArg Prod.fst heq]
    · rename_i hno heq
      exact (hno ((congrArg Prod.snd heq).symm.trans hr)).elim
  | true =>
    have hr := register_invalid (s.stillbornManagement fd) hv .managementClientHandler opRead (some s.nextObject)
    have hm : Function.update (Function.update s.managements s.nextObject
        (some { readBuffer := [], writeBuffer := [], writeOff := 0 })) s.nextObject none = s.managements := by
      rw [Function.update_idem, ← (own.fresh _ (Nat.le_refl _)).2, Function.update_eq_self]
    have hu : Function.update (Function.update s.files fd (some ⟨s.nextFile, .unconnected⟩)) fd none = s.files := by
      rw [Function.update_idem, ← hf, Function.update_eq_self]
    rw [if_pos rfl]
    split
    · rename_i s' heq
      cases hr.symm.trans heq
    · rename_i s' _ _ heq
      rw [show s' = s.stillbornManagement fd from congrArg Prod.fst (heq.symm.trans hr)]
      simp [Server.stillbornManagement, Server.putManagement, Server.openFd, Server.close, Server.blink, hm, hu]

/-- What the turns of the loop preserve holds when the loop ends, which it does with a call that fails. -/
theorem acceptManagementConnection_loop {P : Server → Prop} (turns : Turns P)
    (enroll : ∀ {s : Server} {fd : Int}, P s → invalidFd fd = false → s.files fd = none →
      P ((s.stillbornManagement fd).register fd .managementClientHandler opRead (some s.nextObject)).1) (h : P s)
    (accepts : List AcceptResult) : ∃ s1 e, P s1 ∧ acceptManagementConnection s accepts = s1.setErrno e := by
  induction accepts generalizing s with
  | nil => exact ⟨s, _, h, rfl⟩
  | cons r rest ih =>
    cases r with
    | error e => exact ⟨s, e, h, rfl⟩
    | accepted fd nonblocking allocated =>
      match ho : s.handOut (.ok fd) with
      | .error e =>
        rw [acceptManagementConnection, ho]
        exact ⟨s, e, h, rfl⟩
      | .ok clientFd =>
        obtain ⟨_, hf⟩ := Server.handOut_ok ho
        cases nonblocking with
        | error e =>
          rw [acceptManagementConnection, ho]
          refine ih ?_
          rw [show (s.openFd clientFd).setErrno e = (s.setErrno e).openFd clientFd from rfl,
            Server.openFd_close (s := s.setErrno e) hf]
          exact turns.blink (turns.fail h e) hf
        | ok =>
          cases allocated with
          | false =>
            rw [acceptManagementConnection, ho]
            refine ih ?_
            rw [Server.openFd_close hf]
            exact turns.blink h hf
          | true =>
            rw [acceptManagementConnection_made (turns.own h) ho hf]
            split
            · exact ih (turns.skip (turns.blink h hf))
            · exact ih (enroll h (by simpa using ‹¬invalidFd clientFd = true›) hf)

/-- What the turns of the loop preserve, if the coming of a management connection does. -/
theorem acceptManagementConnection_turns {P : Server → Prop} (turns : Turns P)
    (enroll : ∀ {s s'} {fd : Int}, P s → Managed s.nextObject fd s s' → s'.managedUsers = s.managedUsers →
      s'.managements s.nextObject = some { readBuffer := [], writeBuffer := [], writeOff := 0 } → P s') (h : P s)
    (accepts : List AcceptResult) : ∃ s1 e, P s1 ∧ acceptManagementConnection s accepts = s1.setErrno e :=
  acceptManagementConnection_loop turns
    (fun h hv hf => enroll h (register_management (turns.own h) hv hf).2 rfl (Function.update_self ..)) h accepts

/-- `accept_management_connection` keeps the invariant. -/
theorem acceptManagementConnection_inv (h : Sound s) (accepts : List AcceptResult) :
    Inv (acceptManagementConnection s accepts) ∧ Lives env s (acceptManagementConnection s accepts) := by
  obtain ⟨s1, e, ⟨h1, l1⟩, heq⟩ := acceptManagementConnection_turns (turns_sound env s) (fun h hm _ _ => by
    obtain ⟨h2, l2⟩ : _ ∧ Lives env _ _ := hm.sound h.1
    exact ⟨h2, h.2.trans l2⟩) ⟨h, .refl s⟩ accepts
  rw [heq]
  obtain ⟨h2, l2⟩ : _ ∧ Lives env _ _ := h1.setErrno e
  exact ⟨h2, l1.trans l2⟩

/-- `accept_management_connection` disturbs nobody. -/
theorem acceptManagementConnection_undisturbed (own : Own s) (accepts : List AcceptResult) :
    Undisturbed s (acceptManagementConnection s accepts) := by
  obtain ⟨s1, e, h1, heq⟩ := acceptManagementConnection_turns (turns_undisturbed s) (fun h hm _ _ =>
    ⟨hm.own h.1, h.2.trans (.of_managed hm)⟩) ⟨own, .refl s⟩ accepts
  rw [heq]
  exact ((turns_undisturbed s).fail h1 e).2

end EnrollManagement

end SocksProxy
