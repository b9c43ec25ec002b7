import SocksProxy.Lemmas.Errno
import SocksProxy.Library.Simulation
import SocksProxy.Theorems.Iteration
import SocksProxy.Theorems.LateNotices
import SocksProxy.Theorems.Setup
import SocksProxy.Theorems.Shutdown

/-!
# The main loop

`server_run` goes through its text in one order, with the moves of resolver threads, of the kernel and of signals between any two of
its own. Each of its moves is matched by events of the event loop, or by none: so whatever holds after every sequence of events
holds wherever the main thread stands, and what is left when it returns can be said.
-/

namespace SocksProxy

/-! ## The events of a move -/

/-- What a move of the process comes to: an event, or that a call has set `errno`. -/
inductive Happening where
  | event (e : Event)
  | errno (e : Errno)

/-- The effect of what happens. -/
def Server.happen (s : Server) : Happening → Server
  | .event e => step s e
  | .errno e => s.setErrno e

/-- What a move may come to. A move of the main thread comes to events of the loop, unless it is a `pselect` that fails; a step of
somebody else is its own event. -/
def Move.StandsFor : Move → List Happening → Prop
  | .main a, hs =>
    (∃ es : List Event, hs = es.map .event ∧ ∀ e ∈ es, e.outside = false) ∨ ∃ e, a.pselect = .error e ∧ hs = [.errno e]
  | .outside e, hs => hs = if e.outside then [.event e] else []

/-- The phase of the server at a place of its text. -/
def MainPc.phase : MainPc → RunPhase
  | .exit => .exited
  | .returned => .destroyed
  | _ => .running

/-- What the main thread holds at a place: in a walk over the slots, the numbers of the turn and of the last one are in the table;
between the two handlers of a turn, the key that was filled before the first still names what a call of the second would be for; and
in the end no slot is in use. -/
def MainPc.Fits (s : Server) : MainPc → Prop
  | .turn i last _ _ => i ≤ last ∧ last < 1024
  | .write i last key _ _ => i ≤ last ∧ last < 1024 ∧ key.fd = i ∧
    ∀ item, s.selector.slot i = some item → item.interest.write = true → item.data = key.data
  | .returned => ∀ fd, s.selector.slot fd = none
  | _ => True

/-- The process is in order. -/
structure Process.Ok (p : Process) : Prop where
  inv : Inv p.server
  phase : p.server.phase = p.pc.phase
  fits : p.pc.Fits p.server

/-- The slot whose handler the next move of the main thread calls, if it calls one. -/
def Process.calls (p : Process) : Option (Item FdHandler Nat) :=
  match p.pc with
  | .turn i _ slaveR _ =>
    let item := p.server.selector.fds i
    if item.used && (slaveR item.fd && item.interest.read) then some item else none
  | .write i _ _ _ slaveW =>
    let item := p.server.selector.fds i
    if slaveW (i : Int) && item.interest.write then some item else none
  | _ => none

section Moves

variable {s : Server} {p : Process}

/-- `errno` is no part of what holds between two events. -/
theorem Inv.setErrno (h : Inv s) (e : Errno) : Inv (s.setErrno e) := by
  obtain ⟨hinv, -⟩ : _ ∧ Lives (s.env .signal) _ _ := h.toSound.setErrno e
  exact hinv

/-- A step of somebody else leaves the slots, and where the server stands. -/
theorem step_outside (h : Inv s) {e : Event} (ho : e.outside = true) :
    (step s e).selector.slot = s.selector.slot ∧ (step s e).phase = s.phase := by
  constructor
  · cases e with
    | publish job status result =>
      simp only [step, publishResult]
      split
      · split <;> rfl
      · rfl
    | notify job allocated =>
      simp only [step, notifyClient]
      split
      · split
        · rfl
        · split <;> rfl
      · rfl
    | release job =>
      simp only [step, releaseJob]
      split
      · split <;> rfl
      · rfl
    | connectDone fd error =>
      simp only [step, connectDone]
      split
      · split
        · simp only [Server.setConnect]
          split <;> rfl
        · rfl
      · rfl
    | signal =>
      simp only [step, sigtermHandler]
      split <;> rfl
    | _ => cases ho
  · obtain hsame | ⟨-, -, ⟨rfl, -⟩ | ⟨rfl, -⟩⟩ | ⟨rfl, -⟩ := phase_step h e
    · exact hsame
    all_goals cases ho

/-- The events of a handler leave the server in its loop. -/
theorem phase_step_call (h : Inv s) (fd : Int) (a : Answers) :
    (step s (.read fd a)).phase = s.phase ∧ (step s (.write fd a)).phase = s.phase := by
  constructor
  · obtain hsame | ⟨-, -, ⟨he, -⟩ | ⟨he, -⟩⟩ | ⟨he, -⟩ := phase_step h (.read fd a)
    · exact hsame
    all_goals cases he
  · obtain hsame | ⟨-, -, ⟨he, -⟩ | ⟨he, -⟩⟩ | ⟨he, -⟩ := phase_step h (.write fd a)
    · exact hsame
    all_goals cases he

/-- After a turn of a walk, the next one is in the table. -/
theorem fits_afterTurn {i last : Nat} {slaveR slaveW : Int → Bool} (hlt : last < 1024) :
    (MainPc.afterTurn i last slaveR slaveW).phase = .running ∧ (MainPc.afterTurn i last slaveR slaveW).Fits s := by
  unfold MainPc.afterTurn
  split
  · exact ⟨rfl, by omega, hlt⟩
  · exact ⟨rfl, trivial⟩

/-- A move of the main thread that comes to one event. -/
theorem Process.Ok.one {a : MainAnswers} {p' : Process} {e : Event} (h : p.Ok) (he : e.outside = false)
    (hserver : p'.server = SocksProxy.step p.server e) (hphase : p'.server.phase = p'.pc.phase) (hfits : p'.pc.Fits p'.server) :
    ∃ hs, (Move.main a).StandsFor hs ∧ p'.server = hs.foldl Server.happen p.server ∧ p'.Ok := by
  refine ⟨[.event e], .inl ⟨[e], rfl, fun e' he' => ?_⟩, hserver, hserver ▸ (step_inv h.inv e).1, hphase, hfits⟩
  rw [List.mem_singleton.mp he']
  exact he

/-- A move of the main thread that comes to nothing. -/
theorem Process.Ok.nothing {a : MainAnswers} {p' : Process} (h : p.Ok) (hserver : p'.server = p.server)
    (hphase : p.server.phase = p'.pc.phase) (hfits : p'.pc.Fits p.server) :
    ∃ hs, (Move.main a).StandsFor hs ∧ p'.server = hs.foldl Server.happen p.server ∧ p'.Ok :=
  ⟨[], .inl ⟨[], rfl, fun _ he => absurd he List.not_mem_nil⟩, hserver, hserver ▸ h.inv, hserver ▸ hphase, hserver ▸ hfits⟩

/-- What the read half of a turn can be: the slot is not in use, or there is nothing to call its handler for, or it is called. -/
theorem Process.Ok.turn_cases {i last : Nat} {slaveR slaveW : Int → Bool} (h : p.Ok) (hpc : p.pc = .turn i last slaveR slaveW)
    (a : MainAnswers) :
    (p.server.selector.slot i = none ∧ p.calls = none ∧ p.advance a = ⟨p.server, .afterTurn i last slaveR slaveW⟩) ∨
    ∃ item, p.server.selector.slot i = some item ∧
      (¬(slaveR i = true ∧ item.interest.read = true) ∧ p.calls = none ∧
          p.advance a = ⟨p.server, .write i last { fd := i, data := item.data } slaveR slaveW⟩ ∨
        (slaveR i = true ∧ item.interest.read = true) ∧ p.calls = some item ∧
          p.advance a = ⟨SocksProxy.step p.server (.read i a.handler), .write i last { fd := i, data := item.data } slaveR slaveW⟩ ∧
          SocksProxy.step p.server (.read i a.handler) =
            handleRead a.handler item.handler { fd := item.fd, data := item.data } p.server) := by
  have hp : p.server.phase = .running := h.phase.trans (by rw [hpc]; rfl)
  have hfits := h.fits
  rw [hpc] at hfits
  obtain ⟨hle, hlt⟩ := hfits
  have hsize := h.inv.own.selector.size
  have hadv : p.advance a = if (p.server.selector.fds i).used then
      ⟨if slaveR (p.server.selector.fds i).fd && (p.server.selector.fds i).interest.read then
          handleRead a.handler (p.server.selector.fds i).handler
            { fd := (p.server.selector.fds i).fd, data := (p.server.selector.fds i).data } p.server
        else p.server,
        .write i last { fd := (p.server.selector.fds i).fd, data := (p.server.selector.fds i).data } slaveR slaveW⟩
      else ⟨p.server, .afterTurn i last slaveR slaveW⟩ := by
    unfold Process.advance
    rw [hpc]
  have hcalls : p.calls = if (p.server.selector.fds i).used &&
      (slaveR (p.server.selector.fds i).fd && (p.server.selector.fds i).interest.read) then some (p.server.selector.fds i)
      else none := by
    unfold Process.calls
    rw [hpc]
  cases hu : (p.server.selector.fds i).used with
  | false =>
    refine .inl ⟨?_, by rw [hcalls, hu, Bool.false_and, if_neg Bool.false_ne_true], by rw [hadv, hu, if_neg Bool.false_ne_true]⟩
    cases hs : p.server.selector.slot i with
    | none => rfl
    | some item =>
      obtain ⟨hfds, hused⟩ := FdSelector.fds_of_slot hs
      rw [Int.toNat_natCast] at hfds
      rw [hfds, hused] at hu
      cases hu
  | true =>
    obtain ⟨hfd, hslot⟩ := h.inv.own.selector.slot_of_used (by omega) hu
    rw [hu, if_pos rfl, hfd] at hadv
    rw [hu, Bool.true_and, hfd] at hcalls
    refine .inr ⟨_, hslot, ?_⟩
    rw [← Bool.and_eq_true_iff]
    by_cases hbit : (slaveR i && (p.server.selector.fds i).interest.read) = true
    · have hstep : SocksProxy.step p.server (.read i a.handler) = handleRead a.handler (p.server.selector.fds i).handler
          { fd := (p.server.selector.fds i).fd, data := (p.server.selector.fds i).data } p.server := by
        simp only [SocksProxy.step, hslot]
        exact if_pos ⟨hp, (Bool.and_eq_true_iff.mp hbit).2⟩
      refine .inr ⟨hbit, by rw [hcalls, if_pos hbit], ?_, hstep⟩
      rw [hadv, if_pos hbit, hstep, hfd]
    · exact .inl ⟨hbit, by rw [hcalls, if_neg hbit], by rw [hadv, if_neg hbit]⟩

/-- What the write half of a turn can be: there is nothing to call the handler of the slot for, or it is called. -/
theorem Process.Ok.write_cases {i last : Nat} {key : SelectorKey Nat} {slaveR slaveW : Int → Bool} (h : p.Ok)
    (hpc : p.pc = .write i last key slaveR slaveW) (a : MainAnswers) :
    ((∀ item, p.server.selector.slot i = some item → ¬(slaveW i = true ∧ item.interest.write = true)) ∧ p.calls = none ∧
      p.advance a = ⟨p.server, .afterTurn i last slaveR slaveW⟩) ∨
    ∃ item, p.server.selector.slot i = some item ∧ (slaveW i = true ∧ item.interest.write = true) ∧ p.calls = some item ∧
      p.advance a = ⟨SocksProxy.step p.server (.write i a.handler), .afterTurn i last slaveR slaveW⟩ ∧
      SocksProxy.step p.server (.write i a.handler) =
        handleWrite a.handler item.handler { fd := item.fd, data := item.data } p.server := by
  have hp : p.server.phase = .running := h.phase.trans (by rw [hpc]; rfl)
  have hfits := h.fits
  rw [hpc] at hfits
  obtain ⟨hle, hlt, hkey, hdata⟩ := hfits
  have hsize := h.inv.own.selector.size
  have hadv : p.advance a =
      ⟨if slaveW (i : Int) && (p.server.selector.fds i).interest.write then
          handleWrite a.handler (p.server.selector.fds i).handler key p.server
        else p.server, .afterTurn i last slaveR slaveW⟩ := by
    unfold Process.advance
    rw [hpc]
  have hcalls : p.calls = if slaveW (i : Int) && (p.server.selector.fds i).interest.write then some (p.server.selector.fds i)
      else none := by
    unfold Process.calls
    rw [hpc]
  by_cases hbit : (slaveW (i : Int) && (p.server.selector.fds i).interest.write) = true
  · have hint := (Bool.and_eq_true_iff.mp hbit).2
    have hused : (p.server.selector.fds i).used = true :=
      used_of_write (w := ((p.server, []) : Iterating)) h.inv.own.selector hint
    obtain ⟨hfd, hslot⟩ := h.inv.own.selector.slot_of_used (by omega) hused
    have hkeyeq : key = { fd := (p.server.selector.fds i).fd, data := (p.server.selector.fds i).data } := by
      rw [hfd, hdata _ hslot hint, ← hkey]
    have hstep : SocksProxy.step p.server (.write i a.handler) = handleWrite a.handler (p.server.selector.fds i).handler
        { fd := (p.server.selector.fds i).fd, data := (p.server.selector.fds i).data } p.server := by
      simp only [SocksProxy.step, hslot]
      exact if_pos ⟨hp, hint⟩
    refine .inr ⟨_, hslot, Bool.and_eq_true_iff.mp hbit, by rw [hcalls, if_pos hbit], ?_, hstep⟩
    rw [hadv, if_pos hbit, hkeyeq, hstep]
  · refine .inl ⟨fun item hi hready => hbit ?_, by rw [hcalls, if_neg hbit], by rw [hadv, if_neg hbit]⟩
    obtain ⟨hfds, -⟩ := FdSelector.fds_of_slot hi
    rw [Int.toNat_natCast] at hfds
    rw [hfds]
    exact Bool.and_eq_true_iff.mpr hready

/-- The read half of a turn. -/
theorem Process.Ok.turn {i last : Nat} {slaveR slaveW : Int → Bool} (h : p.Ok) (hpc : p.pc = .turn i last slaveR slaveW)
    (a : MainAnswers) : ∃ hs, (Move.main a).StandsFor hs ∧ (p.advance a).server = hs.foldl Server.happen p.server ∧ (p.advance a).Ok := by
  have hp : p.server.phase = .running := h.phase.trans (by rw [hpc]; rfl)
  have hfits := h.fits
  rw [hpc] at hfits
  obtain ⟨hle, hlt⟩ := hfits
  obtain ⟨-, -, hadv⟩ | ⟨item, hslot, ⟨-, -, hadv⟩ | ⟨⟨-, hint⟩, -, hadv, hstep⟩⟩ := h.turn_cases hpc a <;> rw [hadv]
  · exact h.nothing rfl (hp.trans (fits_afterTurn (s := p.server) hlt).1.symm) (fits_afterTurn hlt).2
  · refine h.nothing rfl hp ⟨hle, hlt, rfl, fun item' hi _ => ?_⟩
    rw [hslot] at hi
    rw [← Option.some.inj hi]
  · refine h.one (e := .read i a.handler) rfl rfl ((phase_step_call h.inv i a.handler).1.trans hp)
      ⟨hle, hlt, rfl, fun item' hi hw => ?_⟩
    dsimp only at hi
    rw [hstep] at hi
    exact data_after_read h.inv hp hslot hint a.handler hi hw

/-- The write half of a turn. -/
theorem Process.Ok.write {i last : Nat} {key : SelectorKey Nat} {slaveR slaveW : Int → Bool} (h : p.Ok)
    (hpc : p.pc = .write i last key slaveR slaveW) (a : MainAnswers) :
    ∃ hs, (Move.main a).StandsFor hs ∧ (p.advance a).server = hs.foldl Server.happen p.server ∧ (p.advance a).Ok := by
  have hp : p.server.phase = .running := h.phase.trans (by rw [hpc]; rfl)
  have hfits := h.fits
  rw [hpc] at hfits
  obtain ⟨-, hlt, -, -⟩ := hfits
  have hphase : (MainPc.afterTurn i last slaveR slaveW).phase = .running := (fits_afterTurn (s := p.server) hlt).1
  obtain ⟨-, -, hadv⟩ | ⟨item, hslot, -, -, hadv, hstep⟩ := h.write_cases hpc a <;> rw [hadv]
  · exact h.nothing rfl (hp.trans hphase.symm) (fits_afterTurn hlt).2
  · exact h.one (e := .write i a.handler) rfl rfl (((phase_step_call h.inv i a.handler).2.trans hp).trans hphase.symm)
      (fits_afterTurn hlt).2

/-- Every move of the main thread is matched. -/
theorem Process.Ok.advance (h : p.Ok) (a : MainAnswers) :
    ∃ hs, (Move.main a).StandsFor hs ∧ (p.advance a).server = hs.foldl Server.happen p.server ∧ (p.advance a).Ok := by
  have hrunning : p.pc.phase = .running → p.server.phase = .running := fun hp => h.phase.trans hp
  cases hpc : p.pc with
  | test =>
    have hp := hrunning (by rw [hpc]; rfl)
    have hstep : SocksProxy.step p.server .loopTest = loopTest p.server := if_pos hp
    have hadv : p.advance a = ⟨loopTest p.server, if p.server.forceShutdown then .exit else .select⟩ := by
      unfold Process.advance
      rw [hpc]
    rw [hadv]
    refine h.one rfl hstep.symm ?_ ?_
    · dsimp only
      unfold loopTest
      split
      · rfl
      · exact hp
    · dsimp only
      split <;> trivial
  | select =>
    have hp := hrunning (by rw [hpc]; rfl)
    have hadv : p.advance a = selectorSelect p.server a.pselect := by
      unfold Process.advance
      rw [hpc]
    rw [hadv]
    cases ha : a.pselect with
    | ready readable writable => exact h.nothing rfl hp ⟨Nat.zero_le _, h.inv.own.selector.maxFd_lt⟩
    | error e =>
      refine ⟨[.errno e], .inr ⟨e, ha, rfl⟩, rfl, h.inv.setErrno e, ?_, ?_⟩
      · show p.server.phase = MainPc.phase (if e.interrupted then .notifications else .check)
        rw [hp]
        split <;> rfl
      · show MainPc.Fits _ (if e.interrupted then .notifications else .check)
        split <;> trivial
  | turn i last slaveR slaveW => exact h.turn hpc a
  | write i last key slaveR slaveW => exact h.write hpc a
  | notifications =>
    have hp := hrunning (by rw [hpc]; rfl)
    have hstep : SocksProxy.step p.server (.notifications a.drained) = handleBlockNotifications p.server a.drained := if_pos hp
    have hadv : p.advance a = ⟨handleBlockNotifications p.server a.drained, .check⟩ := by
      unfold Process.advance
      rw [hpc]
    rw [hadv]
    refine h.one rfl hstep.symm ?_ trivial
    dsimp only
    rw [← hstep]
    obtain hsame | ⟨-, -, ⟨he, -⟩ | ⟨he, -⟩⟩ | ⟨he, -⟩ := phase_step h.inv (.notifications a.drained)
    · exact hsame.trans hp
    all_goals cases he
  | check =>
    have hp := hrunning (by rw [hpc]; rfl)
    have hstep : SocksProxy.step p.server .shutdownCheck = shutdownCheck p.server := if_pos hp
    have hadv : p.advance a = ⟨shutdownCheck p.server,
        if (shutdownCheck p.server).stoppedAccepting && (shutdownCheck p.server).activeClientConnections == 0 then .exit
        else .test⟩ := by
      unfold Process.advance
      rw [hpc]
    rw [hadv]
    refine h.one rfl hstep.symm ?_ ?_
    · obtain ⟨s1, hu, -, -, -, -, heq⟩ := shutdownCheck_stops h.inv (by rw [hp]; exact fun he => by cases he)
      have hp1 : s1.phase = .running := (congrArg Control.phase hu.control).trans hp
      dsimp only
      rw [heq]
      by_cases hend : (s1.stoppedAccepting && s1.activeClientConnections == 0) = true
      · rw [if_pos hend, if_pos hend]
        rfl
      · rw [if_neg hend, if_neg hend]
        exact hp1
    · dsimp only
      split <;> trivial
  | exit =>
    have hp : p.server.phase = .exited := h.phase.trans (by rw [hpc]; rfl)
    have hstep : SocksProxy.step p.server .teardown = teardown p.server := if_pos hp
    have hadv : p.advance a = ⟨teardown p.server, .returned⟩ := by
      unfold Process.advance
      rw [hpc]
    rw [hadv]
    obtain ⟨s1, -, -, hno, heq⟩ := teardown_undisturbed h.inv (by rw [hp]; exact fun he => by cases he)
    refine h.one rfl hstep.symm rfl fun fd => ?_
    show (teardown p.server).selector.slot fd = none
    rw [heq]
    exact hno fd
  | returned =>
    have hadv : p.advance a = p := by
      unfold Process.advance
      rw [hpc]
    rw [hadv]
    exact h.nothing rfl h.phase h.fits

/-- Every move of the process is matched. -/
theorem process_matched : Simulation.Matched Process.step Server.happen (fun p s => p.server = s ∧ p.Ok) Move.StandsFor := by
  rintro p s m ⟨rfl, h⟩
  cases m with
  | main a =>
    obtain ⟨hs, hstands, hserver, hok⟩ := h.advance a
    exact ⟨hs, hstands, hserver, hok⟩
  | outside e =>
    dsimp only [Process.step, Move.StandsFor]
    cases ho : e.outside with
    | false => exact ⟨[], rfl, rfl, h⟩
    | true =>
      rw [if_pos rfl, if_pos rfl]
      obtain ⟨hslot, hphase⟩ := step_outside h.inv ho
      refine ⟨_, rfl, rfl, (step_inv h.inv e).1, hphase.trans h.phase, ?_⟩
      have hfits := h.fits
      show p.pc.Fits (SocksProxy.step p.server e)
      cases hpc : p.pc with
      | turn i last slaveR slaveW =>
        rw [hpc] at hfits
        exact hfits
      | write i last key slaveR slaveW =>
        rw [hpc] at hfits
        obtain ⟨hle, hlt, hkey, hdata⟩ := hfits
        exact ⟨hle, hlt, hkey, by rw [hslot]; exact hdata⟩
      | returned =>
        rw [hpc] at hfits
        intro fd
        rw [hslot]
        exact hfits fd
      | _ => trivial

end Moves

section Runs

variable {s : Server}

/-- At the head of the loop the process is in order. -/
theorem ok_test (h : Inv s) (hp : s.phase = .running) : Process.Ok ⟨s, .test⟩ := ⟨h, hp, trivial⟩

/-- Wherever the main thread stands, the process is in order. -/
theorem process_ok (h : Inv s) (hp : s.phase = .running) (ms : List Move) : (Process.run ⟨s, .test⟩ ms).Ok := by
  obtain ⟨_, -, -, hok⟩ := process_matched.run (s := ⟨s, .test⟩) (t := s) ⟨rfl, ok_test h hp⟩ ms
  exact hok

/-- The step of somebody else that an event is. -/
def Event.others (e : Event) : Option Event := if e.outside then some e else none

/-- The step of somebody else that happens. -/
def Happening.others : Happening → Option Event
  | .event e => e.others
  | .errno _ => none

/-- The step of somebody else that a move is. -/
def Move.others : Move → Option Event
  | .main _ => none
  | .outside e => e.others

/-- What a move comes to has the step of somebody else that the move is, and no other. -/
theorem Move.StandsFor.others {m : Move} {hs : List Happening} (h : m.StandsFor hs) :
    hs.filterMap Happening.others = m.others.toList := by
  cases m with
  | main a =>
    obtain ⟨es, rfl, hin⟩ | ⟨e, -, rfl⟩ := h
    · rw [List.filterMap_map]
      refine List.filterMap_eq_nil_iff.mpr fun e he => ?_
      show (if e.outside then some e else none) = none
      rw [hin e he]
      rfl
    · rfl
  | outside e =>
    obtain rfl : hs = if e.outside then [.event e] else [] := h
    cases ho : e.outside <;> simp [Happening.others, Move.others, Event.others, ho]

/-- What happens is matched by events, but for `errno`: a `pselect` that fails by none, and every event by one. -/
theorem happening_matched : Simulation.Matched Server.happen SocksProxy.step (fun s t => Inv t ∧ ∃ e, SameButErrno e s t)
    (fun d es => es.filterMap Event.others = d.others.toList) := by
  rintro s t d ⟨hinv, e, h⟩
  cases d with
  | event ev =>
    obtain ⟨ev', hs, ho, hsame⟩ := h.step hinv ev
    refine ⟨[ev'], ?_, (step_inv hinv ev').1, e, hs⟩
    show [ev'].filterMap Event.others = (Event.others ev).toList
    cases hout : ev.outside with
    | true =>
      rw [hsame hout]
      simp [Event.others, hout]
    | false => simp [Event.others, ho, hout]
  | errno e' =>
    refine ⟨[], rfl, hinv, e', .inr ⟨?_, by rw [List.foldl_nil, hinv.own.size]; decide⟩⟩
    rcases h with rfl | ⟨rfl, -⟩ <;> rfl

/-- `server_run` is a run of the event loop: whatever `pselect` finds ready, however it fails, whatever the handlers are answered and
whoever moves in between, the server is where some sequence of events takes it, but for an `errno` that a `pselect` has left; and the
others make their steps in that sequence in the order they made them. -/
theorem main_loop_refines {c : Config} {s : Server} (h : c.Outfits s) (ms : List Move) :
    ∃ es, ((Process.run ⟨s, .test⟩ ms).server = run s es ∨ ∃ e, (Process.run ⟨s, .test⟩ ms).server = (run s es).setErrno e) ∧
      es.filter Event.outside = ms.filterMap Move.others := by
  obtain ⟨hss, hstands, hserver, -⟩ := process_matched.run (s := ⟨s, .test⟩) (t := s) ⟨rfl, ok_test h.inv h.running⟩ ms
  obtain ⟨ess, hstands', -, e, hsame⟩ := happening_matched.run (s := s) (t := s) ⟨h.inv, .eagain, .refl s⟩ hss.flatten
  refine ⟨ess.flatten, ?_, ?_⟩
  · have hrun : (Process.run ⟨s, .test⟩ ms).server = hss.flatten.foldl Server.happen s := hserver
    rw [hrun]
    exact hsame.imp_right fun hs => ⟨e, hs.1⟩
  · rw [← Simulation.filterMap_flatten hstands fun _ _ hm => hm.others, ← Simulation.filterMap_flatten hstands' fun _ _ hd => hd,
      ← List.filterMap_eq_filter]
    rfl

/-- What every event keeps, and does not depend on `errno`, is kept by whatever happens. -/
theorem happened_preserves {P : Server → Prop} (hstep : ∀ s e, Inv s → P s → P (step s e))
    (herrno : ∀ s e, P s → P (s.setErrno e)) (h : Inv s) (hp : P s) (hs : List Happening) : P (hs.foldl Server.happen s) := by
  refine (Traces.foldl_invariant (P := fun s => Inv s ∧ P s) ⟨h, hp⟩ (fun s d h => ?_) hs).2
  cases d with
  | event e => exact ⟨(step_inv h.1 e).1, hstep s e h.1 h.2⟩
  | errno e => exact ⟨h.1.setErrno e, herrno s e h.2⟩

/-- How many moves the main thread makes at most until it comes to the checks at the end of a turn of the loop, or has left it. -/
def MainPc.toCheck : MainPc → Nat
  | .test => 2051
  | .select => 2050
  | .turn i last _ _ => 2 * (last + 1 - i) + 1
  | .write i last _ _ _ => 2 * (last - i) + 2
  | .notifications => 1
  | .check => 0
  | .exit => 0
  | .returned => 0

/-- After a turn of a walk, fewer moves are left than before its second half. -/
theorem toCheck_afterTurn (i last : Nat) (slaveR slaveW : Int → Bool) :
    (MainPc.afterTurn i last slaveR slaveW).toCheck < 2 * (last - i) + 2 := by
  unfold MainPc.afterTurn
  split
  · simp only [MainPc.toCheck]
    omega
  · simp only [MainPc.toCheck]
    omega

/-- Every move of the main thread brings it nearer to the checks. -/
theorem toCheck_advance {p : Process} (h : p.Ok) (a : MainAnswers) (hpos : 0 < p.pc.toCheck) :
    (p.advance a).pc.toCheck < p.pc.toCheck := by
  have hfits := h.fits
  cases hpc : p.pc with
  | test =>
    unfold Process.advance
    rw [hpc]
    dsimp only
    split <;> decide
  | select =>
    unfold Process.advance
    rw [hpc]
    dsimp only
    cases a.pselect with
    | ready readable writable =>
      have hlt := h.inv.own.selector.maxFd_lt
      simp only [selectorSelect, MainPc.toCheck]
      omega
    | error e =>
      simp only [selectorSelect]
      split <;> decide
  | turn i last slaveR slaveW =>
    rw [hpc] at hfits
    have hle := hfits.1
    have hnext := toCheck_afterTurn i last slaveR slaveW
    obtain ⟨-, -, hadv⟩ | ⟨item, -, ⟨-, -, hadv⟩ | ⟨-, -, hadv, -⟩⟩ := h.turn_cases hpc a <;> rw [hadv] <;>
      simp only [MainPc.toCheck] at hnext ⊢ <;> omega
  | write i last key slaveR slaveW =>
    obtain ⟨-, -, hadv⟩ | ⟨item, -, -, -, hadv, -⟩ := h.write_cases hpc a <;> rw [hadv] <;>
      exact toCheck_afterTurn i last slaveR slaveW
  | notifications =>
    unfold Process.advance
    rw [hpc]
    exact Nat.zero_lt_one
  | _ =>
    rw [hpc] at hpos
    exact absurd hpos (Nat.lt_irrefl 0)

/-- There are never more moves to the checks than from the test. -/
theorem toCheck_le {p : Process} (h : p.Ok) : p.pc.toCheck ≤ 2051 := by
  have hfits := h.fits
  cases hpc : p.pc with
  | turn i last slaveR slaveW =>
    rw [hpc] at hfits
    have hlt := hfits.2
    simp only [MainPc.toCheck]
    omega
  | write i last key slaveR slaveW =>
    rw [hpc] at hfits
    have hlt := hfits.2.1
    simp only [MainPc.toCheck]
    omega
  | _ => simp [MainPc.toCheck]

/-- How many moves the main thread has left to make at most, once the loop is to be left. -/
def MainPc.left (pc : MainPc) : Nat :=
  match pc with
  | .test => 2
  | .exit => 1
  | .returned => 0
  | _ => pc.toCheck + 3

/-- Past the checks there are three moves at most. -/
theorem left_le_toCheck (pc : MainPc) : pc.left ≤ pc.toCheck + 3 := by
  cases pc <;> simp [MainPc.left, MainPc.toCheck]

/-- With no move left, the main thread has returned. -/
theorem left_eq_zero {pc : MainPc} (h : pc.left = 0) : pc = .returned := by
  cases pc <;> simp [MainPc.left] at h ⊢

/-- A shutdown is not taken back, and a forced one neither. -/
theorem flags_happened (h : Inv s) (hs : List Happening) :
    (s.shutdownRequested = true → (hs.foldl Server.happen s).shutdownRequested = true) ∧
    (s.forceShutdown = true → (hs.foldl Server.happen s).forceShutdown = true) := by
  constructor
  · exact fun hr => happened_preserves (P := fun s => s.shutdownRequested = true)
      (fun s e h hr => by rw [(flags_step h e).1, hr]; rfl) (fun s e => id) h hr hs
  · exact fun hf => happened_preserves (P := fun s => s.forceShutdown = true)
      (fun s e h hf => by rw [(flags_step h e).2, hf]; rfl) (fun s e => id) h hf hs

/-- The moves of the main thread. -/
def Move.isMain : Move → Bool
  | .main _ => true
  | .outside _ => false

/-- What somebody else does leaves the main thread where it stands. -/
theorem Process.outside_pc (p : Process) (e : Event) : (p.step (.outside e)).pc = p.pc := by
  dsimp only [Process.step]
  split <;> rfl

/-- Past its return the main thread does nothing. -/
theorem Process.advance_returned {p : Process} (hpc : p.pc = .returned) (a : MainAnswers) : p.advance a = p := by
  unfold Process.advance
  rw [hpc]

/-- Moves that are left to make are used up by the main thread only. -/
theorem Process.step_left {p : Process} {left : MainPc → Nat} {m : Move} {n : Nat} (hn : left p.pc ≤ n)
    (hadv : ∀ a, m = .main a → left (p.advance a).pc ≤ left p.pc - 1) : left (p.step m).pc ≤ if m.isMain then n - 1 else n := by
  cases m with
  | main a => exact Nat.le_trans (hadv a rfl) (Nat.sub_le_sub_right hn 1)
  | outside e =>
    rw [p.outside_pc]
    exact hn

/-- With a forced shutdown, every move of the main thread brings it nearer to its return. -/
theorem left_advance {p : Process} (h : p.Ok) (hf : p.server.forceShutdown = true) (a : MainAnswers) :
    (p.advance a).pc.left ≤ p.pc.left - 1 := by
  have hnear : 0 < p.pc.toCheck → p.pc.left = p.pc.toCheck + 3 → (p.advance a).pc.left ≤ p.pc.left - 1 := by
    intro hpos heq
    have := left_le_toCheck (p.advance a).pc
    have := toCheck_advance h a hpos
    omega
  cases hpc : p.pc with
  | test =>
    unfold Process.advance
    rw [hpc]
    dsimp only
    rw [if_pos hf]
    decide
  | check =>
    unfold Process.advance
    rw [hpc]
    dsimp only
    split <;> decide
  | exit =>
    unfold Process.advance
    rw [hpc]
    exact Nat.le_refl 0
  | returned =>
    rw [Process.advance_returned hpc, hpc]
    exact Nat.le_refl 0
  | _ =>
    rw [hpc] at hnear
    exact hnear (by simp [MainPc.toCheck]) rfl

/-- A process whose shutdown is forced, with at most so many moves of its main thread left. -/
structure Process.Leaves (n : Nat) (p : Process) : Prop where
  ok : p.Ok
  forced : p.server.forceShutdown = true
  left : p.pc.left ≤ n

/-- One move of a process whose shutdown is forced. -/
theorem Process.Leaves.step {n : Nat} {p : Process} (x : Process.Leaves n p) (m : Move) :
    Process.Leaves (if m.isMain then n - 1 else n) (p.step m) := by
  obtain ⟨hs, -, hserver, hok⟩ := process_matched p p.server m ⟨rfl, x.ok⟩
  refine ⟨hok, ?_, p.step_left x.left fun a _ => left_advance x.ok x.forced a⟩
  rw [hserver]
  exact (flags_happened x.ok.inv hs).2 x.forced

/-- Once a second signal has arrived, the main thread returns after so many moves of its own, whatever the others do. -/
theorem forced_shutdown_returns {p : Process} (h : p.Ok) (hf : p.server.forceShutdown = true) (ms : List Move)
    (hleft : p.pc.left ≤ ms.countP Move.isMain) : (p.run ms).pc = .returned := by
  obtain ⟨_, _, _, _, hno⟩ | hend := Traces.foldl_countdown (W := Process.Leaves) (H := fun _ _ => False)
    (fun n p m _ x => .inr (x.step m)) ⟨h, hf, Nat.le_refl _⟩ hleft
  · exact hno.elim
  · exact left_eq_zero (Nat.le_zero.mp hend.left)

/-- A second signal ends the loop: whatever has happened before it, once the main thread has made so many more moves it has returned,
whoever moves in between. -/
theorem forced_shutdown_prompt {c : Config} (h : c.Outfits s) (ms ms' : List Move)
    (hf : (Process.run ⟨s, .test⟩ ms).server.forceShutdown = true) (hmany : 2054 ≤ ms'.countP Move.isMain) :
    (Process.run ⟨s, .test⟩ (ms ++ ms')).pc = .returned := by
  have hok := process_ok h.inv h.running ms
  have hrun : Process.run ⟨s, .test⟩ (ms ++ ms') = (Process.run ⟨s, .test⟩ ms).run ms' := List.foldl_append
  rw [hrun]
  refine forced_shutdown_returns hok hf ms' (Nat.le_trans ?_ hmany)
  have := left_le_toCheck (Process.run ⟨s, .test⟩ ms).pc
  have := toCheck_le hok
  omega

end Runs

/-- A walk over the slots in which a client connects, while a signal arrives. -/
def firstMoves : List Move :=
  [.main {}, .main { pselect := .ready (fun fd => fd == 3) fun _ => false }, .main {}, .main {}, .main {}, .outside .signal,
    .main { handler := { accepts := [.accepted 5 .ok true] } }, .outside .signal]

/-- The same after a `pselect` that a signal has interrupted. -/
def interruptedMoves : List Move :=
  [.main {}, .main { pselect := .error ⟨4, Nat.succ_ne_zero 3⟩ }, .main {}, .main {}] ++ firstMoves

/-- The main loop with a `pselect` that is interrupted, and then with a client and two signals. -/
theorem main_loop_refines_first :
    ∃ es, ((Process.run ⟨(Config.first .zeroed).start, .test⟩ interruptedMoves).server = run (Config.first .zeroed).start es ∨
        ∃ e, (Process.run ⟨(Config.first .zeroed).start, .test⟩ interruptedMoves).server =
          (run (Config.first .zeroed).start es).setErrno e) ∧
      es.filter Event.outside = interruptedMoves.filterMap Move.others :=
  main_loop_refines (Config.first .zeroed).outfits_start interruptedMoves

/-- Two signals, and then only the main thread moves. -/
theorem forced_shutdown_prompt_first :
    (Process.run ⟨(Config.first .zeroed).start, .test⟩ (firstMoves ++ List.replicate 2054 (.main {}))).pc = .returned :=
  forced_shutdown_prompt (Config.first .zeroed).outfits_start firstMoves _ (by decide +kernel)
    (by rw [List.countP_replicate]; exact Nat.le_refl _)

end SocksProxy
