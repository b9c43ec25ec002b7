import SocksProxy.EventLoop

/-!
# The run of the server

`server_run` in the order of its text, from the passive sockets to its return. The main thread stands at one place of the text at a
time and goes on from there; between any two of its moves a resolver thread, the kernel or a signal may make one. The draining of the
notifications and the destruction of the selector are one move each.

The steps of `EventLoop` are the moves of both parties in any order at all. That the order of the text is one of those is a theorem
(`Theorems/MainLoop.lean`).
-/

namespace SocksProxy

/-! ## The passive sockets -/

/-- The calls `create_passive_socket` makes for one address. -/
structure PassiveAttempt where
  socket : Except Errno Int
  setNonblocking : SysResult
  bind : SysResult
  listen : SysResult

/-- The first call that fails on a passive socket, if one does. -/
def PassiveAttempt.failure (a : PassiveAttempt) : Option Errno :=
  match a.setNonblocking, a.bind, a.listen with
  | .error e, _, _ => some e
  | .ok, .error e, _ => some e
  | .ok, .ok, .error e => some e
  | .ok, .ok, .ok => none

/-- The process as `main` has it when it calls `server_run`: nothing is open, and the selector is not made yet. -/
def Server.idle (users : ManagedUsers) : Server where
  selector := FdSelector.cleared
  sessions := fun _ => none
  managements := fun _ => none
  jobs := fun _ => none
  threads := fun _ => .finished
  nextObject := 0
  files := fun _ => none
  nextFile := 0
  errno := 0
  managedUsers := users
  metrics := ServerMetrics.zeroed
  activeClientConnections := 0
  accessLog := []
  serverFd := -1
  managementFd := -1
  shutdownRequested := false
  forceShutdown := false
  stoppedAccepting := false
  phase := .running
  trace := []
  faults := []

/-- What `pselect` answers: the descriptors it finds ready, among those it is asked for, or its error. -/
inductive PselectResult where
  | ready (readable writable : Int → Bool)
  | error (errno : Errno)

/-- The answers to the calls of one move of the main thread. -/
structure MainAnswers where
  pselect : PselectResult := .ready (fun _ => false) (fun _ => false)
  handler : Answers := {}
  drained : List Answers := []

/-- Where the main thread stands: at the test of its loop, before `pselect`, at the turn of a slot in `handle_iteration` with the last
slot of the walk, in the same turn past the read handler, before the notifications, at the checks after `selector_select`, past
the loop, or past its return. -/
inductive MainPc where
  | test
  | select
  | turn (i last : Nat) (slaveR slaveW : Int → Bool)
  | write (i last : Nat) (key : SelectorKey Nat) (slaveR slaveW : Int → Bool)
  | notifications
  | check
  | exit
  | returned

/-- The process with its main thread. -/
structure Process where
  server : Server
  pc : MainPc

/-- The end of a turn of `handle_iteration`. -/
def MainPc.afterTurn (i last : Nat) (slaveR slaveW : Int → Bool) : MainPc :=
  if i < last then .turn (i + 1) last slaveR slaveW else .notifications

/-- The errors of a `pselect` that was interrupted: `EAGAIN` and `EINTR`. -/
def Errno.interrupted (e : Errno) : Bool := e = .eagain || e.code = 4

/-- `selector_select` up to `handle_iteration`. The sets handed to `pselect` are those of the selector, and it leaves a part of them.
After an interruption it goes on with the notifications; after any other error `selector_select` returns, and its status is ignored. -/
def selectorSelect (s : Server) : PselectResult → Process
  | .ready readable writable =>
    ⟨s, .turn 0 s.selector.maxFd.toNat (fun fd => s.selector.masterR fd && readable fd)
      (fun fd => s.selector.masterW fd && writable fd)⟩
  | .error e => ⟨s.setErrno e, if e.interrupted then .notifications else .check⟩

/-- One move of the main thread. -/
def Process.advance (p : Process) (a : MainAnswers) : Process :=
  let s := p.server
  match p.pc with
  | .test => ⟨loopTest s, if s.forceShutdown then .exit else .select⟩
  | .select => selectorSelect s a.pselect
  | .turn i last slaveR slaveW =>
    let item := s.selector.fds i
    if item.used then
      let key : SelectorKey Nat := { fd := item.fd, data := item.data }
      ⟨if slaveR item.fd && item.interest.read then handleRead a.handler item.handler key s else s,
        .write i last key slaveR slaveW⟩
    else ⟨s, .afterTurn i last slaveR slaveW⟩
  | .write i last key slaveR slaveW =>
    let item := s.selector.fds i
    ⟨if slaveW (i : Int) && item.interest.write then handleWrite a.handler item.handler key s else s,
      .afterTurn i last slaveR slaveW⟩
  | .notifications => ⟨handleBlockNotifications s a.drained, .check⟩
  | .check =>
    let s := shutdownCheck s
    ⟨s, if s.stoppedAccepting && s.activeClientConnections == 0 then .exit else .test⟩
  | .exit => ⟨teardown s, .returned⟩
  | .returned => p

/-- The steps of resolver threads, of the kernel and of signals. -/
def Event.outside : Event → Bool
  | .publish .. | .notify .. | .release .. | .connectDone .. | .signal => true
  | _ => false

/-- One move of the process: the main thread goes on, or somebody else makes a step. -/
inductive Move where
  | main (a : MainAnswers)
  | outside (e : Event)

/-- The effect of a move. -/
def Process.step (p : Process) : Move → Process
  | .main a => p.advance a
  | .outside e => if e.outside then { p with server := SocksProxy.step p.server e } else p

/-- The moves of the process one after another. -/
def Process.run (p : Process) (ms : List Move) : Process := ms.foldl Process.step p

end SocksProxy
