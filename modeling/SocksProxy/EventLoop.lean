import SocksProxy.ClientSession
import SocksProxy.Management

/-!
# The event loop

`server_run` and the parts of the selector that call the handlers. A run of the process is a sequence of events: the selector
calls the read or the write handler of one descriptor, drains the notifications, a resolver thread takes one of its steps, the
kernel completes a connection, a signal arrives, or the main loop takes one of the steps between two calls of the selector.
Every step is total: an event that the present state does not admit (a handler whose interest is off, a thread that is not
there) leaves the state as it is.

`Server.handleIteration` is the selector's own walk over a set of ready descriptors. It is a sequence of such events
(`Theorems/Iteration.lean`), so what holds after every sequence of events holds between two iterations.
-/

namespace SocksProxy

/-- `item->handler->handle_read(&key)`; a NULL handler fails the assertion of `handle_iteration`. -/
def handleRead (a : Answers) : Option FdHandler → SelectorKey Nat → Server → Server
  | some .acceptHandler, _, s => acceptConnection s a.accepts
  | some .managementAcceptHandler, _, s => acceptManagementConnection s a.accepts
  | some .clientHandler, key, s => clientRead s key a
  | some .targetHandler, key, s => targetRead s key a
  | some .managementClientHandler, key, s => managementRead s key a
  | none, key, s => s.fault (.nullHandler key.fd)

/-- `item->handler->handle_write(&key)`; a NULL handler fails the assertion of `handle_iteration`. -/
def handleWrite (a : Answers) : Option FdHandler → SelectorKey Nat → Server → Server
  | some .clientHandler, key, s => clientWrite s key a.sends
  | some .targetHandler, key, s => targetWrite s key a
  | some .managementClientHandler, key, s => managementWrite s key a.sends
  | _, key, s => s.fault (.nullHandler key.fd)

/-- `item->handler->handle_block(&key)`, for a slot in use; only a client has this handler. -/
def handleBlock (s : Server) (fd : Int) (a : Answers) : Server :=
  let s := { s with selector := s.selector.touch fd.toNat }
  let item := s.selector.fds fd.toNat
  if item.used then
    match item.handler with
    | some .clientHandler => targetConnectionOnResolve s { fd := item.fd, data := item.data } a
    | _ => s.fault (.nullHandler item.fd)
  else s

/-- The loop of `handle_block_notifications`, over the queue. -/
def handleBlockLoop : List Int → List Answers → Server → Server
  | [], _, s => s
  | fd :: jobs, as, s => handleBlockLoop jobs as.tail (handleBlock s fd (as.headD {}))

/-- `handle_block_notifications`: the queue is drained under its lock, newest notification first. -/
def handleBlockNotifications (s : Server) (as : List Answers) : Server :=
  let s := handleBlockLoop s.selector.resolutionJobs as s
  { s with selector := { s.selector with resolutionJobs := [] } }

/-- The critical section of `resolve_target`, once `getaddrinfo` has answered: the result is published and the thread learns
whether a client still waits. -/
def publishResult (s : Server) (job : Nat) (status : Int) (result : List AddrInfo) : Server :=
  if s.threads job = .resolving then
    match s.jobs job with
    | none => s.fault (.useAfterFree job)
    | some record =>
      let phase := if record.state.isSome then ThreadPhase.notifying record.clientFd else .releasing
      { s with
        jobs := Function.update s.jobs job (some { record with result, status, done := true })
        threads := Function.update s.threads job phase }
  else s

/-- The rest of `resolve_target` for a thread whose client waits: `selector_notify_block`, whose allocation may fail. -/
def notifyClient (s : Server) (job : Nat) (allocated : Bool) : Server :=
  match s.threads job with
  | .notifying fd =>
    let s := { s with threads := Function.update s.threads job .finished }
    if !allocated then s
    else if s.phase = .destroyed then s.fault .selectorDestroyed
    else { s with selector := s.selector.pushJob fd }
  | _ => s

/-- The rest of `resolve_target` for a thread whose client is gone: it frees the result and the job. -/
def releaseJob (s : Server) (job : Nat) : Server :=
  if s.threads job = .releasing then
    match s.jobs job with
    | none => s.fault (.useAfterFree job)
    | some _ =>
      { s with
        jobs := Function.update s.jobs job none
        threads := Function.update s.threads job .finished }
  else s

/-- `sigterm_handler`. -/
def sigtermHandler (s : Server) : Server :=
  if s.shutdownRequested then { s with forceShutdown := true } else { s with shutdownRequested := true }

/-- Unregister and close the two listeners. -/
def closeListeners (s : Server) : Server :=
  let s := (s.unregister s.serverFd).1
  let s := (s.unregister s.managementFd).1
  (s.close s.serverFd).close s.managementFd

/-- The body of the loop of `server_run` after `selector_select`: act on the first signal, and leave the loop once no session is
left. -/
def shutdownCheck (s : Server) : Server :=
  let s :=
    if s.shutdownRequested && !s.stoppedAccepting then closeListeners { s with stoppedAccepting := true } else s
  if s.stoppedAccepting && s.activeClientConnections == 0 then { s with phase := .exited } else s

/-- The condition of the loop of `server_run`. -/
def loopTest (s : Server) : Server := if s.forceShutdown then { s with phase := .exited } else s

/-- One turn of the loop of `selector_destroy`. -/
def destroySlot (s : Server) (i : Nat) : Server := if (s.selector.fds i).used then (s.unregister i).1 else s

/-- `server_run` past its loop, until so many turns of the loop of `selector_destroy`: the listeners are closed if they still
stand, and the slots are unregistered one after another. -/
def destroyUntil (s : Server) (turns : Nat) : Server :=
  (List.range turns).foldl destroySlot (if !s.stoppedAccepting then closeListeners s else s)

/-- `server_run` past its loop, to its end. -/
def teardown (s : Server) : Server :=
  let s := destroyUntil s s.selector.fdSize
  { s with phase := .destroyed, selector := { s.selector with resolutionJobs := [] } }

/-- One step of the process or of its environment. -/
inductive Event where
  | read (fd : Int) (a : Answers)
  | write (fd : Int) (a : Answers)
  | notifications (as : List Answers)
  | publish (job : Nat) (status : Int) (result : List AddrInfo)
  | notify (job : Nat) (allocated : Bool)
  | release (job : Nat)
  | connectDone (fd : Int) (error : Nat)
  | signal
  | shutdownCheck
  | loopTest
  | teardown

/-- The kernel completes the pending connection of a socket, with its error or zero. -/
def connectDone (s : Server) (fd : Int) (error : Nat) : Server :=
  match s.files fd with
  | some file => if file.connect = .pending then s.setConnect fd (.completed error) else s
  | none => s

/-- One step. The handlers are called from inside the loop only, for a slot in use with the interest on. -/
def step (s : Server) : Event → Server
  | .read fd a =>
    match s.selector.slot fd with
    | none => s
    | some item =>
      if s.phase = .running ∧ item.interest.read = true then
        handleRead a item.handler { fd := item.fd, data := item.data } s
      else s
  | .write fd a =>
    match s.selector.slot fd with
    | none => s
    | some item =>
      if s.phase = .running ∧ item.interest.write = true then
        handleWrite a item.handler { fd := item.fd, data := item.data } s
      else s
  | .notifications as => if s.phase = .running then handleBlockNotifications s as else s
  | .publish job status result => publishResult s job status result
  | .notify job allocated => notifyClient s job allocated
  | .release job => releaseJob s job
  | .connectDone fd error => connectDone s fd error
  | .signal => sigtermHandler s
  | .shutdownCheck => if s.phase = .running then shutdownCheck s else s
  | .loopTest => if s.phase = .running then loopTest s else s
  | .teardown => if s.phase = .exited then teardown s else s

/-- A run: the events one after another. -/
def run (s : Server) (es : List Event) : Server := es.foldl step s

/-- What `server_run` starts from: the two passive sockets, both valid descriptors and different, and the users table that
`main` has filled from the command line. -/
structure Config where
  serverFd : Int
  managementFd : Int
  users : ManagedUsers
  server_valid : invalidFd serverFd = false
  management_valid : invalidFd managementFd = false
  distinct : serverFd ≠ managementFd

/-- The configuration of a process whose passive sockets got the first two descriptors after the standard ones. -/
def Config.first (users : ManagedUsers) : Config where
  serverFd := 3
  managementFd := 4
  users := users
  server_valid := by decide
  management_valid := by decide
  distinct := by decide

/-- The process with its passive sockets open and its selector just made: `selector_new(1024)`. -/
def Config.opened (c : Config) : Server where
  selector := (FdSelector.selectorNew 1024 true).1
  sessions := fun _ => none
  managements := fun _ => none
  jobs := fun _ => none
  threads := fun _ => .finished
  nextObject := 0
  files := Function.update (Function.update (fun _ => none) c.serverFd (some { serial := 0, connect := .unconnected }))
    c.managementFd (some { serial := 1, connect := .unconnected })
  nextFile := 2
  errno := 0
  managedUsers := c.users
  metrics := ServerMetrics.zeroed
  activeClientConnections := 0
  accessLog := []
  serverFd := c.serverFd
  managementFd := c.managementFd
  shutdownRequested := false
  forceShutdown := false
  stoppedAccepting := false
  phase := .running
  trace := [.opened 0 c.serverFd, .opened 1 c.managementFd]
  faults := []

/-- The process at the head of its main loop: the two listeners are registered. -/
def Config.start (c : Config) : Server :=
  let s := (c.opened.register c.serverFd .acceptHandler opRead none).1
  (s.register c.managementFd .managementAcceptHandler opRead none).1

/-- A state the process can reach. -/
def Reachable (c : Config) (s : Server) : Prop := ∃ es, s = run c.start es

/-- A server with the answers to the calls of the handlers still to run: the state the selector's own iteration works on. -/
abbrev Iterating := Server × List Answers

instance : SelectorWorld Iterating FdHandler Nat where
  selector := fun w => w.1.selector
  setSelector := fun sel w => ({ w.1 with selector := sel }, w.2)
  selector_setSelector := fun _ _ => rfl

/-- `handle_iteration` on the server's selector: each handler called takes the next answers. -/
def Server.handleIteration (s : Server) (slaveR slaveW : Int → Bool) (as : List Answers) : Server :=
  (SocksProxy.handleIteration
    (fun handler key (w : Iterating) => (handleRead (w.2.headD {}) handler key w.1, w.2.tail))
    (fun handler key (w : Iterating) => (handleWrite (w.2.headD {}) handler key w.1, w.2.tail))
    slaveR slaveW (s, as)).1

end SocksProxy
