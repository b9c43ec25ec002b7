import SocksProxy.Served

/-!
# What a step finds

From the server and the event that comes next, the environment of every session in that step.
-/

namespace SocksProxy

namespace View

/-- The descriptor of a peer. -/
def fdOf (v : View) : Peer → Int
  | .client => v.state.clientFd
  | .target => v.state.targetFd

/-- The interest registered for the descriptor of a peer. -/
def interestOf (v : View) : Peer → Option FdInterest
  | .client => v.clientInterest
  | .target => v.targetInterest

/-- How many bytes the session asks `recv` for. -/
def room (v : View) : Peer → Nat
  | .client => serverBufferSize - v.state.readLen
  | .target => serverBufferSize

end View

namespace Event

/-- The kernel reports a socket as writable before its connection has completed, which it never does. -/
def Premature (s : Server) (e : Event) : Prop :=
  ∃ fd a file, e = .write fd a ∧ s.files fd = some file ∧ file.connect = .pending

/-- A resolver thread cannot allocate its notification, and the session that waits for it is never told. -/
def Lost (e : Event) : Prop := ∃ job, e = .notify job false

/-- In this event session `sid`, which looks like this, calls `recv` on the descriptor of a peer, and this is what it delivers. -/
structure Delivers (s : Server) (e : Event) (sid : Nat) (peer : Peer) (v : View) (r : RecvResult) : Prop where
  running : s.phase = .running
  life : s.life sid = .live v
  reading : ∃ i, v.interestOf peer = some i ∧ i.read = true
  answered : ∃ a, e = .read (v.fdOf peer) a ∧ a.recv.limit (v.room peer) = r

/-- In this event session `sid`, which looks like this, is told that its target is writable. -/
structure Writes (s : Server) (e : Event) (sid : Nat) (v : View) : Prop where
  running : s.phase = .running
  life : s.life sid = .live v
  writing : ∃ i, v.targetInterest = some i ∧ i.write = true
  called : ∃ a, e = .write v.state.targetFd a

/-- In this event session `sid` takes the result of the resolver job it waits for. -/
structure Takes (s : Server) (e : Event) (sid : Nat) (status : Int) (result : List AddrInfo) : Prop where
  draining : ∃ as, e = .notifications as
  waited : ∃ job fd record, s.waits sid = some (job, fd) ∧ s.jobs job = some record ∧ record.done = true ∧
    record.status = status ∧ record.result = result

end Event

/-- What a session of a server finds in a step. -/
def Server.env (s : Server) (e : Event) (sid : Nat) : Env where
  users := s.managedUsers
  premature := e.Premature s
  lost := e.Lost
  published := e.Takes s sid
  recv := e.Delivers s sid
  writable := e.Writes s sid

/-- What a session does in a step. -/
def Server.doing (s : Server) (e : Event) (sid : Nat) : List Act := ((step s e).acts sid).drop (s.acts sid).length

/-- What a session does in a step is what is added to its acts. -/
theorem Server.doing_eq {s : Server} {e : Event} {sid : Nat} {acts : List Act}
    (h : (step s e).acts sid = s.acts sid ++ acts) : s.doing e sid = acts := by
  rw [doing, h, List.drop_left]

end SocksProxy
