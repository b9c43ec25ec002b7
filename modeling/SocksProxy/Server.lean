import SocksProxy.Kernel

/-!
# The server

The whole process in one record: the selector, the heap of sessions, management connections and resolver jobs, the resolver
threads, the open files, the users table, the metrics, the access log and the flags of the main loop. A pointer is the number
of the object it points to; every object has its own number, and a freed object leaves the heap, so that reading it again finds
nothing.

Two fields are ghosts. `trace` is what the process did, in order: what each socket delivered and took, the replies prepared, the
descriptors opened and closed. `faults` collects what C leaves undefined or aborts on: the use of a freed object, the closing of
a descriptor that is not open, a call through a NULL handler.
-/

namespace SocksProxy

/-- The handlers the program registers, each a constant `fd_handler` of the source. -/
inductive FdHandler where
  | acceptHandler
  | managementAcceptHandler
  | clientHandler
  | targetHandler
  | managementClientHandler
  deriving DecidableEq, Repr

/-- A line of the access log, as `access_log_connection` is called. -/
structure AccessLogEntry where
  username : CString
  host : CString
  port : UInt16
  success : Bool
  deriving DecidableEq

/-- What the process did for one session, seen from its sockets or at the places the source counts. `recvHandshake` is a `recv`
into `read_buffer`, `recvClient` and `recvTarget` are those into the relay buffers, `eofClient` and `eofTarget` are those that
return zero; `sentReply` is a `send` from `write_buffer` and the other two are those from the relay buffers; `begun` is a call
of `target_connection_begin`, `resolved` the moment the session takes the result of its resolver job, `attempted` a call of
`start_target_connection`; `accepted` and `freed` are the places that count a connection opened and closed. -/
inductive Act where
  | accepted
  | recvHandshake (bytes : List Byte)
  | recvClient (bytes : List Byte)
  | recvTarget (bytes : List Byte)
  | eofClient
  | eofTarget
  | prepared (reply : Reply)
  | sentReply (bytes : List Byte)
  | sentClient (bytes : List Byte)
  | sentTarget (bytes : List Byte)
  | begun (request : Socks5Request)
  | resolved (status : Int) (result : List AddrInfo)
  | attempted (addr : SockAddr)
  | succeeded
  | failed
  | logged (entry : AccessLogEntry)
  | freed
  deriving DecidableEq

/-- What the process did: an open file description made or closed, or an act for a session. -/
inductive Obs where
  | opened (file : Nat) (fd : Int)
  | closed (file : Nat)
  | act (session : Nat) (a : Act)
  deriving DecidableEq

/-- What must never happen: behaviour C leaves undefined, a failed assertion, or a nesting of `selector_unregister_fd` deeper
than the model follows. -/
inductive Fault where
  | useAfterFree (object : Nat)
  | nullPointer
  | nullHandler (fd : Int)
  | badClose (fd : Int)
  | wildRead
  | nesting
  | selectorDestroyed
  deriving DecidableEq

/-- Where `server_run` stands: in its loop, past it, or past `selector_destroy`. -/
inductive RunPhase where
  | running | exited | destroyed
  deriving DecidableEq, Repr

/-- The process. -/
structure Server where
  selector : FdSelector FdHandler Nat
  sessions : Nat → Option ClientState
  managements : Nat → Option ManagementState
  jobs : Nat → Option ResolverJob
  threads : Nat → ThreadPhase
  nextObject : Nat
  files : Int → Option OpenFile
  nextFile : Nat
  errno : Nat
  managedUsers : ManagedUsers
  metrics : ServerMetrics
  activeClientConnections : Nat
  accessLog : List AccessLogEntry
  serverFd : Int
  managementFd : Int
  shutdownRequested : Bool
  forceShutdown : Bool
  stoppedAccepting : Bool
  phase : RunPhase
  trace : List Obs
  faults : List Fault

instance : SelectorWorld Server FdHandler Nat where
  selector := Server.selector
  setSelector := fun sel s => { s with selector := sel }
  selector_setSelector := fun _ _ => rfl

namespace Server

/-- Record a fault. -/
def fault (s : Server) (f : Fault) : Server := { s with faults := f :: s.faults }

/-- Record what the process did. -/
def observe (s : Server) (o : List Obs) : Server := { s with trace := s.trace ++ o }

/-- A system call failed: `errno` is set. -/
def setErrno (s : Server) (e : Errno) : Server := { s with errno := e.code }

/-- A loop of `send` ended: `errno` is what its last call left. -/
def afterSend (s : Server) : SendEnd → Server
  | .drained => s
  | .wouldBlock => s.setErrno .eagain
  | .failed none => s
  | .failed (some e) => s.setErrno e

/-- Read a session through its pointer and go on; a pointer to a freed session is a fault. -/
def withSession (s : Server) (sid : Nat) (k : ClientState → Server) : Server :=
  match s.sessions sid with
  | some state => k state
  | none => s.fault (.useAfterFree sid)

/-- Write a session. -/
def put (s : Server) (sid : Nat) (state : ClientState) : Server :=
  { s with sessions := Function.update s.sessions sid (some state) }

/-- `free` of a session; freeing it twice is a fault. -/
def free (s : Server) (sid : Nat) : Server :=
  s.withSession sid fun _ => { s with sessions := Function.update s.sessions sid none }

/-- A descriptor the kernel can hand out: a number that is not open. -/
def fdFree (s : Server) (fd : Int) : Bool := 0 ≤ fd && (s.files fd).isNone

/-- `socket` and `accept` as the caller sees them: a number that is not free is not one the kernel can hand out, and the call
fails with no descriptor left. -/
def handOut (s : Server) : Except Errno Int → Except Errno Int
  | .ok fd => if s.fdFree fd then .ok fd else .error .emfile
  | .error e => .error e

/-- The kernel opens a descriptor. -/
def openFd (s : Server) (fd : Int) : Server :=
  { s with
    files := Function.update s.files fd (some { serial := s.nextFile, connect := .unconnected })
    nextFile := s.nextFile + 1
    trace := s.trace ++ [.opened s.nextFile fd] }

/-- `close`. -/
def close (s : Server) (fd : Int) : Server :=
  match s.files fd with
  | some file => { s with files := Function.update s.files fd none, trace := s.trace ++ [.closed file.serial] }
  | none => s.fault (.badClose fd)

/-- The kernel moves the connection of an open socket on. -/
def setConnect (s : Server) (fd : Int) (connect : ConnectStatus) : Server :=
  match s.files fd with
  | some file => { s with files := Function.update s.files fd (some { file with connect }) }
  | none => s

/-- `selector_set_interest` on the server's selector; its status is ignored at every call. -/
def setInterest (s : Server) (fd : Int) (interest : FdInterest) : Server :=
  { s with selector := (s.selector.selectorSetInterest fd interest).1 }

/-- `selector_register` on the server's selector. The table has room for every valid descriptor from the start, so the
allocation that would grow it is never asked for. -/
def register (s : Server) (fd : Int) (handler : FdHandler) (interest : FdInterest) (data : Option Nat) :
    Server × SelectorStatus :=
  let (selector, status) := s.selector.selectorRegister fd (some handler) interest data true
  ({ s with selector }, status)

/-- `metrics_connection_opened` and the count of active connections, for a session just accepted. -/
def connectionOpened (s : Server) (sid : Nat) : Server :=
  { s with
    metrics := s.metrics.connectionOpened
    activeClientConnections := s.activeClientConnections + 1
    trace := s.trace ++ [.act sid .accepted] }

/-- `metrics_connection_closed` and the count of active connections, for a session about to be freed. -/
def connectionClosed (s : Server) (sid : Nat) : Server :=
  { s with
    metrics := s.metrics.connectionClosed
    activeClientConnections := s.activeClientConnections - 1
    trace := s.trace ++ [.act sid .freed] }

/-- `metrics_connection_succeeded`, called for a session. -/
def connectionSucceeded (s : Server) (sid : Nat) : Server :=
  { s with metrics := s.metrics.connectionSucceeded, trace := s.trace ++ [.act sid .succeeded] }

/-- `metrics_connection_failed`, called for a session. -/
def connectionFailed (s : Server) (sid : Nat) : Server :=
  { s with metrics := s.metrics.connectionFailed, trace := s.trace ++ [.act sid .failed] }

/-- Prepare a reply in the write buffer of a session, whose state is at hand. -/
def prepareReply (s : Server) (sid : Nat) (state : ClientState) (reply : Reply) : Server :=
  (s.put sid (state.prepare reply)).observe [.act sid (.prepared reply)]

end Server

end SocksProxy
