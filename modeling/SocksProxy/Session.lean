import SocksProxy.Users
import SocksProxy.Socks5
import SocksProxy.Selector

/-!
# The state of a session

`server.h` and the records around it: the state of one SOCKS5 connection, the job of a resolver thread, the state of a
management connection, the metrics. Each byte buffer of a session is kept as the list of its valid bytes, so that its length
field is the length of the list: `read_len`, `write_len`, `c2t_len` and `t2c_len`. The contents of the arrays beyond those
lengths are never read.
-/

namespace SocksProxy

/-- `SERVER_BUFFER_SIZE`. -/
def serverBufferSize : Nat := 4096

/-- `CLIENT_USERNAME_MAX`. -/
def clientUsernameMax : Nat := 255

/-- `CLIENT_DESTINATION_MAX`. -/
def clientDestinationMax : Nat := 255

/-- `MANAGEMENT_BUFFER_SIZE`. -/
def managementBufferSize : Nat := 1024

/-- `client_stage_t`. -/
inductive ClientStage where
  | greeting | auth | request | resolving | connecting | relay | closing
  deriving DecidableEq, Repr

/-- The `ai_family` of an address: the two families the program connects to, and any other. -/
inductive AddressFamily where
  | inet | inet6 | other (family : Nat)
  deriving DecidableEq

/-- An entry of the list `getaddrinfo` returns. The list itself is a Lean list, and NULL is the empty list. -/
structure AddrInfo where
  family : AddressFamily
  addr : SockAddr
  deriving DecidableEq

/-- `client_state_t`. A descriptor field is -1 when it names none. -/
structure ClientState where
  readBuffer : List Byte
  writeBuffer : List Byte
  c2tBuffer : List Byte
  t2cBuffer : List Byte
  writeOff : Nat
  c2tOff : Nat
  t2cOff : Nat
  clientFd : Int
  targetFd : Int
  targetAddr : SockAddr
  targetAddresses : List AddrInfo
  targetAddressCurrent : List AddrInfo
  resolverJob : Option Nat
  lastConnectError : Nat
  username : CString
  destinationHost : CString
  destinationPort : UInt16
  accessLogged : Bool
  stage : ClientStage
  relayStarted : Bool

namespace ClientState

/-- `read_len`. -/
def readLen (state : ClientState) : Nat := state.readBuffer.length

/-- `write_len`. -/
def writeLen (state : ClientState) : Nat := state.writeBuffer.length

/-- `c2t_len`. -/
def c2tLen (state : ClientState) : Nat := state.c2tBuffer.length

/-- `t2c_len`. -/
def t2cLen (state : ClientState) : Nat := state.t2cBuffer.length

/-- The state `accept_connection` allocates for an accepted descriptor. -/
def accepted (clientFd : Int) : ClientState where
  readBuffer := []
  writeBuffer := []
  c2tBuffer := []
  t2cBuffer := []
  writeOff := 0
  c2tOff := 0
  t2cOff := 0
  clientFd := clientFd
  targetFd := -1
  targetAddr := .zeroed
  targetAddresses := []
  targetAddressCurrent := []
  resolverJob := none
  lastConnectError := 0
  username := (literal "anonymous").snprintf (clientUsernameMax + 1)
  destinationHost := .empty
  destinationPort := 0
  accessLogged := false
  stage := .greeting
  relayStarted := false

/-- Put a prepared reply in the write buffer: the length is its length and the offset is zero. -/
def prepare (state : ClientState) (reply : Reply) : ClientState :=
  { state with writeBuffer := reply.bytes, writeOff := 0 }

end ClientState

/-- `struct resolver_job`, but for its mutex and the selector it points to. -/
structure ResolverJob where
  clientFd : Int
  state : Option Nat
  host : CString
  port : List Byte
  result : List AddrInfo
  status : Int
  done : Bool

/-- Where a resolver thread stands. Its critical section on the job is one step, after which it holds what it decided there:
to notify the descriptor it read from the job, or to release the job. -/
inductive ThreadPhase where
  | resolving
  | notifying (clientFd : Int)
  | releasing
  | finished
  deriving DecidableEq

/-- `management_state_t`. -/
structure ManagementState where
  readBuffer : List Byte
  writeBuffer : List Byte
  writeOff : Nat

/-- `server_metrics_t`. -/
structure ServerMetrics where
  historicalConnections : UInt64
  concurrentConnections : UInt64
  successfulConnections : UInt64
  failedConnections : UInt64
  bytesClientToTarget : UInt64
  bytesTargetToClient : UInt64
  deriving DecidableEq

namespace ServerMetrics

/-- The metrics at start: a static record of zeros. -/
def zeroed : ServerMetrics := ⟨0, 0, 0, 0, 0, 0⟩

/-- `metrics_connection_opened`. -/
def connectionOpened (m : ServerMetrics) : ServerMetrics :=
  { m with historicalConnections := m.historicalConnections + 1, concurrentConnections := m.concurrentConnections + 1 }

/-- `metrics_connection_closed`. -/
def connectionClosed (m : ServerMetrics) : ServerMetrics :=
  if m.concurrentConnections > 0 then { m with concurrentConnections := m.concurrentConnections - 1 } else m

/-- `metrics_connection_succeeded`. -/
def connectionSucceeded (m : ServerMetrics) : ServerMetrics :=
  { m with successfulConnections := m.successfulConnections + 1 }

/-- `metrics_connection_failed`. -/
def connectionFailed (m : ServerMetrics) : ServerMetrics :=
  { m with failedConnections := m.failedConnections + 1 }

/-- `metrics_add_client_to_target_bytes`. -/
def addClientToTargetBytes (m : ServerMetrics) (bytes : Nat) : ServerMetrics :=
  { m with bytesClientToTarget := m.bytesClientToTarget + UInt64.ofNat bytes }

/-- `metrics_add_target_to_client_bytes`. -/
def addTargetToClientBytes (m : ServerMetrics) (bytes : Nat) : ServerMetrics :=
  { m with bytesTargetToClient := m.bytesTargetToClient + UInt64.ofNat bytes }

/-- `metrics_total_transferred_bytes`. -/
def totalTransferredBytes (m : ServerMetrics) : UInt64 := m.bytesClientToTarget + m.bytesTargetToClient

end ServerMetrics

/-- `auth_is_required`. -/
def authIsRequired (users : ManagedUsers) : Bool := usersAreConfigured users

/-- `auth_parse_request`: whether it returns true, the value it leaves in `authenticated`, and the state; `none` for a read
outside the bytes received. -/
def authParseRequest (users : ManagedUsers) (state : ClientState) : Option (Bool × Bool × ClientState) :=
  if state.readLen < 2 then some (false, false, state)
  else do
    let version ← state.readBuffer[0]?
    if version ≠ socks5AuthVersion then some (true, false, state)
    else do
      let usernameLen ← state.readBuffer[1]?
      let passwordLenIndex := 2 + usernameLen.toNat
      if state.readLen < passwordLenIndex + 1 then some (false, false, state)
      else do
        let passwordLen ← state.readBuffer[passwordLenIndex]?
        let expectedLen := passwordLenIndex + 1 + passwordLen.toNat
        if state.readLen < expectedLen then some (false, false, state)
        else do
          let username ← slice state.readBuffer 2 usernameLen.toNat
          let password ← slice state.readBuffer (passwordLenIndex + 1) passwordLen.toNat
          if usersCredentialsAreValid users username password then
            some (true, true, { state with username := CString.ofBuffer username })
          else some (true, false, state)

end SocksProxy
