import SocksProxy.TargetConnection
import SocksProxy.Library.Traces

/-!
# The life of a session

One session as a machine of its own, apart from the server it lives in: what it is between two calls of its handlers, and what
one call may do to it. The state of the machine is what the handlers of a session and the kernel can tell about it: its
record, the interests registered for its two descriptors, and how far the connection to its target has got. The labels of a step
are the acts it performs, in order.

The verdicts say what the bytes received so far amount to in each stage of the handshake. They are functions of those bytes and
of the users table alone.
-/

namespace SocksProxy

/-- What a session looks like between two calls: its state, the interests registered for its client and for its target, and the
connection of its target's socket. -/
structure View where
  state : ClientState
  clientInterest : Option FdInterest
  targetInterest : Option FdInterest
  connect : Option ConnectStatus

/-- The life of a session: not yet accepted, served, or closed and freed. -/
inductive Life where
  | unborn
  | live (v : View)
  | gone

/-- The two peers of a session. -/
inductive Peer where
  | client
  | target

/-- What a step finds around its session: the users table of the moment, whether the kernel may report a socket as writable
before its connection has completed, whether a resolver thread may fail to allocate its notification, the result the session's
own resolver job has published, and for a session that looks like this what `recv` delivers from a peer and whether its target
is writable. -/
structure Env where
  users : ManagedUsers
  premature : Prop
  lost : Prop
  published : Int → List AddrInfo → Prop
  recv : Peer → View → RecvResult → Prop
  writable : View → Prop

/-! ## Verdicts -/

/-- What the bytes received so far amount to: more are needed, the client is cut off, or the message is answered. -/
inductive Verdict where
  | wait
  | hangUp
  | greet (method : Byte)
  | authenticate (username : Option CString)
  | reject (code : Byte)
  | request (r : Socks5Request)
  deriving DecidableEq

/-- The method chosen among those a greeting offers. -/
def chosenMethod (users : ManagedUsers) (methods : List Byte) : Byte :=
  if socks5ClientOffersUsernamePassword methods then socks5MethodUsernamePassword
  else if !authIsRequired users ∧ socks5ClientOffersNoAuth methods then socks5MethodNoAuth
  else socks5MethodNoAcceptable

/-- The stage that follows the choice of a method. -/
def stageAfterMethod (method : Byte) : ClientStage :=
  if method = socks5MethodUsernamePassword then .auth
  else if method = socks5MethodNoAuth then .request
  else .closing

/-- The verdict on a greeting: a version and a counted list of methods. -/
def greetingVerdict (users : ManagedUsers) : List Byte → Verdict
  | version :: nmethods :: rest =>
    if version ≠ socks5Version then .hangUp
    else if rest.length < nmethods.toNat then .wait
    else .greet (chosenMethod users (rest.take nmethods.toNat))
  | _ => .wait

/-- The verdict on an authentication: a version, a counted username and a counted password. -/
def authVerdict (users : ManagedUsers) : List Byte → Verdict
  | version :: usernameLen :: rest =>
    if version ≠ socks5AuthVersion then .authenticate none
    else
      match rest.drop usernameLen.toNat with
      | [] => .wait
      | passwordLen :: rest' =>
        if rest'.length < passwordLen.toNat then .wait
        else if usersCredentialsAreValid users (rest.take usernameLen.toNat) (rest'.take passwordLen.toNat) then
          .authenticate (some (CString.ofBuffer (rest.take usernameLen.toNat)))
        else .authenticate none
  | _ => .wait

/-- The verdict on a request. -/
def requestVerdict (buffer : List Byte) : Verdict :=
  if buffer.length < 4 ∨ socks5RequestIsIncomplete buffer = some true then .wait
  else
    match socks5ParseConnectRequest buffer with
    | some (some r) => .request r
    | _ =>
      match socks5RequestReplyFor buffer with
      | some code => .reject (if code = socks5ReplySuccess then socks5ReplyGeneralFailure else code)
      | none => .wait

/-- The verdict on what was received so far, in each stage that expects input before the relay. -/
def verdict (users : ManagedUsers) (stage : ClientStage) (buffer : List Byte) : Verdict :=
  match stage with
  | .greeting => greetingVerdict users buffer
  | .auth => authVerdict users buffer
  | .request => requestVerdict buffer
  | _ => .wait

/-! ## What a step does to the state -/

namespace ClientState

/-- A session as `target_connection_begin` leaves it before it resolves or connects. -/
def beginning (state : ClientState) (r : Socks5Request) : ClientState :=
  rememberRequestDestination { state with targetAddresses := [], targetAddressCurrent := [], lastConnectError := 0 } r

/-- A session once an attempt to reach its target has been logged. -/
def logged (state : ClientState) : ClientState :=
  { state with accessLogged := state.accessLogged || state.destinationHost.bytes != [] }

/-- The access log's share in an outcome. -/
def logActs (state : ClientState) (success : Bool) : List Act :=
  if state.accessLogged ∨ state.destinationHost.bytes = [] then []
  else [.logged { username := state.username, host := state.destinationHost, port := state.destinationPort, success }]

/-- A session whose request was answered with a failure. -/
def refused (state : ClientState) (code : Byte) : ClientState :=
  { (state.prepare (.request code)).logged with stage := .closing }

/-- What it takes to answer a request with a failure. -/
def refusedActs (state : ClientState) (code : Byte) : List Act :=
  .prepared (.request code) :: .failed :: state.logActs false

/-- A session whose request was answered with success. -/
def connected (state : ClientState) : ClientState :=
  { (state.prepare (.request socks5ReplySuccess)).logged with stage := .relay }

/-- What it takes to answer a request with success. -/
def connectedActs (state : ClientState) : List Act :=
  .prepared (.request socks5ReplySuccess) :: .succeeded :: state.logActs true

end ClientState

/-- A connection just started: on its way, or completed at once. -/
def ConnectStatus.Started (c : ConnectStatus) : Prop := c = .pending ∨ c = .completed 0

/-- The outcome of trying addresses one after another: the acts, the state that results, and the connection started, if one
was. Addresses of other families are skipped; a failed attempt leaves its error. -/
inductive Tries : ClientState → List AddrInfo → List Act → ClientState → Option ConnectStatus → Prop where
  | exhausted (st : ClientState) : Tries st [] [] st none
  | skipped {st st' : ClientState} {current : AddrInfo} {next : List AddrInfo} {acts : List Act} {c : Option ConnectStatus} :
    current.family ≠ .inet → current.family ≠ .inet6 → Tries { st with targetAddressCurrent := next } next acts st' c →
    Tries st (current :: next) acts st' c
  | failed {st st' : ClientState} {current : AddrInfo} {next : List AddrInfo} {acts : List Act} {c : Option ConnectStatus}
    {e : Nat} :
    current.family = .inet ∨ current.family = .inet6 → e ≠ 0 →
    Tries { st with targetAddressCurrent := next, lastConnectError := e } next acts st' c →
    Tries st (current :: next) (.attempted current.addr :: acts) st' c
  | started {st : ClientState} {current : AddrInfo} {next : List AddrInfo} {fd : Int} {c : ConnectStatus} :
    current.family = .inet ∨ current.family = .inet6 → fd ≠ -1 → c.Started →
    Tries st (current :: next) [.attempted current.addr]
      { st with targetAddressCurrent := next, targetFd := fd, stage := .connecting } (some c)

namespace View

/-- A session that has just been accepted. -/
def accepted (fd : Int) : View :=
  { state := .accepted fd, clientInterest := some opRead, targetInterest := none, connect := none }

/-- A session with the interests the relay wants. -/
def relaying (v : View) (state : ClientState) : View :=
  { v with state, clientInterest := some (relayInterests state).1, targetInterest := some (relayInterests state).2 }

/-- A session whose reply waits to be sent. -/
def replying (v : View) (state : ClientState) : View := { v with state, clientInterest := some opWrite }

/-- A session with no target. -/
def unconnected (v : View) (state : ClientState) : View := { v with state, targetInterest := none, connect := none }

/-- A session whose target's connection has been started: the client waits in silence. -/
def connecting (v : View) (state : ClientState) (c : ConnectStatus) : View :=
  { v with state, clientInterest := some opNoop, targetInterest := some opWrite, connect := some c }

end View

/-- The outcome of connecting to the addresses of a list: the next connection is started, or the request is refused with the
last error. -/
inductive Connects (v : View) (st : ClientState) : List AddrInfo → List Act → View → Prop where
  | started {l : List AddrInfo} {acts : List Act} {st' : ClientState} {c : ConnectStatus} :
    Tries st l acts st' (some c) → Connects v st l acts (v.connecting st' c)
  | refused {l : List AddrInfo} {acts : List Act} {st' : ClientState} :
    Tries st l acts st' none →
    Connects v st l (acts ++ st'.refusedActs (socks5ReplyForErrno st'.lastConnectError))
      ((v.unconnected (st'.refused (socks5ReplyForErrno st'.lastConnectError))).replying
        (st'.refused (socks5ReplyForErrno st'.lastConnectError)))

/-- The outcome of beginning a request, from the state at hand: a resolver job or a connection was started, or the request is
refused. The read buffer is emptied whatever happens. -/
inductive Begins (v : View) (st : ClientState) (r : Socks5Request) : List Act → View → Prop where
  | resolving {job : Nat} : r.atyp = socks5AtypDomain →
    Begins v st r [] { v with
      state := { st.beginning r with resolverJob := some job, stage := .resolving, readBuffer := [] }
      clientInterest := some opNoop }
  | unresolved : r.atyp = socks5AtypDomain →
    Begins v st r ((st.beginning r).refusedActs socks5ReplyGeneralFailure)
      (v.replying { (st.beginning r).refused socks5ReplyGeneralFailure with readBuffer := [] })
  | connecting {fd : Int} {c : ConnectStatus} : r.atyp ≠ socks5AtypDomain → fd ≠ -1 → c.Started →
    Begins v st r [.attempted r.addr]
      (v.connecting
        { st.beginning r with targetAddr := r.addr, targetFd := fd, stage := .connecting, readBuffer := [] } c)
  | unconnected {e : Nat} : r.atyp ≠ socks5AtypDomain → e ≠ 0 →
    Begins v st r (.attempted r.addr :: (st.beginning r).refusedActs (socks5ReplyForErrno e))
      (v.replying { ({ st.beginning r with targetAddr := r.addr, lastConnectError := e }).refused (socks5ReplyForErrno e) with
        readBuffer := [] })

/-- One step of the life of a session.

The first steps are its birth and death: it is accepted (`never` is an object that is no session, or one that could not be
registered), it is closed by an error, by a shutdown or for bytes that are not SOCKS5, or it is closed because one end of the
stream was reached. Then come the handshake, the outcome of a request, the sending of replies, and the relay. -/
inductive SessionStep (env : Env) : Life → List Act → Life → Prop where
  | accepted {fd : Int} : fd ≠ -1 → SessionStep env .unborn [.accepted] (.live (.accepted fd))
  | never : SessionStep env .unborn [] .gone
  | closed {v : View} : SessionStep env (.live v) [.freed] .gone
  | clientEnded {v : View} : env.recv .client v .eof → (v.state.relayStarted = true → v.state.c2tBuffer = []) →
    SessionStep env (.live v) [.eofClient, .freed] .gone
  | targetEnded {v : View} : env.recv .target v .eof → v.state.relayStarted = true → v.state.t2cBuffer = [] →
    SessionStep env (.live v) [.eofTarget, .freed] .gone
  | connectDone {v : View} {error : Nat} : v.connect = some .pending →
    SessionStep env (.live v) [] (.live { v with connect := some (.completed error) })
  -- the handshake
  | waits {v : View} {bytes : List Byte} : v.clientInterest = some opRead →
    env.recv .client v (.data bytes) → bytes ≠ [] →
    v.state.readLen + bytes.length ≤ serverBufferSize →
    v.state.stage = .greeting ∨ v.state.stage = .auth ∨ v.state.stage = .request →
    verdict env.users v.state.stage (v.state.readBuffer ++ bytes) = .wait →
    SessionStep env (.live v) [.recvHandshake bytes]
      (.live { v with state := { v.state with readBuffer := v.state.readBuffer ++ bytes } })
  | hungUp {v : View} {bytes : List Byte} : v.clientInterest = some opRead →
    env.recv .client v (.data bytes) → bytes ≠ [] →
    v.state.readLen + bytes.length ≤ serverBufferSize → v.state.stage = .greeting →
    verdict env.users v.state.stage (v.state.readBuffer ++ bytes) = .hangUp →
    SessionStep env (.live v) [.recvHandshake bytes, .freed] .gone
  | greeted {v : View} {bytes : List Byte} {method : Byte} : v.clientInterest = some opRead →
    env.recv .client v (.data bytes) → bytes ≠ [] →
    v.state.readLen + bytes.length ≤ serverBufferSize → v.state.stage = .greeting →
    verdict env.users v.state.stage (v.state.readBuffer ++ bytes) = .greet method →
    SessionStep env (.live v) [.recvHandshake bytes, .prepared (.greeting method)]
      (.live (v.replying { v.state.prepare (.greeting method) with stage := stageAfterMethod method, readBuffer := [] }))
  | authenticated {v : View} {bytes : List Byte} {username : CString} : v.clientInterest = some opRead →
    env.recv .client v (.data bytes) → bytes ≠ [] →
    v.state.readLen + bytes.length ≤ serverBufferSize → v.state.stage = .auth →
    verdict env.users v.state.stage (v.state.readBuffer ++ bytes) = .authenticate (some username) →
    SessionStep env (.live v) [.recvHandshake bytes, .prepared (.auth socks5AuthSuccess)]
      (.live (v.replying { v.state.prepare (.auth socks5AuthSuccess) with username, stage := .request, readBuffer := [] }))
  | unauthenticated {v : View} {bytes : List Byte} : v.clientInterest = some opRead →
    env.recv .client v (.data bytes) → bytes ≠ [] →
    v.state.readLen + bytes.length ≤ serverBufferSize → v.state.stage = .auth →
    verdict env.users v.state.stage (v.state.readBuffer ++ bytes) = .authenticate none →
    SessionStep env (.live v) [.recvHandshake bytes, .prepared (.auth socks5AuthFailure)]
      (.live (v.replying { v.state.prepare (.auth socks5AuthFailure) with stage := .closing, readBuffer := [] }))
  | rejected {v : View} {bytes : List Byte} {code : Byte} : v.clientInterest = some opRead →
    env.recv .client v (.data bytes) → bytes ≠ [] →
    v.state.readLen + bytes.length ≤ serverBufferSize → v.state.stage = .request →
    verdict env.users v.state.stage (v.state.readBuffer ++ bytes) = .reject code →
    SessionStep env (.live v) [.recvHandshake bytes, .prepared (.request code), .failed]
      (.live (v.replying { v.state.prepare (.request code) with stage := .closing, readBuffer := [] }))
  | begun {v v' : View} {bytes : List Byte} {r : Socks5Request} {acts : List Act} : v.clientInterest = some opRead →
    env.recv .client v (.data bytes) → bytes ≠ [] → v.state.readLen + bytes.length ≤ serverBufferSize → v.state.stage = .request →
    verdict env.users v.state.stage (v.state.readBuffer ++ bytes) = .request r → Begins v v.state r acts v' →
    SessionStep env (.live v) (.recvHandshake bytes :: .begun r :: acts) (.live v')
  -- the outcome of a request
  | unresolved {v : View} {status : Int} {result : List AddrInfo} : v.state.stage = .resolving →
    status ≠ 0 ∨ result = [] → env.published status result →
    SessionStep env (.live v)
      (.resolved status result :: v.state.refusedActs (socks5ReplyForGaiError status))
      (.live (v.replying ({ v.state with resolverJob := none }.refused (socks5ReplyForGaiError status))))
  | resolved {v v' : View} {result : List AddrInfo} {acts : List Act} : v.state.stage = .resolving →
    result ≠ [] → env.published 0 result →
    Connects v { v.state with resolverJob := none, targetAddresses := result, targetAddressCurrent := result } result acts v' →
    SessionStep env (.live v) (.resolved 0 result :: acts) (.live v')
  | connected {v : View} {c : ConnectStatus} : v.state.stage = .connecting → env.writable v → v.connect = some c →
    c = .completed 0 ∨ env.premature ∧ c = .pending →
    SessionStep env (.live v) v.state.connectedActs
      (.live { (v.replying v.state.connected) with targetInterest := some opNoop })
  | unconnected {v v' : View} {e : Nat} {acts : List Act} : v.state.stage = .connecting → env.writable v → e ≠ 0 →
    Connects v { v.state with targetFd := -1, lastConnectError := e } v.state.targetAddressCurrent acts v' →
    SessionStep env (.live v) acts (.live v')
  -- the sending of replies
  | replyBlocked {v : View} {chunks : List (List Byte)} {rest : List Byte} :
    v.state.writeBuffer.drop v.state.writeOff = chunks.flatten ++ rest → rest ≠ [] →
    SessionStep env (.live v) (chunks.map .sentReply)
      (.live { v with state := { v.state with writeOff := v.state.writeOff + chunks.flatten.length } })
  | replySent {v : View} {chunks : List (List Byte)} : v.state.writeBuffer ≠ [] →
    v.state.writeBuffer.drop v.state.writeOff = chunks.flatten →
    v.state.stage = .auth ∨ v.state.stage = .request →
    SessionStep env (.live v) (chunks.map .sentReply)
      (.live { v with state := { v.state with writeBuffer := [], writeOff := 0 }, clientInterest := some opRead })
  | replySentClosing {v : View} {chunks : List (List Byte)} : v.state.writeBuffer ≠ [] →
    v.state.writeBuffer.drop v.state.writeOff = chunks.flatten → v.state.stage = .closing →
    SessionStep env (.live v) (chunks.map .sentReply ++ [.freed]) .gone
  | relayStarts {v : View} {chunks : List (List Byte)} : v.state.writeBuffer ≠ [] →
    v.state.writeBuffer.drop v.state.writeOff = chunks.flatten → v.state.stage = .relay → v.state.relayStarted = false →
    SessionStep env (.live v) (chunks.map .sentReply)
      (.live (v.relaying { v.state with writeBuffer := [], writeOff := 0, relayStarted := true }))
  -- the relay
  | fromClient {v : View} {bytes : List Byte} : v.state.relayStarted = true → v.state.c2tBuffer = [] →
    env.recv .client v (.data bytes) → bytes ≠ [] → bytes.length ≤ serverBufferSize →
    SessionStep env (.live v) [.recvClient bytes]
      (.live (v.relaying { v.state with c2tBuffer := bytes, c2tOff := 0 }))
  | toTargetBlocked {v : View} {chunks : List (List Byte)} {rest : List Byte} : v.state.relayStarted = true →
    v.state.c2tBuffer.drop v.state.c2tOff = chunks.flatten ++ rest → rest ≠ [] →
    SessionStep env (.live v) (chunks.map .sentTarget)
      (.live { v with state := { v.state with c2tOff := v.state.c2tOff + chunks.flatten.length } })
  | toTarget {v : View} {chunks : List (List Byte)} : v.state.relayStarted = true →
    v.state.c2tBuffer.drop v.state.c2tOff = chunks.flatten →
    SessionStep env (.live v) (chunks.map .sentTarget)
      (.live (v.relaying { v.state with c2tBuffer := [], c2tOff := 0 }))
  | fromTarget {v : View} {bytes : List Byte} : v.state.relayStarted = true → v.state.t2cBuffer = [] →
    env.recv .target v (.data bytes) → bytes ≠ [] → bytes.length ≤ serverBufferSize →
    SessionStep env (.live v) [.recvTarget bytes]
      (.live (v.relaying { v.state with t2cBuffer := bytes, t2cOff := 0 }))
  | toClientBlocked {v : View} {chunks : List (List Byte)} {rest : List Byte} : v.state.relayStarted = true →
    v.state.t2cBuffer.drop v.state.t2cOff = chunks.flatten ++ rest → rest ≠ [] →
    SessionStep env (.live v) (chunks.map .sentClient)
      (.live { v with state := { v.state with t2cOff := v.state.t2cOff + chunks.flatten.length } })
  | toClient {v : View} {chunks : List (List Byte)} : v.state.relayStarted = true →
    v.state.t2cBuffer.drop v.state.t2cOff = chunks.flatten →
    SessionStep env (.live v) (chunks.map .sentClient)
      (.live (v.relaying { v.state with t2cBuffer := [], t2cOff := 0 }))

/-- A sequence of steps of one session. -/
abbrev SessionSteps (env : Env) : Life → List Act → Life → Prop := Traces.Steps (SessionStep env)

end SocksProxy
