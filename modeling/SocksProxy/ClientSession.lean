import SocksProxy.TargetConnection

/-!
# The client's side of a session

`client_session.c`: the read handler of a client, which runs the handshake on the bytes received so far and feeds the relay, and
the accept handler, which creates the sessions.
-/

namespace SocksProxy

/-- `client_read` in stage `RELAY`. -/
def clientReadRelay (s : Server) (sid : Nat) (state : ClientState) (a : Answers) : Server :=
  if state.c2tLen ≠ 0 then clientSessionUpdateRelayInterests s sid
  else
    match a.recv.limit serverBufferSize with
    | .data bytes =>
      let s := (s.put sid { state with c2tBuffer := bytes, c2tOff := 0 }).observe [.act sid (.recvClient bytes)]
      let s := clientSessionUpdateRelayInterests s sid
      s.withSession sid fun state =>
        if state.targetFd ≠ -1 then targetWrite s { fd := state.targetFd, data := some sid } a else s
    | .eof => clientSessionCloseConnection (s.observe [.act sid .eofClient]) sid
    | .error e =>
      let s := s.setErrno e
      if e = .eagain then s else clientSessionCloseConnection s sid

/-- `client_read` in stage `GREETING`, once it has received something. -/
def clientReadGreeting (s : Server) (key : SelectorKey Nat) (sid : Nat) (state : ClientState) : Server :=
  if state.readLen < 2 then s
  else
    match state.readBuffer[0]?, state.readBuffer[1]? with
    | some version, some nmethods =>
      if version ≠ socks5Version ∨ state.readLen < 2 + nmethods.toNat then
        if version = socks5Version then s else (s.unregister key.fd).1
      else
        match slice state.readBuffer 2 nmethods.toNat with
        | none => s.fault .wildRead
        | some methods =>
          let (method, stage) :=
            if socks5ClientOffersUsernamePassword methods then (socks5MethodUsernamePassword, ClientStage.auth)
            else if !authIsRequired s.managedUsers ∧ socks5ClientOffersNoAuth methods then
              (socks5MethodNoAuth, ClientStage.request)
            else (socks5MethodNoAcceptable, ClientStage.closing)
          let s := s.prepareReply sid { state with stage, readBuffer := [] } (.greeting method)
          s.setInterest key.fd opWrite
    | _, _ => s.fault .wildRead

/-- `client_read` in stage `AUTH`, once it has received something. -/
def clientReadAuth (s : Server) (key : SelectorKey Nat) (sid : Nat) (state : ClientState) : Server :=
  match authParseRequest s.managedUsers state with
  | none => s.fault .wildRead
  | some (false, _, _) => s
  | some (true, authenticated, state) =>
    let status := if authenticated then socks5AuthSuccess else socks5AuthFailure
    let stage := if authenticated then ClientStage.request else ClientStage.closing
    let s := s.prepareReply sid { state with stage, readBuffer := [] } (.auth status)
    s.setInterest key.fd opWrite

/-- The rejection of a request by `client_read`: unlike a request that was begun, it is not logged. -/
def rejectRequest (s : Server) (key : SelectorKey Nat) (sid : Nat) (state : ClientState) (code : Byte) : Server :=
  let s := s.prepareReply sid { state with stage := .closing, readBuffer := [] } (.request code)
  let s := s.connectionFailed sid
  s.setInterest key.fd opWrite

/-- `client_read` in stage `REQUEST`, once it has received something. -/
def clientReadRequest (s : Server) (key : SelectorKey Nat) (sid : Nat) (state : ClientState) (a : Answers) : Server :=
  if state.readLen < 4 then s
  else
    match socks5RequestReplyFor state.readBuffer with
    | none => s.fault .wildRead
    | some requestReply =>
      if requestReply ≠ socks5ReplySuccess then
        match socks5RequestIsIncomplete state.readBuffer with
        | none => s.fault .wildRead
        | some true => s
        | some false => rejectRequest s key sid state requestReply
      else
        match socks5ParseConnectRequest state.readBuffer with
        | none => s.fault .wildRead
        | some none => rejectRequest s key sid state socks5ReplyGeneralFailure
        | some (some request) =>
          let s := targetConnectionBegin s key sid request a
          s.withSession sid fun state => s.put sid { state with readBuffer := [] }

/-- `client_read`. In a stage that expects no input it falls through to the test of `errno`, which no call has just set. -/
def clientRead (s : Server) (key : SelectorKey Nat) (a : Answers) : Server :=
  match key.data with
  | none => s.fault .nullPointer
  | some sid =>
    s.withSession sid fun state =>
      if state.stage = .relay then clientReadRelay s sid state a
      else
        match a.recv.limit (serverBufferSize - state.readLen) with
        | .data bytes =>
          let state := { state with readBuffer := state.readBuffer ++ bytes }
          let s := (s.put sid state).observe [.act sid (.recvHandshake bytes)]
          match state.stage with
          | .greeting => clientReadGreeting s key sid state
          | .auth => clientReadAuth s key sid state
          | .request => clientReadRequest s key sid state a
          | _ => if s.errno = Errno.eagain.code then s else clientSessionCloseConnection s sid
        | .eof => clientSessionCloseConnection (s.observe [.act sid .eofClient]) sid
        | .error e =>
          let s := s.setErrno e
          if e = .eagain then s else clientSessionCloseConnection s sid

/-- `accept_connection`: accept until there is no connection left, giving each one a session of its own. -/
def acceptConnection : Server → List AcceptResult → Server
  | s, [] => s.setErrno .eagain
  | s, .error e :: _ => s.setErrno e
  | s, .accepted fd setNonblocking allocated :: rest =>
    match s.handOut (.ok fd) with
    | .error e => s.setErrno e
    | .ok clientFd =>
      let s := s.openFd clientFd
      match setNonblocking with
      | .error e => acceptConnection ((s.setErrno e).close clientFd) rest
      | .ok =>
        if !allocated then acceptConnection (s.close clientFd) rest
        else
          let sid := s.nextObject
          let s := { s with nextObject := s.nextObject + 1 }.put sid (ClientState.accepted clientFd)
          match s.register clientFd .clientHandler opRead (some sid) with
          | (s, .success) => acceptConnection (s.connectionOpened sid) rest
          | (s, _) => acceptConnection ((s.free sid).close clientFd) rest

end SocksProxy
