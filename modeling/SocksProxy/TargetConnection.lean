import SocksProxy.ClientWrite
import SocksProxy.InetNtop

/-!
# The connection to the target

`target_connection.c`: the resolution of a domain in a thread of its own, the attempts to connect to the addresses it yields,
one after another, and the handlers of the target's descriptor.
-/

namespace SocksProxy

/-- `EAI_AGAIN`. -/
def eaiAgain : Int := -3

/-- `EAI_NONAME`. -/
def eaiNoname : Int := -2

/-- `remember_request_destination`. The text of an address always fits, so `inet_ntop` does not fail. -/
def rememberRequestDestination (state : ClientState) (request : Socks5Request) : ClientState :=
  let state := { state with destinationPort := request.port, accessLogged := false }
  if request.atyp = socks5AtypDomain then
    { state with destinationHost := (CString.ofBuffer request.host).snprintf (clientDestinationMax + 1) }
  else if request.atyp = socks5AtypIpv4 then
    { state with destinationHost := CString.ofBuffer (inetNtop4 request.addr.octets) }
  else if request.atyp = socks5AtypIpv6 then
    { state with destinationHost := CString.ofBuffer (inetNtop6 request.addr.octets) }
  else { state with destinationHost := literal "unknown" }

/-- `access_log_client_connection`. -/
def accessLogClientConnection (s : Server) (sid : Nat) (success : Bool) : Server :=
  s.withSession sid fun state =>
    if state.accessLogged ∨ state.destinationHost.bytes = [] then s
    else
      let entry : AccessLogEntry :=
        { username := state.username, host := state.destinationHost, port := state.destinationPort, success }
      let s := { s with accessLog := s.accessLog ++ [entry] }.put sid { state with accessLogged := true }
      s.observe [.act sid (.logged entry)]

/-- `socks5_reply_for_errno`. -/
def socks5ReplyForErrno (error : Nat) : Byte :=
  if error = 0 then socks5ReplySuccess
  else if error = Errno.enetunreach.code then socks5ReplyNetworkUnreachable
  else if error = Errno.ehostunreach.code ∨ error = Errno.ehostdown.code ∨ error = Errno.enodata.code then
    socks5ReplyHostUnreachable
  else if error = Errno.econnrefused.code then socks5ReplyConnectionRefused
  else if error = Errno.etimedout.code then socks5ReplyTtlExpired
  else socks5ReplyGeneralFailure

/-- `socks5_reply_for_gai_error`. The build does not define `_GNU_SOURCE`, so the C library does not declare `EAI_NODATA`. -/
def socks5ReplyForGaiError (error : Int) : Byte :=
  if error = 0 then socks5ReplySuccess
  else if error = eaiAgain then socks5ReplyTtlExpired
  else if error = eaiNoname then socks5ReplyHostUnreachable
  else socks5ReplyGeneralFailure

/-- The answer to a request whose target was not reached: the reply is prepared, the failure is counted and logged, and the
session goes to `CLOSING` with the client waiting to be written. The source has these lines at each of its failing paths. -/
def failRequest (s : Server) (fd : Int) (sid : Nat) (code : Byte) : Server :=
  s.withSession sid fun state =>
    let s := s.prepareReply sid state (.request code)
    let s := s.connectionFailed sid
    let s := accessLogClientConnection s sid false
    s.withSession sid fun state =>
      let s := s.put sid { state with stage := .closing }
      s.setInterest fd opWrite

/-- `start_target_resolution`: whether it started, with the thread that runs `resolve_target`. -/
def startTargetResolution (s : Server) (sid : Nat) (host : CString) (port : UInt16) (start : ResolverStart) : Server × Bool :=
  match s.sessions sid with
  | none => (s.fault (.useAfterFree sid), false)
  | some state =>
    match start with
    | .noMemory => (s, false)
    | .noMutex => ({ s with nextObject := s.nextObject + 1 }, false)
    | .noThread => ({ s with nextObject := s.nextObject + 1 }.put sid { state with resolverJob := none }, false)
    | .started =>
      let job := s.nextObject
      let record : ResolverJob :=
        { clientFd := state.clientFd, state := some sid, host := host.snprintf (socks5MaxDomainLength + 1),
          port := decimal port.toNat, result := [], status := eaiAgain, done := false }
      let s := { s with
        nextObject := s.nextObject + 1
        jobs := Function.update s.jobs job (some record)
        threads := Function.update s.threads job .resolving }
      (s.put sid { state with resolverJob := some job }, true)

/-- `register_connecting_socket`. -/
def registerConnectingSocket (s : Server) (sid : Nat) (targetFd : Int) : Server × Bool :=
  match s.register targetFd .targetHandler opWrite (some sid) with
  | (s, status) =>
    match s.sessions sid with
    | none => (s.fault (.useAfterFree sid), false)
    | some state =>
      if status ≠ .success then
        let s := s.put sid { state with lastConnectError := s.errno, targetFd := -1 }
        (s.close targetFd, false)
      else (s.put sid { state with stage := .connecting }, true)

/-- `start_target_connection`, with the answers to its calls. -/
def startTargetConnection (s : Server) (sid : Nat) (addr : SockAddr) (attempt : Attempt) : Server × Bool :=
  let s := s.observe [.act sid (.attempted addr)]
  match s.sessions sid with
  | none => (s.fault (.useAfterFree sid), false)
  | some state =>
    match s.handOut attempt.socket with
    | .error e => ((s.put sid { state with lastConnectError := e.code }).setErrno e, false)
    | .ok targetFd =>
      let s := s.openFd targetFd
      match attempt.setNonblocking with
      | .error e => (((s.put sid { state with lastConnectError := e.code }).setErrno e).close targetFd, false)
      | .ok =>
        let state := { state with targetFd := targetFd }
        let s := s.put sid state
        match attempt.connect with
        | .error e =>
          let s := s.setErrno e
          if e ≠ .einprogress then
            let s := s.put sid { state with lastConnectError := e.code, targetFd := -1 }
            (s.close targetFd, false)
          else registerConnectingSocket (s.setConnect targetFd .pending) sid targetFd
        | .ok => registerConnectingSocket (s.setConnect targetFd (.completed 0)) sid targetFd

/-- The loop of `start_next_target_connection`, over what is left of the address list. -/
def startNextLoop (sid : Nat) : List AddrInfo → List Attempt → Server → Server × Bool
  | [], _, s => (s, false)
  | current :: next, attempts, s =>
    match s.sessions sid with
    | none => (s.fault (.useAfterFree sid), false)
    | some state =>
      let s := s.put sid { state with targetAddressCurrent := next }
      if current.family ≠ .inet ∧ current.family ≠ .inet6 then startNextLoop sid next attempts s
      else
        match startTargetConnection s sid current.addr (attempts.headD .exhausted) with
        | (s, true) => (s, true)
        | (s, false) => startNextLoop sid next attempts.tail s

/-- `start_next_target_connection`. -/
def startNextTargetConnection (s : Server) (sid : Nat) (attempts : List Attempt) : Server × Bool :=
  match s.sessions sid with
  | none => (s.fault (.useAfterFree sid), false)
  | some state => startNextLoop sid state.targetAddressCurrent attempts s

/-- The branch of `target_connection_begin` for a domain: a resolver is started, or the request fails. -/
def beginResolution (s : Server) (fd : Int) (sid : Nat) (request : Socks5Request) (start : ResolverStart) : Server :=
  let s := targetConnectionDetachResolver s sid
  match startTargetResolution s sid (CString.ofBuffer request.host) request.port start with
  | (s, false) => failRequest s fd sid socks5ReplyGeneralFailure
  | (s, true) =>
    s.withSession sid fun state =>
      let s := s.put sid { state with stage := .resolving }
      s.setInterest fd opNoop

/-- The branch of `target_connection_begin` for an address: a connection is started, or the request fails. -/
def beginConnection (s : Server) (fd : Int) (sid : Nat) (request : Socks5Request) (attempt : Attempt) : Server :=
  s.withSession sid fun state =>
    let s := s.put sid { state with targetAddr := request.addr }
    match startTargetConnection s sid request.addr attempt with
    | (s, false) => s.withSession sid fun state => failRequest s fd sid (socks5ReplyForErrno state.lastConnectError)
    | (s, true) => s.setInterest fd opNoop

/-- `target_connection_begin`. -/
def targetConnectionBegin (s : Server) (key : SelectorKey Nat) (sid : Nat) (request : Socks5Request) (a : Answers) : Server :=
  let s := s.observe [.act sid (.begun request)]
  let s := targetConnectionFreeAddresses s sid
  s.withSession sid fun state =>
    let s := s.put sid (rememberRequestDestination { state with lastConnectError := 0 } request)
    if request.atyp = socks5AtypDomain then beginResolution s key.fd sid request a.resolver
    else beginConnection s key.fd sid request (a.attempts.headD .exhausted)

/-- The end of `target_connection_on_resolve` for a list of addresses: a connection is started, or the request fails. -/
def connectResolved (s : Server) (fd : Int) (sid : Nat) (attempts : List Attempt) : Server :=
  match startNextTargetConnection s sid attempts with
  | (s, false) => s.withSession sid fun state => failRequest s fd sid (socks5ReplyForErrno state.lastConnectError)
  | (s, true) => s.setInterest fd opNoop

/-- `target_connection_on_resolve`: the `handle_block` of a client. -/
def targetConnectionOnResolve (s : Server) (key : SelectorKey Nat) (a : Answers) : Server :=
  match key.data with
  | none => s
  | some sid =>
    s.withSession sid fun state =>
      if state.stage ≠ .resolving then s
      else
        match state.resolverJob with
        | none => s
        | some job =>
          match s.jobs job with
          | none => s.fault (.useAfterFree job)
          | some record =>
            if !record.done then s
            else
              let s := { s with jobs := Function.update s.jobs job none }
              let state := { state with resolverJob := none }
              let s := (s.put sid state).observe [.act sid (.resolved record.status record.result)]
              if record.status ≠ 0 ∨ record.result = [] then
                failRequest s key.fd sid (socks5ReplyForGaiError record.status)
              else
                let s := s.put sid { state with targetAddresses := record.result, targetAddressCurrent := record.result }
                connectResolved s key.fd sid a.attempts

/-- `target_connection_succeeded`: whether the connection succeeded, and the socket's error. -/
def targetConnectionSucceeded (s : Server) (fd : Int) (getsockopt : SysResult) : Bool × Nat :=
  match getsockopt with
  | .error e => (false, e.code)
  | .ok =>
    match s.files fd with
    | none => (false, Errno.ebadf.code)
    | some file => (file.connect.soError == 0, file.connect.soError)

/-- The end of the connecting half of `target_write`: the request is answered, counted and logged, and the session goes to
`RELAY` or `CLOSING`. -/
def answerConnect (s : Server) (sid : Nat) (connected : Bool) : Server :=
  s.withSession sid fun state =>
    let code := if connected then socks5ReplySuccess else socks5ReplyForErrno state.lastConnectError
    let s := s.prepareReply sid state (.request code)
    let s := if connected then s.connectionSucceeded sid else s.connectionFailed sid
    let s := accessLogClientConnection s sid connected
    s.withSession sid fun state =>
      let s := s.put sid { state with stage := if connected then .relay else .closing }
      s.setInterest state.clientFd opWrite

/-- The connecting half of `target_write` for a connection that failed: the next address is tried, or the request fails. -/
def connectNext (s : Server) (sid : Nat) (attempts : List Attempt) : Server :=
  match startNextTargetConnection s sid attempts with
  | (s, true) => s
  | (s, false) => answerConnect s sid false

/-- The connecting half of `target_write`. -/
def targetWriteConnecting (s : Server) (key : SelectorKey Nat) (sid : Nat) (state : ClientState) (a : Answers) : Server :=
  let (connected, socketError) := targetConnectionSucceeded s key.fd a.getsockopt
  let s := match a.getsockopt with
    | .error e => s.setErrno e
    | .ok => s
  if connected then
    let s := s.setInterest key.fd opNoop
    answerConnect s sid true
  else
    let s := s.put sid { state with lastConnectError := socketError }
    let s := (s.unregister key.fd).1
    connectNext s sid a.attempts

/-- `target_write`. -/
def targetWrite (s : Server) (key : SelectorKey Nat) (a : Answers) : Server :=
  match key.data with
  | none => s.fault .nullPointer
  | some sid =>
    s.withSession sid fun state =>
      if state.stage = .connecting then targetWriteConnecting s key sid state a
      else
        let (chunks, ending) := sendLoop (state.c2tBuffer.drop state.c2tOff) a.sends
        let state := { state with c2tOff := state.c2tOff + chunks.flatten.length }
        let s := (s.put sid state).observe (chunks.map (.act sid <| .sentTarget ·))
        let s := { s with
          metrics := chunks.foldl (fun m (chunk : List Byte) => m.addClientToTargetBytes chunk.length) s.metrics }
        let s := s.afterSend ending
        match ending with
        | .wouldBlock => s
        | .failed _ => clientSessionCloseConnection s sid
        | .drained =>
          let s := s.put sid { state with c2tBuffer := [], c2tOff := 0 }
          clientSessionUpdateRelayInterests s sid

/-- `target_read`. -/
def targetRead (s : Server) (key : SelectorKey Nat) (a : Answers) : Server :=
  match key.data with
  | none => s.fault .nullPointer
  | some sid =>
    s.withSession sid fun state =>
      if state.t2cLen ≠ 0 then clientSessionUpdateRelayInterests s sid
      else
        match a.recv.limit serverBufferSize with
        | .data bytes =>
          let s := (s.put sid { state with t2cBuffer := bytes, t2cOff := 0 }).observe [.act sid (.recvTarget bytes)]
          let s := clientSessionUpdateRelayInterests s sid
          s.withSession sid fun state =>
            if state.clientFd ≠ -1 then clientWrite s { fd := state.clientFd, data := some sid } a.sends else s
        | .eof => clientSessionCloseConnection (s.observe [.act sid .eofTarget]) sid
        | .error e =>
          let s := s.setErrno e
          if e = .eagain then s else clientSessionCloseConnection s sid

end SocksProxy
