import SocksProxy.Server

/-!
# Closing

The paths that close a connection. `selector_unregister_fd` calls the `handle_close` of the slot; that of a client
(`client_close`) unregisters the session's target before it frees the session, so the two functions are mutually recursive in
the source. Here the recursion carries a depth: `unregister` follows two levels, a client and its target, and a third level is
a fault.
-/

namespace SocksProxy

/-- The interests the relay wants on the two descriptors of a session: of the client, then of the target. -/
def relayInterests (state : ClientState) : FdInterest × FdInterest :=
  ({ read := state.c2tLen == 0, write := state.t2cLen > state.t2cOff },
    { read := state.t2cLen == 0, write := state.c2tLen > state.c2tOff })

/-- `client_session_update_relay_interests`. -/
def clientSessionUpdateRelayInterests (s : Server) (sid : Nat) : Server :=
  s.withSession sid fun state =>
    if !state.relayStarted then s
    else
      let s := if state.clientFd ≠ -1 then s.setInterest state.clientFd (relayInterests state).1 else s
      if state.targetFd ≠ -1 then s.setInterest state.targetFd (relayInterests state).2 else s

/-- `target_connection_free_addresses`. -/
def targetConnectionFreeAddresses (s : Server) (sid : Nat) : Server :=
  s.withSession sid fun state =>
    s.put sid { state with targetAddresses := [], targetAddressCurrent := [] }

/-- `target_connection_detach_resolver`: the job forgets the session, and is freed here if its thread has already published the
result. -/
def targetConnectionDetachResolver (s : Server) (sid : Nat) : Server :=
  s.withSession sid fun state =>
    match state.resolverJob with
    | none => s
    | some job =>
      match s.jobs job with
      | none => s.fault (.useAfterFree job)
      | some record =>
        let s :=
          if record.done then { s with jobs := Function.update s.jobs job none }
          else { s with jobs := Function.update s.jobs job (some { record with state := none }) }
        s.put sid { state with resolverJob := none }

/-- The `close` of a target that could not be unregistered. -/
def closeUnlessUnregistered (fd : Int) : Server × SelectorStatus → Server
  | (s, .success) => s
  | (s, _) => s.close fd

/-- `client_close`, with the `selector_unregister_fd` it calls for the target as a parameter. -/
def clientClose (unregister : Server → Int → Server × SelectorStatus) (s : Server) (key : SelectorKey Nat) : Server :=
  let s :=
    match key.data with
    | none => s
    | some sid =>
      s.withSession sid fun state =>
        let state := if state.clientFd = key.fd then { state with clientFd := -1 } else state
        let s := s.put sid state
        let s :=
          if state.targetFd ≠ -1 then
            let s := s.put sid { state with targetFd := -1 }
            closeUnlessUnregistered state.targetFd (unregister s state.targetFd)
          else s
        let s := targetConnectionDetachResolver s sid
        let s := targetConnectionFreeAddresses s sid
        let s := s.connectionClosed sid
        s.free sid
  s.close key.fd

/-- `target_close`. -/
def targetClose (s : Server) (key : SelectorKey Nat) : Server :=
  let s :=
    match key.data with
    | none => s
    | some sid =>
      s.withSession sid fun state =>
        if state.targetFd = key.fd then s.put sid { state with targetFd := -1 } else s
  s.close key.fd

/-- `management_close`. -/
def managementClose (s : Server) (key : SelectorKey Nat) : Server :=
  let s :=
    match key.data with
    | none => s
    | some mid =>
      match s.managements mid with
      | none => s.fault (.useAfterFree mid)
      | some _ => { s with managements := Function.update s.managements mid none }
  s.close key.fd

/-- The `handle_close` of each handler; those of the two listeners are NULL. -/
def handleClose (unregister : Server → Int → Server × SelectorStatus) :
    Option FdHandler → SelectorKey Nat → Server → Server
  | some .clientHandler, key, s => clientClose unregister s key
  | some .targetHandler, key, s => targetClose s key
  | some .managementClientHandler, key, s => managementClose s key
  | some .acceptHandler, _, s => s
  | some .managementAcceptHandler, _, s => s
  | none, _, s => s.fault .nullPointer

/-- `selector_unregister_fd` on the server's selector, with the callbacks nested at most this deep. -/
def unregisterFd : Nat → Server → Int → Server × SelectorStatus
  | 0, s, _ => (s.fault .nesting, .iargs)
  | depth + 1, s, fd => selectorUnregisterFd (handleClose (unregisterFd depth)) s fd

/-- `selector_unregister_fd`, as the handlers and the main loop call it: a client and, from inside its callback, its target. -/
def Server.unregister (s : Server) (fd : Int) : Server × SelectorStatus := unregisterFd 2 s fd

/-- `client_session_close_connection`. -/
def clientSessionCloseConnection (s : Server) (sid : Nat) : Server :=
  s.withSession sid fun state =>
    if state.clientFd ≠ -1 then
      let s := s.put sid { state with clientFd := -1 }
      (s.unregister state.clientFd).1
    else if state.targetFd ≠ -1 then
      let s := s.put sid { state with targetFd := -1 }
      closeUnlessUnregistered state.targetFd (s.unregister state.targetFd)
    else s

end SocksProxy
