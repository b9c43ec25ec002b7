import SocksProxy.Close

/-!
# Writing to the client

`client_write`: the write handler of a client. It sends the pending reply, and once the relay has begun, the bytes received
from the target. It is called by the selector and, right after a `recv`, by the read handler of the target.
-/

namespace SocksProxy

/-- The second half of `client_write`, past the pending reply: send the bytes received from the target. -/
def clientWriteRelay (s : Server) (sid : Nat) (state : ClientState) (sends : List SendResult) : Server :=
  let (chunks, ending) := sendLoop (state.t2cBuffer.drop state.t2cOff) sends
  let state := { state with t2cOff := state.t2cOff + chunks.flatten.length }
  let s := (s.put sid state).observe (chunks.map (.act sid <| .sentClient ·))
  let s := { s with metrics := chunks.foldl (fun m (chunk : List Byte) => m.addTargetToClientBytes chunk.length) s.metrics }
  let s := s.afterSend ending
  match ending with
  | .wouldBlock => s
  | .failed _ => clientSessionCloseConnection s sid
  | .drained =>
    let s := s.put sid { state with t2cBuffer := [], t2cOff := 0 }
    clientSessionUpdateRelayInterests s sid

/-- `client_write`. -/
def clientWrite (s : Server) (key : SelectorKey Nat) (sends : List SendResult) : Server :=
  match key.data with
  | none => s.fault .nullPointer
  | some sid =>
    s.withSession sid fun state =>
      let (chunks, ending) := sendLoop (state.writeBuffer.drop state.writeOff) sends
      let state := { state with writeOff := state.writeOff + chunks.flatten.length }
      let s := (s.put sid state).observe (chunks.map (.act sid <| .sentReply ·))
      let s := s.afterSend ending
      match ending with
      | .wouldBlock => s
      | .failed _ => clientSessionCloseConnection s sid
      | .drained =>
        if state.writeLen > 0 then
          let state := { state with writeBuffer := [], writeOff := 0 }
          let s := s.put sid state
          if state.stage = .closing then (s.unregister key.fd).1
          else if state.stage = .relay ∧ !state.relayStarted then
            let s := s.put sid { state with relayStarted := true }
            clientSessionUpdateRelayInterests s sid
          else s.setInterest key.fd opRead
        else if state.stage ≠ .relay then s.setInterest key.fd opRead
        else clientWriteRelay s sid state sends

end SocksProxy
