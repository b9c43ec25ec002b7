import SocksProxy.Served

/-!
# The pieces of the handlers

What the handlers are made of, as service of one session: replies, counters, the access log, loops of `send`, the interests of
the relay, and the answers to a request.
-/

namespace SocksProxy

/-- What a loop of `send` took, and what it left: the chunks are a prefix of what was pending, and they are all of it exactly
when the loop ended by draining it. -/
theorem sendLoop_spec (pending : List Byte) (sends : List SendResult) :
    ∃ rest, pending = (sendLoop pending sends).1.flatten ++ rest ∧ ((sendLoop pending sends).2 = .drained ↔ rest = []) := by
  induction sends generalizing pending with
  | nil =>
    cases pending with
    | nil => exact ⟨[], by simp [sendLoop]⟩
    | cons b pending => exact ⟨b :: pending, by simp [sendLoop]⟩
  | cons r sends ih =>
    cases pending with
    | nil => exact ⟨[], by simp [sendLoop]⟩
    | cons b pending =>
      cases r with
      | error e =>
        refine ⟨b :: pending, ?_⟩
        unfold sendLoop
        split <;> simp
      | sent count =>
        unfold sendLoop
        split
        · exact ⟨b :: pending, by simp⟩
        · obtain ⟨rest, hr, hd⟩ := ih ((b :: pending).drop count)
          refine ⟨rest, ?_, hd⟩
          simp only [List.flatten_cons, List.append_assoc]
          rw [← hr, List.take_append_drop]

/-- The rest of a buffer after a loop of `send` moved the offset on. -/
theorem drop_add_of_eq_append {buffer taken rest : List Byte} {off : Nat} (h : buffer.drop off = taken ++ rest) :
    buffer.drop (off + taken.length) = rest := by
  rw [← List.drop_drop, h, List.drop_left]

namespace Served

variable {sid : Nat} {s s' : Server} {v : View} {acts : List Act}

/-- Preparing a reply, from a state at hand. -/
theorem prepareReply (h : Served sid s s' v acts) (state : ClientState) (reply : Reply)
    (hc : state.clientFd = v.state.clientFd) (ht : state.targetFd = v.state.targetFd)
    (hj : state.resolverJob = v.state.resolverJob) :
    Served sid s (s'.prepareReply sid state reply) { v with state := state.prepare reply } (acts ++ [.prepared reply]) :=
  (h.put (state.prepare reply) hc ht hj).observe [.prepared reply] (by simp [Accounts.count])

/-- Performing one act and counting it. -/
theorem count (h : Served sid s s' v acts) (a : Act) (metrics : ServerMetrics) (accessLog : List AccessLogEntry)
    (ha : Accounts.count s'.accounts a = ⟨metrics, s'.activeClientConnections, accessLog⟩) :
    Served sid s { s' with metrics, accessLog, trace := s'.trace ++ [.act sid a] } v (acts ++ [a]) :=
  { h with
    accounts := by
      rw [List.foldl_append, ← h.accounts, List.foldl_cons, List.foldl_nil, ha]
      rfl
    trace := by simp [h.trace] }

/-- Counting a failed request. -/
theorem connectionFailed (h : Served sid s s' v acts) : Served sid s (s'.connectionFailed sid) v (acts ++ [.failed]) :=
  h.count .failed _ s'.accessLog rfl

/-- Counting a successful request. -/
theorem connectionSucceeded (h : Served sid s s' v acts) :
    Served sid s (s'.connectionSucceeded sid) v (acts ++ [.succeeded]) :=
  h.count .succeeded _ s'.accessLog rfl

/-- Logging the outcome of a request, once. -/
theorem accessLog (h : Served sid s s' v acts) (success : Bool) :
    Served sid s (accessLogClientConnection s' sid success) { v with state := v.state.logged }
      (acts ++ v.state.logActs success) := by
  unfold accessLogClientConnection
  rw [h.withSession]
  by_cases hl : v.state.accessLogged = true ∨ v.state.destinationHost.bytes = []
  · have hsame : v.state.logged = v.state := by
      unfold ClientState.logged
      rcases hl with hl | hl <;> simp [hl]
      rw [← hl]
    rw [if_pos hl, hsame, ClientState.logActs, if_pos hl, List.append_nil]
    exact h
  · have hnew : v.state.logged = { v.state with accessLogged := true } := by
      rw [not_or] at hl
      simp [ClientState.logged, hl.2]
    rw [if_neg hl, hnew, ClientState.logActs, if_neg hl]
    have hput := h.put { v.state with accessLogged := true } rfl rfl rfl
    exact hput.count (.logged _) s'.metrics _ rfl

/-- Answering a request with a failure. -/
theorem failRequest (h : Served sid s s' v acts) (code : Byte) :
    Served sid s (failRequest s' v.state.clientFd sid code) (v.replying (v.state.refused code))
      (acts ++ v.state.refusedActs code) := by
  unfold SocksProxy.failRequest
  rw [h.withSession]
  have h1 := ((h.prepareReply v.state (.request code) rfl rfl rfl).connectionFailed).accessLog false
  rw [h1.withSession]
  have h2 := (h1.put { (v.state.prepare (.request code)).logged with stage := .closing } rfl rfl rfl).setClient opWrite
  rw [List.append_assoc, List.append_assoc] at h2
  exact h2

/-- Answering a request whose connection completed or failed. -/
theorem answerConnect (h : Served sid s s' v acts) (connected : Bool) :
    Served sid s (answerConnect s' sid connected)
      (v.replying (if connected then v.state.connected else v.state.refused (socks5ReplyForErrno v.state.lastConnectError)))
      (acts ++ if connected then v.state.connectedActs
        else v.state.refusedActs (socks5ReplyForErrno v.state.lastConnectError)) := by
  unfold SocksProxy.answerConnect
  rw [h.withSession]
  cases connected with
  | true =>
    have h1 := ((h.prepareReply v.state (.request socks5ReplySuccess) rfl rfl rfl).connectionSucceeded).accessLog true
    simp only [if_true]
    rw [h1.withSession]
    have h2 := (h1.put { (v.state.prepare (.request socks5ReplySuccess)).logged with stage := .relay } rfl rfl rfl).setClient
      opWrite
    rw [List.append_assoc, List.append_assoc] at h2
    exact h2
  | false =>
    have h1 := ((h.prepareReply v.state (.request (socks5ReplyForErrno v.state.lastConnectError)) rfl rfl
      rfl).connectionFailed).accessLog false
    simp only [Bool.false_eq_true, if_false]
    rw [h1.withSession]
    have h2 := (h1.put { (v.state.prepare (.request (socks5ReplyForErrno v.state.lastConnectError))).logged with
      stage := .closing } rfl rfl rfl).setClient opWrite
    rw [List.append_assoc, List.append_assoc] at h2
    exact h2

/-- Setting the interests of the relay. -/
theorem updateRelayInterests (h : Served sid s s' v acts) (hr : v.state.relayStarted = true) (hc : v.state.clientFd ≠ -1)
    (ht : v.state.targetFd ≠ -1) :
    Served sid s (clientSessionUpdateRelayInterests s' sid) (v.relaying v.state) acts := by
  unfold clientSessionUpdateRelayInterests
  rw [h.withSession]
  simp only [hr, Bool.not_true, Bool.false_eq_true, if_false, ne_eq, hc, not_false_eq_true, if_true, ht]
  exact (h.setClient (relayInterests v.state).1).setTarget ht (relayInterests v.state).2

/-- A loop of `send` of a reply. -/
theorem sendReply (h : Served sid s s' v acts) (chunks : List (List Byte)) (ending : SendEnd) (writeOff : Nat) :
    Served sid s
      (((s'.put sid { v.state with writeOff }).observe (chunks.map (.act sid <| .sentReply ·))).afterSend ending)
      { v with state := { v.state with writeOff } } (acts ++ chunks.map .sentReply) := by
  have h1 := (h.put { v.state with writeOff } rfl rfl rfl).observe (chunks.map .sentReply)
    (by simp [Accounts.count])
  rw [List.map_map] at h1
  exact h1.afterSend ending

/-- Chunks counted one by one, into accounts that differ only in their metrics. -/
theorem foldl_count (mk : List Byte → Act) (add : ServerMetrics → Nat → ServerMetrics)
    (hm : ∀ c bytes, Accounts.count c (mk bytes) = { c with metrics := add c.metrics bytes.length })
    (chunks : List (List Byte)) (c : Accounts) :
    (chunks.map mk).foldl Accounts.count c =
      { c with metrics := chunks.foldl (fun m (chunk : List Byte) => add m chunk.length) c.metrics } := by
  induction chunks generalizing c with
  | nil => rfl
  | cons chunk chunks ih =>
    rw [List.map_cons, List.foldl_cons, hm, ih]
    rfl

/-- A loop of `send` of relayed bytes, in either direction. -/
theorem sendRelay (h : Served sid s s' v acts) (mk : List Byte → Act) (add : ServerMetrics → Nat → ServerMetrics)
    (hm : ∀ c bytes, Accounts.count c (mk bytes) = { c with metrics := add c.metrics bytes.length })
    (chunks : List (List Byte)) (ending : SendEnd) (state : ClientState) (hc : state.clientFd = v.state.clientFd)
    (ht : state.targetFd = v.state.targetFd) (hj : state.resolverJob = v.state.resolverJob) :
    Served sid s
      (Server.afterSend { (s'.put sid state).observe (chunks.map (.act sid <| mk ·)) with
        metrics := chunks.foldl (fun m (chunk : List Byte) => add m chunk.length)
          ((s'.put sid state).observe (chunks.map (.act sid <| mk ·))).metrics } ending)
      { v with state } (acts ++ chunks.map mk) := by
  have h1 := h.put state hc ht hj
  refine Served.afterSend ?_ ending
  exact { h1 with
    accounts := by
      rw [List.foldl_append, ← h.accounts, foldl_count mk add hm]
      rfl
    trace := by
      have ht := h1.trace
      simp only [Server.put] at ht
      simp only [Server.observe, Server.put, ht, List.map_append, List.map_map, Function.comp_def, List.append_assoc] }

end Served

end SocksProxy
