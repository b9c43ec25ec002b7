import SocksProxy.Runs
import SocksProxy.Library.Channels
import Mathlib.Algebra.Ring.Nat
import Mathlib.Algebra.BigOperators.Group.Finset.Piecewise

/-!
# The relay

Each direction of a session's relay is a channel: `recv` from one peer puts into it and `send` to the other takes out of it. So
nothing is lost, doubled or reordered on the way, and the counters of the metrics are what was sent.
-/

namespace SocksProxy

open Channels (Label Chan puts takes)

namespace Act

/-- What an act is to the channel that carries what comes from this peer. -/
def label : Peer → Act → Option (Label Byte)
  | .client, .recvClient bytes => some (.put bytes)
  | .client, .eofClient => some (.put [])
  | .client, .sentTarget bytes => some (.take bytes)
  | .target, .recvTarget bytes => some (.put bytes)
  | .target, .eofTarget => some (.put [])
  | .target, .sentClient bytes => some (.take bytes)
  | _, _ => none

/-- What acts are to the channel that carries what comes from this peer. -/
def labels (peer : Peer) (acts : List Act) : List (Label Byte) := acts.filterMap (Act.label peer)

/-- The bytes received from a peer since the relay began. -/
def received (peer : Peer) (acts : List Act) : List Byte := puts (labels peer acts)

/-- The bytes received from a peer that were sent to the other. -/
def passedOn (peer : Peer) (acts : List Act) : List Byte := takes (labels peer acts)

section Labels

variable (peer : Peer)

@[simp] theorem labels_append (acts acts' : List Act) : labels peer (acts ++ acts') = labels peer acts ++ labels peer acts' :=
  List.filterMap_append

/-- An act that is nothing to a channel. -/
theorem labels_cons {a : Act} (acts : List Act) (h : label peer a = none) : labels peer (a :: acts) = labels peer acts :=
  List.filterMap_cons_none h

@[simp] theorem labels_attempted (addrs : List SockAddr) : labels peer (addrs.map .attempted) = [] := by
  simp only [labels, List.filterMap_map, List.filterMap_eq_nil_iff]
  cases peer <;> simp [label]

@[simp] theorem labels_sentReply (chunks : List (List Byte)) : labels peer (chunks.map .sentReply) = [] := by
  simp only [labels, List.filterMap_map, List.filterMap_eq_nil_iff]
  cases peer <;> simp [label]

@[simp] theorem labels_logActs (st : ClientState) (success : Bool) : labels peer (st.logActs success) = [] := by
  unfold ClientState.logActs
  split
  · rfl
  · cases peer <;> rfl

@[simp] theorem labels_refusedActs (st : ClientState) (code : Byte) : labels peer (st.refusedActs code) = [] := by
  have := labels_logActs peer st false
  cases peer <;> simpa [ClientState.refusedActs, labels, label] using this

@[simp] theorem labels_connectedActs (st : ClientState) : labels peer st.connectedActs = [] := by
  have := labels_logActs peer st true
  cases peer <;> simpa [ClientState.connectedActs, labels, label] using this

@[simp] theorem labels_sentTarget (chunks : List (List Byte)) :
    labels .client (chunks.map .sentTarget) = chunks.map .take ∧ labels .target (chunks.map .sentTarget) = [] := by
  simp [labels, List.filterMap_map, Function.comp_def, label, List.filterMap_eq_map']

@[simp] theorem labels_sentClient (chunks : List (List Byte)) :
    labels .client (chunks.map .sentClient) = [] ∧ labels .target (chunks.map .sentClient) = chunks.map .take := by
  simp [labels, List.filterMap_map, Function.comp_def, label, List.filterMap_eq_map']

end Labels

end Act

/-- The channel of a session that carries what comes from this peer. -/
def View.channel (v : View) : Peer → Chan Byte
  | .client => ⟨v.state.c2tBuffer, v.state.c2tOff⟩
  | .target => ⟨v.state.t2cBuffer, v.state.t2cOff⟩

/-- The channel of a session looks like this; that of a session that is gone is forgotten. -/
def Life.Carries (peer : Peer) : Life → Chan Byte → Prop
  | .unborn, c => c = .empty
  | .live v, c => v.channel peer = c
  | .gone, _ => True

/-! ## One step -/

section Step

variable {env : Env} {L L' : Life} {v v' : View} {st : ClientState} {acts : List Act}

/-- Beginning a request touches neither channel. -/
theorem Begins.channel {r : Socks5Request} (h : Begins v st r acts v') (peer : Peer) :
    Act.labels peer acts = [] ∧ v'.channel peer = ({ v with state := st } : View).channel peer := by
  obtain ⟨host, hb⟩ := st.beginning_eq r
  cases h with
  | resolving => cases peer <;> simp [View.channel, hb, Act.labels]
  | unresolved => cases peer <;> simp [View.channel, View.replying, ClientState.refused, ClientState.logged,
      ClientState.prepare, hb]
  | connecting => cases peer <;> simp [View.channel, View.connecting, hb, Act.labels, Act.label]
  | unconnected =>
    rw [Act.labels_cons peer _ (by cases peer <;> rfl), Act.labels_refusedActs]
    cases peer <;> simp [View.channel, View.replying, ClientState.refused, ClientState.logged, ClientState.prepare, hb]

/-- Connecting to addresses touches neither channel. -/
theorem Connects.channel {l : List AddrInfo} (h : Connects v st l acts v') (peer : Peer) :
    Act.labels peer acts = [] ∧ v'.channel peer = ({ v with state := st } : View).channel peer := by
  obtain ⟨_, _, _, ⟨_, _, _, _, rfl, rfl⟩ | ⟨_, rfl, rfl, rfl⟩⟩ := h.eq
  · cases peer <;> simp [View.channel, View.connecting]
  · cases peer <;> simp [View.channel, View.replying, ClientState.refused, ClientState.logged, ClientState.prepare]

/-- A session whose relay has not begun, or that is read from, has an empty channel to read into. -/
theorem View.Ready.c2t_empty (h : v.Ready) (hb : v.state.relayStarted = true → v.state.c2tBuffer = []) :
    v.state.c2tBuffer = [] := by
  rcases h.idle with ⟨_, h1, _⟩ | ⟨hs, _⟩
  · exact h1
  · exact hb hs

/-- Every step of a session is a step of its channel. -/
theorem SessionStep.channel (h : SessionStep env L acts L') (ready : L.Ready) (peer : Peer) {c : Chan Byte}
    (hc : L.Carries peer c) :
    ∃ c', Channels.Step serverBufferSize c (Act.labels peer acts) c' ∧ L'.Carries peer c' := by
  have hstay : ∀ {c : Chan Byte} {acts : List Act} {L' : Life}, Act.labels peer acts = [] → L'.Carries peer c →
      ∃ c', Channels.Step serverBufferSize c (Act.labels peer acts) c' ∧ L'.Carries peer c' := by
    intro c acts L' hl hc
    rw [hl]
    exact ⟨c, .stay c, hc⟩
  cases h with
  | accepted =>
    subst hc
    exact hstay (by cases peer <;> rfl) (by cases peer <;> rfl)
  | never => exact hstay rfl trivial
  | closed => exact hstay (by cases peer <;> rfl) trivial
  | @clientEnded v _ hb =>
    subst hc
    cases peer with
    | client => exact ⟨⟨[], 0⟩, .fill (ready.c2t_empty hb) (Nat.zero_le _), trivial⟩
    | target => exact hstay rfl trivial
  | targetEnded _ _ hb =>
    subst hc
    cases peer with
    | client => exact hstay rfl trivial
    | target => exact ⟨⟨[], 0⟩, .fill hb (Nat.zero_le _), trivial⟩
  | connectDone => exact hstay rfl (by cases peer <;> exact hc)
  | waits => exact hstay (by cases peer <;> rfl) (by cases peer <;> exact hc)
  | hungUp => exact hstay (by cases peer <;> rfl) trivial
  | greeted => exact hstay (by cases peer <;> rfl) (by cases peer <;> exact hc)
  | authenticated => exact hstay (by cases peer <;> rfl) (by cases peer <;> exact hc)
  | unauthenticated => exact hstay (by cases peer <;> rfl) (by cases peer <;> exact hc)
  | rejected => exact hstay (by cases peer <;> rfl) (by cases peer <;> exact hc)
  | begun _ _ _ _ _ _ hb =>
    obtain ⟨h1, h2⟩ := hb.channel peer
    exact hstay (by cases peer <;> simpa [Act.labels, Act.label] using h1) (h2.trans hc)
  | @unresolved v status result =>
    have := Act.labels_refusedActs peer v.state (socks5ReplyForGaiError status)
    exact hstay (by cases peer <;> simpa [Act.labels, Act.label] using this) (by cases peer <;> exact hc)
  | resolved _ _ _ hcon =>
    obtain ⟨h1, h2⟩ := hcon.channel peer
    exact hstay (by cases peer <;> simpa [Act.labels, Act.label] using h1) (h2.trans (by cases peer <;> exact hc))
  | connected => exact hstay (by simp) (by cases peer <;> exact hc)
  | unconnected _ _ _ hcon =>
    obtain ⟨h1, h2⟩ := hcon.channel peer
    exact hstay h1 (h2.trans (by cases peer <;> exact hc))
  | replyBlocked => exact hstay (by simp) (by cases peer <;> exact hc)
  | replySent => exact hstay (by simp) (by cases peer <;> exact hc)
  | @replySentClosing _ chunks => exact hstay (by cases peer <;> simp [Act.labels, Act.label]) trivial
  | relayStarts => exact hstay (by simp) (by cases peer <;> exact hc)
  | fromClient _ hb _ _ hl =>
    subst hc
    cases peer with
    | client => exact ⟨_, .fill hb hl, rfl⟩
    | target => exact hstay rfl rfl
  | toTargetBlocked _ hd =>
    subst hc
    cases peer with
    | client => exact ⟨_, by rw [(Act.labels_sentTarget _).1]; exact .advance hd, rfl⟩
    | target => exact hstay (Act.labels_sentTarget _).2 rfl
  | toTarget _ hd =>
    subst hc
    cases peer with
    | client => exact ⟨_, by rw [(Act.labels_sentTarget _).1]; exact .drain hd, rfl⟩
    | target => exact hstay (Act.labels_sentTarget _).2 rfl
  | fromTarget _ hb _ _ hl =>
    subst hc
    cases peer with
    | client => exact hstay rfl rfl
    | target => exact ⟨_, .fill hb hl, rfl⟩
  | toClientBlocked _ hd =>
    subst hc
    cases peer with
    | client => exact hstay (Act.labels_sentClient _).1 rfl
    | target => exact ⟨_, by rw [(Act.labels_sentClient _).2]; exact .advance hd, rfl⟩
  | toClient _ hd =>
    subst hc
    cases peer with
    | client => exact hstay (Act.labels_sentClient _).1 rfl
    | target => exact ⟨_, by rw [(Act.labels_sentClient _).2]; exact .drain hd, rfl⟩

end Step

/-! ## Reading -/

/-- An act that is the return of a `recv` into the relay buffer of this peer. -/
def Act.Receives (peer : Peer) (a : Act) : Prop := ∃ xs, Act.label peer a = some (.put xs)

/-- In the relay a peer is read from only while its channel is empty. -/
theorem View.Ready.empty_of_reading {v : View} (h : v.Ready) (hst : v.state.stage = .relay) {peer : Peer} {i : FdInterest}
    (hi : v.interestOf peer = some i) (hread : i.read = true) : (v.channel peer).buffer = [] := by
  have ha := h.awake
  unfold View.Awake at ha
  rw [hst] at ha
  simp only at ha
  split at ha
  · obtain ⟨_, _, _, hc, ht, _, _⟩ := ha
    cases peer with
    | client =>
      rw [View.interestOf, hc] at hi
      cases hi
      simpa [relayInterests, ClientState.c2tLen, View.channel] using hread
    | target =>
      rw [View.interestOf, ht] at hi
      cases hi
      simpa [relayInterests, ClientState.t2cLen, View.channel] using hread
  · obtain ⟨⟨_, _, hc⟩, ht⟩ := ha
    cases peer with
    | client =>
      rw [View.interestOf, hc] at hi
      cases hi
      simp [opWrite] at hread
    | target =>
      rw [View.interestOf, ht] at hi
      cases hi
      simp [opNoop] at hread

/-! ## Totals -/

/-- The bytes an act sends to the other peer. -/
def Act.sent : Peer → Act → List Byte
  | .client, .sentTarget bytes => bytes
  | .target, .sentClient bytes => bytes
  | _, _ => []

/-- What one act passes on. -/
theorem Act.passedOn_cons (peer : Peer) (a : Act) (acts : List Act) :
    passedOn peer (a :: acts) = a.sent peer ++ passedOn peer acts := by
  have hone : passedOn peer [a] = a.sent peer := by cases peer <;> cases a <;> first | rfl | exact Channels.takes_take _
  rw [← List.singleton_append, passedOn, labels_append, Channels.takes_append]
  exact congrArg (· ++ _) hone

namespace Obs

/-- How many bytes from a peer were sent to the other, over a whole trace. -/
def passedOn (peer : Peer) (trace : List Obs) : Nat :=
  (trace.map fun o => match o with
    | .act _ a => (a.sent peer).length
    | _ => 0).sum

/-- The acts of a trace are those of sessions with numbers below `n`, so their totals add up to the total of the trace. -/
theorem sum_passedOn (peer : Peer) {n : Nat} {trace : List Obs} (h : ∀ sid, n ≤ sid → acts sid trace = []) :
    ∑ sid ∈ Finset.range n, (Act.passedOn peer (acts sid trace)).length = passedOn peer trace := by
  induction trace with
  | nil => simp [passedOn, Act.passedOn, Act.labels]
  | cons o trace ih =>
    cases o with
    | opened file fd => simpa [passedOn] using ih h
    | closed file => simpa [passedOn] using ih h
    | act sid a =>
      have hlt : sid < n := by
        by_contra hge
        have := h sid (by omega)
        simp [acts_act] at this
      have hrest : ∀ sid', n ≤ sid' → acts sid' trace = [] := by
        intro sid' hge
        have := h sid' hge
        rw [acts_act, if_neg (by omega)] at this
        exact this
      have hsplit : ∀ sid', (Act.passedOn peer (acts sid' (.act sid a :: trace))).length =
          (if sid = sid' then (a.sent peer).length else 0) + (Act.passedOn peer (acts sid' trace)).length := by
        intro sid'
        rw [acts_act]
        split
        · rw [Act.passedOn_cons, List.length_append]
        · simp
      simp only [hsplit]
      rw [Finset.sum_add_distrib, ih hrest, Finset.sum_ite_eq, if_pos (Finset.mem_range.mpr hlt)]
      simp [passedOn]

end Obs

/-- What one act adds to the byte counters is what it sent. -/
theorem Accounts.bytes_count (c : Accounts) (a : Act) :
    (c.count a).metrics.bytesClientToTarget = c.metrics.bytesClientToTarget + UInt64.ofNat (a.sent .client).length ∧
    (c.count a).metrics.bytesTargetToClient = c.metrics.bytesTargetToClient + UInt64.ofNat (a.sent .target).length := by
  cases a
  case freed =>
    simp only [count, ServerMetrics.connectionClosed, Act.sent]
    split <;> simp
  all_goals simp [count, ServerMetrics.connectionOpened, ServerMetrics.connectionSucceeded, ServerMetrics.connectionFailed,
    ServerMetrics.addTargetToClientBytes, ServerMetrics.addClientToTargetBytes, Act.sent]

/-- The byte counters of the metrics add up what was sent. -/
theorem Accounts.bytes_fold (trace : List Obs) (c : Accounts) :
    (trace.foldl countObs c).metrics.bytesClientToTarget =
      c.metrics.bytesClientToTarget + UInt64.ofNat (Obs.passedOn .client trace) ∧
    (trace.foldl countObs c).metrics.bytesTargetToClient =
      c.metrics.bytesTargetToClient + UInt64.ofNat (Obs.passedOn .target trace) := by
  induction trace generalizing c with
  | nil => simp [Obs.passedOn]
  | cons o trace ih =>
    obtain ⟨h1, h2⟩ := ih (c.countObs o)
    rw [List.foldl_cons, h1, h2]
    cases o with
    | opened => simp [Obs.passedOn, countObs]
    | closed => simp [Obs.passedOn, countObs]
    | act sid a =>
      obtain ⟨h3, h4⟩ := c.bytes_count a
      simp only [countObs, h3, h4, Obs.passedOn, List.map_cons, List.sum_cons, UInt64.ofNat_add, UInt64.add_assoc]
      exact ⟨trivial, trivial⟩

/-! ## Every run -/

section Run

variable (c : Config)

/-- The acts of a session are a run of each of its channels. -/
theorem run_channel (es : List Event) (sid : Nat) (peer : Peer) :
    ∃ ch, Channels.Steps serverBufferSize .empty (Act.labels peer ((run c.start es).acts sid)) ch ∧
      ((run c.start es).life sid).Carries peer ch := by
  refine run_session c (P := fun hist L => ∃ ch, Channels.Steps serverBufferSize .empty (Act.labels peer hist) ch ∧
    L.Carries peer ch) (fun _ _ => True) sid ⟨_, .refl _, rfl⟩ ?_ es (fun _ _ _ _ => trivial)
  rintro pre e _ hist L acts L' ⟨ch, hs, hc⟩ ready hstep
  obtain ⟨ch', hs', hc'⟩ := hstep.channel ready peer hc
  exact ⟨ch', by rw [Act.labels_append]; exact hs.tail hs', hc'⟩

/-- At no point of a run was more passed on to a peer than the beginning of what had been received from the other. -/
theorem run_passedOn_of_received (es : List Event) {sid : Nat} (peer : Peer) {pre post : List Act}
    (he : (run c.start es).acts sid = pre ++ post) : Act.passedOn peer pre <+: Act.received peer pre := by
  obtain ⟨ch, hs, _⟩ := run_channel c es sid peer
  have h := hs.conserved
  rw [he, Act.labels_append] at h
  exact h.causal _ _ rfl

/-- An object that has no number yet has not acted. -/
theorem run_acts_fresh (es : List Event) {sid : Nat} (h : (run c.start es).nextObject ≤ sid) :
    (run c.start es).acts sid = [] := by
  have hlife : (run c.start es).life sid = .unborn := by
    simp only [Server.life, ((run_inv c es).own.fresh sid h).1]
    rw [if_neg (by omega)]
  refine run_session c (P := fun hist L => L = .unborn → hist = []) (fun _ _ => True) sid (fun _ => rfl) ?_ es
    (fun _ _ _ _ => trivial) hlife
  rintro pre e _ hist L acts L' _ _ hstep rfl
  cases hstep

/-- The relay of every session after every run:

- as long as a session is there, the bytes received from a peer are those passed on to the other followed by the pending part of
  the buffer, whose offset is at most its length and whose length is at most 4096, and a peer the session listens to in stage
  `RELAY` has an empty buffer to be received into;
- whenever a `recv` from a peer returned, all that had been received from it was passed on; and at no point was more passed on to
  the other peer than the beginning of what had been received;
- the byte counters are the bytes sent in their direction by all sessions together, modulo 2^64. -/
theorem relay_conserved (es : List Event) :
    (∀ sid v peer, (run c.start es).life sid = .live v →
      Act.received peer ((run c.start es).acts sid) =
        Act.passedOn peer ((run c.start es).acts sid) ++ (v.channel peer).buffer.drop (v.channel peer).off ∧
      (v.channel peer).off ≤ (v.channel peer).buffer.length ∧ (v.channel peer).buffer.length ≤ serverBufferSize ∧
      (v.state.stage = .relay → ∀ i, v.interestOf peer = some i → i.read = true → (v.channel peer).buffer = [])) ∧
    (∀ sid peer pre post, (run c.start es).acts sid = pre ++ post →
      Act.passedOn peer pre <+: Act.received peer pre ∧
      ∀ a rest, post = a :: rest → a.Receives peer → Act.received peer pre = Act.passedOn peer pre) ∧
    (run c.start es).metrics.bytesClientToTarget = UInt64.ofNat
      (∑ sid ∈ Finset.range (run c.start es).nextObject, (Act.passedOn .client ((run c.start es).acts sid)).length) ∧
    (run c.start es).metrics.bytesTargetToClient = UInt64.ofNat
      (∑ sid ∈ Finset.range (run c.start es).nextObject, (Act.passedOn .target ((run c.start es).acts sid)).length) := by
  have hsum : ∀ peer, ∑ sid ∈ Finset.range (run c.start es).nextObject,
      (Act.passedOn peer ((run c.start es).acts sid)).length = Obs.passedOn peer (run c.start es).trace :=
    fun peer => Obs.sum_passedOn peer fun sid h => run_acts_fresh c es h
  have hbytes := Accounts.bytes_fold (run c.start es).trace .zeroed
  rw [← (run_inv c es).accounts] at hbytes
  refine ⟨fun sid v peer hl => ?_, fun sid peer pre post he => ?_, ?_, ?_⟩
  · obtain ⟨ch, hs, hc⟩ := run_channel c es sid peer
    rw [hl] at hc
    subst hc
    have h := hs.conserved
    exact ⟨h.conserved, h.within, h.bounded,
      fun hst i hi hread => ((run_inv c es).ready_live hl).empty_of_reading hst hi hread⟩
  · obtain ⟨ch, hs, _⟩ := run_channel c es sid peer
    have h := hs.conserved
    rw [he, Act.labels_append] at h
    refine ⟨run_passedOn_of_received c es peer he, fun a rest hp ⟨xs, hxs⟩ => ?_⟩
    subst hp
    exact h.disciplined _ xs (Act.labels peer rest) (by simp [Act.labels, hxs])
  · rw [hsum]
    simpa [Accounts.zeroed, ServerMetrics.zeroed, Server.accounts] using hbytes.1
  · rw [hsum]
    simpa [Accounts.zeroed, ServerMetrics.zeroed, Server.accounts] using hbytes.2

end Run

end SocksProxy
