import SocksProxy.Theorems.Messages
import SocksProxy.Theorems.Relay

/-!
# Surplus bytes

What `recv` delivers from the client of a session is the messages of its handshake, one after another, and then what the relay
passes on. A session keeps count of that: as long as it goes on, every byte it was given belongs to a message it accepted, or is
still held, or was sent to the target. It does so if no chunk holds more than the rest of the message it completes. Whatever comes
after the end of an accepted message in the same chunk is lost, since the read buffer is emptied.
-/

namespace SocksProxy

namespace Act

/-- The bytes of the client an act receives. -/
def input : Act → List Byte
  | .recvHandshake bytes => bytes
  | .recvClient bytes => bytes
  | _ => []

/-- All bytes received from the client, in order. -/
def fromClient (acts : List Act) : List Byte := acts.flatMap input

/-- The stage whose message an act takes as read: the method of a greeting is chosen, an authentication is answered, a request is
begun. -/
def reads : Act → Option ClientStage
  | .prepared (.greeting _) => some .greeting
  | .prepared (.auth _) => some .auth
  | .begun _ => some .request
  | _ => none

/-- The stages whose messages were taken as read, in order. -/
def readStages (acts : List Act) : List ClientStage := acts.filterMap reads

/-- An act that neither receives from the client nor reads a message. -/
def aside (a : Act) : Bool := a.input == [] && a.reads == none

end Act

/-- What a session holds of the bytes of its client that is not part of a message it has read: the read buffer, and in the relay
what was sent to the target and what waits to be. -/
def View.held (v : View) (acts : List Act) : List Byte :=
  if v.state.stage = .relay then Act.passedOn .client acts ++ v.state.c2tBuffer.drop v.state.c2tOff else v.state.readBuffer

/-- Unless it is closing, a session has lost no byte of its client: what was received is a whole message for each stage it has
been through, and then what it holds. -/
def Server.Keeps (s : Server) (sid : Nat) : Prop :=
  ∀ v, s.life sid = .live v → v.state.stage ≠ .closing →
    ∃ messages, List.Forall₂ Complete (Act.readStages (s.acts sid)) messages ∧
      Act.fromClient (s.acts sid) = messages.flatten ++ v.held (s.acts sid)

/-- What is received in this step completes an accepted message with its last byte, if it completes one. -/
def Env.Exact (env : Env) : Prop :=
  ∀ v bytes message surplus, env.recv .client v (.data bytes) → v.state.readBuffer ++ bytes = message ++ surplus →
    Complete v.state.stage message → (verdict env.users v.state.stage (v.state.readBuffer ++ bytes)).accepts = true →
    surplus = []

namespace Act

section Acts

variable {acts acts' : List Act}

@[simp] theorem fromClient_append : fromClient (acts ++ acts') = fromClient acts ++ fromClient acts' := List.flatMap_append

@[simp] theorem fromClient_recvHandshake (bytes : List Byte) : fromClient [.recvHandshake bytes] = bytes := by
  simp [fromClient, input]

@[simp] theorem fromClient_recvClient (bytes : List Byte) : fromClient [.recvClient bytes] = bytes := by
  simp [fromClient, input]

@[simp] theorem received_append (peer : Peer) : received peer (acts ++ acts') = received peer acts ++ received peer acts' := by
  rw [received, labels_append, Channels.puts_append]
  rfl

@[simp] theorem readStages_append : readStages (acts ++ acts') = readStages acts ++ readStages acts' := List.filterMap_append

/-- Acts that are aside receive nothing and read nothing. -/
theorem of_aside (h : acts.all aside = true) : fromClient acts = [] ∧ readStages acts = [] ∧ received .client acts = [] := by
  induction acts with
  | nil => exact ⟨rfl, rfl, rfl⟩
  | cons a acts ih =>
    rw [List.all_cons, Bool.and_eq_true] at h
    obtain ⟨h1, h2, h3⟩ := ih h.2
    obtain ⟨hin, hread⟩ := Bool.and_eq_true_iff.mp h.1
    have hone : received .client [a] = [] := by
      cases a with
      | recvClient bytes =>
        obtain rfl : bytes = [] := beq_iff_eq.mp hin
        rfl
      | _ => rfl
    refine ⟨?_, ?_, ?_⟩
    · rw [fromClient, List.flatMap_cons, beq_iff_eq.mp hin]
      exact h1
    · rw [readStages, List.filterMap_cons_none (beq_iff_eq.mp hread)]
      exact h2
    · rw [← List.singleton_append, received_append, hone, h3]
      rfl

end Acts

end Act

/-- The access log's share is aside. -/
theorem ClientState.aside_logActs (st : ClientState) (success : Bool) : (st.logActs success).all Act.aside = true := by
  unfold logActs
  split <;> rfl

/-- Refusing a request is aside. -/
theorem ClientState.aside_refusedActs (st : ClientState) (code : Byte) : (st.refusedActs code).all Act.aside = true :=
  st.aside_logActs false

/-- The attempts to connect are aside. -/
theorem aside_attempted (addrs : List SockAddr) : (addrs.map Act.attempted).all Act.aside = true := by
  rw [List.all_map]
  exact List.all_eq_true.mpr fun _ _ => rfl

/-- Attempts that end in a refusal are aside. -/
theorem Connects.aside {v v' : View} {st : ClientState} {l : List AddrInfo} {acts : List Act} (h : Connects v st l acts v') :
    acts.all Act.aside = true := by
  obtain ⟨addrs, _, _, ⟨_, _, _, _, rfl, _⟩ | ⟨st', _, rfl, _⟩⟩ := h.eq
  · exact aside_attempted addrs
  · rw [List.all_append, aside_attempted, st'.aside_refusedActs]
    rfl

/-- What follows the beginning of a request is aside. -/
theorem Begins.aside {v v' : View} {st : ClientState} {r : Socks5Request} {acts : List Act} (h : Begins v st r acts v') :
    acts.all Act.aside = true := by
  cases h with
  | resolving => rfl
  | unresolved => exact ClientState.aside_refusedActs _ _
  | connecting => rfl
  | @unconnected e => exact ClientState.aside_refusedActs _ (socks5ReplyForErrno e)

/-! ## One step -/

/-- What a session has received since the relay began, or else what waits in its read buffer. -/
def View.unread (v : View) (acts : List Act) : List Byte :=
  if v.state.stage = .relay then Act.received .client acts else v.state.readBuffer

theorem View.unread_relay {v : View} (h : v.state.stage = .relay) (acts : List Act) :
    v.unread acts = Act.received .client acts :=
  if_pos h

theorem View.unread_handshake {v : View} (h : v.state.stage ≠ .relay) (acts : List Act) : v.unread acts = v.state.readBuffer :=
  if_neg h

/-- The bytes of the client are accounted for, whole messages first. -/
structure View.Accounted (v : View) (hist : List Act) : Prop where
  unrelayed : v.state.stage ≠ .relay → Act.received .client hist = []
  kept : v.state.stage ≠ .closing → ∃ messages, List.Forall₂ Complete (Act.readStages hist) messages ∧
    Act.fromClient hist = messages.flatten ++ v.unread hist

/-- A session that is there is accounted for, and nothing was received before it was accepted. -/
def Life.Accounted (hist : List Act) : Life → Prop
  | .unborn => hist = []
  | .live v => v.Accounted hist
  | .gone => True

namespace View.Accounted

variable {v v' : View} {hist acts : List Act}

/-- Acts aside leave everything accounted for, if the stage and the read buffer stay. -/
theorem aside (h : v.Accounted hist) (ha : acts.all Act.aside = true) (hs : v'.state.stage = v.state.stage)
    (hr : v'.state.readBuffer = v.state.readBuffer) : v'.Accounted (hist ++ acts) := by
  obtain ⟨h1, h2, h3⟩ := Act.of_aside ha
  have hrec : Act.received .client (hist ++ acts) = Act.received .client hist := by
    rw [Act.received_append, h3, List.append_nil]
  refine ⟨fun hst => ?_, fun hst => ?_⟩
  · rw [hrec]
    exact h.unrelayed (hs ▸ hst)
  · rw [Act.readStages_append, Act.fromClient_append, h1, h2, List.append_nil, List.append_nil, unread, hs, hr, hrec]
    exact h.kept (hs ▸ hst)

/-- A request whose outcome is still open, or negative, is out of the relay, and leaves the read buffer as it was. -/
theorem outcome (h : v.Accounted hist) (ha : acts.all Act.aside = true) (hn : v.state.stage ≠ .relay)
    (hc : v.state.stage ≠ .closing) (hs : v'.state.stage ≠ .relay)
    (hr : v'.state.readBuffer = v.state.readBuffer) : v'.Accounted (hist ++ acts) := by
  obtain ⟨h1, h2, h3⟩ := Act.of_aside ha
  obtain ⟨messages, hm, he⟩ := h.kept hc
  refine ⟨fun _ => ?_, fun _ => ⟨messages, ?_, ?_⟩⟩
  · rw [Act.received_append, h.unrelayed hn, h3]
    rfl
  · rw [Act.readStages_append, h2, List.append_nil]
    exact hm
  · rw [Act.fromClient_append, h1, List.append_nil, he, unread_handshake hn, unread_handshake hs, hr]

/-- Connecting to addresses, whatever comes of it, is such an outcome. -/
theorem connects {st : ClientState} {l : List AddrInfo} {acts' : List Act} (h : v.Accounted hist)
    (hcon : Connects v st l acts' v') (ha : acts.all Act.aside = true) (hn : v.state.stage ≠ .relay) (hc : v.state.stage ≠ .closing)
    (hr : st.readBuffer = v.state.readBuffer) : v'.Accounted (hist ++ acts) := by
  obtain ⟨_, _, _, ⟨_, _, _, _, _, he⟩ | ⟨_, hs, _, he⟩⟩ := hcon.eq
  · refine h.outcome ha hn hc ?_ ?_ <;> rw [he]
    · exact fun h => by cases h
    · exact hr
  · refine h.outcome ha hn hc ?_ ?_ <;> rw [he]
    · exact fun h => by cases h
    · rw [hs]
      exact hr

/-- A message that was accepted and ended with its chunk is accounted for. -/
theorem message {bytes : List Byte} {a : Act} (h : v.Accounted hist) (hn : v.state.stage ≠ .relay)
    (hc : v.state.stage ≠ .closing) (hin : a.input = []) (hread : a.reads = some v.state.stage)
    (hpay : Act.received .client [a] = []) (ha : acts.all Act.aside = true) (hs : v'.state.stage ≠ .relay)
    (hr : v'.state.readBuffer = []) (hm : v'.state.stage ≠ .closing → Complete v.state.stage (v.state.readBuffer ++ bytes)) :
    v'.Accounted (hist ++ .recvHandshake bytes :: a :: acts) := by
  obtain ⟨h1, h2, h3⟩ := Act.of_aside ha
  have hcons : .recvHandshake bytes :: a :: acts = [.recvHandshake bytes] ++ ([a] ++ acts) := rfl
  refine ⟨fun _ => ?_, fun hst => ?_⟩
  · rw [hcons, Act.received_append, Act.received_append, Act.received_append, h.unrelayed hn, hpay, h3]
    rfl
  · obtain ⟨messages, hms, he⟩ := h.kept hc
    refine ⟨messages ++ [v.state.readBuffer ++ bytes], ?_, ?_⟩
    · have hreads : Act.readStages (.recvHandshake bytes :: a :: acts) = [v.state.stage] := by
        rw [hcons, Act.readStages_append, Act.readStages_append, h2, List.append_nil]
        unfold Act.readStages
        rw [List.filterMap_cons_some hread]
        rfl
      rw [Act.readStages_append, hreads]
      exact List.rel_append hms (.cons (hm hst) .nil)
    · have hbytes : Act.fromClient (.recvHandshake bytes :: a :: acts) = bytes := by
        have ha : Act.fromClient [a] = [] := by rw [Act.fromClient, List.flatMap_singleton, hin]
        rw [hcons, Act.fromClient_append, Act.fromClient_append, h1, ha, Act.fromClient_recvHandshake]
        exact List.append_nil bytes
      rw [Act.fromClient_append, hbytes, he, unread_handshake hn, unread_handshake hs, hr, List.flatten_append]
      simp only [List.flatten_cons, List.flatten_nil, List.append_nil, List.append_assoc]

end View.Accounted

section Step

variable {env : Env} {L L' : Life} {v : View} {hist acts : List Act}

/-- Chunks of a kind that is aside. -/
theorem aside_chunks {f : List Byte → Act} (hf : ∀ bytes, (f bytes).aside = true) (chunks : List (List Byte)) :
    (chunks.map f).all Act.aside = true := by
  rw [List.all_map]
  exact List.all_eq_true.mpr fun bytes _ => hf bytes

/-- In an exact step the bytes of an accepted message are that message. -/
theorem Env.Exact.complete (h : env.Exact) {bytes : List Byte} (hr : env.recv .client v (.data bytes))
    (ha : (verdict env.users v.state.stage (v.state.readBuffer ++ bytes)).accepts = true) :
    Complete v.state.stage (v.state.readBuffer ++ bytes) := by
  obtain ⟨message, surplus, he, hm⟩ := complete_of_accepts ha
  obtain rfl := h v bytes message surplus hr he hm ha
  rw [he, List.append_nil]
  exact hm

/-- An exact step keeps every byte of the client accounted for. -/
theorem SessionStep.accounted (h : SessionStep env L acts L') (ready : L.Ready) (hex : env.Exact) (hL : L.Accounted hist) :
    L'.Accounted (hist ++ acts) := by
  cases h with
  | accepted =>
    subst hL
    exact ⟨fun _ => rfl, fun _ => ⟨[], .nil, rfl⟩⟩
  | never => trivial
  | closed => trivial
  | clientEnded => trivial
  | targetEnded => trivial
  | connectDone => exact View.Accounted.aside hL rfl rfl rfl
  | @waits v bytes _ _ _ _ hst =>
    have hn : v.state.stage ≠ .relay := by rcases hst with h | h | h <;> simp [h]
    have hc : v.state.stage ≠ .closing := by rcases hst with h | h | h <;> simp [h]
    refine ⟨fun hst => ?_, fun _ => ?_⟩
    · rw [Act.received_append, hL.unrelayed hn]
      rfl
    · obtain ⟨messages, hms, he⟩ := hL.kept hc
      refine ⟨messages, ?_, ?_⟩
      · rw [Act.readStages_append]
        exact (List.append_nil _).symm ▸ hms
      · rw [Act.fromClient_append, Act.fromClient_recvHandshake, he, View.unread_handshake hn,
          View.unread_handshake (by exact hn), List.append_assoc]
  | hungUp => trivial
  | @greeted v bytes method _ hr _ _ hst hv =>
    refine View.Accounted.message hL (by simp [hst]) (by simp [hst]) rfl (by rw [hst]; rfl) rfl rfl ?_ rfl fun hg => ?_
    · show stageAfterMethod method ≠ .relay
      unfold stageAfterMethod
      split
      · simp
      · split <;> simp
    · exact hex.complete hr (by rw [hv]; exact decide_eq_true hg)
  | authenticated _ hr _ _ hst hv =>
    exact View.Accounted.message hL (by simp [hst]) (by simp [hst]) rfl (by rw [hst]; rfl) rfl rfl (fun h => by cases h)
      rfl
      fun _ => hex.complete hr (by rw [hv]; rfl)
  | unauthenticated _ _ _ _ hst =>
    exact View.Accounted.message hL (by simp [hst]) (by simp [hst]) rfl (by rw [hst]; rfl) rfl rfl (fun h => by cases h)
      rfl
      fun hc => absurd rfl hc
  | rejected _ _ _ _ hst =>
    refine ⟨fun _ => ?_, fun hc => absurd rfl hc⟩
    rw [Act.received_append, hL.unrelayed (by simp [hst])]
    rfl
  | begun _ hr _ _ hst hv hb =>
    refine View.Accounted.message hL (by simp [hst]) (by simp [hst]) rfl (by rw [hst]; rfl) rfl hb.aside ?_ ?_
      fun _ => hex.complete hr (by rw [hv]; rfl)
    · cases hb <;> simp [View.replying, View.connecting, ClientState.refused]
    · cases hb <;> rfl
  | @unresolved v status _ hst =>
    exact View.Accounted.outcome hL (v.state.aside_refusedActs (socks5ReplyForGaiError status)) (by simp [hst]) (by simp [hst])
      (fun h => by cases h) rfl
  | resolved hst _ _ hcon =>
    exact View.Accounted.connects hL hcon hcon.aside (by simp [hst]) (by simp [hst]) rfl
  | @connected v _ hst =>
    obtain ⟨_, _, hrb, _⟩ := ready.silent (.inr hst)
    obtain ⟨h1, h2, h3⟩ := Act.of_aside (show v.state.connectedActs.all Act.aside = true from v.state.aside_logActs true)
    have hrel : Act.received .client (hist ++ v.state.connectedActs) = [] := by
      rw [Act.received_append, hL.unrelayed (by simp [hst]), h3]
      rfl
    refine ⟨fun _ => hrel, fun _ => ?_⟩
    obtain ⟨messages, hms, he⟩ := hL.kept (by simp [hst])
    refine ⟨messages, ?_, ?_⟩
    · rw [Act.readStages_append, h2, List.append_nil]
      exact hms
    · rw [Act.fromClient_append, h1, List.append_nil, he, View.unread_handshake (by simp [hst]), hrb]
      exact congrArg (messages.flatten ++ ·) hrel.symm
  | unconnected hst _ _ hcon =>
    exact View.Accounted.connects hL hcon hcon.aside (by simp [hst]) (by simp [hst]) rfl
  | replyBlocked => exact View.Accounted.aside hL (aside_chunks (fun _ => rfl) _) rfl rfl
  | replySent => exact View.Accounted.aside hL (aside_chunks (fun _ => rfl) _) rfl rfl
  | replySentClosing => trivial
  | relayStarts => exact View.Accounted.aside hL (aside_chunks (fun _ => rfl) _) rfl rfl
  | @fromClient v bytes hs =>
    have hst := (ready.relaying hs).1
    refine ⟨fun hn => absurd hst hn, fun _ => ?_⟩
    obtain ⟨messages, hms, he⟩ := hL.kept (by simp [hst])
    refine ⟨messages, ?_, ?_⟩
    · rw [Act.readStages_append]
      exact (List.append_nil _).symm ▸ hms
    · rw [Act.fromClient_append, Act.fromClient_recvClient, he, View.unread_relay hst, View.unread_relay (by exact hst),
        Act.received_append, List.append_assoc]
      exact congrArg (fun b => messages.flatten ++ (Act.received .client hist ++ b)) (Channels.puts_put bytes).symm
  | toTargetBlocked => exact View.Accounted.aside hL (aside_chunks (fun _ => rfl) _) rfl rfl
  | toTarget => exact View.Accounted.aside hL (aside_chunks (fun _ => rfl) _) rfl rfl
  | fromTarget => exact View.Accounted.aside hL rfl rfl rfl
  | toClientBlocked => exact View.Accounted.aside hL (aside_chunks (fun _ => rfl) _) rfl rfl
  | toClient => exact View.Accounted.aside hL (aside_chunks (fun _ => rfl) _) rfl rfl

end Step

/-! ## Every run -/

section Run

variable (c : Config)

/-- In every run whose chunks are exact, no byte of a client is lost while its session goes on. -/
theorem bytes_kept (es : List Event) (sid : Nat)
    (hex : ∀ pre e post, es = pre ++ e :: post → ((run c.start pre).env e sid).Exact) :
    ∀ pre post, es = pre ++ post → (run c.start pre).Keeps sid := by
  intro pre post hes v hl hc
  have hacc := run_session c (P := fun hist L => L.Accounted hist) (fun s e => (s.env e sid).Exact) sid rfl
    (fun _ _ hgood _ _ _ _ hP ready hstep => hstep.accounted ready hgood hP) pre
    (fun pre' e post' he => hex pre' e (post' ++ post) (by rw [hes, he, List.append_assoc]; rfl))
  obtain ⟨ch, hch, hcarry⟩ := run_channel c pre sid .client
  rw [hl] at hacc hcarry
  obtain ⟨messages, hms, he⟩ := hacc.kept hc
  refine ⟨messages, hms, ?_⟩
  rw [he, View.unread, View.held]
  split
  · subst hcarry
    rw [Act.received, hch.conserved.conserved]
    rfl
  · rfl

end Run

/-- The chunk an event brings to a session that reads its handshake. -/
def Event.chunk (e : Event) (st : ClientState) : Option (List Byte) :=
  match e with
  | .read _ a =>
    match a.recv.limit (serverBufferSize - st.readLen) with
    | .data bytes => some bytes
    | _ => none
  | _ => none

/-- A step is exact if the bytes that are accepted in it are as long as the message at their head. -/
theorem Server.exact_of_length {s : Server} {e : Event} {sid : Nat}
    (h : ((s.sessions sid).all fun st => (e.chunk st).all fun bytes =>
      !(verdict s.managedUsers st.stage (st.readBuffer ++ bytes)).accepts ||
        messageLength st.stage (st.readBuffer ++ bytes) == (st.readBuffer ++ bytes).length) = true) : (s.env e sid).Exact := by
  intro v bytes message surplus hd he hm ha
  obtain ⟨a, rfl, hr⟩ := hd.answered
  have hchunk : Event.chunk (.read (v.fdOf .client) a) v.state = some bytes := by
    unfold Event.chunk
    dsimp only
    rw [show a.recv.limit (serverBufferSize - v.state.readLen) = .data bytes from hr]
  rw [(Server.sessions_of_life hd.life).1, Option.all_some, hchunk, Option.all_some, Bool.or_eq_true] at h
  obtain hv | hlen := h
  · rw [show (verdict s.managedUsers v.state.stage (v.state.readBuffer ++ bytes)).accepts = true from ha] at hv
    cases hv
  · rw [he, beq_iff_eq, hm.length_eq, List.length_append] at hlen
    exact List.eq_nil_of_length_eq_zero (by omega)

/-- A client sends its greeting in two pieces and its request in one, and the relay gets to the first bytes for the target. -/
def exactChunks : List Event :=
  [.read 3 { accepts := [.accepted 5 .ok true] }, .read 5 { recv := .data [5] }, .read 5 { recv := .data [1, 0] },
    .write 5 { sends := [.sent 2] },
    .read 5
      { recv := .data [5, 1, 0, 1, 127, 0, 0, 1, 0, 80]
        attempts := [{ socket := .ok 6, setNonblocking := .ok, connect := .error .einprogress }] },
    .connectDone 6 0, .write 6 {}, .write 5 { sends := [.sent 10] }, .read 5 { recv := .data [71, 69, 84] }]

/-- A client sends its request together with its greeting. -/
def pipelined : List Event :=
  [.read 3 { accepts := [.accepted 5 .ok true] }, .read 5 { recv := .data [5, 1, 0, 5, 1, 0, 1, 127, 0, 0, 1, 0, 80] }]

/-- With exact chunks nothing is lost, up to the relay. -/
theorem bytes_kept_exact :
    ((run (Config.first .zeroed).start exactChunks).sessions 0).map (·.stage) = some .relay ∧
    ∀ pre post, exactChunks = pre ++ post → (run (Config.first .zeroed).start pre).Keeps 0 := by
  refine ⟨by decide +kernel, bytes_kept (Config.first .zeroed) exactChunks 0 ?_⟩
  unfold exactChunks
  simp only [Traces.forall_split_cons, Traces.forall_split_nil]
  refine ⟨?_, ?_, ?_, ?_, ?_, ?_, ?_, ?_, ?_, trivial⟩ <;> exact Server.exact_of_length (by decide +kernel)

/-- The request of a client that did not wait for its method is lost, while the session goes on to wait for it. -/
theorem bytes_lost :
    ((run (Config.first .zeroed).start pipelined).sessions 0).map (fun st => (st.stage, st.readBuffer)) = some (.request, []) ∧
    ¬(run (Config.first .zeroed).start pipelined).Keeps 0 := by
  have hstate : ((run (Config.first .zeroed).start pipelined).sessions 0).map (fun st => (st.stage, st.readBuffer)) =
      some (.request, []) := by
    decide +kernel
  refine ⟨hstate, fun hkeeps => ?_⟩
  obtain ⟨st, hst, hboth⟩ := Option.map_eq_some_iff.mp hstate
  obtain ⟨hstage, hbuffer⟩ := Prod.mk.inj hboth
  obtain ⟨messages, hms, he⟩ := hkeeps _ (Server.life_of_some hst)
    (by rw [show (Server.viewOf _ st).state = st from rfl, hstage]; exact fun h => by cases h)
  have hread : Act.readStages ((run (Config.first .zeroed).start pipelined).acts 0) = [.greeting] := by decide +kernel
  have hbytes : Act.fromClient ((run (Config.first .zeroed).start pipelined).acts 0) =
      [5, 1, 0, 5, 1, 0, 1, 127, 0, 0, 1, 0, 80] := by
    decide +kernel
  have hheld : ∀ acts, (Server.viewOf (run (Config.first .zeroed).start pipelined) st).held acts = [] := by
    intro acts
    rw [View.held, show (Server.viewOf _ st).state = st from rfl, hstage, hbuffer]
    rfl
  rw [hread] at hms
  rw [hbytes, hheld] at he
  cases hms with
  | cons hm hnil =>
    cases hnil
    have hlen := hm.length_eq []
    rw [List.flatten_singleton, List.append_nil] at he
    rw [List.append_nil, ← he] at hlen
    revert hlen
    decide

end SocksProxy
