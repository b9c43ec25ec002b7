import SocksProxy.Machine

/-!
# No session is stuck

What every session looks like between two calls: in each stage it has registered the wake-up that can advance it, and the
fields that say so agree with one another. Every step of a session's life keeps it so.
-/

namespace SocksProxy

namespace View

/-- No reply is pending and input is awaited. -/
def Awaiting (v : View) : Prop := v.state.writeBuffer = [] ∧ v.state.writeOff = 0 ∧ v.clientInterest = some opRead

/-- A reply is pending, what it answers has been consumed, and the client is waited for to take it. -/
def Answering (v : View) : Prop :=
  v.state.writeOff < v.state.writeLen ∧ v.state.readBuffer = [] ∧ v.clientInterest = some opWrite

/-- No reply is pending and the client is not listened to. -/
def Silent (v : View) : Prop :=
  v.state.writeBuffer = [] ∧ v.state.writeOff = 0 ∧ v.state.readBuffer = [] ∧ v.clientInterest = some opNoop

/-- A relay buffer is empty and reset, or has pending bytes. -/
def Buffered (buffer : List Byte) (off : Nat) : Prop := buffer = [] ∧ off = 0 ∨ off < buffer.length

/-- The relay runs, with the interests it wants on both descriptors. -/
def Relaying (v : View) : Prop :=
  v.state.writeBuffer = [] ∧ v.state.writeOff = 0 ∧ v.state.readBuffer = [] ∧
  v.clientInterest = some (relayInterests v.state).1 ∧ v.targetInterest = some (relayInterests v.state).2 ∧
  Buffered v.state.c2tBuffer v.state.c2tOff ∧ Buffered v.state.t2cBuffer v.state.t2cOff

/-- The wake-up each stage needs is registered. -/
def Awake (v : View) : Prop :=
  match v.state.stage with
  | .greeting => v.Awaiting
  | .auth => v.Awaiting ∨ v.Answering
  | .request => v.Awaiting ∨ v.Answering
  | .resolving => v.Silent
  | .connecting => v.Silent ∧ v.targetInterest = some opWrite ∧ ∃ c, v.connect = some c ∧ c ≠ .unconnected
  | .relay => if v.state.relayStarted then v.Relaying else v.Answering ∧ v.targetInterest = some opNoop
  | .closing => v.Answering

/-- The relay has not begun and its buffers are as they were made. -/
def Idle (v : View) : Prop :=
  v.state.relayStarted = false ∧ v.state.c2tBuffer = [] ∧ v.state.c2tOff = 0 ∧ v.state.t2cBuffer = [] ∧ v.state.t2cOff = 0

/-- A session between two calls. -/
structure Ready (v : View) : Prop where
  awake : v.Awake
  resolver : v.state.resolverJob.isSome = true ↔ v.state.stage = .resolving
  target : v.state.targetFd ≠ -1 ↔ v.state.stage = .connecting ∨ v.state.stage = .relay
  idle : v.Idle ∨ v.state.relayStarted = true ∧ v.state.stage = .relay

end View

/-- A session that is there is ready. -/
def Life.Ready : Life → Prop
  | .live v => v.Ready
  | _ => True

/-! ## The states a step produces -/

/-- Remembering a destination changes the destination only. -/
theorem rememberRequestDestination_eq (state : ClientState) (r : Socks5Request) :
    ∃ host, rememberRequestDestination state r =
      { state with destinationPort := r.port, accessLogged := false, destinationHost := host } := by
  unfold rememberRequestDestination
  dsimp only
  split
  · exact ⟨_, rfl⟩
  · split
    · exact ⟨_, rfl⟩
    · split <;> exact ⟨_, rfl⟩

/-- Beginning a request changes the destination, the addresses and the saved error. -/
theorem ClientState.beginning_eq (state : ClientState) (r : Socks5Request) :
    ∃ host, state.beginning r =
      { state with
        destinationPort := r.port, accessLogged := false, destinationHost := host
        targetAddresses := [], targetAddressCurrent := [], lastConnectError := 0 } :=
  rememberRequestDestination_eq _ r

/-- Trying addresses changes the rest of the list, the saved error, and if a connection was started the target and the stage. -/
theorem Tries.eq {st st' : ClientState} {l : List AddrInfo} {acts : List Act} {c : Option ConnectStatus}
    (h : Tries st l acts st' c) :
    ∃ current e, (c = none ∧ st' = { st with targetAddressCurrent := current, lastConnectError := e }) ∨
      ∃ fd c', fd ≠ -1 ∧ c = some c' ∧ c'.Started ∧
        st' = { st with targetAddressCurrent := current, lastConnectError := e, targetFd := fd, stage := .connecting } := by
  induction h with
  | exhausted st => exact ⟨_, _, .inl ⟨rfl, rfl⟩⟩
  | skipped _ _ _ ih =>
    obtain ⟨current, e, ⟨hc, rfl⟩ | ⟨fd, c', hfd, hc, hs, rfl⟩⟩ := ih
    · exact ⟨_, _, .inl ⟨hc, rfl⟩⟩
    · exact ⟨_, _, .inr ⟨fd, c', hfd, hc, hs, rfl⟩⟩
  | failed _ _ _ ih =>
    obtain ⟨current, e, ⟨hc, rfl⟩ | ⟨fd, c', hfd, hc, hs, rfl⟩⟩ := ih
    · exact ⟨_, _, .inl ⟨hc, rfl⟩⟩
    · exact ⟨_, _, .inr ⟨fd, c', hfd, hc, hs, rfl⟩⟩
  | started _ hfd hs => exact ⟨_, _, .inr ⟨_, _, hfd, rfl, hs, rfl⟩⟩

/-- Trying addresses attempts some of them and does nothing else. -/
theorem Tries.acts_eq {st st' : ClientState} {l : List AddrInfo} {acts : List Act} {c : Option ConnectStatus}
    (h : Tries st l acts st' c) : ∃ addrs : List SockAddr, acts = addrs.map Act.attempted := by
  induction h with
  | exhausted => exact ⟨[], rfl⟩
  | skipped _ _ _ ih => exact ih
  | @failed _ _ current _ _ _ _ _ _ _ ih =>
    obtain ⟨addrs, rfl⟩ := ih
    exact ⟨current.addr :: addrs, rfl⟩
  | @started _ current => exact ⟨[current.addr], rfl⟩

/-- Connecting to addresses starts a connection, or refuses the request with the last error. -/
theorem Connects.eq {v v' : View} {st : ClientState} {l : List AddrInfo} {acts : List Act} (h : Connects v st l acts v') :
    ∃ (addrs : List SockAddr) (current : List AddrInfo) (e : Nat),
      (∃ fd c, fd ≠ -1 ∧ c.Started ∧ acts = addrs.map Act.attempted ∧
        v' = v.connecting { st with targetAddressCurrent := current, lastConnectError := e, targetFd := fd, stage := .connecting }
          c) ∨
      ∃ st', st' = { st with targetAddressCurrent := current, lastConnectError := e } ∧
        acts = addrs.map Act.attempted ++ st'.refusedActs (socks5ReplyForErrno e) ∧
        v' = (v.unconnected (st'.refused (socks5ReplyForErrno e))).replying (st'.refused (socks5ReplyForErrno e)) := by
  cases h with
  | started htr =>
    obtain ⟨addrs, ha⟩ := htr.acts_eq
    obtain ⟨current, e, ⟨hc, _⟩ | ⟨fd, c, hfd, hc, hs, rfl⟩⟩ := htr.eq
    · cases hc
    · cases hc
      exact ⟨addrs, current, e, .inl ⟨fd, _, hfd, hs, ha, rfl⟩⟩
  | refused htr =>
    obtain ⟨addrs, rfl⟩ := htr.acts_eq
    obtain ⟨current, e, ⟨_, rfl⟩ | ⟨_, _, _, hc, _⟩⟩ := htr.eq
    · exact ⟨addrs, current, e, .inr ⟨_, rfl, rfl, rfl⟩⟩
    · cases hc

/-- A connection that was started is not unconnected. -/
theorem ConnectStatus.Started.ne {c : ConnectStatus} (h : c.Started) : c ≠ .unconnected := by
  rcases h with rfl | rfl <;> simp

/-- The reply to a request has ten bytes. -/
theorem Reply.bytes_ne_nil (reply : Reply) : 0 < reply.bytes.length := by
  cases reply <;> simp [Reply.bytes, socks5PrepareGreetingResponse, socks5PrepareAuthResponse, socks5PrepareRequestResponse]

namespace View

variable {v : View}

/-- A session that was just accepted is ready. -/
theorem ready_accepted (fd : Int) : (accepted fd).Ready := by
  constructor <;> simp [accepted, ClientState.accepted, Awake, Awaiting, Idle]

/-- What a session is like while its request is being worked on: nothing is pending in either direction. -/
structure Pristine (st : ClientState) : Prop where
  writeBuffer : st.writeBuffer = []
  writeOff : st.writeOff = 0
  readBuffer : st.readBuffer = []
  started : st.relayStarted = false
  c2tBuffer : st.c2tBuffer = []
  c2tOff : st.c2tOff = 0
  t2cBuffer : st.t2cBuffer = []
  t2cOff : st.t2cOff = 0
  resolverJob : st.resolverJob = none

/-- A session whose request was refused is ready. -/
theorem ready_refused {st : ClientState} {code : Byte} (h : Pristine st) (ht : st.targetFd = -1) :
    (v.replying (st.refused code)).Ready := by
  obtain ⟨_, _, hr, hs, h1, h2, h3, h4, hj⟩ := h
  constructor <;>
    simp [replying, ClientState.refused, ClientState.logged, ClientState.prepare, Awake, Answering, ClientState.writeLen,
      Reply.bytes_ne_nil, Idle, *]

/-- A session whose target's connection was started is ready. -/
theorem ready_connecting {st : ClientState} {c : ConnectStatus} (h : Pristine st) (ht : st.targetFd ≠ -1)
    (hst : st.stage = .connecting) (hc : c.Started) : (v.connecting st c).Ready := by
  obtain ⟨hw, ho, hr, hs, h1, h2, h3, h4, hj⟩ := h
  constructor <;> simp [connecting, Awake, Silent, Idle, hc.ne, *]

/-- A session is ready after it tried addresses, whatever the outcome. -/
theorem ready_connects {st : ClientState} {l : List AddrInfo} {acts : List Act} {v' : View} (h : Connects v st l acts v')
    (hp : Pristine st) (ht : st.targetFd = -1) : v'.Ready := by
  obtain ⟨_, _, _, ⟨fd, c, hfd, hs, _, rfl⟩ | ⟨_, rfl, _, rfl⟩⟩ := h.eq
  · exact ready_connecting { hp with } hfd rfl hs
  · exact ready_refused { hp with } ht

/-- A session is ready after its request was begun, whatever the outcome. -/
theorem ready_begins {st : ClientState} {r : Socks5Request} {acts : List Act} {v' : View} (h : Begins v st r acts v')
    (hp : Pristine { st with readBuffer := [] }) (ht : st.targetFd = -1) : v'.Ready := by
  obtain ⟨host, hb⟩ := st.beginning_eq r
  obtain ⟨hw, ho, _, hs, h1, h2, h3, h4, hj⟩ := hp
  cases h with
  | resolving =>
    rw [hb]
    constructor <;> simp_all [Awake, Silent, Idle]
  | unresolved =>
    rw [hb]
    constructor <;>
      simp_all [replying, ClientState.refused, ClientState.logged, ClientState.prepare, Awake, Answering,
        ClientState.writeLen, Reply.bytes_ne_nil, Idle]
  | connecting _ hfd hc =>
    rw [hb]
    exact ready_connecting ⟨hw, ho, rfl, hs, h1, h2, h3, h4, hj⟩ hfd rfl hc
  | unconnected =>
    rw [hb]
    constructor <;>
      simp_all [replying, ClientState.refused, ClientState.logged, ClientState.prepare, Awake, Answering,
        ClientState.writeLen, Reply.bytes_ne_nil, Idle]

/-- A session whose relay has not begun and that waits for no resolver. -/
theorem Ready.pristine (h : v.Ready) (hs : v.state.relayStarted = false) (hw : v.state.writeBuffer = [] ∧ v.state.writeOff = 0)
    (hr : v.state.stage ≠ .resolving) : Pristine { v.state with readBuffer := [] } := by
  rcases h.idle with ⟨_, h1, h2, h3, h4⟩ | ⟨h1, _⟩
  · exact ⟨hw.1, hw.2, rfl, hs, h1, h2, h3, h4, by simpa using h.resolver.not.mpr hr⟩
  · rw [hs] at h1
    cases h1

/-- In any stage but `RELAY` the relay has not begun. -/
theorem Ready.not_started (h : v.Ready) (hr : v.state.stage ≠ .relay) : v.state.relayStarted = false := by
  rcases h.idle with h | ⟨_, h⟩
  · exact h.1
  · exact absurd h hr

/-- In any stage but `CONNECTING` and `RELAY` there is no target. -/
theorem Ready.no_target (h : v.Ready) (hc : v.state.stage ≠ .connecting) (hr : v.state.stage ≠ .relay) :
    v.state.targetFd = -1 := by
  by_contra hne
  rcases h.target.mp hne with h | h
  · exact hc h
  · exact hr h

/-- A client that is read from has no reply pending, unless the relay runs. -/
theorem Ready.awaiting (h : v.Ready) (hi : v.clientInterest = some opRead)
    (hst : v.state.stage = .greeting ∨ v.state.stage = .auth ∨ v.state.stage = .request) : v.Awaiting := by
  have hno : ¬v.Answering := by
    rintro ⟨_, _, h⟩
    rw [hi] at h
    cases h
  have ha := h.awake
  unfold Awake at ha
  rcases hst with hst | hst | hst <;> rw [hst] at ha
  · exact ha
  · exact ha.resolve_right hno
  · exact ha.resolve_right hno

/-- A client whose request is being worked on waits in silence. -/
theorem Ready.silent (h : v.Ready) (hst : v.state.stage = .resolving ∨ v.state.stage = .connecting) : v.Silent := by
  have ha := h.awake
  unfold Awake at ha
  rcases hst with hst | hst <;> rw [hst] at ha
  · exact ha
  · exact ha.1

/-- The relay runs once it has begun. -/
theorem Ready.relaying (h : v.Ready) (hs : v.state.relayStarted = true) : v.state.stage = .relay ∧ v.Relaying := by
  rcases h.idle with ⟨hn, _⟩ | ⟨_, hst⟩
  · rw [hs] at hn
    cases hn
  · have ha := h.awake
    unfold Awake at ha
    rw [hst] at ha
    simp only [hs, if_true] at ha
    exact ⟨hst, ha⟩

end View

/-- An answer to a message of the handshake leaves the session ready. -/
theorem View.ready_answer {v : View} (h : v.Ready) {st : ClientState} {reply : Reply} {stage : ClientStage}
    (hst : v.state.stage = .greeting ∨ v.state.stage = .auth ∨ v.state.stage = .request)
    (hs : stage = .auth ∨ stage = .request ∨ stage = .closing)
    (he : ∃ username, st = { v.state.prepare reply with username, stage, readBuffer := [] }) : (v.replying st).Ready := by
  obtain ⟨username, rfl⟩ := he
  have hnr : v.state.stage ≠ .resolving := by rcases hst with h | h | h <;> simp [h]
  have hnl : v.state.stage ≠ .relay := by rcases hst with h | h | h <;> simp [h]
  have hnc : v.state.stage ≠ .connecting := by rcases hst with h | h | h <;> simp [h]
  have hj : v.state.resolverJob = none := by simpa using h.resolver.not.mpr hnr
  have ht := h.no_target hnc hnl
  have hidle : v.Idle := h.idle.resolve_right fun hr => hnl hr.2
  obtain ⟨h0, h1, h2, h3, h4⟩ := hidle
  have hans : 0 < reply.bytes.length := reply.bytes_ne_nil
  rcases hs with rfl | rfl | rfl <;> constructor <;>
    simp [View.replying, ClientState.prepare, View.Awake, View.Answering, ClientState.writeLen, View.Idle, *]

/-- A step of a session's life leaves it ready. -/
theorem SessionStep.ready {env : Env} {L L' : Life} {acts : List Act} (hstep : SessionStep env L acts L') (h : L.Ready) :
    L'.Ready := by
  cases hstep with
  | accepted => exact View.ready_accepted _
  | never => trivial
  | closed => trivial
  | clientEnded => trivial
  | targetEnded => trivial
  | @connectDone v error hc =>
    refine ⟨?_, h.resolver, h.target, h.idle⟩
    have ha := h.awake
    unfold View.Awake at ha ⊢
    cases hst : v.state.stage <;> simp only [hst] at ha ⊢
    case connecting => exact ⟨ha.1, ha.2.1, _, rfl, by simp⟩
    all_goals exact ha
  | @waits v bytes hi _ _ _ hst _ =>
    have ha := h.awaiting hi hst
    refine ⟨?_, h.resolver, h.target, h.idle⟩
    unfold View.Awake
    rcases hst with hst | hst | hst <;> simp only [hst]
    · exact ha
    · exact .inl ha
    · exact .inl ha
  | hungUp => trivial
  | @greeted v bytes method hi _ _ _ hst _ =>
    refine View.ready_answer h (.inl hst) ?_ ⟨v.state.username, rfl⟩
    unfold stageAfterMethod
    split
    · exact .inl rfl
    · split
      · exact .inr (.inl rfl)
      · exact .inr (.inr rfl)
  | authenticated _ _ _ _ hst _ => exact View.ready_answer h (.inr (.inl hst)) (.inr (.inl rfl)) ⟨_, rfl⟩
  | unauthenticated _ _ _ _ hst _ => exact View.ready_answer h (.inr (.inl hst)) (.inr (.inr rfl)) ⟨_, rfl⟩
  | rejected _ _ _ _ hst _ => exact View.ready_answer h (.inr (.inr hst)) (.inr (.inr rfl)) ⟨_, rfl⟩
  | @begun v v' bytes r acts hi _ _ _ hst _ hb =>
    have ha := h.awaiting hi (.inr (.inr hst))
    exact View.ready_begins hb (h.pristine (h.not_started (by simp [hst])) ⟨ha.1, ha.2.1⟩ (by simp [hst]))
      (h.no_target (by simp [hst]) (by simp [hst]))
  | @unresolved v status result hst _ _ =>
    have ha := h.awake
    unfold View.Awake at ha
    simp only [hst] at ha
    obtain ⟨h0, h1, h2, h3, h4⟩ := h.idle.resolve_right fun hr => by simp [hst] at hr
    exact View.ready_refused ⟨ha.1, ha.2.1, ha.2.2.1, h0, h1, h2, h3, h4, rfl⟩ (h.no_target (by simp [hst]) (by simp [hst]))
  | @resolved v v' result acts hst _ _ hc =>
    have ha := h.awake
    unfold View.Awake at ha
    simp only [hst] at ha
    obtain ⟨h0, h1, h2, h3, h4⟩ := h.idle.resolve_right fun hr => by simp [hst] at hr
    exact View.ready_connects hc ⟨ha.1, ha.2.1, ha.2.2.1, h0, h1, h2, h3, h4, rfl⟩
      (h.no_target (by simp [hst]) (by simp [hst]))
  | @connected v c hst hc _ =>
    have ha := h.awake
    unfold View.Awake at ha
    simp only [hst] at ha
    have ht := h.target.mpr (.inl hst)
    have hj := h.resolver.not.mpr (by simp [hst])
    obtain ⟨⟨hw, ho, hr, _⟩, _⟩ := ha
    obtain ⟨h0, h1, h2, h3, h4⟩ := h.idle.resolve_right fun hr => by simp [hst] at hr
    constructor <;>
      simp_all [View.replying, ClientState.connected, ClientState.logged, ClientState.prepare, View.Awake, View.Answering,
        ClientState.writeLen, Reply.bytes_ne_nil, View.Idle]
  | @unconnected v v' e acts hst _ _ hc =>
    have ha := h.awake
    unfold View.Awake at ha
    simp only [hst] at ha
    obtain ⟨⟨hw, ho, hr, _⟩, _⟩ := ha
    obtain ⟨h0, h1, h2, h3, h4⟩ := h.idle.resolve_right fun hr => by simp [hst] at hr
    have hj := h.resolver.not.mpr (by simp [hst])
    exact View.ready_connects hc ⟨hw, ho, hr, h0, h1, h2, h3, h4, by simpa using hj⟩ rfl
  | @replyBlocked v chunks rest hd hne =>
    have hlt : v.state.writeOff + chunks.flatten.length < v.state.writeLen := by
      have hl := congrArg List.length hd
      have hpos : 0 < rest.length := List.length_pos_iff.mpr hne
      simp only [List.length_drop, List.length_append] at hl
      unfold ClientState.writeLen
      omega
    have hw0 : v.state.writeBuffer ≠ [] := by
      intro he
      simp only [ClientState.writeLen, he, List.length_nil] at hlt
      omega
    refine ⟨?_, h.resolver, h.target, h.idle⟩
    have ha := h.awake
    unfold View.Awake at ha ⊢
    cases hst : v.state.stage <;> simp only [hst] at ha ⊢
    case greeting => exact absurd ha.1 hw0
    case auth => exact .inr ⟨hlt, (ha.resolve_left fun h => hw0 h.1).2⟩
    case request => exact .inr ⟨hlt, (ha.resolve_left fun h => hw0 h.1).2⟩
    case resolving => exact absurd ha.1 hw0
    case connecting => exact absurd ha.1.1 hw0
    case relay =>
      split at ha
      · exact absurd ha.1 hw0
      · rename_i hs
        rw [if_neg hs]
        exact ⟨⟨hlt, ha.1.2⟩, ha.2⟩
    case closing => exact ⟨hlt, ha.2⟩
  | @replySent v chunks _ hd hst =>
    refine ⟨?_, h.resolver, h.target, h.idle⟩
    unfold View.Awake
    rcases hst with hst | hst <;> simp only [hst] <;> exact .inl ⟨rfl, rfl, rfl⟩
  | replySentClosing => trivial
  | @relayStarts v chunks _ _ hst hs =>
    obtain ⟨h0, h1, h2, h3, h4⟩ := h.idle.resolve_right fun hr => by simp [hs] at hr
    have ha := h.awake
    unfold View.Awake at ha
    simp only [hst, hs, Bool.false_eq_true, if_false] at ha
    refine ⟨?_, h.resolver, h.target, .inr ⟨rfl, hst⟩⟩
    unfold View.Awake
    simp only [View.relaying, hst, if_true]
    exact ⟨rfl, rfl, ha.1.2.1, rfl, rfl, .inl ⟨h1, h2⟩, .inl ⟨h3, h4⟩⟩
  | @fromClient v bytes hs hc _ hne _ =>
    obtain ⟨hst, hw, ho, hr, _, _, _, ht⟩ := h.relaying hs
    refine ⟨?_, h.resolver, h.target, .inr ⟨hs, hst⟩⟩
    unfold View.Awake
    simp only [View.relaying, hst, hs, if_true]
    exact ⟨hw, ho, hr, rfl, rfl, .inr (List.length_pos_iff.mpr hne), ht⟩
  | @toTargetBlocked v chunks rest hs hd hne =>
    obtain ⟨hst, hw, ho, hr, hi, hi', hc, ht⟩ := h.relaying hs
    have hl := congrArg List.length hd
    have hpos : 0 < rest.length := List.length_pos_iff.mpr hne
    simp only [List.length_drop, List.length_append] at hl
    refine ⟨?_, h.resolver, h.target, .inr ⟨hs, hst⟩⟩
    unfold View.Awake
    simp only [hst, hs, if_true]
    refine ⟨hw, ho, hr, hi, ?_, .inr (by simp only; omega), ht⟩
    rw [hi']
    simp only [relayInterests, ClientState.c2tLen, ClientState.t2cLen, Option.some.injEq, FdInterest.mk.injEq, true_and,
      gt_iff_lt, decide_eq_decide]
    omega
  | @toTarget v chunks hs hd =>
    obtain ⟨hst, hw, ho, hr, _, _, _, ht⟩ := h.relaying hs
    refine ⟨?_, h.resolver, h.target, .inr ⟨hs, hst⟩⟩
    unfold View.Awake
    simp only [View.relaying, hst, hs, if_true]
    exact ⟨hw, ho, hr, rfl, rfl, .inl ⟨rfl, rfl⟩, ht⟩
  | @fromTarget v bytes hs hc _ hne _ =>
    obtain ⟨hst, hw, ho, hr, _, _, hct, _⟩ := h.relaying hs
    refine ⟨?_, h.resolver, h.target, .inr ⟨hs, hst⟩⟩
    unfold View.Awake
    simp only [View.relaying, hst, hs, if_true]
    exact ⟨hw, ho, hr, rfl, rfl, hct, .inr (List.length_pos_iff.mpr hne)⟩
  | @toClientBlocked v chunks rest hs hd hne =>
    obtain ⟨hst, hw, ho, hr, hi, hi', hc, ht⟩ := h.relaying hs
    have hl := congrArg List.length hd
    have hpos : 0 < rest.length := List.length_pos_iff.mpr hne
    simp only [List.length_drop, List.length_append] at hl
    refine ⟨?_, h.resolver, h.target, .inr ⟨hs, hst⟩⟩
    unfold View.Awake
    simp only [hst, hs, if_true]
    refine ⟨hw, ho, hr, ?_, hi', hc, .inr (by simp only; omega)⟩
    rw [hi]
    simp only [relayInterests, ClientState.c2tLen, ClientState.t2cLen, Option.some.injEq, FdInterest.mk.injEq, true_and,
      gt_iff_lt, decide_eq_decide]
    omega
  | @toClient v chunks hs hd =>
    obtain ⟨hst, hw, ho, hr, _, _, hct, _⟩ := h.relaying hs
    refine ⟨?_, h.resolver, h.target, .inr ⟨hs, hst⟩⟩
    unfold View.Awake
    simp only [View.relaying, hst, hs, if_true]
    exact ⟨hw, ho, hr, rfl, rfl, hct, .inl ⟨rfl, rfl⟩⟩

/-- A sequence of steps leaves a session ready. -/
theorem SessionSteps.ready {env : Env} {L L' : Life} {acts : List Act} (hsteps : SessionSteps env L acts L') (h : L.Ready) :
    L'.Ready :=
  Traces.Steps.preserves (P := Life.Ready) (fun _ _ _ h hs => SessionStep.ready hs h) h hsteps

end SocksProxy
