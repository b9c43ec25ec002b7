import SocksProxy.Theorems.Messages
import SocksProxy.Theorems.ReplyCodes

/-!
# Clients in lock-step

What a session makes of a client that sends its messages one after another, each when the one before it was answered. It makes
the same of them however they are cut into chunks, and however its replies are cut: what the whole messages come to is a function
of the messages and of the users table, and a session that has received all it was sent has come to just that.
-/

namespace SocksProxy

/-! ## Whole messages -/

/-- How far messages bring a session: it waits for more in a stage, it hung up, it refused the client, or it began a request. -/
inductive Progress where
  | awaiting (stage : ClientStage)
  | hungUp
  | refused
  | begun (r : Socks5Request)

/-- What messages come to: the replies they get, the username that is stored, and how far they bring the session. -/
structure Handshake where
  replies : List Reply
  username : CString
  progress : Progress

namespace Handshake

/-- The same with some replies before. -/
def after (h : Handshake) (replies : List Reply) : Handshake := { h with replies := replies ++ h.replies }

/-- What whole messages come to, each received at once, from a stage with a stored username. A message that gets no reply is the
last. -/
def of (users : ManagedUsers) (stage : ClientStage) (username : CString) : List (List Byte) → Handshake
  | [] => ⟨[], username, .awaiting stage⟩
  | m :: ms =>
    match verdict users stage m with
    | .wait => ⟨[], username, .awaiting stage⟩
    | .hangUp => ⟨[], username, .hungUp⟩
    | .greet method =>
      if stageAfterMethod method = .closing then ⟨[.greeting method], username, .refused⟩
      else (of users (stageAfterMethod method) username ms).after [.greeting method]
    | .authenticate none => ⟨[.auth socks5AuthFailure], username, .refused⟩
    | .authenticate (some name) => (of users .request name ms).after [.auth socks5AuthSuccess]
    | .reject code => ⟨[.request code], username, .refused⟩
    | .request r => ⟨[], username, .begun r⟩

/-- The request that was begun, if one was. -/
def request (h : Handshake) : Option Socks5Request :=
  match h.progress with
  | .begun r => some r
  | _ => none

end Handshake

/-- None of these messages goes on past its end: what it begins with is not a whole message of the stage it is sent in, unless it
is all of it. -/
def Polite (users : ManagedUsers) : ClientStage → List (List Byte) → Prop
  | _, [] => True
  | stage, m :: ms =>
    (∀ p, p <+: m → Complete stage p → p = m) ∧
      match verdict users stage m with
      | .greet method => Polite users (stageAfterMethod method) ms
      | .authenticate (some _) => Polite users .request ms
      | _ => True

/-! ## What a session does -/

namespace Act

/-- The bytes of the handshake received by some acts, in order. -/
def handshakeBytes (acts : List Act) : List Byte :=
  acts.flatMap fun
    | .recvHandshake bytes => bytes
    | _ => []

/-- The request handed to `target_connection_begin`, if one was. -/
def requested (acts : List Act) : Option Socks5Request :=
  acts.findSome? fun
    | .begun r => some r
    | _ => none

/-- What was done before a request was begun. -/
def opening (acts : List Act) : List Act := acts.takeWhile fun a => !a.begins

/-- The client has got all the server has for it: a refusal, sent to the last byte, or nothing, since its greeting is of a version
the server does not speak. -/
def Dismissed (users : ManagedUsers) (acts : List Act) : Prop :=
  (∃ reply ∈ replies acts, reply.Refuses) ∧ sentReplies acts = (replies acts).flatMap Reply.bytes ∨
  replies acts = [] ∧ verdict users .greeting (handshakeBytes acts) = .hangUp

end Act

/-- The handshake of a session is over, or cannot go on by itself: a request was begun, all that the client sent so far was
received and answered, or the session closed because the client was dismissed. -/
def Server.Settled (s : Server) (users : ManagedUsers) (messages : List (List Byte)) (sid : Nat) : Prop :=
  (Act.requested (s.acts sid)).isSome ∨
  (∃ v, s.life sid = .live v ∧ v.state.writeBuffer = [] ∧
    Act.handshakeBytes (s.acts sid) = (messages.take ((Act.replies (s.acts sid)).length + 1)).flatten) ∨
  s.life sid = .gone ∧ Act.Dismissed users (s.acts sid)

/-- In a run a client says these messages to its session:

- the users table stays as it is;
- no message goes on past its end;
- what is received never goes beyond the message after as many as were answered;
- by the end of the run everything that was sent has been received and answered, and the session was not closed before. -/
structure Config.Converses (c : Config) (users : ManagedUsers) (messages : List (List Byte)) (es : List Event) (sid : Nat) :
    Prop where
  unchanged : ∀ pre e post, es = pre ++ e :: post → (run c.start pre).managedUsers = users
  polite : Polite users .greeting messages
  lockStep : ∀ pre bytes post, (run c.start es).acts sid = pre ++ .recvHandshake bytes :: post →
    Act.handshakeBytes pre ++ bytes <+: (messages.take ((Act.replies pre).length + 1)).flatten
  settled : (run c.start es).Settled users messages sid

/-- What became of a session's handshake is this: the replies up to a request, each sent to its last byte, the request that was
handed to `target_connection_begin`, if any, the stage it is in if none was, and the username it has stored. A session that began
a request has left the handshake. -/
structure Server.CameTo (s : Server) (sid : Nat) (h : Handshake) : Prop where
  replies : Act.replies (Act.opening (s.acts sid)) = h.replies
  sent : Act.sentReplies (Act.opening (s.acts sid)) = h.replies.flatMap Reply.bytes
  request : Act.requested (s.acts sid) = h.request
  stage : match h.progress with
    | .awaiting stage => ∃ v, s.life sid = .live v ∧ v.state.stage = stage
    | .hungUp => s.life sid = .gone
    | .refused => s.life sid = .gone
    | .begun _ => ∀ v, s.life sid = .live v → v.state.stage ≠ .greeting ∧ v.state.stage ≠ .auth ∧ v.state.stage ≠ .request
  username : ∀ v, s.life sid = .live v → v.state.username = h.username

namespace Act

section Acts

variable {acts acts' : List Act}

@[simp] theorem handshakeBytes_append : handshakeBytes (acts ++ acts') = handshakeBytes acts ++ handshakeBytes acts' :=
  List.flatMap_append

@[simp] theorem requested_append : requested (acts ++ acts') = (requested acts).or (requested acts') := List.findSome?_append

/-- An act that receives nothing of the handshake, answers nothing and begins nothing. -/
def late : Act → Bool
  | .recvHandshake _ => false
  | .prepared _ => false
  | .begun _ => false
  | _ => true

/-- Late acts add nothing to a handshake. -/
theorem of_late (h : acts.all late = true) : handshakeBytes acts = [] ∧ replies acts = [] ∧ requested acts = none := by
  induction acts with
  | nil => exact ⟨rfl, rfl, rfl⟩
  | cons a acts ih =>
    rw [List.all_cons, Bool.and_eq_true] at h
    obtain ⟨h1, h2, h3⟩ := ih h.2
    cases a with
    | recvHandshake => cases h.1
    | prepared => cases h.1
    | begun => cases h.1
    | _ => exact ⟨h1, h2, h3⟩

/-- Before a request everything is opening. -/
theorem opening_of_none (h : requested acts = none) : opening acts = acts := by
  refine List.takeWhile_eq_self_iff.mpr fun a ha => ?_
  have hnone := List.findSome?_eq_none_iff.mp h a ha
  cases a with
  | begun => cases hnone
  | _ => rfl

/-- After a request the opening is over. -/
theorem opening_append {r : Socks5Request} (h : requested acts = some r) (acts' : List Act) :
    opening (acts ++ acts') = opening acts := by
  obtain ⟨a, ha, hr⟩ := List.exists_of_findSome?_eq_some h
  have hb : a.begins = true := by
    cases a with
    | begun => rfl
    | _ => cases hr
  rw [opening, opening, List.takeWhile_append, if_neg]
  intro hlen
  have hall := List.takeWhile_eq_self_iff.mp ((List.takeWhile_prefix _).eq_of_length hlen) a ha
  rw [hb] at hall
  cases hall

end Acts

end Act

/-! ## One step -/

section Invariant

variable (users : ManagedUsers) (messages : List (List Byte))

/-- What whole messages come to for a client that was just accepted. -/
def Handshake.whole : Handshake := Handshake.of users .greeting (ClientState.accepted 0).username messages

/-- Nothing received so far goes beyond the message after as many as were answered. -/
def LockStep (acts : List Act) : Prop :=
  ∀ pre bytes post, acts = pre ++ .recvHandshake bytes :: post →
    Act.handshakeBytes pre ++ bytes <+: (messages.take ((Act.replies pre).length + 1)).flatten

/-- A session in the middle of its handshake: it has answered some of the messages, and holds the beginning of the next, on which
it cannot decide. What the messages come to is the replies it gave, and then what the rest comes to from where it is. -/
structure View.Conversing (v : View) (hist : List Act) : Prop where
  stage : v.state.stage = .greeting ∨ v.state.stage = .auth ∨ v.state.stage = .request
  welcome : ∀ reply ∈ Act.replies hist, ¬reply.Refuses
  first : Act.replies hist = [] → v.state.stage = .greeting
  unbegun : Act.requested hist = none
  waits : verdict users v.state.stage v.state.readBuffer = .wait
  split : ∃ answered rest, messages = answered ++ rest ∧ answered.length = (Act.replies hist).length ∧
    Act.handshakeBytes hist = answered.flatten ++ v.state.readBuffer ∧ v.state.readBuffer <+: rest.headD [] ∧
    Polite users v.state.stage rest ∧
    Handshake.whole users messages =
      (Handshake.of users v.state.stage v.state.username rest).after (Act.replies hist)

/-- A client was refused with the last reply, as the whole messages say. -/
structure Act.Refused (hist : List Act) (username : CString) : Prop where
  unbegun : Act.requested hist = none
  whole : Handshake.whole users messages = ⟨Act.replies hist, username, .refused⟩

/-- A request was begun, as the whole messages say. -/
structure Act.HandedOver (hist : List Act) (username : CString) : Prop where
  sent : Act.sentReplies (Act.opening hist) = (Act.replies (Act.opening hist)).flatMap Reply.bytes
  whole : ∃ r, Act.requested hist = some r ∧
    Handshake.whole users messages = ⟨Act.replies (Act.opening hist), username, .begun r⟩

/-- How the life of a session agrees with the whole messages. -/
def Life.Agrees (hist : List Act) : Life → Prop
  | .unborn => hist = []
  | .live v =>
    v.Conversing users messages hist ∨
    v.state.stage = .closing ∧ Act.Refused users messages hist v.state.username ∨
    (v.state.stage = .resolving ∨ v.state.stage = .connecting ∨ v.state.stage = .relay ∨ v.state.stage = .closing) ∧
      Act.HandedOver users messages hist v.state.username
  | .gone =>
    (Act.requested hist = none → Act.Dismissed users hist → ∃ username progress,
      (progress = .hungUp ∨ progress = .refused) ∧
        Handshake.whole users messages = ⟨Act.replies hist, username, progress⟩) ∧
    ((Act.requested hist).isSome → ∃ username, Act.HandedOver users messages hist username)

end Invariant

section Step

variable {users : ManagedUsers} {messages : List (List Byte)} {env : Env} {L L' : Life} {v v' : View} {hist acts : List Act}

/-- A longer history is in lock-step only if a shorter one is. -/
theorem LockStep.of_append (h : LockStep messages (hist ++ acts)) : LockStep messages hist := by
  intro pre bytes post he
  exact h pre bytes (post ++ acts) (by rw [he, List.append_assoc]; rfl)

/-- What was handed over stays so, whatever comes. -/
theorem Act.HandedOver.append {username : CString} (h : Act.HandedOver users messages hist username) (acts : List Act) :
    Act.HandedOver users messages (hist ++ acts) username := by
  obtain ⟨r, hr, hw⟩ := h.whole
  refine ⟨?_, r, ?_, ?_⟩
  · rw [Act.opening_append hr]
    exact h.sent
  · rw [Act.requested_append, hr]
    rfl
  · rw [Act.opening_append hr]
    exact hw

/-- Late acts change nothing for a client that was refused. -/
theorem Act.Refused.append {username : CString} (h : Act.Refused users messages hist username) (ha : acts.all Act.late = true) :
    Act.Refused users messages (hist ++ acts) username := by
  obtain ⟨-, h2, h3⟩ := Act.of_late ha
  refine ⟨?_, ?_⟩
  · rw [Act.requested_append, h.unbegun, h3]
    rfl
  · rw [Act.replies_append, h2, List.append_nil]
    exact h.whole

/-- Late acts that leave the stage, the username and the read buffer change nothing for a session in the middle. -/
theorem View.Conversing.append (h : v.Conversing users messages hist) (ha : acts.all Act.late = true)
    (hs : v'.state.stage = v.state.stage) (hu : v'.state.username = v.state.username)
    (hr : v'.state.readBuffer = v.state.readBuffer) : v'.Conversing users messages (hist ++ acts) := by
  obtain ⟨h1, h2, h3⟩ := Act.of_late ha
  have hrep : Act.replies (hist ++ acts) = Act.replies hist := by rw [Act.replies_append, h2, List.append_nil]
  have hbytes : Act.handshakeBytes (hist ++ acts) = Act.handshakeBytes hist := by
    rw [Act.handshakeBytes_append, h1, List.append_nil]
  refine ⟨hs ▸ h.stage, hrep ▸ h.welcome, ?_, ?_, ?_, ?_⟩
  · rw [hrep, hs]
    exact h.first
  · rw [Act.requested_append, h.unbegun, h3]
    rfl
  · rw [hs, hr]
    exact h.waits
  · rw [hrep, hbytes, hs, hu, hr]
    exact h.split

/-- A session in the middle is not dismissed. -/
theorem View.Conversing.not_dismissed (h : v.Conversing users messages hist) : ¬Act.Dismissed users hist := by
  rintro (⟨⟨reply, hm, hr⟩, -⟩ | ⟨hnil, hup⟩)
  · exact h.welcome reply hm hr
  · obtain ⟨answered, rest, -, hlen, hbytes, -⟩ := h.split
    rw [hnil] at hlen
    obtain rfl := List.eq_nil_of_length_eq_zero hlen
    have hw := h.waits
    rw [h.first hnil] at hw
    rw [hbytes, List.flatten_nil, List.nil_append, hw] at hup
    cases hup

namespace Life.Agrees

/-- Late acts that leave the stage, the username and the read buffer keep the agreement. -/
theorem same (h : (Life.live v).Agrees users messages hist) (ha : acts.all Act.late = true)
    (hs : v'.state.stage = v.state.stage) (hu : v'.state.username = v.state.username)
    (hr : v'.state.readBuffer = v.state.readBuffer) : (Life.live v').Agrees users messages (hist ++ acts) := by
  obtain hc | ⟨hst, href⟩ | ⟨hst, hh⟩ := h
  · exact .inl (hc.append ha hs hu hr)
  · exact .inr (.inl ⟨hs.trans hst, hu ▸ href.append ha⟩)
  · exact .inr (.inr ⟨hs ▸ hst, hu ▸ hh.append acts⟩)

/-- A session that is closed by late acts has agreed until then. -/
theorem ended (h : (Life.live v).Agrees users messages hist) (ha : acts.all Act.late = true) :
    Life.gone.Agrees users messages (hist ++ acts) := by
  obtain hc | ⟨hst, href⟩ | ⟨hst, hh⟩ := h
  · have hc' := hc.append ha rfl rfl rfl
    refine ⟨fun _ hd => absurd hd hc'.not_dismissed, fun hreq => ?_⟩
    rw [hc'.unbegun] at hreq
    cases hreq
  · have href' := href.append ha
    refine ⟨fun _ _ => ⟨_, _, .inr rfl, href'.whole⟩, fun hreq => ?_⟩
    rw [href'.unbegun] at hreq
    cases hreq
  · have hh' := hh.append acts
    obtain ⟨r, hr, -⟩ := hh'.whole
    refine ⟨fun hnone => ?_, fun _ => ⟨_, hh'⟩⟩
    rw [hr] at hnone
    cases hnone

/-- A session that works on its request, or relays, has handed it over. -/
theorem handedOver (h : (Life.live v).Agrees users messages hist)
    (hs : v.state.stage = .resolving ∨ v.state.stage = .connecting ∨ v.state.stage = .relay) :
    Act.HandedOver users messages hist v.state.username := by
  obtain hc | ⟨hst, -⟩ | ⟨-, hh⟩ := h
  · have hst := hc.stage
    rcases hs with hs | hs | hs <;> simp [hs] at hst
  · rcases hs with hs | hs | hs <;> simp [hs] at hst
  · exact hh

/-- A session that receives a message is in the middle. -/
theorem conversing (h : (Life.live v).Agrees users messages hist)
    (hs : v.state.stage = .greeting ∨ v.state.stage = .auth ∨ v.state.stage = .request) : v.Conversing users messages hist := by
  obtain hc | ⟨hst, -⟩ | ⟨hst, -⟩ := h
  · exact hc
  · rcases hs with hs | hs | hs <;> simp [hs] at hst
  · rcases hs with hs | hs | hs <;> simp [hs] at hst

end Life.Agrees

/-! ### Messages -/

/-- The bytes received belong to the message after those that were answered. -/
theorem View.Conversing.reads (h : v.Conversing users messages hist) {bytes : List Byte} (hne : bytes ≠ [])
    (hlock : LockStep messages (hist ++ .recvHandshake bytes :: acts)) :
    ∃ answered m rest, messages = answered ++ m :: rest ∧ answered.length = (Act.replies hist).length ∧
      Act.handshakeBytes hist = answered.flatten ++ v.state.readBuffer ∧ v.state.readBuffer ++ bytes <+: m ∧
      Polite users v.state.stage (m :: rest) ∧
      Handshake.whole users messages =
        (Handshake.of users v.state.stage v.state.username (m :: rest)).after (Act.replies hist) := by
  obtain ⟨answered, rest, hm, hlen, hbytes, -, hpolite, hwhole⟩ := h.split
  have hp := hlock hist bytes acts rfl
  rw [hm, ← hlen, List.take_append, List.take_of_length_le (Nat.le_succ _), Nat.add_sub_cancel_left, List.flatten_append,
    hbytes, List.append_assoc, List.prefix_append_right_inj] at hp
  cases rest with
  | nil => exact absurd (List.append_eq_nil_iff.mp (List.prefix_nil.mp hp)).2 hne
  | cons m rest => exact ⟨answered, m, rest, hm, hlen, hbytes, by simpa using hp, hpolite, hwhole⟩

/-- What is decided on the beginning of a message is decided on all of it. -/
theorem verdict_of_prefix {stage : ClientStage} {b m : List Byte} {decided : Verdict} (hp : b <+: m)
    (h : verdict users stage b = decided) (hd : decided ≠ .wait) : verdict users stage m = decided := by
  obtain ⟨more, rfl⟩ := hp
  rw [verdict_append (h ▸ hd), h]

/-- A message is accepted only as a whole. -/
theorem Polite.eq_of_accepts {stage : ClientStage} {b m : List Byte} {rest : List (List Byte)}
    (h : Polite users stage (m :: rest)) (hp : b <+: m) (ha : (verdict users stage b).accepts = true) : b = m := by
  obtain ⟨p, surplus, rfl, hc⟩ := complete_of_accepts ha
  have hpm := h.1 p ((List.prefix_append p surplus).trans hp) hc
  subst hpm
  have hlen := hp.length_le
  rw [List.length_append] at hlen
  rw [List.eq_nil_of_length_eq_zero (l := surplus) (by omega), List.append_nil]

/-- A message that was answered and leaves the session in the handshake leaves it in the middle. -/
theorem View.Conversing.answers (h : v.Conversing users messages hist) {bytes m : List Byte} {reply : Reply}
    {answered rest : List (List Byte)} (hm : messages = answered ++ m :: rest)
    (hlen : answered.length = (Act.replies hist).length)
    (hbytes : Act.handshakeBytes hist = answered.flatten ++ v.state.readBuffer) (heq : v.state.readBuffer ++ bytes = m) (hno : ¬reply.Refuses)
    (hs : v'.state.stage = .auth ∨ v'.state.stage = .request) (hr : v'.state.readBuffer = [])
    (hpolite : Polite users v'.state.stage rest)
    (hwhole : Handshake.whole users messages =
      ((Handshake.of users v'.state.stage v'.state.username rest).after [reply]).after (Act.replies hist)) :
    v'.Conversing users messages (hist ++ [.recvHandshake bytes, .prepared reply]) := by
  have hrep : Act.replies (hist ++ [.recvHandshake bytes, .prepared reply]) = Act.replies hist ++ [reply] :=
    Act.replies_append hist _
  refine ⟨.inr hs, ?_, ?_, ?_, ?_, answered ++ [m], rest, ?_, ?_, ?_, ?_, hpolite, ?_⟩
  · intro reply' hmem
    rw [hrep] at hmem
    obtain hmem | hmem := List.mem_append.mp hmem
    · exact h.welcome reply' hmem
    · rw [List.mem_singleton.mp hmem]
      exact hno
  · intro hnil
    rw [hrep] at hnil
    exact absurd hnil (List.append_ne_nil_of_right_ne_nil _ (List.cons_ne_nil _ _))
  · rw [Act.requested_append, h.unbegun]
    rfl
  · rw [hr]
    rcases hs with hs | hs <;> rw [hs] <;> rfl
  · rw [hm, List.append_assoc]
    rfl
  · rw [hrep, List.length_append, List.length_append, hlen]
    rfl
  · rw [Act.handshakeBytes_append, hbytes, hr, List.flatten_append, List.flatten_singleton, List.append_nil, ← heq,
      List.append_assoc]
    exact congrArg (answered.flatten ++ ·) (congrArg (v.state.readBuffer ++ ·) (List.append_nil bytes))
  · rw [hr]
    exact List.nil_prefix
  · rw [hwhole, hrep]
    simp only [Handshake.after, List.append_assoc]

/-- A message that was answered with a refusal. -/
theorem View.Conversing.refuses (h : v.Conversing users messages hist) {bytes : List Byte} {reply : Reply}
    (ha : acts.all Act.late = true)
    (hwhole : Handshake.whole users messages =
      (⟨[reply], v.state.username, .refused⟩ : Handshake).after (Act.replies hist)) :
    Act.Refused users messages (hist ++ .recvHandshake bytes :: .prepared reply :: acts) v.state.username := by
  obtain ⟨-, h2, h3⟩ := Act.of_late ha
  have hcons : (.recvHandshake bytes :: .prepared reply :: acts : List Act) =
    [.recvHandshake bytes, .prepared reply] ++ acts := rfl
  refine ⟨?_, ?_⟩
  · rw [Act.requested_append, h.unbegun, hcons, Act.requested_append, h3]
    rfl
  · rw [hwhole, Act.replies_append, hcons, Act.replies_append, h2, List.append_nil]
    rfl

/-- A message on which a request is begun hands it over. -/
theorem View.Conversing.handsOver (h : v.Conversing users messages hist) {bytes : List Byte} {r : Socks5Request}
    (hsent : Act.sentReplies hist = (Act.replies hist).flatMap Reply.bytes)
    (hwhole : Handshake.whole users messages =
      (⟨[], v.state.username, .begun r⟩ : Handshake).after (Act.replies hist)) :
    Act.HandedOver users messages (hist ++ .recvHandshake bytes :: .begun r :: acts) v.state.username := by
  have hopening : Act.opening (hist ++ .recvHandshake bytes :: .begun r :: acts) = hist ++ [.recvHandshake bytes] := by
    have hall := List.takeWhile_eq_self_iff.mp (Act.opening_of_none h.unbegun)
    rw [Act.opening, List.takeWhile_append_of_pos hall]
    rfl
  refine ⟨?_, r, ?_, ?_⟩
  · rw [hopening, Act.sentReplies_append, Act.replies_append, hsent]
    exact (List.append_nil _).trans (congrArg (List.flatMap Reply.bytes) (List.append_nil (Act.replies hist)).symm)
  · rw [Act.requested_append, h.unbegun]
    rfl
  · rw [hwhole, hopening, Act.replies_append]
    rfl

/-- Beginning a request leaves the username as it is. -/
theorem Begins.username {st : ClientState} {r : Socks5Request} (h : Begins v st r acts v') :
    v'.state.username = st.username := by
  obtain ⟨host, hb⟩ := st.beginning_eq r
  cases h with
  | resolving => simp [hb]
  | unresolved => simp [View.replying, ClientState.refused, ClientState.logged, ClientState.prepare, hb]
  | connecting => simp [View.connecting, hb]
  | unconnected => simp [View.replying, ClientState.refused, ClientState.logged, ClientState.prepare, hb]

/-- Chunks of a kind that is late. -/
theorem late_chunks {f : List Byte → Act} (hf : ∀ bytes, (f bytes).late = true) (chunks : List (List Byte)) :
    (chunks.map f).all Act.late = true := by
  rw [List.all_map]
  exact List.all_eq_true.mpr fun bytes _ => hf bytes

/-- A client that was just accepted has been told nothing. -/
theorem View.conversing_accepted (fd : Int) (hpolite : Polite users .greeting messages) :
    (View.accepted fd).Conversing users messages [.accepted] where
  stage := .inl rfl
  welcome := fun _ hm => by cases hm
  first := fun _ => rfl
  unbegun := rfl
  waits := rfl
  split := ⟨[], messages, rfl, rfl, rfl, List.nil_prefix, hpolite, rfl⟩

/-- Every step of a session whose client is in lock-step agrees with the whole messages. -/
theorem SessionStep.agrees (h : SessionStep env L acts L') (hu : env.users = users) (hpolite : Polite users .greeting messages)
    (hlock : LockStep messages (hist ++ acts))
    (hsaid : ∀ v, L = .live v → v.state.writeBuffer = [] → Act.sentReplies hist = (Act.replies hist).flatMap Reply.bytes)
    (ready : L.Ready) (hL : L.Agrees users messages hist) : L'.Agrees users messages (hist ++ acts) := by
  subst hu
  cases h with
  | accepted =>
    subst hL
    exact .inl (View.conversing_accepted _ hpolite)
  | never =>
    subst hL
    refine ⟨fun _ hd => ?_, fun hreq => by cases hreq⟩
    obtain ⟨⟨_, hm, -⟩, -⟩ | ⟨-, hup⟩ := hd
    · cases hm
    · cases hup
  | closed => exact hL.ended rfl
  | clientEnded => exact hL.ended rfl
  | targetEnded => exact hL.ended rfl
  | connectDone => exact hL.same rfl rfl rfl rfl
  | @waits v bytes _ _ hne _ hst hv =>
    have hc := hL.conversing hst
    obtain ⟨answered, m, rest, hm, hlen, hbytes, hp, hpol, hwhole⟩ := hc.reads hne hlock
    have hrep : Act.replies (hist ++ [.recvHandshake bytes]) = Act.replies hist := by
      rw [Act.replies_append]
      exact List.append_nil _
    refine .inl ⟨hst, hrep ▸ hc.welcome, hrep ▸ hc.first, ?_, hv, answered, m :: rest, hm, hrep ▸ hlen, ?_, hp, hpol,
      hrep ▸ hwhole⟩
    · rw [Act.requested_append, hc.unbegun]
      rfl
    · rw [Act.handshakeBytes_append, hbytes, List.append_assoc]
      exact congrArg (fun b => answered.flatten ++ (v.state.readBuffer ++ b)) (List.append_nil bytes)
  | @hungUp v bytes _ _ hne _ hst hv =>
    have hc := hL.conversing (.inl hst)
    obtain ⟨_, m, rest, _, _, _, hp, _, hwhole⟩ := hc.reads hne hlock
    have hvm := verdict_of_prefix hp hv fun h => by cases h
    rw [Handshake.of, hvm] at hwhole
    refine ⟨fun _ _ => ⟨v.state.username, .hungUp, .inl rfl, ?_⟩, fun hreq => ?_⟩
    · rw [hwhole, Act.replies_append]
      rfl
    · rw [Act.requested_append, hc.unbegun] at hreq
      cases hreq
  | @greeted v bytes method _ _ hne _ hst hv =>
    have hc := hL.conversing (.inl hst)
    obtain ⟨_, m, rest, hm, hlen, hbytes, hp, hpol, hwhole⟩ := hc.reads hne hlock
    have hvm := verdict_of_prefix hp hv fun h => by cases h
    rw [Handshake.of, hvm] at hwhole
    dsimp only at hwhole
    by_cases hcl : stageAfterMethod method = .closing
    · rw [if_pos hcl] at hwhole
      exact .inr (.inl ⟨hcl, hc.refuses rfl hwhole⟩)
    · rw [if_neg hcl] at hwhole
      have hall := hpol.eq_of_accepts hp (by rw [hv]; exact decide_eq_true hcl)
      have hnext := hpol.2
      rw [hvm] at hnext
      refine .inl (hc.answers hm hlen hbytes hall ?_ ?_ rfl hnext hwhole)
      · refine Reply.not_refuses ?_
        rw [hst] at hv
        obtain rfl | rfl | rfl := greetingVerdict_method hv
        · exact .inr (.inl rfl)
        · exact .inl rfl
        · exact absurd rfl hcl
      · exact (stageAfterMethod_cases method).imp_right fun h => h.resolve_right hcl
  | @authenticated v bytes username _ _ hne _ hst hv =>
    have hc := hL.conversing (.inr (.inl hst))
    obtain ⟨_, m, rest, hm, hlen, hbytes, hp, hpol, hwhole⟩ := hc.reads hne hlock
    have hvm := verdict_of_prefix hp hv fun h => by cases h
    rw [Handshake.of, hvm] at hwhole
    have hnext := hpol.2
    rw [hvm] at hnext
    exact .inl (hc.answers hm hlen hbytes (hpol.eq_of_accepts hp (by rw [hv]; rfl)) (Reply.not_refuses (.inr (.inr rfl)))
      (.inr rfl) rfl hnext hwhole)
  | @unauthenticated v bytes _ _ hne _ hst hv =>
    have hc := hL.conversing (.inr (.inl hst))
    obtain ⟨_, m, rest, _, _, _, hp, _, hwhole⟩ := hc.reads hne hlock
    have hvm := verdict_of_prefix hp hv fun h => by cases h
    rw [Handshake.of, hvm] at hwhole
    exact .inr (.inl ⟨rfl, hc.refuses rfl hwhole⟩)
  | @rejected v bytes code _ _ hne _ hst hv =>
    have hc := hL.conversing (.inr (.inr hst))
    obtain ⟨_, m, rest, _, _, _, hp, _, hwhole⟩ := hc.reads hne hlock
    have hvm := verdict_of_prefix hp hv fun h => by cases h
    rw [Handshake.of, hvm] at hwhole
    exact .inr (.inl ⟨rfl, hc.refuses rfl hwhole⟩)
  | @begun v v' bytes r acts hi _ hne _ hst hv hb =>
    have hc := hL.conversing (.inr (.inr hst))
    obtain ⟨_, m, rest, _, _, _, hp, _, hwhole⟩ := hc.reads hne hlock
    have hvm := verdict_of_prefix hp hv fun h => by cases h
    rw [Handshake.of, hvm] at hwhole
    refine .inr (.inr ⟨?_, ?_⟩)
    · cases hb
      · exact .inl rfl
      · exact .inr (.inr (.inr rfl))
      · exact .inr (.inl rfl)
      · exact .inr (.inr (.inr rfl))
    · rw [hb.username]
      exact hc.handsOver (hsaid v rfl (ready.awaiting hi (.inr (.inr hst))).1) hwhole
  | @unresolved v status result hst =>
    exact .inr (.inr ⟨.inr (.inr (.inr rfl)), (hL.handedOver (.inl hst)).append _⟩)
  | @resolved v v' result as hst _ _ hcon =>
    have hh := (hL.handedOver (.inl hst)).append (.resolved 0 result :: as)
    obtain ⟨_, _, _, ⟨_, _, _, _, _, rfl⟩ | ⟨_, rfl, _, rfl⟩⟩ := hcon.eq
    · exact .inr (.inr ⟨.inr (.inl rfl), hh⟩)
    · exact .inr (.inr ⟨.inr (.inr (.inr rfl)), hh⟩)
  | connected hst => exact .inr (.inr ⟨.inr (.inr (.inl rfl)), (hL.handedOver (.inr (.inl hst))).append _⟩)
  | unconnected hst _ _ hcon =>
    have hh := (hL.handedOver (.inr (.inl hst))).append acts
    obtain ⟨_, _, _, ⟨_, _, _, _, _, rfl⟩ | ⟨_, rfl, _, rfl⟩⟩ := hcon.eq
    · exact .inr (.inr ⟨.inr (.inl rfl), hh⟩)
    · exact .inr (.inr ⟨.inr (.inr (.inr rfl)), hh⟩)
  | replyBlocked => exact hL.same (late_chunks (fun _ => rfl) _) rfl rfl rfl
  | replySent => exact hL.same (late_chunks (fun _ => rfl) _) rfl rfl rfl
  | @replySentClosing v chunks =>
    refine hL.ended ?_
    rw [List.all_append, late_chunks (fun _ => rfl)]
    rfl
  | relayStarts => exact hL.same (late_chunks (fun _ => rfl) _) rfl rfl rfl
  | fromClient => exact hL.same rfl rfl rfl rfl
  | toTargetBlocked => exact hL.same (late_chunks (fun _ => rfl) _) rfl rfl rfl
  | toTarget => exact hL.same (late_chunks (fun _ => rfl) _) rfl rfl rfl
  | fromTarget => exact hL.same rfl rfl rfl rfl
  | toClientBlocked => exact hL.same (late_chunks (fun _ => rfl) _) rfl rfl rfl
  | toClient => exact hL.same (late_chunks (fun _ => rfl) _) rfl rfl rfl

end Step

/-! ## Every run -/

section Run

variable {c : Config} {users : ManagedUsers} {messages : List (List Byte)} {es : List Event} {sid : Nat}

/-- After a run in which a client is in lock-step, its session agrees with the whole messages. -/
theorem run_agrees (h : c.Converses users messages es sid) :
    ((run c.start es).life sid).Agrees users messages ((run c.start es).acts sid) := by
  have hP := run_session c (P := fun hist L => (∃ d, Heard hist d ∧ L.Speaks d) ∧
      (LockStep messages hist → L.Agrees users messages hist)) (fun s _ => s.managedUsers = users) sid
    ⟨⟨.start, Heard.start, rfl⟩, fun _ => rfl⟩ ?_ es h.unchanged
  · exact hP.2 h.lockStep
  · rintro pre e husers hist L acts L' ⟨⟨d, hd, hs⟩, hagrees⟩ ready hstep
    obtain ⟨d', hd', hs'⟩ := hstep.hears ready hs
    refine ⟨⟨d', hd.of_hears hd', hs'⟩, fun hlock => ?_⟩
    refine hstep.agrees husers h.polite hlock (fun v hv hw => ?_) ready (hagrees hlock.of_append)
    subst hv
    rw [hd.said, View.Speaks.empty hs hw, List.append_nil]

/-- A session that has begun a request has come to that. -/
theorem Act.HandedOver.cameTo {s : Server} {username : CString} (h : Act.HandedOver users messages (s.acts sid) username)
    (hlive : ∀ v, s.life sid = .live v → v.state.username = username ∧
      (v.state.stage = .resolving ∨ v.state.stage = .connecting ∨ v.state.stage = .relay ∨ v.state.stage = .closing)) :
    s.CameTo sid (Handshake.whole users messages) := by
  obtain ⟨r, hr, hw⟩ := h.whole
  rw [hw]
  refine ⟨rfl, h.sent, hr, fun v hv => ?_, fun v hv => (hlive v hv).1⟩
  obtain ⟨-, hst | hst | hst | hst⟩ := hlive v hv <;> simp [hst]

/-- A session that has received all that was sent waits where the whole messages end. -/
theorem View.Conversing.settled {v : View} {hist : List Act} (h : v.Conversing users messages hist)
    (hall : Act.handshakeBytes hist = (messages.take ((Act.replies hist).length + 1)).flatten) :
    Handshake.whole users messages = ⟨Act.replies hist, v.state.username, .awaiting v.state.stage⟩ := by
  obtain ⟨answered, rest, hm, hlen, hbytes, -, -, hwhole⟩ := h.split
  have hof : Handshake.of users v.state.stage v.state.username rest = ⟨[], v.state.username, .awaiting v.state.stage⟩ := by
    cases rest with
    | nil => rfl
    | cons m rest =>
      rw [hm, ← hlen, List.take_append, List.take_of_length_le (Nat.le_succ _), Nat.add_sub_cancel_left, List.flatten_append,
        hbytes, List.append_cancel_left_eq, List.take_succ_cons, List.take_zero, List.flatten_singleton] at hall
      rw [Handshake.of, ← hall, h.waits]
  rw [hwhole, hof]
  exact congrArg (Handshake.mk · _ _) (List.append_nil _)

/-- After a run in which a client is in lock-step, its session has come to what the whole messages come to. -/
theorem run_cameTo (h : c.Converses users messages es sid) :
    (run c.start es).CameTo sid (Handshake.whole users messages) := by
  have hagrees := run_agrees h
  obtain ⟨d, hd, hs⟩ := run_heard c es sid
  cases hreq : Act.requested ((run c.start es).acts sid) with
  | some r =>
    cases hl : (run c.start es).life sid with
    | unborn =>
      rw [hl] at hagrees
      rw [show (run c.start es).acts sid = [] from hagrees] at hreq
      cases hreq
    | live v =>
      rw [hl] at hagrees
      obtain hc | ⟨-, href⟩ | ⟨hst, hh⟩ := hagrees
      · rw [hc.unbegun] at hreq
        cases hreq
      · rw [href.unbegun] at hreq
        cases hreq
      · refine hh.cameTo fun v' hv' => ?_
        cases hl.symm.trans hv'
        exact ⟨rfl, hst⟩
    | gone =>
      rw [hl] at hagrees
      obtain ⟨username, hh⟩ := hagrees.2 (by rw [hreq]; rfl)
      exact hh.cameTo fun v hv => by cases hl.symm.trans hv
  | none =>
    have hopening := Act.opening_of_none hreq
    obtain hsome | ⟨v, hl, hw, hall⟩ | ⟨hl, hdis⟩ := h.settled
    · rw [hreq] at hsome
      cases hsome
    · rw [hl] at hagrees hs
      obtain hc | ⟨hst, -⟩ | ⟨-, hh⟩ := hagrees
      · rw [hc.settled hall]
        refine ⟨by rw [hopening], ?_, hreq, ⟨v, hl, rfl⟩, fun v' hv' => ?_⟩
        · rw [hopening, hd.said, View.Speaks.empty hs hw, List.append_nil]
        · cases hl.symm.trans hv'
          rfl
      · have hawake := ((run_inv c es).ready_live hl).awake
        unfold View.Awake at hawake
        rw [hst] at hawake
        have hoff := hawake.1
        rw [ClientState.writeLen, hw] at hoff
        exact absurd hoff (Nat.not_lt_zero _)
      · obtain ⟨r, hr, -⟩ := hh.whole
        rw [hreq] at hr
        cases hr
    · rw [hl] at hagrees
      obtain ⟨username, progress, hprogress, hwhole⟩ := hagrees.1 hreq hdis
      have hsent : Act.sentReplies ((run c.start es).acts sid) =
          (Act.replies ((run c.start es).acts sid)).flatMap Reply.bytes := by
        obtain ⟨-, hsent⟩ | ⟨hnil, -⟩ := hdis
        · exact hsent
        · have hsaid := hd.said
          rw [hnil] at hsaid
          rw [hnil, (List.append_eq_nil_iff.mp hsaid.symm).1]
          rfl
      rw [hwhole]
      refine ⟨by rw [hopening], by rw [hopening, hsent], ?_, ?_, fun v hv => by cases hl.symm.trans hv⟩
      · rw [hreq]
        rcases hprogress with rfl | rfl <;> rfl
      · rcases hprogress with rfl | rfl <;> exact hl

/-- Two clients in lock-step that say the same messages under the same users table come to the same, however their messages and
the replies to them are cut: the replies they are sent, the stage they reach, the username that is stored for them and the request
that is handed to `target_connection_begin`. One of the two may be a client whose messages are each received at once. -/
theorem cuts_agree {c' : Config} {es' : List Event} {sid' : Nat} (h : c.Converses users messages es sid)
    (h' : c'.Converses users messages es' sid') :
    ∃ outcome, (run c.start es).CameTo sid outcome ∧ (run c'.start es').CameTo sid' outcome :=
  ⟨_, run_cameTo h, run_cameTo h'⟩

end Run

/-- A message that is as long as its head says does not go on past its end. -/
theorem eq_of_messageLength {stage : ClientStage} {m : List Byte} (h : messageLength stage m = m.length) :
    ∀ p, p <+: m → Complete stage p → p = m := by
  rintro p ⟨more, rfl⟩ hc
  rw [hc.length_eq more, List.length_append] at h
  rw [List.eq_nil_of_length_eq_zero (l := more) (by omega), List.append_nil]

/-- A client is in lock-step if what was received by the end of each act is within the messages that may have been sent. -/
theorem lockStep_of_acts {messages : List (List Byte)} {acts : List Act}
    (h : ∀ pre a post, acts = pre ++ a :: post →
      Act.handshakeBytes (pre ++ [a]) <+: (messages.take ((Act.replies pre).length + 1)).flatten) : LockStep messages acts := by
  intro pre bytes post he
  have hp := h pre (.recvHandshake bytes) post he
  rw [Act.handshakeBytes_append] at hp
  exact List.append_nil bytes ▸ hp

/-- A table with the one user `u`. -/
def oneUser : ManagedUsers := usersInitFromArgs [(some (literal "u"), some (literal "p"))]

/-- A client authenticates as `u` and asks for an IPv4 address. -/
def userMessages : List (List Byte) := [[5, 1, 2], [1, 1, 117, 1, 112], [5, 1, 0, 1, 127, 0, 0, 1, 0, 80]]

/-- The three messages arrive whole, and the replies leave whole. -/
def atOnce : List Event :=
  [.read 3 { accepts := [.accepted 5 .ok true] }, .read 5 { recv := .data [5, 1, 2] }, .write 5 { sends := [.sent 2] },
    .read 5 { recv := .data [1, 1, 117, 1, 112] }, .write 5 { sends := [.sent 2] },
    .read 5
      { recv := .data [5, 1, 0, 1, 127, 0, 0, 1, 0, 80]
        attempts := [{ socket := .ok 6, setNonblocking := .ok, connect := .error .einprogress }] }]

/-- The messages and the replies are cut, and the connection fails. -/
def inPieces : List Event :=
  [.read 3 { accepts := [.accepted 5 .ok true] }, .read 5 { recv := .data [5] }, .read 5 { recv := .data [1, 2] },
    .write 5 { sends := [.sent 1] }, .write 5 { sends := [.sent 1] }, .read 5 { recv := .data [1, 1, 117] },
    .read 5 { recv := .data [1, 112] }, .write 5 { sends := [.sent 1, .sent 1] }, .read 5 { recv := .data [5, 1, 0, 1, 127] },
    .read 5 { recv := .data [0, 0, 1, 0] },
    .read 5 { recv := .data [80], attempts := [{ socket := .ok 6, setNonblocking := .ok, connect := .error .einprogress }] },
    .connectDone 6 111, .write 6 { getsockopt := .ok }]

/-- None of the messages goes on past its end. -/
theorem polite_userMessages : Polite oneUser .greeting userMessages := by
  have hgreeting : verdict oneUser .greeting [5, 1, 2] = .greet 2 := by decide +kernel
  have hauth : verdict oneUser .auth [1, 1, 117, 1, 112] = .authenticate (some (literal "u")) := by decide +kernel
  refine ⟨eq_of_messageLength (by decide), ?_⟩
  rw [hgreeting]
  change Polite oneUser .auth _
  refine ⟨eq_of_messageLength (by decide), ?_⟩
  rw [hauth]
  refine ⟨eq_of_messageLength (by decide), ?_⟩
  split <;> trivial

/-- The client whose messages arrive whole is in lock-step. -/
theorem converses_atOnce : (Config.first oneUser).Converses oneUser userMessages atOnce 0 where
  unchanged := by
    unfold atOnce
    simp only [Traces.forall_split_cons, Traces.forall_split_nil]
    decide +kernel
  polite := polite_userMessages
  lockStep := by
    have hacts : (run (Config.first oneUser).start atOnce).acts 0 =
        [.accepted, .recvHandshake [5, 1, 2], .prepared (.greeting 2), .sentReply [5, 2],
          .recvHandshake [1, 1, 117, 1, 112], .prepared (.auth 0), .sentReply [1, 0],
          .recvHandshake [5, 1, 0, 1, 127, 0, 0, 1, 0, 80], .begun ⟨1, 80, [], .inet [127, 0, 0, 1] 80⟩,
          .attempted (.inet [127, 0, 0, 1] 80)] := by
      decide +kernel
    rw [hacts]
    refine lockStep_of_acts ?_
    simp only [Traces.forall_split_cons, Traces.forall_split_nil]
    decide
  settled := .inl (by decide +kernel)

/-- So is the client whose messages are cut. -/
theorem converses_inPieces : (Config.first oneUser).Converses oneUser userMessages inPieces 0 where
  unchanged := by
    unfold inPieces
    simp only [Traces.forall_split_cons, Traces.forall_split_nil]
    decide +kernel
  polite := polite_userMessages
  lockStep := by
    have hacts : (run (Config.first oneUser).start inPieces).acts 0 =
        [.accepted, .recvHandshake [5], .recvHandshake [1, 2], .prepared (.greeting 2), .sentReply [5], .sentReply [2],
          .recvHandshake [1, 1, 117], .recvHandshake [1, 112], .prepared (.auth 0), .sentReply [1], .sentReply [0],
          .recvHandshake [5, 1, 0, 1, 127], .recvHandshake [0, 0, 1, 0], .recvHandshake [80],
          .begun ⟨1, 80, [], .inet [127, 0, 0, 1] 80⟩, .attempted (.inet [127, 0, 0, 1] 80), .prepared (.request 5), .failed,
          .logged ⟨literal "u", literal "127.0.0.1", 80, false⟩] := by
      decide +kernel
    rw [hacts]
    refine lockStep_of_acts ?_
    simp only [Traces.forall_split_cons, Traces.forall_split_nil]
    decide
  settled := .inl (by decide +kernel)

/-- The two come to the same: both handed over their request, as user `u`. -/
theorem cuts_agree_user :
    ((run (Config.first oneUser).start atOnce).sessions 0).map (fun st => (st.stage, st.username)) =
      some (.connecting, literal "u") ∧
    ((run (Config.first oneUser).start inPieces).sessions 0).map (fun st => (st.stage, st.username)) =
      some (.closing, literal "u") ∧
    ∃ outcome, (run (Config.first oneUser).start atOnce).CameTo 0 outcome ∧
      (run (Config.first oneUser).start inPieces).CameTo 0 outcome :=
  ⟨by decide +kernel, by decide +kernel, cuts_agree converses_atOnce converses_inPieces⟩

end SocksProxy
