import SocksProxy.Ready

/-!
# The dialogue

What a session may say to its client, and what may happen in between: an automaton that hears the acts of a session one after
another and accepts only those of an orderly dialogue. One greeting reply comes first, then one authentication reply if the
greeting asks for it, then one request reply; each is sent to its last byte before the next one is prepared, and bytes of the target
follow only a request that succeeded. A request is begun once, resolved at most once, and counted as a success or as a failure
once.
-/

namespace SocksProxy

/-- How far a dialogue has got. -/
inductive Talk where
  | opening
  | authenticating
  | welcome
  | working (resolved : Bool)
  | answered (code : Byte)
  | served
  | refused
  deriving DecidableEq

namespace Talk

/-- The dialogue after a reply was prepared, if that reply has its place there. -/
def reply : Talk → Reply → Option Talk
  | .opening, .greeting method =>
    if method = socks5MethodUsernamePassword then some .authenticating
    else if method = socks5MethodNoAuth then some .welcome
    else if method = socks5MethodNoAcceptable then some .refused
    else none
  | .authenticating, .auth status =>
    if status = socks5AuthSuccess then some .welcome else if status = socks5AuthFailure then some .refused else none
  | .welcome, .request code => some (.answered code)
  | .working _, .request code => some (.answered code)
  | _, _ => none

/-- The dialogue after a request was begun, resolved or attempted, or its outcome was counted. -/
def work : Talk → Act → Option Talk
  | .welcome, .begun _ => some (.working false)
  | .working false, .resolved _ _ => some (.working true)
  | .working resolved, .attempted _ => some (.working resolved)
  | .answered code, .succeeded => if code = socks5ReplySuccess then some .served else none
  | .answered _, .failed => some .refused
  | _, _ => none

/-- The dialogue after something was relayed. -/
def relay : Talk → Option Talk
  | .served => some .served
  | _ => none

end Talk

/-- A dialogue: how far it has got, and the bytes of its last reply that are still to be sent. -/
structure Dialogue where
  talk : Talk
  pending : List Byte

namespace Dialogue

/-- Before anything was said. -/
def start : Dialogue := ⟨.opening, []⟩

/-- Hear one act. -/
def hear (d : Dialogue) : Act → Option Dialogue
  | .prepared reply => if d.pending = [] then (d.talk.reply reply).map (⟨·, reply.bytes⟩) else none
  | .sentReply bytes => if bytes <+: d.pending then some ⟨d.talk, d.pending.drop bytes.length⟩ else none
  | .sentClient _ => if d.pending = [] then d.talk.relay.map (⟨·, d.pending⟩) else none
  | .begun r => (d.talk.work (.begun r)).map (⟨·, d.pending⟩)
  | .resolved status result => (d.talk.work (.resolved status result)).map (⟨·, d.pending⟩)
  | .attempted addr => (d.talk.work (.attempted addr)).map (⟨·, d.pending⟩)
  | .succeeded => (d.talk.work .succeeded).map (⟨·, d.pending⟩)
  | .failed => (d.talk.work .failed).map (⟨·, d.pending⟩)
  | .recvClient _ => d.talk.relay.map (⟨·, d.pending⟩)
  | .recvTarget _ => d.talk.relay.map (⟨·, d.pending⟩)
  | .sentTarget _ => d.talk.relay.map (⟨·, d.pending⟩)
  | .eofTarget => d.talk.relay.map (⟨·, d.pending⟩)
  | .accepted => some d
  | .recvHandshake _ => some d
  | .eofClient => some d
  | .logged _ => some d
  | .freed => some d

/-- Hear some acts, one after another. -/
def hears (d : Dialogue) (acts : List Act) : Option Dialogue := acts.foldlM hear d

section Hears

variable {d : Dialogue}

@[simp] theorem hears_nil : d.hears [] = some d := rfl

@[simp] theorem hears_cons (a : Act) (acts : List Act) : d.hears (a :: acts) = (d.hear a).bind (·.hears acts) := rfl

@[simp] theorem hears_append (acts acts' : List Act) : d.hears (acts ++ acts') = (d.hears acts).bind (·.hears acts') :=
  List.foldlM_append

/-- The chunks of a reply that is sent. -/
theorem hears_sentReply (chunks : List (List Byte)) {rest : List Byte} (h : d.pending = chunks.flatten ++ rest) :
    d.hears (chunks.map .sentReply) = some ⟨d.talk, rest⟩ := by
  induction chunks generalizing d with
  | nil =>
    subst h
    rfl
  | cons bytes chunks ih =>
    have hp : bytes <+: d.pending := by
      rw [h, List.flatten_cons, List.append_assoc]
      exact List.prefix_append _ _
    have hd : d.pending.drop bytes.length = chunks.flatten ++ rest := by
      rw [h, List.flatten_cons, List.append_assoc, List.drop_left]
    rw [List.map_cons, hears_cons, hear, if_pos hp]
    exact ih hd

/-- Relaying changes nothing in a dialogue that has come to the relay. -/
theorem relay_self (ht : d.talk = .served) : d.talk.relay.map (⟨·, d.pending⟩) = some d := by
  obtain ⟨_, _⟩ := d
  subst ht
  rfl

/-- The chunks that are relayed to the client. -/
theorem hears_sentClient (chunks : List (List Byte)) (ht : d.talk = .served) (hp : d.pending = []) :
    d.hears (chunks.map .sentClient) = some d := by
  induction chunks with
  | nil => rfl
  | cons bytes chunks ih =>
    rw [List.map_cons, hears_cons, hear, if_pos hp, relay_self ht]
    exact ih

/-- The chunks that are relayed to the target. -/
theorem hears_sentTarget (chunks : List (List Byte)) (ht : d.talk = .served) : d.hears (chunks.map .sentTarget) = some d := by
  induction chunks with
  | nil => rfl
  | cons bytes chunks ih =>
    rw [List.map_cons, hears_cons, hear, relay_self ht]
    exact ih

/-- The addresses that are tried. -/
theorem hears_attempted (addrs : List SockAddr) {resolved : Bool} (ht : d.talk = .working resolved) :
    d.hears (addrs.map .attempted) = some d := by
  induction addrs with
  | nil => rfl
  | cons addr addrs ih =>
    obtain ⟨_, _⟩ := d
    subst ht
    cases resolved <;> exact ih

/-- A line of the access log. -/
theorem hears_logActs (st : ClientState) (success : Bool) : d.hears (st.logActs success) = some d := by
  unfold ClientState.logActs
  split <;> rfl

/-- A request that is refused while it is worked on. -/
theorem hears_refusedActs (st : ClientState) (code : Byte) {resolved : Bool} (ht : d.talk = .working resolved)
    (hp : d.pending = []) : d.hears (st.refusedActs code) = some ⟨.refused, (Reply.request code).bytes⟩ := by
  rw [ClientState.refusedActs, hears_cons, hear, if_pos hp, ht]
  exact hears_logActs st false

/-- A request that succeeds. -/
theorem hears_connectedActs (st : ClientState) {resolved : Bool} (ht : d.talk = .working resolved) (hp : d.pending = []) :
    d.hears st.connectedActs = some ⟨.served, (Reply.request socks5ReplySuccess).bytes⟩ := by
  rw [ClientState.connectedActs, hears_cons, hear, if_pos hp, ht]
  exact hears_logActs st true

end Hears

end Dialogue

/-! ## What was heard -/

namespace Act

/-- The replies prepared, in order. -/
def replies (acts : List Act) : List Reply :=
  acts.filterMap fun
    | .prepared reply => some reply
    | _ => none

/-- The bytes of replies that were sent, in order. -/
def sentReplies (acts : List Act) : List Byte :=
  acts.flatMap fun
    | .sentReply bytes => bytes
    | _ => []

/-- The bytes of the target that were sent to the client, in order. -/
def sentClients (acts : List Act) : List Byte :=
  acts.flatMap fun
    | .sentClient bytes => bytes
    | _ => []

/-- All bytes sent to the client, in order. -/
def toClient (acts : List Act) : List Byte :=
  acts.flatMap fun
    | .sentReply bytes => bytes
    | .sentClient bytes => bytes
    | _ => []

section Append

variable (acts acts' : List Act)

@[simp] theorem replies_append : replies (acts ++ acts') = replies acts ++ replies acts' := List.filterMap_append

@[simp] theorem sentReplies_append : sentReplies (acts ++ acts') = sentReplies acts ++ sentReplies acts' := List.flatMap_append

@[simp] theorem sentClients_append : sentClients (acts ++ acts') = sentClients acts ++ sentClients acts' := List.flatMap_append

@[simp] theorem toClient_append : toClient (acts ++ acts') = toClient acts ++ toClient acts' := List.flatMap_append

end Append

/-- An act that neither prepares a reply nor sends anything to the client. -/
def Quiet (a : Act) : Prop := replies [a] = [] ∧ sentReplies [a] = [] ∧ sentClients [a] = [] ∧ toClient [a] = []

end Act

/-- The replies that lead to a request: the greeting chose method 0x00, or it chose 0x02 and the authentication succeeded. -/
def Welcoming (replies : List Reply) : Prop :=
  replies = [.greeting socks5MethodNoAuth] ∨ replies = [.greeting socks5MethodUsernamePassword, .auth socks5AuthSuccess]

/-- The replies prepared by the time a dialogue has got this far. -/
def Talk.Script : Talk → List Reply → Prop
  | .opening, replies => replies = []
  | .authenticating, replies => replies = [.greeting socks5MethodUsernamePassword]
  | .welcome, replies => Welcoming replies
  | .working _, replies => Welcoming replies
  | .answered code, replies => ∃ welcome, Welcoming welcome ∧ replies = welcome ++ [.request code]
  | .served, replies => ∃ welcome, Welcoming welcome ∧ replies = welcome ++ [.request socks5ReplySuccess]
  | .refused, replies => replies = [.greeting socks5MethodNoAcceptable] ∨
      replies = [.greeting socks5MethodUsernamePassword, .auth socks5AuthFailure] ∨
      ∃ welcome code, Welcoming welcome ∧ replies = welcome ++ [.request code]

/-- A call of `target_connection_begin`. -/
def Act.begins : Act → Bool
  | .begun _ => true
  | _ => false

/-- A session takes the result of its resolver job. -/
def Act.resumes : Act → Bool
  | .resolved _ _ => true
  | _ => false

namespace Talk

/-- How often a request may have been begun. -/
def begins : Talk → Nat
  | .opening | .authenticating | .welcome => 0
  | _ => 1

/-- How often a request may have been resolved. -/
def resumes : Talk → Nat
  | .opening | .authenticating | .welcome | .working false => 0
  | _ => 1

/-- How often success has been counted. -/
def successes : Talk → Nat
  | .served => 1
  | _ => 0

/-- How often a failure may have been counted. -/
def failures : Talk → Nat
  | .refused => 1
  | _ => 0

end Talk

/-- How often the acts heard so far begin, resume and settle a request. -/
structure Counted (acts : List Act) (talk : Talk) : Prop where
  begins : acts.countP Act.begins ≤ talk.begins
  resumes : acts.countP Act.resumes ≤ talk.resumes
  successes : acts.count .succeeded = talk.successes
  failures : acts.count .failed ≤ talk.failures

/-- What a dialogue knows of the acts it has heard. -/
structure Heard (acts : List Act) (d : Dialogue) : Prop where
  said : (Act.replies acts).flatMap Reply.bytes = Act.sentReplies acts ++ d.pending
  spoken : Act.toClient acts = Act.sentReplies acts ++ Act.sentClients acts
  script : d.talk.Script (Act.replies acts)
  silent : d.talk ≠ .served → Act.sentClients acts = []
  full : Act.sentClients acts ≠ [] → d.pending = []
  counted : Counted acts d.talk

namespace Talk

variable {talk talk' : Talk} {a : Act}

/-- What one act may add to the counts of a dialogue. -/
def Adds (talk : Talk) (a : Act) (talk' : Talk) : Prop :=
  talk.begins + (if a.begins then 1 else 0) ≤ talk'.begins ∧ talk.resumes + (if a.resumes then 1 else 0) ≤ talk'.resumes ∧
  talk.successes + (if a = .succeeded then 1 else 0) = talk'.successes ∧
  talk.failures + (if a = .failed then 1 else 0) ≤ talk'.failures

/-- The places a reply has in a dialogue. -/
theorem reply_cases {reply : Reply} (h : talk.reply reply = some talk') :
    talk = .opening ∧ reply = .greeting socks5MethodUsernamePassword ∧ talk' = .authenticating ∨
    talk = .opening ∧ reply = .greeting socks5MethodNoAuth ∧ talk' = .welcome ∨
    talk = .opening ∧ reply = .greeting socks5MethodNoAcceptable ∧ talk' = .refused ∨
    talk = .authenticating ∧ reply = .auth socks5AuthSuccess ∧ talk' = .welcome ∨
    talk = .authenticating ∧ reply = .auth socks5AuthFailure ∧ talk' = .refused ∨
    ∃ code, reply = .request code ∧ talk' = .answered code ∧ (talk = .welcome ∨ ∃ resolved, talk = .working resolved) := by
  unfold Talk.reply at h
  split at h
  · split at h
    · cases h
      simp_all
    · split at h
      · cases h
        simp_all
      · split at h
        · cases h
          simp_all
        · cases h
  · split at h
    · cases h
      simp_all
    · split at h
      · cases h
        simp_all
      · cases h
  · cases h
    simp
  · cases h
    simp
  · cases h

/-- A reply that has its place in the dialogue continues its script. -/
theorem reply_script {reply : Reply} (h : talk.reply reply = some talk') {replies : List Reply} (hs : talk.Script replies) :
    talk'.Script (replies ++ [reply]) := by
  obtain ⟨rfl, rfl, rfl⟩ | ⟨rfl, rfl, rfl⟩ | ⟨rfl, rfl, rfl⟩ | ⟨rfl, rfl, rfl⟩ | ⟨rfl, rfl, rfl⟩ | ⟨code, rfl, rfl, rfl | ⟨_, rfl⟩⟩ :=
    reply_cases h
  · cases hs
    rfl
  · cases hs
    exact .inl rfl
  · cases hs
    exact .inl rfl
  · cases hs
    exact .inr rfl
  · cases hs
    exact .inr (.inl rfl)
  · exact ⟨_, hs, rfl⟩
  · exact ⟨_, hs, rfl⟩

/-- A reply adds nothing to the counts. -/
theorem reply_adds {reply : Reply} (h : talk.reply reply = some talk') : talk.Adds (.prepared reply) talk' := by
  obtain ⟨rfl, rfl, rfl⟩ | ⟨rfl, rfl, rfl⟩ | ⟨rfl, rfl, rfl⟩ | ⟨rfl, rfl, rfl⟩ | ⟨rfl, rfl, rfl⟩ |
    ⟨code, rfl, rfl, rfl | ⟨resolved, rfl⟩⟩ := reply_cases h
  case inr.inr.inr.inr.inr.inr => cases resolved <;> simp [Adds, begins, resumes, successes, failures, Act.begins, Act.resumes]
  all_goals simp [Adds, begins, resumes, successes, failures, Act.begins, Act.resumes]

/-- Working on a request and settling it keeps the script. -/
theorem work_script (h : talk.work a = some talk') {replies : List Reply} (hs : talk.Script replies) : talk'.Script replies := by
  unfold work at h
  split at h
  · cases h
    exact hs
  · cases h
    exact hs
  · cases h
    exact hs
  · split at h
    · cases h
      subst_vars
      exact hs
    · cases h
  · cases h
    obtain ⟨welcome, hw, rfl⟩ := hs
    exact .inr (.inr ⟨welcome, _, hw, rfl⟩)
  · cases h

/-- Working on a request and settling it is counted. -/
theorem work_adds (h : talk.work a = some talk') : talk.Adds a talk' := by
  unfold work at h
  split at h
  · cases h
    simp [Adds, begins, resumes, successes, failures, Act.begins, Act.resumes]
  · cases h
    simp [Adds, begins, resumes, successes, failures, Act.begins, Act.resumes]
  · cases h
    simp [Adds, Act.begins, Act.resumes]
  · split at h
    · cases h
      simp [Adds, begins, resumes, successes, failures, Act.begins, Act.resumes]
    · cases h
  · cases h
    simp [Adds, begins, resumes, successes, failures, Act.begins, Act.resumes]
  · cases h

/-- A dialogue in which a reply has its place is not the relay. -/
theorem ne_served_of_reply {reply : Reply} (h : talk.reply reply = some talk') : talk ≠ .served := by
  rintro rfl
  cases reply <;> cases h

/-- A dialogue in which a request is worked on or settled is not the relay. -/
theorem ne_served_of_work (h : talk.work a = some talk') : talk ≠ .served := by
  rintro rfl
  cases h

/-- Only the relay relays, and it stays the relay. -/
theorem relay_eq (h : talk.relay = some talk') : talk = .served ∧ talk' = talk := by
  unfold relay at h
  split at h
  · cases h
    exact ⟨rfl, rfl⟩
  · cases h

end Talk

/-- The counts follow the dialogue. -/
theorem Counted.snoc {acts : List Act} {talk talk' : Talk} {a : Act} (h : Counted acts talk) (ha : talk.Adds a talk') :
    Counted (acts ++ [a]) talk' := by
  obtain ⟨hb, hr, hs, hf⟩ := ha
  refine ⟨?_, ?_, ?_, ?_⟩
  · rw [List.countP_append, List.countP_singleton]
    exact Nat.le_trans (Nat.add_le_add_right h.begins _) hb
  · rw [List.countP_append, List.countP_singleton]
    exact Nat.le_trans (Nat.add_le_add_right h.resumes _) hr
  · rw [List.count_append, List.count_singleton, h.successes]
    simpa using hs
  · rw [List.count_append, List.count_singleton]
    refine Nat.le_trans (Nat.add_le_add_right h.failures _) ?_
    simpa using hf

namespace Heard

variable {acts : List Act} {d d' : Dialogue}

/-- Nothing was heard yet. -/
theorem start : Heard [] .start where
  said := rfl
  spoken := rfl
  script := rfl
  silent := fun _ => rfl
  full := fun h => absurd rfl h
  counted := ⟨Nat.le_refl _, Nat.le_refl _, rfl, Nat.le_refl _⟩

/-- An act that is not a reply and sends nothing to the client. -/
theorem quiet {a : Act} {talk : Talk} (h : Heard acts d) (hq : a.Quiet)
    (hscript : ∀ replies, d.talk.Script replies → talk.Script replies) (hsilent : talk ≠ .served → Act.sentClients acts = [])
    (ha : d.talk.Adds a talk) : Heard (acts ++ [a]) ⟨talk, d.pending⟩ := by
  obtain ⟨h1, h2, h3, h4⟩ := hq
  refine ⟨?_, ?_, ?_, ?_, ?_, h.counted.snoc ha⟩
  · rw [Act.replies_append, Act.sentReplies_append, h1, h2, List.append_nil, List.append_nil]
    exact h.said
  · rw [Act.toClient_append, Act.sentReplies_append, Act.sentClients_append, h2, h3, h4, List.append_nil, List.append_nil,
      List.append_nil]
    exact h.spoken
  · rw [Act.replies_append, h1, List.append_nil]
    exact hscript _ h.script
  · rw [Act.sentClients_append, h3, List.append_nil]
    exact hsilent
  · rw [Act.sentClients_append, h3, List.append_nil]
    exact h.full

/-- An act with no place of its own in the dialogue. -/
theorem aside {a : Act} (h : Heard acts d) (hq : a.Quiet) (ha : d.talk.Adds a d.talk) : Heard (acts ++ [a]) d :=
  h.quiet hq (fun _ => id) h.silent ha

/-- An act that works on a request or settles it. -/
theorem work {a : Act} {talk : Talk} (h : Heard acts d) (hq : a.Quiet) (ht : d.talk.work a = some talk) :
    Heard (acts ++ [a]) ⟨talk, d.pending⟩ :=
  h.quiet hq (fun _ => Talk.work_script ht) (fun _ => h.silent (Talk.ne_served_of_work ht)) (Talk.work_adds ht)

/-- A reply that was prepared. -/
theorem prepared {reply : Reply} {talk : Talk} (h : Heard acts d) (hp : d.pending = []) (ht : d.talk.reply reply = some talk) :
    Heard (acts ++ [.prepared reply]) ⟨talk, reply.bytes⟩ := by
  have hsilent : Act.sentClients acts = [] := h.silent (Talk.ne_served_of_reply ht)
  have hsaid := h.said
  rw [hp, List.append_nil] at hsaid
  refine ⟨?_, ?_, ?_, ?_, ?_, h.counted.snoc (Talk.reply_adds ht)⟩
  · rw [Act.replies_append, Act.sentReplies_append, List.flatMap_append, hsaid]
    simp [Act.replies, Act.sentReplies]
  · rw [Act.toClient_append, Act.sentReplies_append, Act.sentClients_append, h.spoken]
    simp [Act.toClient, Act.sentReplies, Act.sentClients]
  · exact Act.replies_append _ _ ▸ Talk.reply_script ht h.script
  · intro _
    rw [Act.sentClients_append, hsilent]
    rfl
  · intro hne
    rw [Act.sentClients_append, hsilent] at hne
    exact absurd rfl hne

/-- A piece of a reply that was sent. -/
theorem sentReply {bytes : List Byte} (h : Heard acts d) (hp : bytes <+: d.pending) :
    Heard (acts ++ [.sentReply bytes]) ⟨d.talk, d.pending.drop bytes.length⟩ := by
  obtain ⟨rest, hrest⟩ := hp
  have hdrop : d.pending.drop bytes.length = rest := by rw [← hrest, List.drop_left]
  have hclient : Act.sentClients (acts ++ [.sentReply bytes]) = Act.sentClients acts := by
    rw [Act.sentClients_append]
    exact List.append_nil _
  have hreply : Act.sentReplies (acts ++ [.sentReply bytes]) = Act.sentReplies acts ++ bytes := by
    rw [Act.sentReplies_append]
    simp [Act.sentReplies]
  refine ⟨?_, ?_, ?_, ?_, ?_, h.counted.snoc ?_⟩
  · rw [hreply, hdrop, List.append_assoc, hrest, ← h.said, Act.replies_append]
    simp [Act.replies]
  · rw [hreply, hclient, Act.toClient_append, h.spoken]
    by_cases hc : Act.sentClients acts = []
    · simp [hc, Act.toClient]
    · have hb : bytes = [] := by
        have := h.full hc
        rw [this] at hrest
        exact (List.append_eq_nil_iff.mp hrest).1
      simp [hb, Act.toClient]
  · rw [Act.replies_append]
    simpa [Act.replies] using h.script
  · rw [hclient]
    exact h.silent
  · rw [hclient]
    intro hne
    show d.pending.drop _ = []
    rw [h.full hne, List.drop_nil]
  · simp [Talk.Adds, Act.begins, Act.resumes]

/-- A piece of what was received from the target that was sent. -/
theorem sentClient {bytes : List Byte} (h : Heard acts d) (hp : d.pending = []) (ht : d.talk = .served) :
    Heard (acts ++ [.sentClient bytes]) d := by
  have hclient : Act.sentClients (acts ++ [.sentClient bytes]) = Act.sentClients acts ++ bytes := by
    rw [Act.sentClients_append]
    simp [Act.sentClients]
  have hreply : Act.sentReplies (acts ++ [.sentClient bytes]) = Act.sentReplies acts := by
    rw [Act.sentReplies_append]
    exact List.append_nil _
  refine ⟨?_, ?_, ?_, ?_, ?_, h.counted.snoc ?_⟩
  · rw [hreply, ← h.said, Act.replies_append]
    simp [Act.replies]
  · rw [hreply, hclient, Act.toClient_append, h.spoken]
    simp [Act.toClient]
  · rw [Act.replies_append]
    simpa [Act.replies] using h.script
  · intro hne
    exact absurd ht hne
  · intro _
    exact hp
  · simp [Talk.Adds, Act.begins, Act.resumes]

/-- One more act is heard. -/
theorem snoc {a : Act} (h : Heard acts d) (ha : d.hear a = some d') : Heard (acts ++ [a]) d' := by
  cases a with
  | prepared reply =>
    rw [Dialogue.hear] at ha
    split at ha
    · rename_i hp
      obtain ⟨talk, ht, rfl⟩ := Option.map_eq_some_iff.mp ha
      exact h.prepared hp ht
    · cases ha
  | sentReply bytes =>
    rw [Dialogue.hear] at ha
    split at ha
    · rename_i hp
      cases ha
      exact h.sentReply hp
    · cases ha
  | sentClient bytes =>
    rw [Dialogue.hear] at ha
    split at ha
    · rename_i hp
      obtain ⟨talk, ht, rfl⟩ := Option.map_eq_some_iff.mp ha
      obtain ⟨hs, rfl⟩ := Talk.relay_eq ht
      exact h.sentClient hp hs
    · cases ha
  | begun | resolved | attempted | succeeded | failed =>
    obtain ⟨talk, ht, rfl⟩ := Option.map_eq_some_iff.mp ha
    exact h.work ⟨rfl, rfl, rfl, rfl⟩ ht
  | recvClient | recvTarget | sentTarget | eofTarget =>
    obtain ⟨talk, ht, rfl⟩ := Option.map_eq_some_iff.mp ha
    obtain ⟨_, rfl⟩ := Talk.relay_eq ht
    exact h.aside ⟨rfl, rfl, rfl, rfl⟩ (by simp [Talk.Adds, Act.begins, Act.resumes])
  | accepted | recvHandshake | eofClient | logged | freed =>
    cases ha
    exact h.aside ⟨rfl, rfl, rfl, rfl⟩ (by simp [Talk.Adds, Act.begins, Act.resumes])

/-- Whatever is heard, one act after another, a dialogue knows. -/
theorem of_hears (h : Heard acts d) {acts' : List Act} (ha : d.hears acts' = some d') : Heard (acts ++ acts') d' := by
  induction acts' generalizing acts d with
  | nil =>
    cases ha
    rwa [List.append_nil]
  | cons a acts' ih =>
    obtain ⟨d1, h1, h2⟩ := Option.bind_eq_some_iff.mp ha
    rw [← List.singleton_append, ← List.append_assoc]
    exact ih (h.snoc h1) h2

end Heard

/-! ## The dialogue of a session -/

/-- How far the dialogue of a session in this stage has got. -/
def ClientStage.Speaks : ClientStage → Talk → Prop
  | .greeting, talk => talk = .opening
  | .auth, talk => talk = .authenticating
  | .request, talk => talk = .welcome
  | .resolving, talk => talk = .working false
  | .connecting, talk => ∃ resolved, talk = .working resolved
  | .relay, talk => talk = .served
  | .closing, talk => talk = .refused

/-- The dialogue of a session: what is pending is the rest of its write buffer. -/
structure View.Speaks (v : View) (d : Dialogue) : Prop where
  pending : d.pending = v.state.writeBuffer.drop v.state.writeOff
  talk : v.state.stage.Speaks d.talk

/-- The dialogue of a session; that of a session that is gone is over. -/
def Life.Speaks : Life → Dialogue → Prop
  | .unborn, d => d = .start
  | .live v, d => v.Speaks d
  | .gone, _ => True

/-- A greeting is answered with one of three methods. -/
theorem greetingVerdict_method {users : ManagedUsers} {buffer : List Byte} {method : Byte}
    (h : greetingVerdict users buffer = .greet method) :
    method = socks5MethodUsernamePassword ∨ method = socks5MethodNoAuth ∨ method = socks5MethodNoAcceptable := by
  unfold greetingVerdict at h
  split at h
  · split at h
    · cases h
    · split at h
      · cases h
      · cases h
        unfold chosenMethod
        split
        · exact .inl rfl
        · split
          · exact .inr (.inl rfl)
          · exact .inr (.inr rfl)
  · cases h

/-- A request whose reply has been prepared and counted as a failure is refused. -/
theorem View.Speaks.refused (v : View) (st : ClientState) (code : Byte) (hst : st.stage = .closing)
    (hw : st.writeBuffer = (Reply.request code).bytes) (ho : st.writeOff = 0) :
    (v.replying st).Speaks ⟨.refused, (Reply.request code).bytes⟩ := by
  refine ⟨?_, ?_⟩
  · show _ = st.writeBuffer.drop st.writeOff
    rw [hw, ho, List.drop_zero]
  · show st.stage.Speaks _
    rw [hst]
    rfl

namespace View.Speaks

variable {v v' : View} {d : Dialogue} {st : ClientState} {acts : List Act}

/-- Connecting to addresses is heard: a connection is on its way, or the request is refused. -/
theorem connects {l : List AddrInfo} (h : Connects v st l acts v') {resolved : Bool} (ht : d.talk = .working resolved)
    (hp : d.pending = []) (hw : st.writeBuffer = []) : ∃ d', d.hears acts = some d' ∧ v'.Speaks d' := by
  obtain ⟨addrs, current, e, ⟨fd, c, _, _, rfl, rfl⟩ | ⟨st', rfl, rfl, rfl⟩⟩ := h.eq
  · refine ⟨d, Dialogue.hears_attempted addrs ht, ?_, _, ht⟩
    rw [hp]
    simp [View.connecting, hw]
  · refine ⟨_, ?_, refused _ _ _ rfl rfl rfl⟩
    rw [Dialogue.hears_append, Dialogue.hears_attempted addrs ht]
    exact Dialogue.hears_refusedActs _ _ ht hp

/-- Beginning a request is heard: it is being worked on, or it is refused. -/
theorem begins {r : Socks5Request} (h : Begins v st r acts v') (ht : d.talk = .working false) (hp : d.pending = [])
    (hw : st.writeBuffer = []) : ∃ d', d.hears acts = some d' ∧ v'.Speaks d' := by
  obtain ⟨host, hb⟩ := st.beginning_eq r
  cases h with
  | resolving =>
    refine ⟨d, rfl, ?_, ht⟩
    rw [hp, hb]
    simp [hw]
  | unresolved => exact ⟨_, Dialogue.hears_refusedActs _ _ ht hp, refused _ _ _ rfl rfl rfl⟩
  | connecting =>
    refine ⟨d, Dialogue.hears_attempted [r.addr] ht, ?_, _, ht⟩
    rw [hp, hb]
    simp [View.connecting, hw]
  | unconnected =>
    refine ⟨_, ?_, refused _ _ _ rfl rfl rfl⟩
    rw [← List.singleton_append, Dialogue.hears_append]
    exact (congrArg (Option.bind · _) (Dialogue.hears_attempted [r.addr] ht)).trans (Dialogue.hears_refusedActs _ _ ht hp)

/-- A reply of the handshake that was prepared where it has its place. -/
theorem answers {reply : Reply} (stage : ClientStage) (talk : Talk) (hp : d.pending = [])
    (ht : d.talk.reply reply = some talk) (hs : stage.Speaks talk) (hst : st.stage = stage) (hw : st.writeBuffer = reply.bytes)
    (ho : st.writeOff = 0) (bytes : List Byte) :
    ∃ d', d.hears [.recvHandshake bytes, .prepared reply] = some d' ∧ (v.replying st).Speaks d' := by
  refine ⟨⟨talk, reply.bytes⟩, ?_, ?_, ?_⟩
  · rw [Dialogue.hears_cons, Dialogue.hear, Option.bind_some, Dialogue.hears_cons, Dialogue.hear, if_pos hp, ht]
    rfl
  · show _ = st.writeBuffer.drop st.writeOff
    rw [hw, ho, List.drop_zero]
  · show st.stage.Speaks _
    rw [hst]
    exact hs

/-- Nothing is pending of a session that awaits a message, works on a request or relays. -/
theorem empty (h : v.Speaks d) (hw : v.state.writeBuffer = []) : d.pending = [] := by
  rw [h.pending, hw, List.drop_nil]

/-- The chunks of a reply that were sent, and what is left of it. -/
theorem sends (h : v.Speaks d) {chunks : List (List Byte)} {rest : List Byte}
    (hd : v.state.writeBuffer.drop v.state.writeOff = chunks.flatten ++ rest) :
    d.hears (chunks.map .sentReply) = some ⟨d.talk, rest⟩ :=
  Dialogue.hears_sentReply chunks (h.pending.trans hd)

/-- The chunks of a reply that was sent to its last byte. -/
theorem sendsAll (h : v.Speaks d) {chunks : List (List Byte)} (hd : v.state.writeBuffer.drop v.state.writeOff = chunks.flatten) :
    d.hears (chunks.map .sentReply) = some ⟨d.talk, []⟩ :=
  h.sends (by rw [hd, List.append_nil])

/-- The dialogue of a session whose relay runs. -/
theorem relays (h : v.Speaks d) (ready : v.Ready) (hs : v.state.relayStarted = true) :
    d.talk = .served ∧ d.pending = [] := by
  obtain ⟨hst, hw, _⟩ := ready.relaying hs
  have ht := h.talk
  rw [hst] at ht
  exact ⟨ht, h.empty hw⟩

/-- A session that goes on relaying has the same dialogue. -/
theorem relayed (h : v.Speaks d) {acts : List Act} (ha : d.hears acts = some d)
    (hst : v'.state.stage = v.state.stage) (hw : v'.state.writeBuffer = v.state.writeBuffer)
    (ho : v'.state.writeOff = v.state.writeOff) : ∃ d', d.hears acts = some d' ∧ v'.Speaks d' := by
  refine ⟨d, ha, ?_, ?_⟩
  · rw [hw, ho]
    exact h.pending
  · rw [hst]
    exact h.talk

end View.Speaks

/-- Every step of a session is heard by its dialogue. -/
theorem SessionStep.hears {env : Env} {L L' : Life} {acts : List Act} (h : SessionStep env L acts L') (ready : L.Ready)
    {d : Dialogue} (hd : L.Speaks d) : ∃ d', d.hears acts = some d' ∧ L'.Speaks d' := by
  cases h with
  | accepted =>
    subst hd
    exact ⟨.start, rfl, rfl, rfl⟩
  | never => exact ⟨d, rfl, trivial⟩
  | closed => exact ⟨d, rfl, trivial⟩
  | clientEnded => exact ⟨d, rfl, trivial⟩
  | @targetEnded v _ hs =>
    obtain ⟨ht, _⟩ := hd.relays ready hs
    refine ⟨d, ?_, trivial⟩
    rw [Dialogue.hears_cons, Dialogue.hear, Dialogue.relay_self ht]
    rfl
  | connectDone => exact ⟨d, rfl, hd.pending, hd.talk⟩
  | waits => exact ⟨d, rfl, hd.pending, hd.talk⟩
  | hungUp => exact ⟨d, rfl, trivial⟩
  | @greeted v bytes method hi _ _ _ hst hv =>
    have hp := hd.empty (View.Ready.awaiting ready hi (.inl hst)).1
    have ht := hd.talk
    rw [hst] at ht hv
    have ht : d.talk = .opening := ht
    obtain rfl | rfl | rfl := greetingVerdict_method hv
    · exact View.Speaks.answers .auth .authenticating hp (by rw [ht]; rfl) rfl rfl rfl rfl bytes
    · exact View.Speaks.answers .request .welcome hp (by rw [ht]; rfl) rfl rfl rfl rfl bytes
    · exact View.Speaks.answers .closing .refused hp (by rw [ht]; rfl) rfl rfl rfl rfl bytes
  | @authenticated v bytes _ hi _ _ _ hst =>
    have hp := hd.empty (View.Ready.awaiting ready hi (.inr (.inl hst))).1
    have ht := hd.talk
    rw [hst] at ht
    have ht : d.talk = .authenticating := ht
    exact View.Speaks.answers .request .welcome hp (by rw [ht]; rfl) rfl rfl rfl rfl bytes
  | @unauthenticated v bytes hi _ _ _ hst =>
    have hp := hd.empty (View.Ready.awaiting ready hi (.inr (.inl hst))).1
    have ht := hd.talk
    rw [hst] at ht
    have ht : d.talk = .authenticating := ht
    exact View.Speaks.answers .closing .refused hp (by rw [ht]; rfl) rfl rfl rfl rfl bytes
  | @rejected v bytes code hi _ _ _ hst =>
    have hp := hd.empty (View.Ready.awaiting ready hi (.inr (.inr hst))).1
    have ht := hd.talk
    rw [hst] at ht
    have ht : d.talk = .welcome := ht
    refine ⟨⟨.refused, (Reply.request code).bytes⟩, ?_, View.Speaks.refused _ _ _ rfl rfl rfl⟩
    rw [Dialogue.hears_cons, Dialogue.hear, Option.bind_some, Dialogue.hears_cons, Dialogue.hear, if_pos hp, ht]
    rfl
  | @begun v _ bytes r _ hi _ _ _ hst _ hb =>
    have hw := (View.Ready.awaiting ready hi (.inr (.inr hst))).1
    have hp := hd.empty hw
    have ht := hd.talk
    rw [hst] at ht
    have ht : d.talk = .welcome := ht
    obtain ⟨d', h1, h2⟩ := View.Speaks.begins (d := ⟨.working false, d.pending⟩) hb rfl hp hw
    refine ⟨d', ?_, h2⟩
    rw [Dialogue.hears_cons, Dialogue.hear, Option.bind_some, Dialogue.hears_cons, Dialogue.hear, ht]
    exact h1
  | @unresolved v status result hst =>
    have hp := hd.empty (View.Ready.silent ready (.inl hst)).1
    have ht := hd.talk
    rw [hst] at ht
    have ht : d.talk = .working false := ht
    refine ⟨_, ?_, View.Speaks.refused _ _ _ rfl rfl rfl⟩
    rw [Dialogue.hears_cons, Dialogue.hear, ht]
    exact Dialogue.hears_refusedActs (d := ⟨.working true, d.pending⟩) _ _ rfl hp
  | @resolved v _ result _ hst _ _ hcon =>
    have hw := (View.Ready.silent ready (.inl hst)).1
    have hp := hd.empty hw
    have ht := hd.talk
    rw [hst] at ht
    have ht : d.talk = .working false := ht
    obtain ⟨d', h1, h2⟩ := View.Speaks.connects (d := ⟨.working true, d.pending⟩) hcon rfl hp hw
    refine ⟨d', ?_, h2⟩
    rw [Dialogue.hears_cons, Dialogue.hear, ht]
    exact h1
  | @connected v _ hst =>
    have hp := hd.empty (View.Ready.silent ready (.inr hst)).1
    have ht := hd.talk
    rw [hst] at ht
    obtain ⟨resolved, ht⟩ := ht
    exact ⟨_, Dialogue.hears_connectedActs _ ht hp, rfl, rfl⟩
  | @unconnected v _ _ _ hst _ _ hcon =>
    have hw := (View.Ready.silent ready (.inr hst)).1
    have ht := hd.talk
    rw [hst] at ht
    obtain ⟨resolved, ht⟩ := ht
    exact View.Speaks.connects hcon ht (hd.empty hw) hw
  | @replyBlocked v chunks rest hdrop =>
    refine ⟨_, hd.sends hdrop, ?_, hd.talk⟩
    have hlen : (v.state.writeBuffer.drop v.state.writeOff).drop chunks.flatten.length = rest := by rw [hdrop, List.drop_left]
    rw [← hlen, List.drop_drop]
  | @replySent v chunks _ hdrop => exact ⟨_, hd.sendsAll hdrop, rfl, hd.talk⟩
  | @replySentClosing v chunks _ hdrop =>
    refine ⟨⟨d.talk, []⟩, ?_, trivial⟩
    rw [Dialogue.hears_append, hd.sendsAll hdrop]
    rfl
  | @relayStarts v chunks _ hdrop => exact ⟨_, hd.sendsAll hdrop, rfl, hd.talk⟩
  | fromClient hs =>
    obtain ⟨ht, _⟩ := hd.relays ready hs
    exact hd.relayed (by rw [Dialogue.hears_cons, Dialogue.hear, Dialogue.relay_self ht]; rfl) rfl rfl rfl
  | fromTarget hs =>
    obtain ⟨ht, _⟩ := hd.relays ready hs
    exact hd.relayed (by rw [Dialogue.hears_cons, Dialogue.hear, Dialogue.relay_self ht]; rfl) rfl rfl rfl
  | @toTargetBlocked _ chunks _ hs =>
    obtain ⟨ht, _⟩ := hd.relays ready hs
    exact hd.relayed (Dialogue.hears_sentTarget chunks ht) rfl rfl rfl
  | @toTarget _ chunks hs =>
    obtain ⟨ht, _⟩ := hd.relays ready hs
    exact hd.relayed (Dialogue.hears_sentTarget chunks ht) rfl rfl rfl
  | @toClientBlocked _ chunks _ hs =>
    obtain ⟨ht, hp⟩ := hd.relays ready hs
    exact hd.relayed (Dialogue.hears_sentClient chunks ht hp) rfl rfl rfl
  | @toClient _ chunks hs =>
    obtain ⟨ht, hp⟩ := hd.relays ready hs
    exact hd.relayed (Dialogue.hears_sentClient chunks ht hp) rfl rfl rfl

end SocksProxy
