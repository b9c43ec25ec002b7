import SocksProxy.Dialogue
import SocksProxy.Theorems.Relay

/-!
# What the client is told

The bytes sent to a client are those of an orderly dialogue: the replies one after another, each to its last byte, and then what was
received from the target. A client that was refused is told nothing more.
-/

namespace SocksProxy

/-- The replies of a dialogue, as far as it has got: one to the greeting, one to an authentication if the greeting chose method 0x02,
one to a request if the greeting chose method 0x00 or the authentication succeeded. -/
def Orderly (replies : List Reply) : Prop :=
  replies = [] ∨ replies = [.greeting socks5MethodUsernamePassword] ∨ replies = [.greeting socks5MethodNoAcceptable] ∨
  replies = [.greeting socks5MethodUsernamePassword, .auth socks5AuthFailure] ∨ Welcoming replies ∨
  ∃ welcome code, Welcoming welcome ∧ replies = welcome ++ [.request code]

/-- The client was refused: no method was acceptable, the authentication failed, or the request did. -/
def Refused (acts : List Act) : Prop :=
  .greeting socks5MethodNoAcceptable ∈ Act.replies acts ∨ .auth socks5AuthFailure ∈ Act.replies acts ∨
  (∃ code, code ≠ socks5ReplySuccess ∧ .request code ∈ Act.replies acts) ∨ .failed ∈ acts

/-- A dialogue whose last reply refuses the client. -/
def Talk.Refusing (talk : Talk) : Prop := talk = .refused ∨ ∃ code, talk = .answered code ∧ code ≠ socks5ReplySuccess

/-- A dialogue whose last reply refuses the client is not the relay. -/
theorem Talk.Refusing.ne_served {talk : Talk} (h : talk.Refusing) : talk ≠ .served := by
  rintro rfl
  rcases h with h | ⟨_, h, _⟩ <;> cases h

/-- Only a session in `CLOSING` has a dialogue whose last reply refuses the client. -/
theorem ClientStage.Speaks.closing {stage : ClientStage} {talk : Talk} (h : stage.Speaks talk) (hr : talk.Refusing) :
    stage = .closing := by
  rcases hr with rfl | ⟨_, rfl, _⟩ <;> cases stage <;> simp [ClientStage.Speaks] at h ⊢

/-- How many bytes a reply has. -/
def Reply.size : Reply → Nat
  | .greeting _ => 2
  | .auth _ => 2
  | .request _ => 10

/-- A reply has the bytes of its size. -/
theorem Reply.bytes_length (reply : Reply) : reply.bytes.length = reply.size := by
  cases reply <;> rfl

/-- A script is orderly. -/
theorem Talk.Script.orderly {talk : Talk} {replies : List Reply} (h : talk.Script replies) : Orderly replies := by
  cases talk with
  | opening => exact .inl h
  | authenticating => exact .inr (.inl h)
  | welcome => exact .inr (.inr (.inr (.inr (.inl h))))
  | working => exact .inr (.inr (.inr (.inr (.inl h))))
  | answered code =>
    obtain ⟨welcome, hw, hr⟩ := h
    exact .inr (.inr (.inr (.inr (.inr ⟨welcome, code, hw, hr⟩))))
  | served =>
    obtain ⟨welcome, hw, hr⟩ := h
    exact .inr (.inr (.inr (.inr (.inr ⟨welcome, _, hw, hr⟩))))
  | refused =>
    rcases h with h | h | h
    · exact .inr (.inr (.inl h))
    · exact .inr (.inr (.inr (.inl h)))
    · exact .inr (.inr (.inr (.inr (.inr h))))

/-- A reply that refuses the client. -/
def Reply.Refuses (reply : Reply) : Prop :=
  reply = .greeting socks5MethodNoAcceptable ∨ reply = .auth socks5AuthFailure ∨
  ∃ code, code ≠ socks5ReplySuccess ∧ reply = .request code

/-- A reply that asks the client for its next message does not refuse it. -/
theorem Reply.not_refuses {reply : Reply}
    (h : reply = .greeting socks5MethodNoAuth ∨ reply = .greeting socks5MethodUsernamePassword ∨ reply = .auth socks5AuthSuccess) :
    ¬reply.Refuses := by
  rintro (h' | h' | ⟨code, _, h'⟩) <;> subst h' <;>
    simp [socks5MethodNoAuth, socks5MethodNoAcceptable, socks5MethodUsernamePassword, socks5AuthSuccess, socks5AuthFailure] at h

/-- The replies that lead to a request refuse nobody. -/
theorem Welcoming.not_refuses {replies : List Reply} (h : Welcoming replies) {reply : Reply} (hm : reply ∈ replies) :
    ¬reply.Refuses := by
  refine Reply.not_refuses ?_
  rcases h with rfl | rfl
  · exact .inl (List.mem_singleton.mp hm)
  · rcases List.mem_cons.mp hm with h | h
    · exact .inr (.inl h)
    · exact .inr (.inr (List.mem_singleton.mp h))

/-- Only a session in `RELAY` has a dialogue that has come to the relay. -/
theorem ClientStage.Speaks.relay {stage : ClientStage} (h : stage.Speaks .served) : stage = .relay := by
  cases stage <;> simp [ClientStage.Speaks] at h ⊢

/-- Once a refusing reply was prepared, the dialogue is over. -/
theorem Talk.Script.refusing {talk : Talk} {replies : List Reply} (h : talk.Script replies) {reply : Reply}
    (hm : reply ∈ replies) (hr : reply.Refuses) : talk.Refusing := by
  cases talk with
  | opening =>
    cases h
    cases hm
  | authenticating =>
    cases h
    exact absurd hr (Reply.not_refuses (.inr (.inl (List.mem_singleton.mp hm))))
  | welcome => exact absurd hr (Welcoming.not_refuses h hm)
  | working => exact absurd hr (Welcoming.not_refuses h hm)
  | answered code =>
    obtain ⟨welcome, hw, rfl⟩ := h
    rcases List.mem_append.mp hm with hm | hm
    · exact absurd hr (hw.not_refuses hm)
    · cases List.mem_singleton.mp hm
      rcases hr with h | h | ⟨_, hne, h⟩
      · cases h
      · cases h
      · cases h
        exact .inr ⟨_, rfl, hne⟩
  | served =>
    obtain ⟨welcome, hw, rfl⟩ := h
    rcases List.mem_append.mp hm with hm | hm
    · exact absurd hr (hw.not_refuses hm)
    · cases List.mem_singleton.mp hm
      rcases hr with h | h | ⟨_, hne, h⟩
      · cases h
      · cases h
      · cases h
        exact absurd rfl hne
  | refused => exact .inl rfl

namespace Heard

variable {acts acts' : List Act} {d d' : Dialogue}

/-- The dialogue of a client that was refused is over. -/
theorem refusing (h : Heard acts d) (hr : Refused acts) : d.talk.Refusing := by
  rcases hr with hm | hm | ⟨code, hne, hm⟩ | hm
  · exact h.script.refusing hm (.inl rfl)
  · exact h.script.refusing hm (.inr (.inl rfl))
  · exact h.script.refusing hm (.inr (.inr ⟨code, hne, rfl⟩))
  · have hc := h.counted.failures
    have hpos := List.count_pos_iff.mpr hm
    generalize d.talk = talk at hc
    cases talk <;> simp only [Talk.failures] at hc
    case refused => exact .inl rfl
    all_goals omega

/-- The replies sent so far are the beginning of those prepared. -/
theorem replies_prefix (h : Heard acts d) : Act.sentReplies acts <+: (Act.replies acts).flatMap Reply.bytes :=
  h.said ▸ List.prefix_append _ _

/-- Bytes of the target are sent once every reply is, and the last one granted the request. -/
theorem granted (h : Heard acts d) (hc : Act.sentClients acts ≠ []) :
    Act.sentReplies acts = (Act.replies acts).flatMap Reply.bytes ∧
    ∃ welcome, Welcoming welcome ∧ Act.replies acts = welcome ++ [.request socks5ReplySuccess] := by
  refine ⟨?_, ?_⟩
  · rw [h.said, h.full hc, List.append_nil]
  · have hs : d.talk = .served := by
      by_contra hne
      exact hc (h.silent hne)
    have hscript := h.script
    rw [hs] at hscript
    exact hscript

end Heard

/-- A dialogue that is over hears no further reply and no byte of the target. -/
theorem Dialogue.hear_refusing {d d' : Dialogue} {a : Act} (h : d.hear a = some d') (hr : d.talk.Refusing) :
    d'.talk.Refusing ∧ Act.replies [a] = [] ∧ Act.sentClients [a] = [] := by
  have hreply : ∀ reply talk, d.talk.reply reply = some talk → False := by
    intro reply talk ht
    rcases hr with hr | ⟨code, hr, _⟩ <;> rw [hr] at ht <;> cases reply <;> cases ht
  have hrelay : ∀ talk, d.talk.relay = some talk → False := by
    intro talk ht
    obtain ⟨hs, _⟩ := Talk.relay_eq ht
    rcases hr with hr | ⟨code, hr, _⟩ <;> rw [hr] at hs <;> cases hs
  have hwork : ∀ a talk, d.talk.work a = some talk → talk.Refusing := by
    intro a talk ht
    rcases hr with hr | ⟨code, hr, hne⟩
    · rw [hr] at ht
      cases ht
    · rw [hr] at ht
      unfold Talk.work at ht
      split at ht
      · rename_i h1
        cases h1
      · rename_i h1
        cases h1
      · rename_i h1
        cases h1
      · rename_i h1
        cases h1
        rw [if_neg hne] at ht
        cases ht
      · cases ht
        exact .inl rfl
      · cases ht
  cases a with
  | prepared reply =>
    rw [hear] at h
    split at h
    · obtain ⟨talk, ht, _⟩ := Option.map_eq_some_iff.mp h
      exact (hreply _ _ ht).elim
    · cases h
  | sentReply bytes =>
    rw [hear] at h
    split at h
    · cases h
      exact ⟨hr, rfl, rfl⟩
    · cases h
  | sentClient bytes =>
    rw [hear] at h
    split at h
    · obtain ⟨talk, ht, _⟩ := Option.map_eq_some_iff.mp h
      exact (hrelay _ ht).elim
    · cases h
  | begun | resolved | attempted | succeeded | failed =>
    obtain ⟨talk, ht, rfl⟩ := Option.map_eq_some_iff.mp h
    exact ⟨hwork _ _ ht, rfl, rfl⟩
  | recvClient | recvTarget | sentTarget | eofTarget =>
    obtain ⟨talk, ht, _⟩ := Option.map_eq_some_iff.mp h
    exact (hrelay _ ht).elim
  | accepted | recvHandshake | eofClient | logged | freed =>
    cases h
    exact ⟨hr, rfl, rfl⟩

/-- Whatever is heard once a dialogue is over, it is no reply and no byte of the target. -/
theorem Dialogue.hears_refusing {d d' : Dialogue} {acts : List Act} (h : d.hears acts = some d') (hr : d.talk.Refusing) :
    Act.replies acts = [] ∧ Act.sentClients acts = [] := by
  induction acts generalizing d with
  | nil => exact ⟨rfl, rfl⟩
  | cons a acts ih =>
    obtain ⟨d1, h1, h2⟩ := Option.bind_eq_some_iff.mp h
    obtain ⟨hr1, ha, ha'⟩ := hear_refusing h1 hr
    obtain ⟨hb, hb'⟩ := ih h2 hr1
    rw [← List.singleton_append, Act.replies_append, Act.sentClients_append, ha, ha', hb, hb']
    exact ⟨rfl, rfl⟩

/-- The bytes of the target that were sent to the client are those its channel passed on. -/
theorem Act.sentClients_eq (acts : List Act) : sentClients acts = passedOn .target acts := by
  induction acts with
  | nil => rfl
  | cons a acts ih =>
    rw [passedOn_cons, ← ih, ← List.singleton_append, sentClients_append]
    congr 1
    cases a <;> simp [sentClients, sent]

/-! ## Every run -/

section Run

variable (c : Config)

/-- After every run the acts of a session are those of a dialogue that has got as far as the session. -/
theorem run_dialogue (es : List Event) (sid : Nat) :
    ∃ d, Dialogue.start.hears ((run c.start es).acts sid) = some d ∧ ((run c.start es).life sid).Speaks d := by
  refine run_session c (P := fun hist L => ∃ d, Dialogue.start.hears hist = some d ∧ L.Speaks d) (fun _ _ => True) sid
    ⟨.start, rfl, rfl⟩ ?_ es (fun _ _ _ _ => trivial)
  rintro pre e _ hist L acts L' ⟨d, hd, hs⟩ ready hstep
  obtain ⟨d', hd', hs'⟩ := hstep.hears ready hs
  exact ⟨d', by rw [Dialogue.hears_append, hd]; exact hd', hs'⟩

/-- After every run the dialogue of a session has heard all it did. -/
theorem run_heard (es : List Event) (sid : Nat) :
    ∃ d, Heard ((run c.start es).acts sid) d ∧ ((run c.start es).life sid).Speaks d := by
  obtain ⟨d, hd, hs⟩ := run_dialogue c es sid
  have h := Heard.start.of_hears hd
  rw [List.nil_append] at h
  exact ⟨d, h, hs⟩

/-- At any point of what a session does, its dialogue has heard what was done so far and will hear what comes. -/
theorem run_dialogue_cut (es : List Event) (sid : Nat) {pre post : List Act} (h : (run c.start es).acts sid = pre ++ post) :
    ∃ d d', Heard pre d ∧ d.hears post = some d' := by
  obtain ⟨d', hd, _⟩ := run_dialogue c es sid
  rw [h, Dialogue.hears_append] at hd
  obtain ⟨d, h1, h2⟩ := Option.bind_eq_some_iff.mp hd
  have hpre := Heard.start.of_hears h1
  rw [List.nil_append] at hpre
  exact ⟨d, d', hpre, h2⟩

/-- What a session says to its client, at every point of every run:

- the bytes sent are a prefix of the replies prepared followed by what was received from the target, and the replies are those of
  an orderly dialogue, of two bytes each but for the ten of the reply to a request;
- a byte of the target is sent only after the last byte of a reply that granted the request, and only if the session is in `RELAY`;
- a reply is prepared only once every byte of the replies before it has been sent;
- after a refusal there is no further reply and no byte of the target, and once the refusal has been sent the session is gone. -/
theorem replies_in_order (es : List Event) (sid : Nat) :
    (∀ pre post, (run c.start es).acts sid = pre ++ post →
      Act.toClient pre <+: (Act.replies pre).flatMap Reply.bytes ++ Act.received .target pre ∧ Orderly (Act.replies pre) ∧
      (Act.passedOn .target pre ≠ [] → Act.sentReplies pre = (Act.replies pre).flatMap Reply.bytes ∧
        ∃ welcome, Welcoming welcome ∧ Act.replies pre = welcome ++ [.request socks5ReplySuccess])) ∧
    (∀ reply ∈ Act.replies ((run c.start es).acts sid), reply.bytes.length = reply.size) ∧
    (∀ v, (run c.start es).life sid = .live v → v.state.stage ≠ .relay →
      Act.passedOn .target ((run c.start es).acts sid) = []) ∧
    (∀ pre reply post, (run c.start es).acts sid = pre ++ .prepared reply :: post →
      Act.toClient pre = (Act.replies pre).flatMap Reply.bytes) ∧
    (∀ pre post, (run c.start es).acts sid = pre ++ post → Refused pre →
      Act.passedOn .target pre = [] ∧ Act.replies post = [] ∧ Act.passedOn .target post = []) ∧
    (Refused ((run c.start es).acts sid) →
      Act.toClient ((run c.start es).acts sid) = (Act.replies ((run c.start es).acts sid)).flatMap Reply.bytes →
      (run c.start es).life sid = .gone) := by
  refine ⟨fun pre post he => ?_, fun reply _ => reply.bytes_length, fun v hl hst => ?_, fun pre reply post he => ?_,
    fun pre post he hr => ?_, fun hr hall => ?_⟩
  · obtain ⟨d, _, h, _⟩ := run_dialogue_cut c es sid he
    have hcausal := run_passedOn_of_received c es .target he
    rw [← Act.sentClients_eq] at hcausal ⊢
    refine ⟨?_, h.script.orderly, h.granted⟩
    rw [h.spoken]
    by_cases hc : Act.sentClients pre = []
    · rw [hc, List.append_nil]
      exact h.replies_prefix.trans (List.prefix_append _ _)
    · rw [(h.granted hc).1]
      exact (List.prefix_append_right_inj _).mpr hcausal
  · obtain ⟨d, hd, hs⟩ := run_dialogue c es sid
    rw [hl] at hs
    rw [← Act.sentClients_eq]
    refine (Heard.start.of_hears hd).silent ?_
    intro ht
    have htalk := hs.talk
    rw [ht] at htalk
    exact hst htalk.relay
  · obtain ⟨d, d', h, hpost⟩ := run_dialogue_cut c es sid he
    obtain ⟨d1, h1, _⟩ := Option.bind_eq_some_iff.mp hpost
    rw [Dialogue.hear] at h1
    split at h1
    · rename_i hp
      obtain ⟨talk, ht, _⟩ := Option.map_eq_some_iff.mp h1
      rw [h.spoken, h.silent (Talk.ne_served_of_reply ht), h.said, hp]
    · cases h1
  · obtain ⟨d, d', h, hpost⟩ := run_dialogue_cut c es sid he
    have hover := h.refusing hr
    obtain ⟨h1, h2⟩ := Dialogue.hears_refusing hpost hover
    rw [← Act.sentClients_eq, ← Act.sentClients_eq]
    exact ⟨h.silent hover.ne_served, h1, h2⟩
  · obtain ⟨d, hd, hs⟩ := run_dialogue c es sid
    have h := Heard.start.of_hears hd
    rw [List.nil_append] at h
    have hover := h.refusing hr
    have hready := (run_inv c es).ready sid
    rw [h.spoken, h.silent hover.ne_served, List.append_nil, h.said] at hall
    have hall := List.self_eq_append_right.mp hall
    cases hlife : (run c.start es).life sid with
    | gone => rfl
    | unborn =>
      rw [hlife] at hs
      cases hs
      rcases hover with h | ⟨_, h, _⟩ <;> cases h
    | live v =>
      rw [hlife] at hs hready
      have ha := hready.awake
      unfold View.Awake at ha
      rw [hs.talk.closing hover] at ha
      have hlt : v.state.writeOff < v.state.writeBuffer.length := ha.1
      rw [hs.pending, List.drop_eq_nil_iff] at hall
      omega

end Run

end SocksProxy
