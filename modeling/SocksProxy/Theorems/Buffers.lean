import SocksProxy.Runs
import SocksProxy.Theorems.ConnectGrammar
import SocksProxy.Theorems.Negotiation

/-!
# The buffers of a handshake

Nothing compares the bytes of a handshake with the capacity of `read_buffer`. They fit all the same: each of the three messages
is decided once its longest form has arrived, whatever lengths the client announces, so that the bytes still waited on are few.
-/

namespace SocksProxy

/-- A greeting still waited on. -/
theorem length_of_greeting_wait {users : ManagedUsers} {b : List Byte} (h : greetingVerdict users b = .wait) :
    b.length ≤ 256 := by
  match b with
  | [] => exact Nat.zero_le _
  | [_] => exact Nat.le_of_ble_eq_true rfl
  | version :: nmethods :: rest =>
    have hn := nmethods.toNat_lt
    unfold greetingVerdict at h
    dsimp only at h
    split at h
    · cases h
    · split at h
      · rw [List.length_cons, List.length_cons]
        omega
      · cases h

/-- The beginning of an authentication: at least its last byte is missing. -/
theorem Unfinished.length {b : List Byte} (h : Unfinished b) : b.length ≤ 512 := by
  obtain hlt | ⟨m, hpre, hne⟩ := h
  · omega
  · have hlt : b.length < m.encode.length :=
      lt_of_le_of_ne hpre.length_le fun he => hne (hpre.eq_of_length he)
    have hname := m.username_fits
    have hpassword := m.password_fits
    have hlen : m.encode.length = 3 + m.username.length + m.password.length := by
      simp only [AuthMessage.encode, List.length_cons, List.length_append]
      omega
    omega

/-- A request still waited on. -/
theorem Awaits.length {b : List Byte} (h : Awaits b) : b.length ≤ 261 := by
  have hlen := (b.getD 4 0).toNat_lt
  obtain h | ⟨_, h⟩ | ⟨_, h | h⟩ | ⟨_, h⟩ := h <;> omega

/-- The bytes of a message still waited on are at most as many as the longest authentication has before its last. -/
theorem length_of_wait {users : ManagedUsers} {stage : ClientStage} {b : List Byte}
    (hstage : stage = .greeting ∨ stage = .auth ∨ stage = .request) (h : verdict users stage b = .wait) : b.length ≤ 512 := by
  unfold verdict at h
  obtain rfl | rfl | rfl := hstage <;> dsimp only at h
  · have := length_of_greeting_wait h
    omega
  · have hu : Unfinished b := by
      by_contra hu
      obtain ⟨outcome, hv⟩ := authVerdict_of_finished users hu
      rw [hv] at h
      cases h
    exact hu.length
  · have ha : Awaits b := by
      rw [requestVerdict_eq] at h
      unfold connectGrammar at h
      split at h
      · assumption
      · split at h <;> cases h
    have := ha.length
    omega

/-- What every session's buffers of the handshake hold. -/
def Life.Fits : Life → Prop
  | .live v => v.state.readLen ≤ 512 ∧ v.state.writeLen ≤ 10
  | _ => True

/-- A reply has ten bytes at most. -/
theorem Reply.length_bytes (reply : Reply) : reply.bytes.length ≤ 10 := by
  cases reply <;> exact Nat.le_of_ble_eq_true rfl

/-- A session that tried addresses holds what it held, or a reply. -/
theorem fits_connects {v v' : View} {st : ClientState} {l : List AddrInfo} {acts : List Act} (h : Connects v st l acts v')
    (hst : st.readLen ≤ 512 ∧ st.writeLen ≤ 10) : (Life.live v').Fits := by
  obtain ⟨_, _, e, ⟨_, _, _, _, _, rfl⟩ | ⟨_, rfl, _, rfl⟩⟩ := h.eq
  · exact hst
  · exact ⟨hst.1, Reply.length_bytes (.request (socks5ReplyForErrno e))⟩

/-- A session whose request was begun holds what it had to send, or a reply, and has consumed the request. -/
theorem fits_begins {v v' : View} {st : ClientState} {r : Socks5Request} {acts : List Act} (h : Begins v st r acts v')
    (hst : st.writeLen ≤ 10) : (Life.live v').Fits := by
  obtain ⟨host, hb⟩ := st.beginning_eq r
  cases h with
  | resolving =>
    rw [hb]
    exact ⟨Nat.zero_le _, hst⟩
  | unresolved => exact ⟨Nat.zero_le _, Reply.length_bytes (.request socks5ReplyGeneralFailure)⟩
  | connecting =>
    rw [hb]
    exact ⟨Nat.zero_le _, hst⟩
  | @unconnected e => exact ⟨Nat.zero_le _, Reply.length_bytes (.request (socks5ReplyForErrno e))⟩

/-- Every step of a session's life keeps its buffers within these bounds. -/
theorem SessionStep.fits {env : Env} {L L' : Life} {acts : List Act} (h : SessionStep env L acts L') (hL : L.Fits) :
    L'.Fits := by
  cases h with
  | accepted => exact ⟨Nat.zero_le _, Nat.zero_le _⟩
  | never => trivial
  | closed => trivial
  | clientEnded => trivial
  | targetEnded => trivial
  | connectDone => exact hL
  | waits _ _ _ _ hstage hwait => exact ⟨length_of_wait hstage hwait, hL.2⟩
  | hungUp => trivial
  | @greeted _ _ method => exact ⟨Nat.zero_le _, Reply.length_bytes (.greeting method)⟩
  | authenticated => exact ⟨Nat.zero_le _, Reply.length_bytes (.auth socks5AuthSuccess)⟩
  | unauthenticated => exact ⟨Nat.zero_le _, Reply.length_bytes (.auth socks5AuthFailure)⟩
  | @rejected _ _ code => exact ⟨Nat.zero_le _, Reply.length_bytes (.request code)⟩
  | begun _ _ _ _ _ _ hb => exact fits_begins hb hL.2
  | @unresolved _ status => exact ⟨hL.1, Reply.length_bytes (.request (socks5ReplyForGaiError status))⟩
  | resolved _ _ _ hc => exact fits_connects hc hL
  | connected => exact ⟨hL.1, Reply.length_bytes (.request socks5ReplySuccess)⟩
  | unconnected _ _ _ hc => exact fits_connects hc hL
  | replyBlocked => exact hL
  | replySent => exact ⟨hL.1, Nat.zero_le _⟩
  | replySentClosing => trivial
  | relayStarts => exact ⟨hL.1, Nat.zero_le _⟩
  | fromClient => exact hL
  | toTargetBlocked => exact hL
  | toTarget => exact hL
  | fromTarget => exact hL
  | toClientBlocked => exact hL
  | toClient => exact hL

/-- A session that is ready has sent no more of its reply than there is. -/
theorem View.Ready.writeOff_le {v : View} (h : v.Ready) : v.state.writeOff ≤ v.state.writeLen := by
  have hnone : v.state.writeOff = 0 → v.state.writeOff ≤ v.state.writeLen := by
    intro h0
    rw [h0]
    exact Nat.zero_le _
  have ha := h.awake
  unfold View.Awake at ha
  split at ha
  · exact hnone ha.2.1
  · exact ha.elim (fun ha => hnone ha.2.1) fun ha => Nat.le_of_lt ha.1
  · exact ha.elim (fun ha => hnone ha.2.1) fun ha => Nat.le_of_lt ha.1
  · exact hnone ha.2.1
  · exact hnone ha.1.2.1
  · split at ha
    · exact hnone ha.2.1
    · exact Nat.le_of_lt ha.1.1
  · exact Nat.le_of_lt ha.1

/-- In every state of every run, whatever chunks arrived, a session waits with 512 bytes at most. So there is room for more, what
`recv` delivers fits, and bytes on the wire are never taken for the end of the stream. Its reply fits its buffer as well. -/
theorem buffers_fit (c : Config) (es : List Event) (sid : Nat) (state : ClientState)
    (h : (run c.start es).sessions sid = some state) :
    state.readLen ≤ 512 ∧ 0 < serverBufferSize - state.readLen ∧
    (∀ bytes, bytes ≠ [] → ∃ chunk, chunk ≠ [] ∧ (RecvResult.data bytes).limit (serverBufferSize - state.readLen) = .data chunk ∧
      state.readLen + chunk.length ≤ serverBufferSize) ∧
    state.writeOff ≤ state.writeLen ∧ state.writeLen ≤ serverBufferSize := by
  have hlife := Server.life_of_some h
  have hfits : ((run c.start es).life sid).Fits :=
    run_session c (P := fun _ L => L.Fits) (fun _ _ => True) sid trivial
      (fun _ _ _ _ _ _ _ hL _ hstep => hstep.fits hL) es fun _ _ _ _ => trivial
  have hready := (run_inv c es).ready sid
  rw [hlife] at hfits hready
  obtain ⟨hread, hwrite⟩ := hfits
  change state.readLen ≤ 512 at hread
  change state.writeLen ≤ 10 at hwrite
  have hroom : 0 < serverBufferSize - state.readLen := by
    unfold serverBufferSize
    omega
  refine ⟨hread, hroom, fun bytes hne => ?_, hready.writeOff_le, by unfold serverBufferSize; omega⟩
  have hchunk : bytes.take (serverBufferSize - state.readLen) ≠ [] := by
    rw [ne_eq, List.take_eq_nil_iff, not_or]
    exact ⟨by omega, hne⟩
  refine ⟨_, hchunk, by rw [RecvResult.limit, if_neg hchunk], ?_⟩
  rw [List.length_take]
  omega

/-- A client that has sent the first byte of its greeting. -/
def firstByte : List Event := [.read 3 { accepts := [.accepted 5 .ok true] }, .read 5 { recv := .data [5] }]

/-- The bounds hold of this client. -/
theorem buffers_fit_first : ∃ state, (run (Config.first .zeroed).start firstByte).sessions 0 = some state ∧
    state.readLen ≤ 512 ∧ state.writeLen ≤ serverBufferSize := by
  have hs := (Option.some_get (x := (run (Config.first .zeroed).start firstByte).sessions 0) (by decide +kernel)).symm
  obtain ⟨hread, _, _, _, hwrite⟩ := buffers_fit (Config.first .zeroed) firstByte 0 _ hs
  exact ⟨_, hs, hread, hwrite⟩

end SocksProxy
