import SocksProxy.Machine
import SocksProxy.ClientSession

/-!
# The verdicts and the code

The read handler of a client acts, in each stage of the handshake, on the verdict on the bytes received so far. In particular it
never reads outside them.
-/

namespace SocksProxy

/-- A slice inside the buffer. -/
theorem slice_of_le {buffer : List Byte} {off len : Nat} (h : off + len ≤ buffer.length) :
    slice buffer off len = some ((buffer.drop off).take len) := by
  simp [slice, h]

/-- The stage that follows the method chosen. -/
theorem stageAfterMethod_chosenMethod (users : ManagedUsers) (methods : List Byte) :
    stageAfterMethod (chosenMethod users methods) =
      if socks5ClientOffersUsernamePassword methods then .auth
      else if !authIsRequired users ∧ socks5ClientOffersNoAuth methods then .request
      else .closing := by
  unfold chosenMethod
  split
  · rfl
  · split <;> rfl

/-- The greeting is answered according to its verdict. -/
theorem clientReadGreeting_eq (s : Server) (key : SelectorKey Nat) (sid : Nat) (state : ClientState) :
    clientReadGreeting s key sid state =
      match greetingVerdict s.managedUsers state.readBuffer with
      | .hangUp => (s.unregister key.fd).1
      | .greet method =>
        (s.prepareReply sid { state with stage := stageAfterMethod method, readBuffer := [] } (.greeting method)).setInterest
          key.fd opWrite
      | _ => s := by
  unfold clientReadGreeting ClientState.readLen
  match hb : state.readBuffer with
  | [] => simp [greetingVerdict]
  | [_] => simp [greetingVerdict]
  | version :: nmethods :: rest =>
    have hlen : ¬rest.length + 1 + 1 < 2 := by omega
    simp only [List.length_cons, hlen, if_false, List.getElem?_cons_zero, List.getElem?_cons_succ, greetingVerdict]
    by_cases hv : version = socks5Version
    · by_cases hl : rest.length < nmethods.toNat
      · have : rest.length + 1 + 1 < 2 + nmethods.toNat := by omega
        simp [hv, hl, this]
      · have hge : ¬rest.length + 1 + 1 < 2 + nmethods.toNat := by omega
        rw [slice_of_le (by simp; omega)]
        simp only [hv, ne_eq, not_true_eq_false, hge, or_self, if_false, hl, List.drop_succ_cons, List.drop_zero,
          stageAfterMethod_chosenMethod]
        unfold chosenMethod
        by_cases hp : socks5ClientOffersUsernamePassword (rest.take nmethods.toNat) = true
        · simp only [hp, if_true]
        · by_cases hn : (!authIsRequired s.managedUsers) = true ∧ socks5ClientOffersNoAuth (rest.take nmethods.toNat) = true
          · simp only [hp, Bool.false_eq_true, if_false, hn, and_self, if_true]
          · simp only [hp, Bool.false_eq_true, if_false, hn]
    · simp [hv]

/-- A greeting is waited for, hung up on, or greeted. -/
theorem greetingVerdict_cases (users : ManagedUsers) (buffer : List Byte) :
    greetingVerdict users buffer = .wait ∨ greetingVerdict users buffer = .hangUp ∨
      ∃ method, greetingVerdict users buffer = .greet method := by
  unfold greetingVerdict
  split
  · split
    · exact .inr (.inl rfl)
    · split
      · exact .inl rfl
      · exact .inr (.inr ⟨_, rfl⟩)
  · exact .inl rfl

/-- An authentication is waited for or answered. -/
theorem authVerdict_cases (users : ManagedUsers) (buffer : List Byte) :
    authVerdict users buffer = .wait ∨ ∃ username, authVerdict users buffer = .authenticate username := by
  unfold authVerdict
  split
  · split
    · exact .inr ⟨_, rfl⟩
    · split
      · exact .inl rfl
      · split
        · exact .inl rfl
        · split <;> exact .inr ⟨_, rfl⟩
  · exact .inl rfl

/-- A request is waited for, rejected or begun. -/
theorem requestVerdict_cases (buffer : List Byte) :
    requestVerdict buffer = .wait ∨ (∃ code, requestVerdict buffer = .reject code) ∨ ∃ r, requestVerdict buffer = .request r := by
  unfold requestVerdict
  split
  · exact .inl rfl
  · split
    · exact .inr (.inr ⟨_, rfl⟩)
    · split
      · exact .inr (.inl ⟨_, rfl⟩)
      · exact .inl rfl

/-- What `auth_parse_request` makes of the bytes received, as a verdict. -/
theorem authParseRequest_eq (users : ManagedUsers) (state : ClientState) :
    authParseRequest users state =
      match authVerdict users state.readBuffer with
      | .authenticate (some username) => some (true, true, { state with username })
      | .authenticate none => some (true, false, state)
      | _ => some (false, false, state) := by
  unfold authParseRequest ClientState.readLen
  match hb : state.readBuffer with
  | [] => simp [authVerdict]
  | [_] => simp [authVerdict]
  | version :: usernameLen :: rest =>
    have hlen : ¬rest.length + 1 + 1 < 2 := by omega
    simp only [List.length_cons, hlen, if_false, List.getElem?_cons_zero, List.getElem?_cons_succ, authVerdict,
      Option.bind_eq_bind, Option.bind_some]
    by_cases hv : version = socks5AuthVersion
    · simp only [hv, ne_eq, not_true_eq_false, if_false]
      match hd : rest.drop usernameLen.toNat with
      | [] =>
        have hle : rest.length ≤ usernameLen.toNat := by simpa [List.drop_eq_nil_iff] using hd
        rw [if_pos (by omega)]
      | passwordLen :: rest' =>
        have hlt : usernameLen.toNat < rest.length := by
          by_contra h
          rw [List.drop_eq_nil_iff.mpr (by omega)] at hd
          cases hd
        have hlen' : rest.length = usernameLen.toNat + 1 + rest'.length := by
          have := congrArg List.length hd
          simp only [List.length_drop, List.length_cons] at this
          omega
        have hget : (version :: usernameLen :: rest)[2 + usernameLen.toNat]? = some passwordLen := by
          have : 2 + usernameLen.toNat = usernameLen.toNat + 2 := by omega
          rw [this, List.getElem?_cons_succ, List.getElem?_cons_succ, ← List.head?_drop, hd]
          rfl
        have hdrop : (version :: usernameLen :: rest).drop (2 + usernameLen.toNat + 1) = rest' := by
          have : 2 + usernameLen.toNat + 1 = 1 + usernameLen.toNat + 2 := by omega
          rw [this, List.drop_succ_cons, List.drop_succ_cons, Nat.add_comm 1, ← List.drop_drop, hd]
          rfl
        rw [if_neg (by omega), ← hv, hget]
        simp only [Option.bind_some]
        by_cases hp : rest'.length < passwordLen.toNat
        · rw [if_pos (by omega), if_pos hp]
        · rw [if_neg (by omega), if_neg hp, slice_of_le (by simp; omega), slice_of_le (by simp; omega), hdrop]
          simp only [Option.bind_some, List.drop_succ_cons, List.drop_zero]
          by_cases hc : usersCredentialsAreValid users (rest.take usernameLen.toNat) (rest'.take passwordLen.toNat) = true
          · simp only [hc, if_true]
          · simp only [hc, Bool.false_eq_true, if_false]
    · simp [hv]

/-- The authentication is answered according to its verdict. -/
theorem clientReadAuth_eq (s : Server) (key : SelectorKey Nat) (sid : Nat) (state : ClientState) :
    clientReadAuth s key sid state =
      match authVerdict s.managedUsers state.readBuffer with
      | .authenticate (some username) =>
        (s.prepareReply sid { state with username, stage := .request, readBuffer := [] } (.auth socks5AuthSuccess)).setInterest
          key.fd opWrite
      | .authenticate none =>
        (s.prepareReply sid { state with stage := .closing, readBuffer := [] } (.auth socks5AuthFailure)).setInterest
          key.fd opWrite
      | _ => s := by
  unfold clientReadAuth
  rw [authParseRequest_eq]
  cases authVerdict s.managedUsers state.readBuffer with
  | authenticate username => cases username <;> rfl
  | _ => rfl

/-- Whether a request of four bytes or more is complete is decided by bytes that were received. -/
theorem socks5RequestIsIncomplete_isSome {buffer : List Byte} (h : 4 ≤ buffer.length) :
    ∃ b, socks5RequestIsIncomplete buffer = some b := by
  have h3 : buffer[3]? = some buffer[3] := List.getElem?_eq_getElem (by omega)
  unfold socks5RequestIsIncomplete
  rw [if_neg (by omega), h3]
  simp only [Option.bind_eq_bind, Option.bind_some]
  split
  · exact ⟨_, rfl⟩
  · split
    · exact ⟨_, rfl⟩
    · split
      · split
        · exact ⟨_, rfl⟩
        · have h4 : buffer[4]? = some buffer[4] := List.getElem?_eq_getElem (by omega)
          rw [h4]
          exact ⟨_, rfl⟩
      · exact ⟨_, rfl⟩

/-- The reply to a request of four bytes or more is decided by bytes that were received; it is success only for a request that
is complete. -/
theorem socks5RequestReplyFor_isSome {buffer : List Byte} (h : 4 ≤ buffer.length) :
    ∃ code, socks5RequestReplyFor buffer = some code ∧
      (code = socks5ReplySuccess → socks5RequestIsIncomplete buffer = some false) := by
  have h0 : buffer[0]? = some buffer[0] := List.getElem?_eq_getElem (by omega)
  have h1 : buffer[1]? = some buffer[1] := List.getElem?_eq_getElem (by omega)
  have h2 : buffer[2]? = some buffer[2] := List.getElem?_eq_getElem (by omega)
  have h3 : buffer[3]? = some buffer[3] := List.getElem?_eq_getElem (by omega)
  obtain ⟨b, hb⟩ := socks5RequestIsIncomplete_isSome h
  unfold socks5RequestReplyFor
  rw [if_neg (by omega), h0, h1, h2, h3, hb]
  simp only [Option.bind_eq_bind, Option.bind_some]
  split
  · exact ⟨_, rfl, fun h => absurd h (by decide)⟩
  · split
    · exact ⟨_, rfl, fun h => absurd h (by decide)⟩
    · split
      · exact ⟨_, rfl, fun h => absurd h (by decide)⟩
      · cases b with
        | true => exact ⟨_, rfl, fun h => absurd h (by decide)⟩
        | false => exact ⟨_, rfl, fun _ => rfl⟩

/-- A request whose reply is not success is not parsed. -/
theorem socks5ParseConnectRequest_of_ne {buffer : List Byte} {code : Byte} (h : socks5RequestReplyFor buffer = some code)
    (hc : code ≠ socks5ReplySuccess) : socks5ParseConnectRequest buffer = some none := by
  simp [socks5ParseConnectRequest, h, hc]

/-- A request whose reply is success is parsed from bytes that were received. -/
theorem socks5ParseConnectRequest_isSome {buffer : List Byte} (h : 4 ≤ buffer.length)
    (hr : socks5RequestReplyFor buffer = some socks5ReplySuccess) : ∃ r, socks5ParseConnectRequest buffer = some r := by
  have h3 : buffer[3]? = some buffer[3] := List.getElem?_eq_getElem (by omega)
  obtain ⟨code, hc, hi⟩ := socks5RequestReplyFor_isSome h
  rw [hr] at hc
  have hi := hi (Option.some.inj hc).symm
  unfold socks5RequestIsIncomplete at hi
  rw [if_neg (by omega), h3] at hi
  simp only [Option.bind_eq_bind, Option.bind_some] at hi
  unfold socks5ParseConnectRequest
  rw [hr, h3]
  simp only [Option.bind_eq_bind, Option.bind_some, ne_eq, not_true_eq_false, if_false]
  by_cases ha4 : buffer[3] = socks5AtypIpv4
  · have hlen : 10 ≤ buffer.length := by
      rw [if_pos ha4, Option.some.injEq, decide_eq_false_iff_not, socks5Ipv4RequestSize] at hi
      omega
    rw [if_pos ha4, List.getElem?_eq_getElem (show 8 < buffer.length by omega),
      List.getElem?_eq_getElem (show 9 < buffer.length by omega), slice_of_le (by omega)]
    exact ⟨_, rfl⟩
  · rw [if_neg ha4] at hi ⊢
    by_cases ha6 : buffer[3] = socks5AtypIpv6
    · have hlen : 22 ≤ buffer.length := by
        rw [if_pos ha6, Option.some.injEq, decide_eq_false_iff_not, socks5Ipv6RequestSize] at hi
        omega
      rw [if_pos ha6, List.getElem?_eq_getElem (show 20 < buffer.length by omega),
        List.getElem?_eq_getElem (show 21 < buffer.length by omega), slice_of_le (by omega)]
      exact ⟨_, rfl⟩
    · rw [if_neg ha6] at hi ⊢
      by_cases had : buffer[3] = socks5AtypDomain
      · rw [if_pos had] at hi ⊢
        split at hi
        · cases hi
        · have h4 : buffer[4]? = some buffer[4] := List.getElem?_eq_getElem (by omega)
          rw [h4] at hi ⊢
          simp only [Option.bind_some, Option.some.injEq, decide_eq_false_iff_not, Nat.not_lt] at hi ⊢
          split
          · exact ⟨_, rfl⟩
          · rw [slice_of_le (by omega),
              List.getElem?_eq_getElem (show 5 + buffer[4].toNat < buffer.length by omega),
              List.getElem?_eq_getElem (show 5 + buffer[4].toNat + 1 < buffer.length by omega)]
            exact ⟨_, rfl⟩
      · rw [if_neg had]
        exact ⟨_, rfl⟩

/-- The request is answered or begun according to its verdict. -/
theorem clientReadRequest_eq (s : Server) (key : SelectorKey Nat) (sid : Nat) (state : ClientState) (a : Answers) :
    clientReadRequest s key sid state a =
      match requestVerdict state.readBuffer with
      | .reject code => rejectRequest s key sid state code
      | .request r =>
        (targetConnectionBegin s key sid r a).withSession sid fun state =>
          (targetConnectionBegin s key sid r a).put sid { state with readBuffer := [] }
      | _ => s := by
  unfold clientReadRequest requestVerdict ClientState.readLen
  by_cases hlen : state.readBuffer.length < 4
  · simp [hlen]
  · have hlen' : 4 ≤ state.readBuffer.length := by omega
    obtain ⟨code, hc, hi⟩ := socks5RequestReplyFor_isSome hlen'
    obtain ⟨b, hb⟩ := socks5RequestIsIncomplete_isSome hlen'
    simp only [hlen, if_false, hc, hb, false_or]
    by_cases hcs : code = socks5ReplySuccess
    · subst hcs
      obtain ⟨r, hr⟩ := socks5ParseConnectRequest_isSome hlen' hc
      rw [hi rfl] at hb
      cases hb
      rw [hr]
      cases r <;> rfl
    · rw [socks5ParseConnectRequest_of_ne hc hcs]
      cases b <;> simp [hcs]

end SocksProxy
