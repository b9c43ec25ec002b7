import SocksProxy.Theorems.ConnectGrammar
import SocksProxy.Theorems.Negotiation

/-!
# The messages of the handshake

Where a message ends, by the form of the three of them, and what the verdicts have to do with it: bytes on which the session goes
on begin with a whole message, and bytes that are decided stay decided, and in the same way, whatever follows them.
-/

namespace SocksProxy

/-- The bytes are a whole message of a stage: a greeting with its methods, an authentication, or a CONNECT request. -/
def Complete (stage : ClientStage) (b : List Byte) : Prop :=
  match stage with
  | .greeting => ∃ methods : List Byte, methods.length ≤ 255 ∧ b = 0x05 :: UInt8.ofNat methods.length :: methods
  | .auth => ∃ m : AuthMessage, b = m.encode
  | .request => ∃ q : ConnectRequest, b = q.encode
  | _ => False

/-- How long a message of a stage is, from the lengths and the address type at its head. -/
def messageLength (stage : ClientStage) (b : List Byte) : Nat :=
  match stage with
  | .greeting => 2 + (b.getD 1 0).toNat
  | .auth => 3 + (b.getD 1 0).toNat + (b.getD (2 + (b.getD 1 0).toNat) 0).toNat
  | .request => if b.getD 3 0 = 0x01 then 10 else if b.getD 3 0 = 0x04 then 22 else 7 + (b.getD 4 0).toNat
  | _ => 0

/-- Whatever follows a message, its head says how long it is. -/
theorem Complete.length_eq {stage : ClientStage} {message : List Byte} (h : Complete stage message) (more : List Byte) :
    messageLength stage (message ++ more) = message.length := by
  cases stage with
  | greeting =>
    obtain ⟨methods, hlen, rfl⟩ := h
    show 2 + (UInt8.ofNat methods.length).toNat = methods.length + 2
    rw [toNat_ofNat_length hlen, Nat.add_comm]
  | auth =>
    obtain ⟨m, rfl⟩ := h
    have hn := toNat_ofNat_length m.username_fits
    have hp := toNat_ofNat_length m.password_fits
    have hat : (m.encode ++ more).getD (2 + m.username.length) 0 = UInt8.ofNat m.password.length := by
      rw [Nat.add_comm]
      simp [AuthMessage.encode, List.getD_eq_getElem?_getD]
    show 3 + (UInt8.ofNat m.username.length).toNat +
      ((m.encode ++ more).getD (2 + (UInt8.ofNat m.username.length).toNat) 0).toNat = m.encode.length
    rw [hn, hat, hp]
    simp only [AuthMessage.encode, List.length_cons, List.length_append]
    omega
  | request =>
    obtain ⟨⟨destination, port⟩, rfl⟩ := h
    cases destination with
    | ipv4 addr size =>
      simp [messageLength, ConnectRequest.encode, Destination.encode, portBytes, size]
    | ipv6 addr size =>
      simp [messageLength, ConnectRequest.encode, Destination.encode, portBytes, size]
    | domain name nonempty fits =>
      have hn := toNat_ofNat_length fits
      simp [messageLength, ConnectRequest.encode, Destination.encode, portBytes, -UInt8.toNat_ofNat', hn]
      omega
  | _ => cases h

/-- No message begins another. -/
theorem Complete.unique {stage : ClientStage} {m m' more more' : List Byte} (h : Complete stage m) (h' : Complete stage m')
    (he : m ++ more = m' ++ more') : m = m' ∧ more = more' := by
  refine List.append_inj he ?_
  rw [← h.length_eq more, he, h'.length_eq]

/-- On such a verdict the session goes on to its next stage. -/
def Verdict.accepts : Verdict → Bool
  | .greet method => stageAfterMethod method ≠ .closing
  | .authenticate username => username.isSome
  | .request _ => true
  | _ => false

section Verdicts

variable {users : ManagedUsers} {stage : ClientStage} {b : List Byte}

/-- The verdict on a greeting that is as long as it says. -/
theorem greetingVerdict_of_le {n : Byte} {rest : List Byte} (h : n.toNat ≤ rest.length) :
    greetingVerdict users (0x05 :: n :: rest) = .greet (chosenMethod users (rest.take n.toNat)) := by
  unfold greetingVerdict
  dsimp only
  rw [if_neg (show ¬(0x05 : Byte) ≠ socks5Version from not_not_intro rfl), if_neg (Nat.not_lt.mpr h)]

/-- What a verdict on a greeting says, if it is not to wait. -/
theorem greetingVerdict_decided (h : greetingVerdict users b ≠ .wait) :
    (∃ version n rest, b = version :: n :: rest ∧ version ≠ socks5Version ∧ greetingVerdict users b = .hangUp) ∨
    ∃ n rest, b = 0x05 :: n :: rest ∧ n.toNat ≤ rest.length := by
  match b with
  | [] => exact absurd rfl h
  | [_] => exact absurd rfl h
  | version :: n :: rest =>
    by_cases hv : version = socks5Version
    · subst hv
      refine .inr ⟨n, rest, rfl, Nat.not_lt.mp fun hlt => h ?_⟩
      unfold greetingVerdict
      dsimp only
      rw [if_neg (not_not_intro rfl), if_pos hlt]
    · refine .inl ⟨version, n, rest, rfl, hv, ?_⟩
      unfold greetingVerdict
      dsimp only
      rw [if_pos hv]

/-- A greeting that is decided stays decided. -/
theorem greetingVerdict_append (h : greetingVerdict users b ≠ .wait) (more : List Byte) :
    greetingVerdict users (b ++ more) = greetingVerdict users b := by
  obtain ⟨version, n, rest, rfl, hv, -⟩ | ⟨n, rest, rfl, hn⟩ := greetingVerdict_decided h
  · unfold greetingVerdict
    dsimp only [List.cons_append]
    rw [if_pos hv, if_pos hv]
  · rw [List.cons_append, List.cons_append, greetingVerdict_of_le hn,
      greetingVerdict_of_le (by rw [List.length_append]; omega), List.take_append_of_le_length hn]

/-- The octets of a request that the grammar looks at are there once it does not wait. -/
theorem awaits_append (h : ¬Awaits b) (more : List Byte) : ¬Awaits (b ++ more) := by
  have hlen := four_le_of_not_awaits h
  have h3 : (b ++ more)[3]? = b[3]? := List.getElem?_append_left (by omega)
  unfold Awaits at h ⊢
  rw [h3, List.length_append]
  intro hw
  refine h ?_
  obtain hw | ⟨h1, hw⟩ | ⟨h1, hw⟩ | ⟨h1, hw⟩ := hw
  · exact .inl (by omega)
  · exact .inr (.inl ⟨h1, by omega⟩)
  · by_cases h5 : b.length < 5
    · exact .inr (.inr (.inl ⟨h1, .inl h5⟩))
    · have hat : (b ++ more).getD 4 0 = b.getD 4 0 := by
        rw [List.getD_eq_getElem?_getD, List.getD_eq_getElem?_getD, List.getElem?_append_left (by omega)]
      rw [hat] at hw
      exact .inr (.inr (.inl ⟨h1, .inr (by omega)⟩))
  · exact .inr (.inr (.inr ⟨h1, by omega⟩))

/-- A fault that was found is still the first. -/
theorem rejection_append (h : ¬Awaits b) (more : List Byte) : rejection (b ++ more) = rejection b := by
  have hlen := four_le_of_not_awaits h
  have hhead : ∀ i < 4, (b ++ more)[i]? = b[i]? := fun i hi => List.getElem?_append_left (by omega)
  have hname : (b[3]? = some 0x03 ∧ (b ++ more)[4]? = some 0x00) ↔ (b[3]? = some 0x03 ∧ b[4]? = some 0x00) := by
    refine and_congr_right fun h3 => ?_
    by_cases h5 : b.length < 5
    · exact absurd (.inr (.inr (.inl ⟨h3, .inl h5⟩))) h
    · rw [List.getElem?_append_left (by omega)]
  unfold rejection
  rw [hhead 0 (by omega), hhead 1 (by omega), hhead 2 (by omega), hhead 3 (by omega)]
  simp only [hname]

/-- A request that is decided stays decided. -/
theorem requestVerdict_append (h : requestVerdict b ≠ .wait) (more : List Byte) :
    requestVerdict (b ++ more) = requestVerdict b := by
  rw [requestVerdict_eq] at h
  rw [requestVerdict_eq, requestVerdict_eq]
  have hin : ¬Awaits b := by
    intro hw
    refine h ?_
    unfold connectGrammar
    rw [if_pos hw]
  cases hv : connectGrammar b with
  | request r =>
    obtain ⟨q, trailing, rfl, rfl⟩ := encode_of_connectGrammar hv
    rw [List.append_assoc, connectGrammar_encode]
  | _ =>
    unfold connectGrammar at hv ⊢
    rw [if_neg hin] at hv
    rw [if_neg (awaits_append hin more), rejection_append hin more]
    cases hrej : rejection b with
    | none =>
      rw [hrej] at hv
      cases hv
    | some code =>
      rw [hrej] at hv
      exact hv

/-- Bytes that are decided stay decided, in every stage. -/
theorem verdict_append (h : verdict users stage b ≠ .wait) (more : List Byte) :
    verdict users stage (b ++ more) = verdict users stage b := by
  cases stage with
  | greeting => exact greetingVerdict_append h more
  | auth => exact authVerdict_append users (fun hu => h (authVerdict_of_unfinished users hu)) more
  | request => exact requestVerdict_append h more
  | _ => exact absurd rfl h

/-- Bytes on which the session goes on begin with a whole message. -/
theorem complete_of_accepts (h : (verdict users stage b).accepts = true) :
    ∃ message surplus, b = message ++ surplus ∧ Complete stage message := by
  cases stage with
  | greeting =>
    have hv : (greetingVerdict users b).accepts = true := h
    have hdecided : greetingVerdict users b ≠ .wait := by
      intro hw
      rw [hw] at hv
      cases hv
    obtain ⟨_, _, _, _, _, hup⟩ | ⟨n, rest, rfl, hn⟩ := greetingVerdict_decided hdecided
    · rw [hup] at hv
      cases hv
    · have hn' := n.toNat_lt
      have hlen : (rest.take n.toNat).length = n.toNat := List.length_take_of_le hn
      refine ⟨0x05 :: n :: rest.take n.toNat, rest.drop n.toNat, ?_, rest.take n.toNat, by omega, ?_⟩
      · rw [List.cons_append, List.cons_append, List.take_append_drop]
      · rw [hlen, UInt8.ofNat_toNat]
  | auth =>
    change (authVerdict users b).accepts = true at h
    obtain hw | ⟨username, hv⟩ := authVerdict_cases users b
    · rw [hw] at h
      cases h
    · cases username with
      | none =>
        rw [hv] at h
        cases h
      | some username =>
        obtain ⟨m, ⟨⟨surplus, rfl⟩, -⟩, -⟩ := authenticates_of_authVerdict hv
        exact ⟨m.encode, surplus, rfl, m, rfl⟩
  | request =>
    change (requestVerdict b).accepts = true at h
    obtain hw | ⟨code, hc⟩ | ⟨r, hr⟩ := requestVerdict_cases b
    · rw [hw] at h
      cases h
    · rw [hc] at h
      cases h
    · rw [requestVerdict_eq] at hr
      obtain ⟨q, surplus, rfl, -⟩ := encode_of_connectGrammar hr
      exact ⟨q.encode, surplus, rfl, q, rfl⟩
  | _ => cases h

end Verdicts

end SocksProxy
