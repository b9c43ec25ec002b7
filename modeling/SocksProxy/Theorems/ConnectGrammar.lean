import SocksProxy.Lemmas.Verdicts

/-!
# The grammar of a CONNECT request

The three functions that take a request apart each find its length again. Together they decide as the grammar says, at every
length, and none of them reads past the bytes received. The bytes of a request parse back to the request, whatever follows them.
-/

namespace SocksProxy

/-! ## The grammar -/

/-- The destination of a request: an address of its size, or a name whose length fits its octet. -/
inductive Destination where
  | ipv4 (addr : List Byte) (size : addr.length = 4)
  | domain (name : List Byte) (nonempty : 0 < name.length) (fits : name.length ≤ 255)
  | ipv6 (addr : List Byte) (size : addr.length = 16)

/-- A CONNECT request. -/
structure ConnectRequest where
  destination : Destination
  port : UInt16

/-- The bytes of a destination. -/
def Destination.encode : Destination → List Byte
  | .ipv4 addr _ => 0x01 :: addr
  | .domain name _ _ => 0x03 :: UInt8.ofNat name.length :: name
  | .ipv6 addr _ => 0x04 :: addr

/-- The bytes of a port, most significant first. -/
def portBytes (port : UInt16) : List Byte := [UInt8.ofNat (port.toNat / 256), UInt8.ofNat (port.toNat % 256)]

/-- The bytes of a request. -/
def ConnectRequest.encode (q : ConnectRequest) : List Byte :=
  [0x05, 0x01, 0x00] ++ q.destination.encode ++ portBytes q.port

/-- A request as the parser hands it over. -/
def ConnectRequest.parsed (q : ConnectRequest) : Socks5Request :=
  match q.destination with
  | .ipv4 addr _ => { atyp := 0x01, port := q.port, host := [], addr := .inet addr q.port }
  | .domain name _ _ => { atyp := 0x03, port := q.port, host := name, addr := .zeroed }
  | .ipv6 addr _ => { atyp := 0x04, port := q.port, host := [], addr := .inet6 addr q.port }

/-- The bytes received are fewer than a request of the form they announce has. -/
def Awaits (b : List Byte) : Prop :=
  b.length < 4 ∨ b[3]? = some 0x01 ∧ b.length < 10 ∨
  b[3]? = some 0x03 ∧ (b.length < 5 ∨ b.length < 7 + (b.getD 4 0).toNat) ∨ b[3]? = some 0x04 ∧ b.length < 22

instance (b : List Byte) : Decidable (Awaits b) := inferInstanceAs (Decidable (_ ∨ _))

/-- What is wrong with a request that is long enough, the first fault first. -/
def rejection (b : List Byte) : Option Byte :=
  if b[0]? ≠ some 0x05 ∨ b[2]? ≠ some 0x00 then some 0x01
  else if b[1]? ≠ some 0x01 then some 0x07
  else if b[3]? ≠ some 0x01 ∧ b[3]? ≠ some 0x03 ∧ b[3]? ≠ some 0x04 then some 0x08
  else if b[3]? = some 0x03 ∧ b[4]? = some 0x00 then some 0x01
  else none

/-- The port whose two bytes stand at an offset. -/
def portAt (b : List Byte) (off : Nat) : UInt16 := UInt16.ofNat (256 * (b.getD off 0).toNat + (b.getD (off + 1) 0).toNat)

/-- The request that stands at the head of the bytes. -/
def requestIn (b : List Byte) : Socks5Request :=
  let atyp := b.getD 3 0
  if atyp = 0x01 then { atyp, port := portAt b 8, host := [], addr := .inet ((b.drop 4).take 4) (portAt b 8) }
  else if atyp = 0x04 then { atyp, port := portAt b 20, host := [], addr := .inet6 ((b.drop 4).take 16) (portAt b 20) }
  else
    let len := (b.getD 4 0).toNat
    { atyp, port := portAt b (5 + len), host := (b.drop 5).take len, addr := .zeroed }

/-- The verdict of the grammar. -/
def connectGrammar (b : List Byte) : Verdict :=
  if Awaits b then .wait
  else
    match rejection b with
    | some code => .reject code
    | none => .request (requestIn b)

/-! ## The code decides as the grammar -/

/-- The two bytes of a port put together. -/
theorem bigEndian_eq (hi lo : Byte) : bigEndian hi lo = UInt16.ofNat (256 * hi.toNat + lo.toNat) := by
  have hhi := hi.toNat_lt
  have hlo := lo.toNat_lt
  have hor := Nat.shiftLeft_add_eq_or_of_lt hlo hi.toNat
  apply UInt16.toNat_inj.mp
  have hshift : (hi.toUInt16 <<< 8).toNat = hi.toNat <<< 8 := by
    rw [UInt16.toNat_shiftLeft, UInt8.toNat_toUInt16]
    show hi.toNat <<< 8 % 2 ^ 16 = _
    rw [Nat.shiftLeft_eq]
    exact Nat.mod_eq_of_lt (by omega)
  rw [bigEndian, UInt16.toNat_or, hshift, UInt8.toNat_toUInt16, ← hor, UInt16.toNat_ofNat', Nat.shiftLeft_eq]
  exact (Nat.mod_eq_of_lt (by omega)).symm ▸ (by omega)

/-- A request is incomplete exactly when the grammar waits for more. -/
theorem socks5RequestIsIncomplete_iff (b : List Byte) : socks5RequestIsIncomplete b = some true ↔ Awaits b := by
  unfold socks5RequestIsIncomplete Awaits
  by_cases h : b.length < 4
  · simp [h]
  · have h3 : b[3]? = some b[3] := List.getElem?_eq_getElem (by omega)
    rw [if_neg h, h3]
    simp only [Option.bind_eq_bind, Option.bind_some, Option.some.injEq, h, false_or]
    generalize b[3] = atyp
    by_cases ha4 : atyp = socks5AtypIpv4
    · subst ha4
      simp only [socks5AtypIpv4, socks5Ipv4RequestSize]
      simp
      exact decide_eq_true_iff
    · by_cases ha6 : atyp = socks5AtypIpv6
      · subst ha6
        simp [socks5AtypIpv4, socks5AtypIpv6, socks5Ipv6RequestSize]
        exact decide_eq_true_iff
      · by_cases had : atyp = socks5AtypDomain
        · subst had
          by_cases h5 : b.length < 5
          · simp [socks5AtypIpv4, socks5AtypIpv6, socks5AtypDomain, h5]
          · have h4 : b[4]? = some b[4] := List.getElem?_eq_getElem (by omega)
            have hlen : 5 + b[4].toNat + 2 = 7 + b[4].toNat := by omega
            simp [socks5AtypIpv4, socks5AtypIpv6, socks5AtypDomain, h5, h4, hlen]
        · rw [if_neg ha4, if_neg ha6, if_neg had]
          simp only [socks5AtypIpv4, socks5AtypIpv6, socks5AtypDomain] at ha4 ha6 had
          simp [ha4, ha6, had]

/-- A request the grammar does not wait for has the four bytes of its head. -/
theorem four_le_of_not_awaits {b : List Byte} (h : ¬Awaits b) : 4 ≤ b.length := by
  by_contra hlt
  exact h (.inl (by omega))

/-- A request the grammar does not wait for is complete. -/
theorem socks5RequestIsIncomplete_of_not_awaits {b : List Byte} (h : ¬Awaits b) :
    socks5RequestIsIncomplete b = some false := by
  obtain ⟨w, hw⟩ := socks5RequestIsIncomplete_isSome (four_le_of_not_awaits h)
  cases w with
  | false => exact hw
  | true => exact absurd ((socks5RequestIsIncomplete_iff b).mp hw) h

/-- The reply to a request that is long enough: the first fault, but for an empty name, which only the parser notices. -/
theorem socks5RequestReplyFor_eq {b : List Byte} (h : ¬Awaits b) :
    socks5RequestReplyFor b = some
      (if b[0]? ≠ some 0x05 ∨ b[2]? ≠ some 0x00 then 0x01
      else if b[1]? ≠ some 0x01 then 0x07
      else if b[3]? ≠ some 0x01 ∧ b[3]? ≠ some 0x03 ∧ b[3]? ≠ some 0x04 then 0x08
      else 0x00) := by
  have hlen := four_le_of_not_awaits h
  have h0 : b[0]? = some b[0] := List.getElem?_eq_getElem (by omega)
  have h1 : b[1]? = some b[1] := List.getElem?_eq_getElem (by omega)
  have h2 : b[2]? = some b[2] := List.getElem?_eq_getElem (by omega)
  have h3 : b[3]? = some b[3] := List.getElem?_eq_getElem (by omega)
  unfold socks5RequestReplyFor
  rw [if_neg (by omega), h0, h1, h2, h3, socks5RequestIsIncomplete_of_not_awaits h]
  simp only [Option.bind_eq_bind, Option.bind_some, ne_eq, Option.some.injEq, Bool.false_eq_true, if_false, socks5Version,
    socks5CmdConnect, socks5AtypIpv4, socks5AtypDomain, socks5AtypIpv6]
  by_cases hv : ¬b[0] = 5 ∨ ¬b[2] = 0
  · rw [if_pos hv, if_pos hv]
    rfl
  · rw [if_neg hv, if_neg hv]
    by_cases hc : ¬b[1] = 1
    · rw [if_pos hc, if_pos hc]
      rfl
    · rw [if_neg hc, if_neg hc]
      by_cases ha : ¬b[3] = 1 ∧ ¬b[3] = 3 ∧ ¬b[3] = 4
      · rw [if_pos ha, if_pos ha]
        rfl
      · rw [if_neg ha, if_neg ha]
        rfl

/-- The bytes of a buffer, read with a default. -/
theorem getElem?_getD {b : List Byte} {i : Nat} (h : i < b.length) : b[i]? = some (b.getD i 0) := by
  rw [List.getD_eq_getElem?_getD, List.getElem?_eq_getElem h, Option.getD_some]

/-- A request that is long enough and has no fault but perhaps an empty name has one of the three forms. -/
theorem form_of_success {b : List Byte} (h : ¬Awaits b) (hr : socks5RequestReplyFor b = some socks5ReplySuccess) :
    b[0]? = some 0x05 ∧ b[1]? = some 0x01 ∧ b[2]? = some 0x00 ∧
    (b[3]? = some 0x01 ∨ b[3]? = some 0x03 ∨ b[3]? = some 0x04) := by
  rw [socks5RequestReplyFor_eq h, Option.some.injEq] at hr
  split at hr
  · cases hr
  · split at hr
    · cases hr
    · split at hr
      · cases hr
      · rename_i hv hc ha
        simp only [ne_eq, not_or, not_not] at hv hc
        refine ⟨hv.1, hc, hv.2, ?_⟩
        by_contra hno
        rw [not_or, not_or] at hno
        exact ha hno

/-- What the parser makes of a request without a fault, but for an empty name. -/
theorem socks5ParseConnectRequest_eq {b : List Byte} (h : ¬Awaits b)
    (hr : socks5RequestReplyFor b = some socks5ReplySuccess) :
    socks5ParseConnectRequest b = some (if b[3]? = some 0x03 ∧ b[4]? = some 0x00 then none else some (requestIn b)) := by
  have hform := (form_of_success h hr).2.2.2
  have hlen := four_le_of_not_awaits h
  unfold socks5ParseConnectRequest requestIn
  rw [hr]
  simp only [Option.bind_eq_bind, Option.bind_some, ne_eq, not_true_eq_false, if_false]
  unfold Awaits at h
  obtain h3 | h3 | h3 := hform
  · have hsize : 10 ≤ b.length := by
      simp only [h3, true_and] at h
      omega
    have hatyp : b.getD 3 0 = 0x01 := by rw [List.getD_eq_getElem?_getD, h3, Option.getD_some]
    rw [h3, hatyp, getElem?_getD (show 8 < b.length by omega), getElem?_getD (show 9 < b.length by omega),
      slice_of_le (by omega)]
    simp only [Option.bind_some, bigEndian_eq]
    rfl
  · have h5 : ¬b.length < 5 := by
      intro h5
      exact h (.inr (.inr (.inl ⟨h3, .inl h5⟩)))
    have hsize : 7 + (b.getD 4 0).toNat ≤ b.length := by
      by_contra hlt
      exact h (.inr (.inr (.inl ⟨h3, .inr (by omega)⟩)))
    have hatyp : b.getD 3 0 = 0x03 := by rw [List.getD_eq_getElem?_getD, h3, Option.getD_some]
    rw [h3, hatyp, getElem?_getD (show 4 < b.length by omega)]
    generalize b.getD 4 0 = n at hsize ⊢
    by_cases hn : n = 0
    · subst hn
      rfl
    · rw [if_neg (fun hp => hn (Option.some.inj hp.2))]
      simp only [Option.bind_some]
      rw [getElem?_getD (show 5 + n.toNat < b.length by omega), getElem?_getD (show 5 + n.toNat + 1 < b.length by omega),
        slice_of_le (show 5 + n.toNat ≤ b.length by omega), if_neg hn]
      simp only [Option.bind_some, bigEndian_eq]
      rfl
  · have hsize : 22 ≤ b.length := by
      simp only [h3, true_and] at h
      omega
    have hatyp : b.getD 3 0 = 0x04 := by rw [List.getD_eq_getElem?_getD, h3, Option.getD_some]
    rw [h3, hatyp, getElem?_getD (show 20 < b.length by omega), getElem?_getD (show 21 < b.length by omega),
      slice_of_le (show 4 + 16 ≤ b.length by omega)]
    simp only [Option.bind_some, bigEndian_eq]
    rfl

/-- The verdict of the code is the verdict of the grammar. -/
theorem requestVerdict_eq (b : List Byte) : requestVerdict b = connectGrammar b := by
  unfold requestVerdict connectGrammar
  by_cases h : Awaits b
  · rw [if_pos h, if_pos (.inr ((socks5RequestIsIncomplete_iff b).mpr h))]
  · have hwait : ¬(b.length < 4 ∨ socks5RequestIsIncomplete b = some true) := by
      rw [socks5RequestIsIncomplete_iff]
      intro hw
      exact hw.elim (fun hlt => h (.inl hlt)) h
    rw [if_neg h, if_neg hwait]
    have hreply := socks5RequestReplyFor_eq h
    by_cases hok : socks5RequestReplyFor b = some socks5ReplySuccess
    · obtain ⟨h0, h1, h2, h3⟩ := form_of_success h hok
      rw [socks5ParseConnectRequest_eq h hok, hok]
      have hhead : ¬(b[0]? ≠ some 0x05 ∨ b[2]? ≠ some 0x00) := by simp [h0, h2]
      have hform : ¬(b[3]? ≠ some 0x01 ∧ b[3]? ≠ some 0x03 ∧ b[3]? ≠ some 0x04) := by
        rintro ⟨h1, h3', h4⟩
        exact h3.elim h1 fun h => h.elim h3' h4
      unfold rejection
      rw [if_neg hhead, if_neg (not_not_intro h1), if_neg hform]
      by_cases hempty : b[3]? = some 0x03 ∧ b[4]? = some 0x00
      · rw [if_pos hempty, if_pos hempty]
        rfl
      · rw [if_neg hempty, if_neg hempty]
    · obtain ⟨code, hcode⟩ : ∃ code, socks5RequestReplyFor b = some code := ⟨_, hreply⟩
      have hne : code ≠ socks5ReplySuccess := by
        rintro rfl
        exact hok hcode
      rw [socks5ParseConnectRequest_of_ne hcode hne, hcode]
      dsimp only
      rw [if_neg hne]
      rw [hcode, Option.some.injEq] at hreply
      unfold rejection
      split at hreply
      · rw [if_pos ‹_›, hreply]
      · rw [if_neg ‹_›]
        split at hreply
        · rw [if_pos ‹_›, hreply]
        · rw [if_neg ‹_›]
          split at hreply
          · rw [if_pos ‹_›, hreply]
          · exact absurd hreply hne

/-- No function reads past the bytes received. -/
theorem reads_inside (b : List Byte) :
    (socks5RequestIsIncomplete b).isSome ∧ (socks5RequestReplyFor b).isSome ∧ (socks5ParseConnectRequest b).isSome := by
  by_cases hlen : b.length < 4
  · have hi : socks5RequestIsIncomplete b = some true := if_pos hlen
    have hr : socks5RequestReplyFor b = some socks5ReplyGeneralFailure := if_pos hlen
    rw [hi, hr, socks5ParseConnectRequest_of_ne hr (by decide)]
    exact ⟨rfl, rfl, rfl⟩
  · obtain ⟨w, hi⟩ := socks5RequestIsIncomplete_isSome (Nat.le_of_not_lt hlen)
    obtain ⟨code, hr, _⟩ := socks5RequestReplyFor_isSome (Nat.le_of_not_lt hlen)
    refine ⟨by rw [hi]; rfl, by rw [hr]; rfl, ?_⟩
    by_cases hc : code = socks5ReplySuccess
    · subst hc
      obtain ⟨r, hp⟩ := socks5ParseConnectRequest_isSome (Nat.le_of_not_lt hlen) hr
      rw [hp]
      rfl
    · rw [socks5ParseConnectRequest_of_ne hr hc]
      rfl

/-! ## Encoding and decoding -/

/-- The two bytes of a port, put together again. -/
theorem portAt_append (pre : List Byte) (port : UInt16) (trailing : List Byte) :
    portAt (pre ++ (portBytes port ++ trailing)) pre.length = port := by
  have hlt := port.toNat_lt
  have h0 : (pre ++ (portBytes port ++ trailing)).getD pre.length 0 = UInt8.ofNat (port.toNat / 256) := by
    rw [List.getD_eq_getElem?_getD, List.getElem?_append_right (Nat.le_refl _), Nat.sub_self]
    rfl
  have h1 : (pre ++ (portBytes port ++ trailing)).getD (pre.length + 1) 0 = UInt8.ofNat (port.toNat % 256) := by
    rw [List.getD_eq_getElem?_getD, List.getElem?_append_right (Nat.le_add_right _ _), Nat.add_sub_cancel_left]
    rfl
  unfold portAt
  rw [h0, h1, UInt8.toNat_ofNat', UInt8.toNat_ofNat']
  apply UInt16.toNat_inj.mp
  rw [UInt16.toNat_ofNat']
  omega

/-- The two bytes at an offset are those of the port read there. -/
theorem drop_eq_portBytes {b : List Byte} {off : Nat} (h : off + 2 ≤ b.length) :
    b.drop off = portBytes (portAt b off) ++ b.drop (off + 2) := by
  have h0 := getElem?_getD (show off < b.length by omega)
  have h1 := getElem?_getD (show off + 1 < b.length by omega)
  unfold portBytes portAt
  generalize b.getD off 0 = hi at h0 ⊢
  generalize b.getD (off + 1) 0 = lo at h1 ⊢
  have hhi := hi.toNat_lt
  have hlo := lo.toNat_lt
  have hport : (UInt16.ofNat (256 * hi.toNat + lo.toNat)).toNat = 256 * hi.toNat + lo.toNat := by
    rw [UInt16.toNat_ofNat']
    exact Nat.mod_eq_of_lt (by omega)
  have hdiv : (256 * hi.toNat + lo.toNat) / 256 = hi.toNat := by omega
  have hmod : (256 * hi.toNat + lo.toNat) % 256 = lo.toNat := by omega
  rw [hport, hdiv, hmod, UInt8.ofNat_toNat, UInt8.ofNat_toNat, List.drop_eq_getElem_cons (by omega),
    List.drop_eq_getElem_cons (by omega)]
  rw [List.getElem?_eq_getElem (by omega), Option.some.injEq] at h0 h1
  rw [h0, h1]
  rfl

/-- The bytes of a request: the head, the destination's bytes, the port, and what follows. -/
theorem parts_append {b : List Byte} {version cmd rsv atyp : Byte} {n : Nat} (h0 : b[0]? = some version) (h1 : b[1]? = some cmd)
    (h2 : b[2]? = some rsv) (h3 : b[3]? = some atyp) (hsize : 4 + n + 2 ≤ b.length) :
    b = [version, cmd, rsv, atyp] ++ (b.drop 4).take n ++ (portBytes (portAt b (4 + n)) ++ b.drop (4 + n + 2)) := by
  have hhead : b.take 4 = [version, cmd, rsv, atyp] := by
    match b with
    | [] => cases h0
    | [_] => cases h1
    | [_, _] => cases h2
    | [_, _, _] => cases h3
    | _ :: _ :: _ :: _ :: _ =>
      cases h0
      cases h1
      cases h2
      cases h3
      rfl
  rw [← hhead, ← drop_eq_portBytes hsize, ← List.drop_drop, List.append_assoc, List.take_append_drop, List.take_append_drop]

/-- The bytes of a request with an address of either family, and what the grammar finds in them. -/
theorem requestIn_address (addr trailing : List Byte) (atyp : Byte) (port : UInt16) :
    portAt ([0x05, 0x01, 0x00, atyp] ++ addr ++ (portBytes port ++ trailing)) (4 + addr.length) = port ∧
    (([0x05, 0x01, 0x00, atyp] ++ addr ++ (portBytes port ++ trailing)).drop 4).take addr.length = addr := by
  constructor
  · have h := portAt_append ([0x05, 0x01, 0x00, atyp] ++ addr) port trailing
    rwa [List.length_append, show [(0x05 : Byte), 0x01, 0x00, atyp].length = 4 from rfl] at h
  · show (addr ++ (portBytes port ++ trailing)).take addr.length = addr
    exact List.take_left' rfl

/-- What stands in the bytes of a request for an IPv4 address. -/
theorem requestIn_ipv4 {b : List Byte} (h : b[3]? = some 0x01) :
    requestIn b = { atyp := 0x01, port := portAt b (4 + 4), host := [], addr := .inet ((b.drop 4).take 4) (portAt b (4 + 4)) } := by
  unfold requestIn
  rw [List.getD_eq_getElem?_getD, h]
  rfl

/-- What stands in the bytes of a request for an IPv6 address. -/
theorem requestIn_ipv6 {b : List Byte} (h : b[3]? = some 0x04) : requestIn b =
    { atyp := 0x04, port := portAt b (4 + 16), host := [], addr := .inet6 ((b.drop 4).take 16) (portAt b (4 + 16)) } := by
  unfold requestIn
  rw [List.getD_eq_getElem?_getD, h]
  rfl

/-- What stands in the bytes of a request for a name. -/
theorem requestIn_domain {b : List Byte} {n : Byte} (h : b[3]? = some 0x03) (hn : b[4]? = some n) : requestIn b =
    { atyp := 0x03, port := portAt b (5 + n.toNat), host := (b.drop 5).take n.toNat, addr := .zeroed } := by
  unfold requestIn
  rw [List.getD_eq_getElem?_getD, h, List.getD_eq_getElem?_getD, hn]
  rfl

/-- The bytes of a request, with anything after them, are that request. -/
theorem connectGrammar_encode (q : ConnectRequest) (trailing : List Byte) :
    connectGrammar (q.encode ++ trailing) = .request q.parsed := by
  obtain ⟨destination, port⟩ := q
  cases destination with
  | ipv4 addr size =>
    have hb : (ConnectRequest.encode ⟨.ipv4 addr size, port⟩) ++ trailing =
        [0x05, 0x01, 0x00, 0x01] ++ addr ++ (portBytes port ++ trailing) := by
      simp [ConnectRequest.encode, Destination.encode]
    obtain ⟨hport, haddr⟩ := requestIn_address addr trailing 0x01 port
    rw [size] at hport haddr
    have hin : ¬Awaits ([0x05, 0x01, 0x00, 0x01] ++ addr ++ (portBytes port ++ trailing)) := by
      simp [Awaits, portBytes, size]
      omega
    rw [hb, connectGrammar, if_neg hin]
    show Verdict.request (requestIn _) = _
    rw [requestIn_ipv4 rfl, haddr, hport]
    rfl
  | ipv6 addr size =>
    have hb : (ConnectRequest.encode ⟨.ipv6 addr size, port⟩) ++ trailing =
        [0x05, 0x01, 0x00, 0x04] ++ addr ++ (portBytes port ++ trailing) := by
      simp [ConnectRequest.encode, Destination.encode]
    obtain ⟨hport, haddr⟩ := requestIn_address addr trailing 0x04 port
    rw [size] at hport haddr
    have hin : ¬Awaits ([0x05, 0x01, 0x00, 0x04] ++ addr ++ (portBytes port ++ trailing)) := by
      simp [Awaits, portBytes, size]
      omega
    rw [hb, connectGrammar, if_neg hin]
    show Verdict.request (requestIn _) = _
    rw [requestIn_ipv6 rfl, haddr, hport]
    rfl
  | domain name nonempty fits =>
    have hb : (ConnectRequest.encode ⟨.domain name nonempty fits, port⟩) ++ trailing =
        [0x05, 0x01, 0x00, 0x03] ++ (UInt8.ofNat name.length :: name) ++ (portBytes port ++ trailing) := by
      simp [ConnectRequest.encode, Destination.encode]
    have hlen : (UInt8.ofNat name.length).toNat = name.length := by
      rw [UInt8.toNat_ofNat']
      exact Nat.mod_eq_of_lt (by omega)
    obtain ⟨hport, hname⟩ := requestIn_address (UInt8.ofNat name.length :: name) trailing 0x03 port
    have hin : ¬Awaits ([0x05, 0x01, 0x00, 0x03] ++ (UInt8.ofNat name.length :: name) ++ (portBytes port ++ trailing)) := by
      simp [Awaits, portBytes, hlen]
      omega
    have hnonzero : UInt8.ofNat name.length ≠ 0 := by
      intro h0
      rw [h0] at hlen
      exact absurd hlen (by show 0 ≠ name.length; omega)
    rw [hb, connectGrammar, if_neg hin]
    have hrej : rejection ([0x05, 0x01, 0x00, 0x03] ++ (UInt8.ofNat name.length :: name) ++ (portBytes port ++ trailing)) = none := by
      show (if (some (0x03 : Byte)) = some 0x03 ∧ some (UInt8.ofNat name.length) = some 0x00 then some (0x01 : Byte) else none) = none
      rw [if_neg]
      rintro ⟨_, h0⟩
      exact hnonzero (Option.some.inj h0)
    rw [hrej, requestIn_domain rfl rfl, hlen]
    rw [List.length_cons, show 4 + (name.length + 1) = 5 + name.length by omega] at hport
    rw [hport]
    show Verdict.request { atyp := 0x03, port, host := (name ++ (portBytes port ++ trailing)).take name.length, addr := .zeroed } = _
    rw [List.take_left' rfl]
    rfl

/-- A request without a fault has the head of one, and its name is not empty. -/
theorem head_of_rejection {b : List Byte} (h : rejection b = none) :
    b[0]? = some 0x05 ∧ b[1]? = some 0x01 ∧ b[2]? = some 0x00 ∧
    (b[3]? = some 0x01 ∨ b[3]? = some 0x04 ∨ b[3]? = some 0x03 ∧ b[4]? ≠ some 0x00) := by
  unfold rejection at h
  split at h
  · cases h
  · rename_i hhead
    split at h
    · cases h
    · rename_i hcmd
      split at h
      · cases h
      · rename_i hform
        split at h
        · cases h
        · rename_i hempty
          simp only [ne_eq, not_or, not_not] at hhead hcmd
          refine ⟨hhead.1, hcmd, hhead.2, ?_⟩
          by_contra hno
          rw [not_or, not_or] at hno
          refine hform ⟨hno.1, fun h3 => ?_, hno.2.1⟩
          exact hno.2.2 ⟨h3, fun h4 => hempty ⟨h3, h4⟩⟩

/-- Bytes that the grammar takes for a request are the bytes of one, with something after them. -/
theorem encode_of_connectGrammar {b : List Byte} {r : Socks5Request} (h : connectGrammar b = .request r) :
    ∃ (q : ConnectRequest) (trailing : List Byte), b = q.encode ++ trailing ∧ r = q.parsed := by
  unfold connectGrammar at h
  split at h
  · cases h
  · rename_i hin
    split at h
    · cases h
    · rename_i hrej
      cases h
      obtain ⟨h0, h1, h2, h3⟩ := head_of_rejection hrej
      have hlen := four_le_of_not_awaits hin
      unfold Awaits at hin
      obtain h3 | h3 | ⟨h3, hnonempty⟩ := h3
      · have hsize : 4 + 4 + 2 ≤ b.length := by
          by_contra hlt
          exact hin (.inr (.inl ⟨h3, by omega⟩))
        have haddr : ((b.drop 4).take 4).length = 4 := by
          rw [List.length_take, List.length_drop]
          omega
        refine ⟨⟨.ipv4 _ haddr, portAt b (4 + 4)⟩, b.drop (4 + 4 + 2), ?_, requestIn_ipv4 h3⟩
        refine (parts_append h0 h1 h2 h3 hsize).trans ?_
        simp only [ConnectRequest.encode, Destination.encode, List.append_assoc, List.cons_append, List.nil_append]
      · have hsize : 4 + 16 + 2 ≤ b.length := by
          by_contra hlt
          exact hin (.inr (.inr (.inr ⟨h3, by omega⟩)))
        have haddr : ((b.drop 4).take 16).length = 16 := by
          rw [List.length_take, List.length_drop]
          omega
        refine ⟨⟨.ipv6 _ haddr, portAt b (4 + 16)⟩, b.drop (4 + 16 + 2), ?_, requestIn_ipv6 h3⟩
        refine (parts_append h0 h1 h2 h3 hsize).trans ?_
        simp only [ConnectRequest.encode, Destination.encode, List.append_assoc, List.cons_append, List.nil_append]
      · have h5 : ¬b.length < 5 := by
          intro h5
          exact hin (.inr (.inr (.inl ⟨h3, .inl h5⟩)))
        have h4 := getElem?_getD (show 4 < b.length by omega)
        have hsize : 4 + ((b.getD 4 0).toNat + 1) + 2 ≤ b.length := by
          by_contra hlt
          exact hin (.inr (.inr (.inl ⟨h3, .inr (by omega)⟩)))
        generalize b.getD 4 0 = n at h4 hsize
        have hpos : n.toNat ≠ 0 := by
          intro hn
          exact hnonempty (h4.trans (congrArg some (UInt8.toNat_inj.mp hn)))
        have hlt := n.toNat_lt
        have hname : ((b.drop 5).take n.toNat).length = n.toNat := by
          rw [List.length_take, List.length_drop]
          omega
        have hcut : (b.drop 4).take (n.toNat + 1) = n :: (b.drop 5).take n.toNat := by
          rw [List.getElem?_eq_getElem (by omega), Option.some.injEq] at h4
          rw [List.drop_eq_getElem_cons (by omega), List.take_succ_cons, h4]
        refine ⟨⟨.domain ((b.drop 5).take n.toNat) (by omega) (by omega), portAt b (5 + n.toNat)⟩, b.drop (5 + n.toNat + 2), ?_,
          requestIn_domain h3 h4⟩
        refine (parts_append h0 h1 h2 h3 hsize).trans ?_
        rw [hcut, show 4 + (n.toNat + 1) = 5 + n.toNat by omega]
        simp only [ConnectRequest.encode, Destination.encode, hname, UInt8.ofNat_toNat, List.append_assoc, List.cons_append,
          List.nil_append]

/-- The parser accepts what the grammar accepts. -/
theorem socks5ParseConnectRequest_iff {b : List Byte} {r : Socks5Request} :
    socks5ParseConnectRequest b = some (some r) ↔ connectGrammar b = .request r := by
  rw [← requestVerdict_eq]
  constructor
  · intro h
    have hreply : socks5RequestReplyFor b = some socks5ReplySuccess := by
      obtain ⟨code, hcode⟩ := Option.isSome_iff_exists.mp (reads_inside b).2.1
      by_cases hc : code = socks5ReplySuccess
      · rw [hcode, hc]
      · rw [socks5ParseConnectRequest_of_ne hcode hc] at h
        cases h
    have hlen : ¬b.length < 4 := by
      intro hlt
      rw [socks5RequestReplyFor, if_pos hlt] at hreply
      cases hreply
    obtain ⟨code, hcode, hcomplete⟩ := socks5RequestReplyFor_isSome (Nat.le_of_not_lt hlen)
    rw [hreply, Option.some.injEq] at hcode
    unfold requestVerdict
    rw [if_neg, h]
    rintro (hlt | hwait)
    · exact hlen hlt
    · rw [hcomplete hcode.symm] at hwait
      cases hwait
  · intro h
    unfold requestVerdict at h
    split at h
    · cases h
    · split at h
      · rename_i r' hparse
        cases h
        exact hparse
      · split at h <;> cases h

/-- The read handler decides on a request as the grammar does, whatever bytes have been accumulated; no byte past them is read;
and the parser accepts the bytes of the requests, each with anything after it, and gives back the request. -/
theorem request_grammar :
    (∀ (s : Server) (key : SelectorKey Nat) (sid : Nat) (state : ClientState) (a : Answers),
      clientReadRequest s key sid state a =
        match connectGrammar state.readBuffer with
        | .reject code => rejectRequest s key sid state code
        | .request r =>
          (targetConnectionBegin s key sid r a).withSession sid fun state =>
            (targetConnectionBegin s key sid r a).put sid { state with readBuffer := [] }
        | _ => s) ∧
    (∀ b, (socks5RequestIsIncomplete b).isSome ∧ (socks5RequestReplyFor b).isSome ∧ (socks5ParseConnectRequest b).isSome) ∧
    ∀ b r, socks5ParseConnectRequest b = some (some r) ↔
      ∃ (q : ConnectRequest) (trailing : List Byte), b = q.encode ++ trailing ∧ r = q.parsed := by
  refine ⟨fun s key sid state a => ?_, reads_inside, fun b r => ?_⟩
  · have heq := clientReadRequest_eq s key sid state a
    rw [requestVerdict_eq] at heq
    exact heq
  · rw [socks5ParseConnectRequest_iff]
    constructor
    · exact encode_of_connectGrammar
    · rintro ⟨q, trailing, rfl, rfl⟩
      exact connectGrammar_encode q trailing

end SocksProxy
