import SocksProxy.Runs
import SocksProxy.Lemmas.Verdicts

/-!
# The access log

A request that was accepted is logged once, when its outcome is known: with the name of the session, the port it asked for, and
whether it was served. The exception is a domain that begins with NUL: read as a C string it is empty, and an empty name is
what `access_log_client_connection` takes for a session without a request. There is no other exception.
-/

namespace SocksProxy

/-! ## The name of a destination -/

/-- A text that is not empty as a C string either. -/
def Prints (text : List Byte) : Prop := ∃ b rest, text = b :: rest ∧ b ≠ 0

namespace Prints

variable {text text' : List Byte}

/-- What is not empty read as a C string. -/
theorem ofBuffer (h : Prints text) : (CString.ofBuffer text).bytes ≠ [] := by
  obtain ⟨b, rest, rfl, hb⟩ := h
  simp [CString.ofBuffer, hb]

/-- More text after it. -/
theorem append (h : Prints text) : Prints (text ++ text') := by
  obtain ⟨b, rest, rfl, hb⟩ := h
  exact ⟨b, rest ++ text', rfl, hb⟩

/-- Characters of which none is NUL. -/
theorem ofChars {cs : List Char} (hne : cs ≠ []) (h : ∀ c ∈ cs, UInt8.ofNat c.toNat ≠ 0) :
    Prints (cs.map fun c => UInt8.ofNat c.toNat) := by
  cases cs with
  | nil => exact absurd rfl hne
  | cons c cs => exact ⟨_, _, rfl, h c (by simp)⟩

/-- Parts of which the first prints. -/
theorem joinWith {sep part : List Byte} {parts : List (List Byte)} (h : Prints part) :
    Prints (joinWith sep (part :: parts)) := by
  cases parts with
  | nil => exact h
  | cons next parts => exact h.append.append

end Prints

/-- A digit character is one of sixteen, or the star that stands for no digit. -/
theorem digitChar_cases {P : Char → Prop} (h : ∀ m < 16, P (Nat.digitChar m)) (hstar : P '*') (n : Nat) : P n.digitChar := by
  by_cases hn : n < 16
  · exact h n hn
  · have hstar' : n.digitChar = '*' := by
      unfold Nat.digitChar
      repeat rw [if_neg (by omega)]
    rw [hstar']
    exact hstar

/-- The digits of a number are digit characters. -/
theorem mem_toDigitsCore {P : Char → Prop} (h : ∀ n, P (Nat.digitChar n)) {b fuel n : Nat} {acc : List Char}
    (hacc : ∀ c ∈ acc, P c) : ∀ c ∈ Nat.toDigitsCore b fuel n acc, P c := by
  induction fuel generalizing n acc with
  | zero => exact hacc
  | succ fuel ih =>
    have hcons : ∀ c ∈ (n % b).digitChar :: acc, P c := by
      intro c hc
      rcases List.mem_cons.mp hc with rfl | hc
      · exact h _
      · exact hacc c hc
    unfold Nat.toDigitsCore
    dsimp only
    split
    · exact hcons
    · exact ih hcons

/-- A number prints. -/
theorem prints_toDigits (b n : Nat) : Prints ((Nat.toDigits b n).map fun c => UInt8.ofNat c.toNat) :=
  .ofChars Nat.toDigits_ne_nil (mem_toDigitsCore (digitChar_cases (by decide) (by decide)) nofun)

/-- An IPv4 address prints. -/
theorem prints_inetNtop4 {addr : List Byte} (h : addr ≠ []) : Prints (inetNtop4 addr) := by
  cases addr with
  | nil => exact absurd rfl h
  | cons b addr => exact .joinWith (prints_toDigits 10 b.toNat)

/-- A list of groups prints. -/
theorem prints_hexGroups {gs : List Nat} (h : gs ≠ []) : Prints (hexGroups gs) := by
  cases gs with
  | nil => exact absurd rfl h
  | cons g gs => exact .joinWith (prints_toDigits 16 g)

/-- An IPv6 address prints. -/
theorem prints_inetNtop6 {addr : List Byte} (h : groups addr ≠ []) : Prints (inetNtop6 addr) := by
  have hcolons : Prints (ascii "::") := ⟨_, _, rfl, by decide⟩
  unfold inetNtop6
  dsimp only
  split
  · exact prints_hexGroups h
  · split
    · exact hcolons.append.append
    · generalize longestZeroRun (groups addr) 0 0 (0, 1) = best
      cases hb : best.1 with
      | zero => exact hcolons.append
      | succ base =>
        refine (prints_hexGroups ?_).append.append
        cases hg : groups addr with
        | nil => exact absurd hg h
        | cons g gs => exact nofun

namespace Socks5Request

/-- The name `remember_request_destination` keeps for a request. -/
def destination (r : Socks5Request) : CString :=
  if r.atyp = socks5AtypDomain then (CString.ofBuffer r.host).snprintf (clientDestinationMax + 1)
  else if r.atyp = socks5AtypIpv4 then CString.ofBuffer (inetNtop4 r.addr.octets)
  else if r.atyp = socks5AtypIpv6 then CString.ofBuffer (inetNtop6 r.addr.octets)
  else literal "unknown"

/-- A request for a domain that begins with NUL. -/
def Unnamed (r : Socks5Request) : Prop := r.atyp = socks5AtypDomain ∧ r.host.head? = some 0

instance (r : Socks5Request) : Decidable r.Unnamed := inferInstanceAs (Decidable (_ ∧ _))

end Socks5Request

/-- What `remember_request_destination` leaves. -/
theorem rememberRequestDestination_destination (state : ClientState) (r : Socks5Request) :
    rememberRequestDestination state r =
      { state with destinationPort := r.port, accessLogged := false, destinationHost := r.destination } := by
  unfold rememberRequestDestination Socks5Request.destination
  dsimp only
  split
  · rfl
  · split
    · rfl
    · split <;> rfl

/-- A slice has the length asked for. -/
theorem slice_length {buffer bytes : List Byte} {off len : Nat} (h : slice buffer off len = some bytes) :
    bytes.length = len := by
  unfold slice at h
  split at h
  · cases h
    simp only [List.length_take, List.length_drop]
    omega
  · cases h

/-- An accepted request has an address of its type, or a domain. -/
theorem socks5ParseConnectRequest_shape {buffer : List Byte} {r : Socks5Request}
    (h : socks5ParseConnectRequest buffer = some (some r)) :
    r.atyp = socks5AtypIpv4 ∧ r.addr.octets.length = 4 ∨ r.atyp = socks5AtypIpv6 ∧ r.addr.octets.length = 16 ∨
    r.atyp = socks5AtypDomain ∧ r.host ≠ [] := by
  unfold socks5ParseConnectRequest at h
  obtain ⟨reply, _, h⟩ := Option.bind_eq_some_iff.mp h
  split at h
  · cases h
  obtain ⟨atyp, _, h⟩ := Option.bind_eq_some_iff.mp h
  split at h
  · rename_i hatyp
    obtain ⟨hi, _, h⟩ := Option.bind_eq_some_iff.mp h
    obtain ⟨lo, _, h⟩ := Option.bind_eq_some_iff.mp h
    obtain ⟨addr, haddr, h⟩ := Option.bind_eq_some_iff.mp h
    obtain rfl := Option.some.inj (Option.some.inj h)
    exact .inl ⟨hatyp, slice_length haddr⟩
  · split at h
    · rename_i hatyp
      obtain ⟨hi, _, h⟩ := Option.bind_eq_some_iff.mp h
      obtain ⟨lo, _, h⟩ := Option.bind_eq_some_iff.mp h
      obtain ⟨addr, haddr, h⟩ := Option.bind_eq_some_iff.mp h
      obtain rfl := Option.some.inj (Option.some.inj h)
      exact .inr (.inl ⟨hatyp, slice_length haddr⟩)
    · split at h
      · rename_i hatyp
        obtain ⟨domainLen, _, h⟩ := Option.bind_eq_some_iff.mp h
        dsimp only at h
        split at h
        · cases h
        · rename_i hlen
          obtain ⟨host, hhost, h⟩ := Option.bind_eq_some_iff.mp h
          obtain ⟨hi, _, h⟩ := Option.bind_eq_some_iff.mp h
          obtain ⟨lo, _, h⟩ := Option.bind_eq_some_iff.mp h
          obtain rfl := Option.some.inj (Option.some.inj h)
          refine .inr (.inr ⟨hatyp, fun he => hlen ?_⟩)
          have h0 := slice_length hhost
          rw [show host = [] from he] at h0
          exact UInt8.toNat_inj.mp h0.symm
      · cases h

/-- The groups of an address of sixteen octets. -/
theorem groups_ne_nil {addr : List Byte} (h : addr.length = 16) : groups addr ≠ [] := by
  match addr, h with
  | _ :: _ :: _, _ => exact nofun

/-- An accepted request has no name exactly when it is for a domain that begins with NUL. -/
theorem Socks5Request.destination_eq_nil {buffer : List Byte} {r : Socks5Request}
    (h : socks5ParseConnectRequest buffer = some (some r)) : r.destination.bytes = [] ↔ r.Unnamed := by
  unfold Socks5Request.destination Socks5Request.Unnamed
  rcases socks5ParseConnectRequest_shape h with ⟨ha, hl⟩ | ⟨ha, hl⟩ | ⟨ha, hn⟩
  · have hp : Prints (inetNtop4 r.addr.octets) := prints_inetNtop4 (fun he => by simp [he] at hl)
    simp [ha, socks5AtypIpv4, socks5AtypDomain, hp.ofBuffer]
  · have hp : Prints (inetNtop6 r.addr.octets) := prints_inetNtop6 (groups_ne_nil hl)
    simp [ha, socks5AtypIpv4, socks5AtypIpv6, socks5AtypDomain, hp.ofBuffer]
  · obtain ⟨b, host, he⟩ := List.exists_cons_of_ne_nil hn
    by_cases hb : b = 0 <;> simp [ha, he, hb, CString.ofBuffer, CString.snprintf, clientDestinationMax]

/-! ## One session -/

/-- The line of the access log an act writes. -/
def Act.entry? : Act → Option AccessLogEntry
  | .logged entry => some entry
  | _ => none

/-- The request an act begins. -/
def Act.request? : Act → Option Socks5Request
  | .begun r => some r
  | _ => none

/-- The line of the access log an observation is. -/
def Obs.entry? : Obs → Option AccessLogEntry
  | .act _ a => a.entry?
  | _ => none

/-- The lines of the access log that acts write. -/
def Act.entries (acts : List Act) : List AccessLogEntry := acts.filterMap entry?

/-- The requests that acts begin. -/
def Act.requests (acts : List Act) : List Socks5Request := acts.filterMap request?

section

variable {acts acts' : List Act}

@[simp] theorem Act.entries_append : entries (acts ++ acts') = entries acts ++ entries acts' := List.filterMap_append

@[simp] theorem Act.requests_append : requests (acts ++ acts') = requests acts ++ requests acts' := List.filterMap_append

end

/-- An act that begins no request and writes no line of the access log. -/
def Act.unlogged : Act → Bool
  | .begun _ => false
  | .logged _ => false
  | _ => true

/-- Acts that begin no request and write no line. -/
theorem Act.of_unlogged {acts : List Act} (h : acts.all unlogged = true) : requests acts = [] ∧ entries acts = [] := by
  have hall := List.all_eq_true.mp h
  constructor
  · refine List.filterMap_eq_nil_iff.mpr fun a ha => ?_
    have := hall a ha
    cases a <;> simp [unlogged, request?] at this ⊢
  · refine List.filterMap_eq_nil_iff.mpr fun a ha => ?_
    have := hall a ha
    cases a <;> simp [unlogged, entry?] at this ⊢

namespace ClientState

/-- The line of the access log for a session's request. -/
def entry (state : ClientState) (success : Bool) : AccessLogEntry :=
  { username := state.username, host := state.destinationHost, port := state.destinationPort, success }

/-- The session keeps the destination of a request, which has a name unless its domain begins with NUL. -/
structure Remembers (state : ClientState) (r : Socks5Request) : Prop where
  host : state.destinationHost = r.destination
  port : state.destinationPort = r.port
  named : r.destination.bytes = [] ↔ r.Unnamed

variable {state : ClientState} {r : Socks5Request}

/-- The share of the access log in the outcome of a request that has not been logged yet. -/
theorem Remembers.entries_logActs (h : state.Remembers r) (hl : state.accessLogged = false) (success : Bool) :
    Act.entries (state.logActs success) = if r.Unnamed then [] else [state.entry success] := by
  unfold ClientState.logActs
  have hiff : (state.accessLogged = true ∨ state.destinationHost.bytes = []) ↔ r.Unnamed := by
    rw [hl, h.host, h.named]
    simp
  by_cases hu : r.Unnamed
  · rw [if_pos (hiff.mpr hu), if_pos hu]
    rfl
  · rw [if_neg (fun hc => hu (hiff.mp hc)), if_neg hu]
    rfl

/-- The access log begins no request. -/
theorem requests_logActs (state : ClientState) (success : Bool) : Act.requests (state.logActs success) = [] := by
  unfold ClientState.logActs
  split <;> rfl

end ClientState

/-- What the acts of a session so far have written to the access log: nothing before it has begun a request and while its
outcome is open, and then one line, with the name of the session and the port of the request, unless the request has no name. -/
def Life.Logged (hist : List Act) : Life → Prop
  | .unborn => Act.requests hist = [] ∧ Act.entries hist = []
  | .live v =>
    Act.requests hist = [] ∧ Act.entries hist = [] ∧
      (v.state.stage = .greeting ∨ v.state.stage = .auth ∨ v.state.stage = .request ∨ v.state.stage = .closing) ∨
    ∃ r, Act.requests hist = [r] ∧ v.state.Remembers r ∧
      ((v.state.stage = .resolving ∨ v.state.stage = .connecting) ∧ v.state.accessLogged = false ∧ Act.entries hist = [] ∨
        (v.state.stage = .relay ∨ v.state.stage = .closing) ∧
          Act.entries hist = if r.Unnamed then [] else [v.state.entry (v.state.stage == .relay)])
  | .gone => True

section Step

variable {env : Env} {L L' : Life} {v v' : View} {st : ClientState} {hist acts : List Act} {r : Socks5Request}

/-- A step that leaves the stage, the name and the destination of a session as they are writes nothing. -/
theorem Life.Logged.quiet (h : Life.Logged hist (.live v)) (ha : acts.all Act.unlogged = true)
    (hst : v'.state.stage = v.state.stage) (hu : v'.state.username = v.state.username)
    (hh : v'.state.destinationHost = v.state.destinationHost) (hp : v'.state.destinationPort = v.state.destinationPort)
    (hl : v'.state.accessLogged = v.state.accessLogged) : Life.Logged (hist ++ acts) (.live v') := by
  obtain ⟨hr, he⟩ := Act.of_unlogged ha
  have hentry : ∀ success, v'.state.entry success = v.state.entry success := by
    intro success
    rw [ClientState.entry, hu, hh, hp, ClientState.entry]
  simp only [Life.Logged, Act.requests_append, Act.entries_append, hr, he, List.append_nil, hst, hl, hentry]
  refine h.imp id ?_
  rintro ⟨r, hreq, hrem, h⟩
  exact ⟨r, hreq, ⟨hh.trans hrem.host, hp.trans hrem.port, hrem.named⟩, h⟩

/-- A step of the handshake writes nothing. -/
theorem Life.Logged.handshake (h : Life.Logged hist (.live v)) (ha : acts.all Act.unlogged = true)
    (hst : v.state.stage = .greeting ∨ v.state.stage = .auth ∨ v.state.stage = .request)
    (hst' : v'.state.stage = .auth ∨ v'.state.stage = .request ∨ v'.state.stage = .closing) :
    Life.Logged (hist ++ acts) (.live v') := by
  obtain ⟨hr, he⟩ := Act.of_unlogged ha
  rcases h with ⟨hreq, hent, _⟩ | ⟨r, _, _, ⟨hs, _⟩ | ⟨hs, _⟩⟩
  · refine .inl ⟨by simp [hreq, hr], by simp [hent, he], .inr hst'⟩
  · rcases hst with h | h | h <;> rcases hs with hs | hs <;> exact absurd (h.symm.trans hs) nofun
  · rcases hst with h | h | h <;> rcases hs with hs | hs <;> exact absurd (h.symm.trans hs) nofun

/-- A step that opens the outcome of a request, or leaves it open, writes nothing. -/
theorem Life.Logged.pending (hreq : Act.requests hist = [r]) (hent : Act.entries hist = []) (ha : acts.all Act.unlogged = true)
    (hrem : v'.state.Remembers r) (hl : v'.state.accessLogged = false)
    (hst : v'.state.stage = .resolving ∨ v'.state.stage = .connecting) : Life.Logged (hist ++ acts) (.live v') := by
  obtain ⟨hr, he⟩ := Act.of_unlogged ha
  exact .inr ⟨r, by simp [hreq, hr], hrem, .inl ⟨hst, hl, by simp [hent, he]⟩⟩

/-- The step that decides the outcome of a request writes its line. -/
theorem Life.Logged.settles (success : Bool) (hreq : Act.requests hist = [r]) (hent : Act.entries hist = [])
    (hrem : st.Remembers r) (hl : st.accessLogged = false) (hr : Act.requests acts = [])
    (he : Act.entries acts = Act.entries (st.logActs success)) (hst : v'.state.stage = if success then .relay else .closing)
    (hu : v'.state.username = st.username) (hh : v'.state.destinationHost = st.destinationHost)
    (hp : v'.state.destinationPort = st.destinationPort) : Life.Logged (hist ++ acts) (.live v') := by
  have hentry : v'.state.entry (v'.state.stage == .relay) = st.entry success := by
    rw [ClientState.entry, hu, hh, hp, hst]
    cases success <;> rfl
  have hout : v'.state.stage = .relay ∨ v'.state.stage = .closing := by
    rw [hst]
    cases success
    · exact .inr rfl
    · exact .inl rfl
  refine .inr ⟨r, by simp [hreq, hr], ⟨hh.trans hrem.host, hp.trans hrem.port, hrem.named⟩, .inr ⟨hout, ?_⟩⟩
  rw [hentry, Act.entries_append, hent, List.nil_append, he, hrem.entries_logActs hl]

/-- The acts of a refusal write what the access log does. -/
theorem refusedActs_log (pre : List Act) (hpre : pre.all Act.unlogged = true) (st : ClientState) (code : Byte) :
    Act.requests (pre ++ st.refusedActs code) = [] ∧
    Act.entries (pre ++ st.refusedActs code) = Act.entries (st.logActs false) := by
  obtain ⟨hr, he⟩ := Act.of_unlogged hpre
  have hreq : Act.requests (st.refusedActs code) = Act.requests (st.logActs false) := rfl
  have hent : Act.entries (st.refusedActs code) = Act.entries (st.logActs false) := rfl
  rw [Act.requests_append, Act.entries_append, hr, he, hreq, hent, st.requests_logActs]
  exact ⟨rfl, rfl⟩

/-- Connecting to addresses leaves the outcome open or decides it. -/
theorem Connects.logged {l : List AddrInfo} (h : Connects v st l acts v') (hreq : Act.requests hist = [r])
    (hent : Act.entries hist = []) (hrem : st.Remembers r) (hl : st.accessLogged = false) :
    Life.Logged (hist ++ acts) (.live v') := by
  obtain ⟨addrs, current, e, ⟨fd, c, _, _, rfl, rfl⟩ | ⟨st', rfl, rfl, rfl⟩⟩ := h.eq
  · exact .pending hreq hent (by simp [Act.unlogged]) ⟨hrem.host, hrem.port, hrem.named⟩ hl (.inr rfl)
  · have hacts := refusedActs_log (addrs.map Act.attempted) (by simp [Act.unlogged])
      { st with targetAddressCurrent := current, lastConnectError := e } (socks5ReplyForErrno e)
    exact .settles false hreq hent ⟨hrem.host, hrem.port, hrem.named⟩ hl hacts.1 hacts.2 rfl rfl rfl rfl

/-- Beginning a request leaves its outcome open or decides it. -/
theorem Begins.logged (h : Begins v st r acts v') (hreq : Act.requests hist = [r]) (hent : Act.entries hist = [])
    (hn : r.destination.bytes = [] ↔ r.Unnamed) : Life.Logged (hist ++ acts) (.live v') := by
  have hrem : (st.beginning r).Remembers r ∧ (st.beginning r).accessLogged = false := by
    unfold ClientState.beginning
    rw [rememberRequestDestination_destination]
    exact ⟨⟨rfl, rfl, hn⟩, rfl⟩
  obtain ⟨hrem, hl⟩ := hrem
  cases h with
  | resolving _ => exact .pending hreq hent rfl ⟨hrem.host, hrem.port, hn⟩ hl (.inl rfl)
  | unresolved _ =>
    have hacts := refusedActs_log [] rfl (st.beginning r) socks5ReplyGeneralFailure
    exact .settles false hreq hent hrem hl hacts.1 hacts.2 rfl rfl rfl rfl
  | connecting _ _ _ => exact .pending hreq hent rfl ⟨hrem.host, hrem.port, hn⟩ hl (.inr rfl)
  | @unconnected e _ _ =>
    have hacts := refusedActs_log [.attempted r.addr] rfl (st.beginning r) (socks5ReplyForErrno e)
    exact .settles false hreq hent hrem hl hacts.1 hacts.2 rfl rfl rfl rfl

/-- A session whose request is open has begun one, and has not written its line. -/
theorem Life.Logged.opened (h : Life.Logged hist (.live v)) (hst : v.state.stage = .resolving ∨ v.state.stage = .connecting) :
    ∃ r, Act.requests hist = [r] ∧ Act.entries hist = [] ∧ v.state.Remembers r ∧ v.state.accessLogged = false := by
  rcases h with ⟨_, _, hs⟩ | ⟨r, hreq, hrem, ⟨_, hl, hent⟩ | ⟨hs, _⟩⟩
  · rcases hst with h | h <;> rcases hs with hs | hs | hs | hs <;> exact absurd (h.symm.trans hs) nofun
  · exact ⟨r, hreq, hent, hrem, hl⟩
  · rcases hst with h | h <;> rcases hs with hs | hs <;> exact absurd (h.symm.trans hs) nofun

/-- A session that expects a request has begun none. -/
theorem Life.Logged.unbegun (h : Life.Logged hist (.live v)) (hst : v.state.stage = .request) :
    Act.requests hist = [] ∧ Act.entries hist = [] := by
  rcases h with ⟨hreq, hent, _⟩ | ⟨r, _, _, ⟨hs, _⟩ | ⟨hs, _⟩⟩
  · exact ⟨hreq, hent⟩
  · rcases hs with hs | hs <;> exact absurd (hst.symm.trans hs) nofun
  · rcases hs with hs | hs <;> exact absurd (hst.symm.trans hs) nofun

/-- The stages that follow a greeting. -/
theorem stageAfterMethod_cases (method : Byte) :
    stageAfterMethod method = .auth ∨ stageAfterMethod method = .request ∨ stageAfterMethod method = .closing := by
  unfold stageAfterMethod
  split
  · exact .inl rfl
  · split
    · exact .inr (.inl rfl)
    · exact .inr (.inr rfl)

/-- A request that is begun was accepted by the parser. -/
theorem requestVerdict_request {buffer : List Byte} (h : requestVerdict buffer = .request r) :
    socks5ParseConnectRequest buffer = some (some r) := by
  unfold requestVerdict at h
  split at h
  · cases h
  · split at h
    · rename_i r' hp
      cases h
      exact hp
    · split at h <;> cases h

/-- Every step writes to the access log what it should. -/
theorem SessionStep.logged (h : SessionStep env L acts L') (hl : L.Logged hist) : L'.Logged (hist ++ acts) := by
  cases h with
  | accepted hfd => exact .inl ⟨by rw [Act.requests_append, hl.1]; rfl, by rw [Act.entries_append, hl.2]; rfl, .inl rfl⟩
  | never => trivial
  | closed => trivial
  | clientEnded => trivial
  | targetEnded => trivial
  | hungUp => trivial
  | replySentClosing => trivial
  | greeted _ _ _ _ hst _ => exact hl.handshake rfl (.inl hst) (stageAfterMethod_cases _)
  | authenticated _ _ _ _ hst _ => exact hl.handshake rfl (.inr (.inl hst)) (.inr (.inl rfl))
  | unauthenticated _ _ _ _ hst _ => exact hl.handshake rfl (.inr (.inl hst)) (.inr (.inr rfl))
  | rejected _ _ _ _ hst _ => exact hl.handshake rfl (.inr (.inr hst)) (.inr (.inr rfl))
  | @begun v _ bytes r acts' _ _ _ _ hst hv hb =>
    obtain ⟨hreq, hent⟩ := hl.unbegun hst
    rw [hst] at hv
    have hreq' : Act.requests (hist ++ [.recvHandshake bytes, .begun r]) = [r] := by rw [Act.requests_append, hreq]; rfl
    have hent' : Act.entries (hist ++ [.recvHandshake bytes, .begun r]) = [] := by rw [Act.entries_append, hent]; rfl
    simpa using hb.logged hreq' hent' (Socks5Request.destination_eq_nil (requestVerdict_request hv))
  | @unresolved v status result hst _ _ =>
    obtain ⟨r, hreq, hent, hrem, hlog⟩ := hl.opened (.inl hst)
    have hacts := refusedActs_log [.resolved status result] rfl v.state (socks5ReplyForGaiError status)
    exact .settles false hreq hent hrem hlog hacts.1 hacts.2 rfl rfl rfl rfl
  | @resolved v v' result acts' hst _ _ hcon =>
    obtain ⟨r, hreq, hent, hrem, hlog⟩ := hl.opened (.inl hst)
    have hreq' : Act.requests (hist ++ [.resolved 0 result]) = [r] := by rw [Act.requests_append, hreq]; rfl
    have hent' : Act.entries (hist ++ [.resolved 0 result]) = [] := by rw [Act.entries_append, hent]; rfl
    simpa using hcon.logged hreq' hent' ⟨hrem.host, hrem.port, hrem.named⟩ hlog
  | @connected v c hst _ _ _ =>
    obtain ⟨r, hreq, hent, hrem, hlog⟩ := hl.opened (.inr hst)
    exact .settles true hreq hent hrem hlog (v.state.requests_logActs true) rfl rfl rfl rfl rfl
  | unconnected hst _ _ hcon =>
    obtain ⟨r, hreq, hent, hrem, hlog⟩ := hl.opened (.inr hst)
    exact hcon.logged hreq hent ⟨hrem.host, hrem.port, hrem.named⟩ hlog
  | _ => exact hl.quiet (by simp [Act.unlogged]) rfl rfl rfl rfl rfl

end Step

/-- A session past the outcome of its request, or gone. -/
def Life.Settled : Life → Prop
  | .unborn => False
  | .live v => v.state.stage = .relay ∨ v.state.stage = .closing
  | .gone => True

/-- A session past the outcome of its request writes nothing more. -/
theorem SessionStep.settled {env : Env} {L L' : Life} {acts : List Act} (h : SessionStep env L acts L') (hL : L.Settled) :
    Act.entries acts = [] ∧ L'.Settled := by
  cases h with
  | accepted | never => exact hL.elim
  | closed | clientEnded | targetEnded | hungUp => exact ⟨rfl, trivial⟩
  | replySentClosing => exact ⟨(Act.of_unlogged (by simp [Act.unlogged])).2, trivial⟩
  | greeted _ _ _ _ hst _ => rcases hL with h | h <;> exact absurd (hst.symm.trans h) nofun
  | authenticated _ _ _ _ hst _ => rcases hL with h | h <;> exact absurd (hst.symm.trans h) nofun
  | unauthenticated _ _ _ _ hst _ => rcases hL with h | h <;> exact absurd (hst.symm.trans h) nofun
  | rejected _ _ _ _ hst _ => rcases hL with h | h <;> exact absurd (hst.symm.trans h) nofun
  | begun _ _ _ _ hst _ _ => rcases hL with h | h <;> exact absurd (hst.symm.trans h) nofun
  | unresolved hst _ _ => rcases hL with h | h <;> exact absurd (hst.symm.trans h) nofun
  | resolved hst _ _ _ => rcases hL with h | h <;> exact absurd (hst.symm.trans h) nofun
  | connected hst _ _ _ => rcases hL with h | h <;> exact absurd (hst.symm.trans h) nofun
  | unconnected hst _ _ _ => rcases hL with h | h <;> exact absurd (hst.symm.trans h) nofun
  | _ => exact ⟨(Act.of_unlogged (by simp [Act.unlogged])).2, hL⟩

/-! ## Every run -/

section Run

variable {c : Config}

/-- After every run, the acts of each session have written to the access log what they should. -/
theorem run_logged (es : List Event) (sid : Nat) : ((run c.start es).life sid).Logged ((run c.start es).acts sid) :=
  run_session c (P := fun hist L => L.Logged hist) (fun _ _ => True) sid ⟨rfl, rfl⟩
    (fun _ _ _ _ _ _ _ hl _ hs => hs.logged hl) es fun _ _ _ _ => trivial

/-- Once the outcome of its request is known, a session writes nothing more, however the run goes on. -/
theorem run_logs_no_more {es : List Event} {sid : Nat} (h : ((run c.start es).life sid).Settled) (post : List Event) :
    ((run c.start (es ++ post)).life sid).Settled ∧
    Act.entries ((run c.start (es ++ post)).acts sid) = Act.entries ((run c.start es).acts sid) := by
  induction post using List.reverseRecOn with
  | nil => simpa using h
  | append_singleton post e ih =>
    obtain ⟨hset, hent⟩ := ih
    obtain ⟨acts, ha, hs⟩ := (run_lives c (es ++ post) e).steps sid
    have hmore := Traces.Steps.invariant (P := fun hist L => Act.entries hist = [] ∧ L.Settled)
      (fun hist L as L' hp hst => ⟨by rw [Act.entries_append, hp.1, (hst.settled hp.2).1]; rfl, (hst.settled hp.2).2⟩) []
      ⟨rfl, hset⟩ hs
    rw [← List.append_assoc]
    refine ⟨hmore.2, ?_⟩
    rw [ha, Act.entries_append, hent]
    exact (congrArg _ hmore.1).trans (List.append_nil _)

/-- The access log is what the acts of all sessions have written, in order. -/
theorem run_accessLog (es : List Event) : (run c.start es).accessLog = (run c.start es).trace.filterMap Obs.entry? := by
  have hsum : ∀ (obs : List Obs) (a : Accounts),
      (obs.foldl Accounts.countObs a).accessLog = a.accessLog ++ obs.filterMap Obs.entry? := by
    intro obs
    induction obs with
    | nil => intro a; exact (List.append_nil _).symm
    | cons o obs ih =>
      intro a
      rw [List.foldl_cons, ih]
      cases o with
      | opened file fd => rfl
      | closed file => rfl
      | act sid act =>
        cases act with
        | logged entry => exact List.append_assoc _ [entry] _
        | _ => rfl
  have h := congrArg Accounts.accessLog (run_inv c es).accounts
  rw [hsum] at h
  exact h

/-- A session that has begun a request and is in `RELAY` or `CLOSING` writes one line to the access log over the whole run, with
its name, the port of the request, and whether it is in `RELAY`, exactly when the request is not for a domain that begins with
NUL. -/
theorem access_logged_once (c : Config) (es post : List Event) (sid : Nat) (state : ClientState) (r : Socks5Request)
    (hs : (run c.start es).sessions sid = some state) (hst : state.stage = .relay ∨ state.stage = .closing)
    (hr : .begun r ∈ (run c.start es).acts sid) :
    Act.entries ((run c.start (es ++ post)).acts sid) =
      [{ username := state.username, host := state.destinationHost, port := r.port, success := state.stage == .relay }] ↔
    ¬ r.Unnamed := by
  have hlife := Server.life_of_some hs
  have hset : ((run c.start es).life sid).Settled := by
    rw [hlife]
    exact hst
  have hlog := run_logged (c := c) es sid
  rw [hlife] at hlog
  rw [(run_logs_no_more hset post).2]
  have hmem : r ∈ Act.requests ((run c.start es).acts sid) := List.mem_filterMap.mpr ⟨_, hr, rfl⟩
  rcases hlog with ⟨hreq, _⟩ | ⟨r', hreq, hrem, hout⟩
  · rw [hreq] at hmem
    cases hmem
  · rw [hreq, List.mem_singleton] at hmem
    subst hmem
    rcases hout with ⟨hs', _⟩ | ⟨_, hent⟩
    · rcases hst with h | h <;> rcases hs' with hs' | hs' <;> exact absurd (h.symm.trans hs') nofun
    · rw [hent]
      by_cases hu : r.Unnamed
      · simp [hu]
      · rw [if_neg hu]
        have hp : state.destinationPort = r.port := hrem.port
        exact iff_of_true (by rw [ClientState.entry]; simp only [Server.viewOf, hp]) hu

end Run

/-- A client asks for a name, the resolver does not find it, and the request is refused. -/
def refusedRun (name : Byte) : List Event :=
  [.read 3 { accepts := [.accepted 5 .ok true] }, .read 5 { recv := .data [5, 1, 0] }, .write 5 { sends := [.sent 2] },
    .read 5 { recv := .data [5, 1, 0, 3, 1, name, 0, 80] }, .publish 1 eaiNoname [], .notify 1 true, .notifications [{}]]

/-- The request of such a client. -/
def refusedRequest (name : Byte) : Socks5Request := { atyp := socks5AtypDomain, port := 80, host := [name], addr := .zeroed }

/-- A name of one letter is logged. -/
theorem access_logged_once_refused : ∃ state, (run (Config.first .zeroed).start (refusedRun 97)).sessions 0 = some state ∧
    Act.entries ((run (Config.first .zeroed).start (refusedRun 97 ++ [])).acts 0) =
      [{ username := state.username, host := state.destinationHost, port := 80, success := state.stage == .relay }] :=
  have hs := (Option.some_get (x := (run (Config.first .zeroed).start (refusedRun 97)).sessions 0) (by decide +kernel)).symm
  ⟨_, hs, (access_logged_once (Config.first .zeroed) (refusedRun 97) [] 0 _ (refusedRequest 97) hs (by decide +kernel)
    (by decide +kernel)).mpr (by decide)⟩

/-- A domain of one NUL was accepted, and its session refused and counted as a failure, but nothing was logged. -/
theorem unnamed_unlogged :
    .begun (refusedRequest 0) ∈ (run (Config.first .zeroed).start (refusedRun 0)).acts 0 ∧
    (((run (Config.first .zeroed).start (refusedRun 0)).sessions 0).map (·.stage)) = some .closing ∧
    (run (Config.first .zeroed).start (refusedRun 0)).metrics.failedConnections = 1 ∧
    Act.entries ((run (Config.first .zeroed).start (refusedRun 0)).acts 0) = [] ∧
    (run (Config.first .zeroed).start (refusedRun 0)).accessLog = [] := by
  decide +kernel

end SocksProxy
