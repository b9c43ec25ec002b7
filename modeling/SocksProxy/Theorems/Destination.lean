import SocksProxy.Theorems.AccessLog
import SocksProxy.Theorems.ConnectGrammar

/-!
# The name of a destination

A domain arrives as counted bytes and is copied three times as a C string: into the request, into the session for the access
log, and into the resolver's job. The sizes are large enough for every domain. The only byte that does not survive is NUL: what
follows it is neither resolved nor recorded, and the request is served all the same.
-/

namespace SocksProxy

namespace Server

/-- The name recorded for the access log. -/
def recordedName (s : Server) (sid : Nat) : Option (List Byte) := (s.sessions sid).map (·.destinationHost.bytes)

/-- The name in the resolver job of a session, which its thread hands to `getaddrinfo`. -/
def resolvedName (s : Server) (sid : Nat) : Option (List Byte) :=
  (s.sessions sid).bind fun state => state.resolverJob.bind fun job => (s.jobs job).map (·.host.bytes)

end Server

/-- A domain of an accepted request has at most 255 bytes. -/
theorem length_host {buffer : List Byte} {r : Socks5Request} (h : socks5ParseConnectRequest buffer = some (some r)) :
    r.host.length ≤ socks5MaxDomainLength := by
  obtain ⟨q, _, _, rfl⟩ := encode_of_connectGrammar (socks5ParseConnectRequest_iff.mp h)
  obtain ⟨destination, port⟩ := q
  cases destination with
  | ipv4 => exact Nat.zero_le _
  | domain name _ fits => exact fits
  | ipv6 => exact Nat.zero_le _

/-- The bytes of a domain up to its first NUL: what a C string keeps of it. -/
theorem snprintf_ofBuffer {host : List Byte} (h : host.length ≤ 255) : (CString.ofBuffer host).snprintf 256 = .ofBuffer host := by
  refine CString.snprintf_of_lt (Nat.lt_succ_of_le ?_)
  exact ((List.takeWhile_sublist _).length_le).trans h

/-- The name of a request for a domain is the domain up to its first NUL. -/
theorem destination_of_domain {r : Socks5Request} (hr : r.atyp = socks5AtypDomain) (h : r.host.length ≤ 255) :
    r.destination = .ofBuffer r.host := by
  rw [Socks5Request.destination, if_pos hr]
  exact snprintf_ofBuffer h

/-- A C string keeps a domain exactly when it has no NUL. -/
theorem ofBuffer_bytes_eq_iff {host : List Byte} : (CString.ofBuffer host).bytes = host ↔ (0 : Byte) ∉ host := by
  constructor
  · intro h
    rw [← h]
    exact (CString.ofBuffer host).noNul
  · intro h
    rw [CString.ofBuffer_of_noNul h]

/-- A request that fails keeps the name of its destination. -/
theorem failRequest_recordedName {s : Server} {sid : Nat} {state : ClientState} (hs : s.sessions sid = some state) (fd : Int)
    (code : Byte) : (failRequest s fd sid code).recordedName sid = some state.destinationHost.bytes := by
  by_cases hl : state.accessLogged = true ∨ state.destinationHost.bytes = []
  · simp only [failRequest, accessLogClientConnection, Server.withSession, hs, Server.prepareReply, Server.put, Server.observe,
      Server.connectionFailed, Function.update_self, ClientState.prepare, if_pos hl, Server.recordedName, Server.setInterest,
      Option.map_some]
  · simp only [failRequest, accessLogClientConnection, Server.withSession, hs, Server.prepareReply, Server.put, Server.observe,
      Server.connectionFailed, Function.update_self, ClientState.prepare, if_neg hl, Server.recordedName, Server.setInterest,
      Option.map_some]

/-- A session as a request for a domain is begun with it: the name is recorded, and no resolver has been started. -/
theorem detachResolver_sessions {s : Server} {sid : Nat} {state : ClientState} (hs : s.sessions sid = some state) :
    ∃ state', (targetConnectionDetachResolver s sid).sessions sid = some state' ∧
      state'.destinationHost = state.destinationHost := by
  simp only [targetConnectionDetachResolver, Server.withSession, hs]
  split
  · exact ⟨_, hs, rfl⟩
  · split
    · exact ⟨_, hs, rfl⟩
    · exact ⟨_, Function.update_self .., rfl⟩

/-- The names after the resolution of a domain was asked for. -/
theorem beginResolution_names {s : Server} {sid : Nat} {state : ClientState} (hs : s.sessions sid = some state) (fd : Int)
    (r : Socks5Request) (start : ResolverStart) :
    (beginResolution s fd sid r start).recordedName sid = some state.destinationHost.bytes ∧
    (start = .started →
      (beginResolution s fd sid r start).resolvedName sid = some ((CString.ofBuffer r.host).snprintf 256).bytes) := by
  obtain ⟨state', hs', hhost⟩ := detachResolver_sessions hs
  unfold beginResolution
  generalize targetConnectionDetachResolver s sid = s' at hs' ⊢
  rw [← hhost]
  cases start with
  | started =>
    simp [startTargetResolution, hs', Server.put, Server.withSession, Server.setInterest, Server.recordedName,
      Server.resolvedName, socks5MaxDomainLength]
  | noMemory =>
    simp only [startTargetResolution, hs']
    exact ⟨failRequest_recordedName hs' fd _, fun h => by cases h⟩
  | noMutex =>
    simp only [startTargetResolution, hs']
    exact ⟨failRequest_recordedName (s := { s' with nextObject := s'.nextObject + 1 }) hs' fd _, fun h => by cases h⟩
  | noThread =>
    simp only [startTargetResolution, hs']
    have hput : (({ s' with nextObject := s'.nextObject + 1 } : Server).put sid { state' with resolverJob := none }).sessions sid =
        some { state' with resolverJob := none } := Function.update_self ..
    exact ⟨failRequest_recordedName hput fd _, fun h => by cases h⟩

/-- The names after a request for a domain was begun. -/
theorem targetConnectionBegin_names {s : Server} {sid : Nat} {state : ClientState} (hs : s.sessions sid = some state)
    (key : SelectorKey Nat) {r : Socks5Request} (hr : r.atyp = socks5AtypDomain) (hlen : r.host.length ≤ 255) (a : Answers) :
    (targetConnectionBegin s key sid r a).recordedName sid = some (CString.ofBuffer r.host).bytes ∧
    (a.resolver = .started → (targetConnectionBegin s key sid r a).resolvedName sid = some (CString.ofBuffer r.host).bytes) := by
  have hfree : (targetConnectionFreeAddresses (s.observe [.act sid (.begun r)]) sid).sessions sid =
      some { state with targetAddresses := [], targetAddressCurrent := [] } := by
    simp [targetConnectionFreeAddresses, Server.withSession, Server.observe, hs, Server.put]
  have hname : ∀ st, (rememberRequestDestination st r).destinationHost.bytes = (CString.ofBuffer r.host).bytes := by
    intro st
    rw [rememberRequestDestination_destination]
    exact congrArg CString.bytes (destination_of_domain hr hlen)
  unfold targetConnectionBegin
  dsimp only
  rw [Server.withSession, hfree]
  dsimp only
  rw [if_pos hr]
  obtain ⟨hrecorded, hresolved⟩ := beginResolution_names
    (s := (targetConnectionFreeAddresses (s.observe [.act sid (.begun r)]) sid).put sid (rememberRequestDestination
      { state with targetAddresses := [], targetAddressCurrent := [], lastConnectError := 0 } r))
    (Function.update_self ..) key.fd r a.resolver
  rw [snprintf_ofBuffer hlen] at hresolved
  exact ⟨hrecorded.trans (congrArg some (hname _)), hresolved⟩

/-- The read handler on a request for a domain: the name is recorded and, when the resolver starts, resolved, byte for byte, if
and only if it contains no NUL. -/
theorem destination_exact (s : Server) (key : SelectorKey Nat) (sid : Nat) (state : ClientState) (a : Answers) (r : Socks5Request)
    (hs : s.sessions sid = some state) (hparse : socks5ParseConnectRequest state.readBuffer = some (some r))
    (hdomain : r.atyp = socks5AtypDomain) :
    ((clientReadRequest s key sid state a).recordedName sid = some r.host ∧
      (a.resolver = .started → (clientReadRequest s key sid state a).resolvedName sid = some r.host)) ↔ (0 : Byte) ∉ r.host := by
  have hverdict : requestVerdict state.readBuffer = .request r := by
    rw [requestVerdict_eq]
    exact socks5ParseConnectRequest_iff.mp hparse
  obtain ⟨hrecorded, hresolved⟩ := targetConnectionBegin_names hs key hdomain (length_host hparse) a
  rw [clientReadRequest_eq, hverdict]
  dsimp only
  generalize targetConnectionBegin s key sid r a = s' at hrecorded hresolved ⊢
  obtain ⟨state', hs', hhost⟩ := Option.map_eq_some_iff.mp hrecorded
  -- emptying the read buffer leaves both names
  have hrecorded' : (s'.put sid { state' with readBuffer := [] }).recordedName sid = some state'.destinationHost.bytes := by
    simp [Server.recordedName, Server.put]
  have hresolved' : (s'.put sid { state' with readBuffer := [] }).resolvedName sid = s'.resolvedName sid := by
    simp [Server.resolvedName, Server.put, hs']
  rw [Server.withSession, hs']
  dsimp only
  rw [hrecorded', hresolved', hhost, Option.some.injEq, ofBuffer_bytes_eq_iff]
  constructor
  · intro h
    exact h.1
  · intro h
    refine ⟨h, fun hstart => ?_⟩
    rw [hresolved hstart, ofBuffer_bytes_eq_iff.mpr h]

/-- Two domains that are both kept whole are the same if they have the same name. -/
theorem destination_inj {r r' : Socks5Request} (hr : r.atyp = socks5AtypDomain) (hr' : r'.atyp = socks5AtypDomain)
    (hlen : r.host.length ≤ 255) (hlen' : r'.host.length ≤ 255) (h : (0 : Byte) ∉ r.host) (h' : (0 : Byte) ∉ r'.host)
    (he : r.destination = r'.destination) : r.host = r'.host := by
  rw [destination_of_domain hr hlen, destination_of_domain hr' hlen'] at he
  rw [← ofBuffer_bytes_eq_iff.mpr h, ← ofBuffer_bytes_eq_iff.mpr h', he]

/-- A client whose greeting has been answered. -/
def greetedRun : List Event :=
  [.read 3 { accepts := [.accepted 5 .ok true] }, .read 5 { recv := .data [5, 1, 0] }, .write 5 { sends := [.sent 2] }]

/-- The session of this client with the bytes of a request for a domain, port 80. -/
def asking (name : List Byte) : ClientState :=
  { ClientState.accepted 5 with
    stage := .request, readBuffer := [5, 1, 0, 3, UInt8.ofNat name.length] ++ name ++ [0, 80] }

/-- The server once its read handler has worked on such a request. -/
def asked (name : List Byte) : Server :=
  clientReadRequest ((run (Config.first .zeroed).start greetedRun).put 0 (asking name)) { fd := 5, data := some 0 } 0
    (asking name) {}

/-- A name of one letter is recorded and resolved as it is. -/
theorem destination_exact_letter : (asked [97]).recordedName 0 = some [97] ∧ (asked [97]).resolvedName 0 = some [97] := by
  have hs : ((run (Config.first .zeroed).start greetedRun).put 0 (asking [97])).sessions 0 = some (asking [97]) := by
    simp only [Server.put, Function.update_self]
  have h := (destination_exact ((run (Config.first .zeroed).start greetedRun).put 0 (asking [97])) { fd := 5, data := some 0 } 0
    (asking [97]) {} { atyp := socks5AtypDomain, port := 80, host := [97], addr := .zeroed } hs
    (by decide +kernel) rfl).mpr (by decide)
  exact ⟨h.1, h.2 rfl⟩

/-- A name that goes on after a NUL is accepted, and resolved and recorded as another, shorter one. -/
theorem destination_shortened :
    socks5ParseConnectRequest (asking [97, 0, 98]).readBuffer =
      some (some { atyp := socks5AtypDomain, port := 80, host := [97, 0, 98], addr := .zeroed }) ∧
    (asked [97, 0, 98]).recordedName 0 = some [97] ∧ (asked [97, 0, 98]).resolvedName 0 = some [97] ∧
    (asked [97, 0, 99]).recordedName 0 = some [97] ∧ (asked [97, 0, 99]).resolvedName 0 = some [97] := by
  decide +kernel

end SocksProxy
