import SocksProxy.Lemmas.Verdicts
import SocksProxy.EventLoop

/-!
# The negotiation

How a greeting and an authentication are answered. The documentation has the server ask for no authentication when no user is
configured, and for a username and a password when there is one. The greeting keeps to it but for one case: a client that
offers the username and password method is always sent there, and with no users nobody passes.
-/

namespace SocksProxy

/-! ## The method -/

/-- The method the documentation has the server choose. -/
def documentedMethod (users : ManagedUsers) (methods : List Byte) : Byte :=
  if users.credentials = [] then
    if 0x00 ∈ methods then 0x00 else 0xFF
  else if 0x02 ∈ methods then 0x02
  else 0xFF

/-- A session was answered with this method, and is about to be closed if the method is the refusal of all of them. -/
def Server.AnsweredWith (s : Server) (sid : Nat) (method : Byte) : Prop :=
  ∃ state, s.sessions sid = some state ∧ state.writeBuffer = [0x05, method] ∧ state.writeOff = 0 ∧
    (state.stage = .closing ↔ method = 0xFF)

/-- Users are configured when the table holds credentials. -/
theorem authIsRequired_iff (users : ManagedUsers) : authIsRequired users = true ↔ users.credentials ≠ [] := by
  unfold authIsRequired usersAreConfigured usersCount ManagedUsers.credentials
  rw [decide_eq_true_iff, List.countP_eq_length_filter, List.length_pos_iff, ne_eq, ne_eq, List.map_eq_nil_iff]

/-- The methods are searched for the one asked. -/
theorem any_beq_iff {methods : List Byte} {method : Byte} : methods.any (· == method) = true ↔ method ∈ methods := by
  simp

/-- The choice of the code is the documented one unless there are no users and the client offers a username and a password. -/
theorem chosenMethod_eq_iff (users : ManagedUsers) (methods : List Byte) :
    chosenMethod users methods = documentedMethod users methods ↔ users.credentials ≠ [] ∨ 0x02 ∉ methods := by
  have hpassword : socks5ClientOffersUsernamePassword methods = true ↔ 0x02 ∈ methods := any_beq_iff
  have hnone : ((!authIsRequired users) = true ∧ socks5ClientOffersNoAuth methods = true) ↔ users.credentials = [] ∧ 0x00 ∈ methods := by
    rw [Bool.not_eq_true', ← Bool.not_eq_true, authIsRequired_iff, not_not]
    exact and_congr_right fun _ => any_beq_iff
  unfold chosenMethod documentedMethod
  by_cases husers : users.credentials = []
  · rw [if_pos husers]
    by_cases h2 : 0x02 ∈ methods
    · rw [if_pos (hpassword.mpr h2)]
      constructor
      · intro he
        split at he <;> cases he
      · rintro (hne | hno)
        · exact absurd husers hne
        · exact absurd h2 hno
    · refine iff_of_true ?_ (.inr h2)
      rw [if_neg (mt hpassword.mp h2)]
      by_cases h0 : 0x00 ∈ methods
      · rw [if_pos (hnone.mpr ⟨husers, h0⟩), if_pos h0]
        rfl
      · rw [if_neg (fun h => h0 (hnone.mp h).2), if_neg h0]
        rfl
  · refine iff_of_true ?_ (.inl husers)
    rw [if_neg husers]
    by_cases h2 : 0x02 ∈ methods
    · rw [if_pos (hpassword.mpr h2), if_pos h2]
      rfl
    · rw [if_neg (mt hpassword.mp h2), if_neg (fun h => husers (hnone.mp h).1), if_neg h2]
      rfl

/-- A method the code chooses is one of three, and the last of them closes the session. -/
theorem stageAfterMethod_eq_closing (users : ManagedUsers) (methods : List Byte) :
    stageAfterMethod (chosenMethod users methods) = .closing ↔ chosenMethod users methods = 0xFF := by
  unfold chosenMethod
  split
  · decide
  · split <;> decide

/-- What a prepared reply leaves in the write buffer of its session. -/
theorem answeredWith_iff (s : Server) (fd : Int) (sid : Nat) (state : ClientState) (method method' : Byte) :
    ((s.prepareReply sid { state with stage := stageAfterMethod method, readBuffer := [] } (.greeting method)).setInterest
      fd opWrite).AnsweredWith sid method' ↔ method = method' ∧ (stageAfterMethod method = .closing ↔ method' = 0xFF) := by
  have hsession : ((s.prepareReply sid { state with stage := stageAfterMethod method, readBuffer := [] }
      (.greeting method)).setInterest fd opWrite).sessions sid =
      some { state with stage := stageAfterMethod method, readBuffer := [], writeBuffer := [0x05, method], writeOff := 0 } :=
    Function.update_self ..
  unfold Server.AnsweredWith
  rw [hsession]
  constructor
  · rintro ⟨_, he, hwrite, _, hstage⟩
    cases he
    exact ⟨(List.cons.inj (List.cons.inj hwrite).2).1, hstage⟩
  · rintro ⟨rfl, hstage⟩
    exact ⟨_, rfl, rfl, rfl, hstage⟩

/-- A complete greeting is answered as documented if and only if users are configured or the client does not offer a username
and a password. -/
theorem greeting_documented (s : Server) (key : SelectorKey Nat) (sid : Nat) (state : ClientState) (nmethods : Byte)
    (methods rest : List Byte) (hbuffer : state.readBuffer = 0x05 :: nmethods :: (methods ++ rest))
    (hcount : methods.length = nmethods.toNat) :
    (clientReadGreeting s key sid state).AnsweredWith sid (documentedMethod s.managedUsers methods) ↔
      s.managedUsers.credentials ≠ [] ∨ 0x02 ∉ methods := by
  have hverdict : greetingVerdict s.managedUsers state.readBuffer = .greet (chosenMethod s.managedUsers methods) := by
    have htake : (methods ++ rest).take nmethods.toNat = methods := by rw [← hcount, List.take_left]
    rw [hbuffer]
    unfold greetingVerdict
    dsimp only
    rw [if_neg (show ¬(0x05 : Byte) ≠ socks5Version from not_not_intro rfl), if_neg (by rw [List.length_append]; omega), htake]
  rw [clientReadGreeting_eq, hverdict]
  dsimp only
  rw [answeredWith_iff, ← chosenMethod_eq_iff]
  constructor
  · intro h
    exact h.1
  · intro h
    exact ⟨h, by rw [stageAfterMethod_eq_closing, h]⟩

/-- A greeting that offers no authentication only, to a server without users. -/
theorem greeting_documented_plain :
    (clientReadGreeting (Config.first .zeroed).start { fd := 5, data := some 0 } 0
      { ClientState.accepted 5 with readBuffer := [0x05, 0x01, 0x00] }).AnsweredWith 0 0x00 :=
  (greeting_documented (Config.first .zeroed).start { fd := 5, data := some 0 } 0
    { ClientState.accepted 5 with readBuffer := [0x05, 0x01, 0x00] } 1 [0x00] [] rfl rfl).mpr (.inr (by decide))

/-- A greeting that offers both methods, to a server without users, is sent to an authentication that nobody passes. -/
theorem greeting_undocumented :
    documentedMethod .zeroed [0x00, 0x02] = 0x00 ∧
    (clientReadGreeting (Config.first .zeroed).start { fd := 5, data := some 0 } 0
      { ClientState.accepted 5 with readBuffer := [0x05, 0x02, 0x00, 0x02] }).AnsweredWith 0 0x02 ∧
    ¬(clientReadGreeting (Config.first .zeroed).start { fd := 5, data := some 0 } 0
      { ClientState.accepted 5 with readBuffer := [0x05, 0x02, 0x00, 0x02] }).AnsweredWith 0 0x00 := by
  rw [clientReadGreeting_eq]
  refine ⟨by decide, (answeredWith_iff _ _ _ _ _ _).mpr ⟨rfl, by decide⟩, fun h => ?_⟩
  exact absurd ((answeredWith_iff _ _ _ _ _ _).mp h).1 (by decide)

/-! ## The authentication -/

/-- A message of the username and password authentication: two texts whose lengths fit an octet. -/
structure AuthMessage where
  username : List Byte
  password : List Byte
  username_fits : username.length ≤ 255
  password_fits : password.length ≤ 255

/-- The bytes of an authentication. -/
def AuthMessage.encode (m : AuthMessage) : List Byte :=
  0x01 :: UInt8.ofNat m.username.length :: (m.username ++ UInt8.ofNat m.password.length :: m.password)

/-- The bytes received are too few for a version and a length, or the beginning of a message that goes on. -/
def Unfinished (b : List Byte) : Prop := b.length < 2 ∨ ∃ m : AuthMessage, b <+: m.encode ∧ b ≠ m.encode

/-- The bytes received begin with the message of a user of the table. -/
def Authenticates (users : ManagedUsers) (b : List Byte) (m : AuthMessage) : Prop :=
  m.encode <+: b ∧ (m.username, m.password) ∈ users.credentials.map fun c => (c.1.bytes, c.2.bytes)

/-- A length that fits an octet. -/
theorem toNat_ofNat_length {text : List Byte} (h : text.length ≤ 255) : (UInt8.ofNat text.length).toNat = text.length := by
  rw [UInt8.toNat_ofNat']
  exact Nat.mod_eq_of_lt (by omega)

/-- The bytes of an authentication whose length fields are these. -/
theorem AuthMessage.encode_eq {m : AuthMessage} {n p : Byte} (hname : m.username.length = n.toNat)
    (hpassword : m.password.length = p.toNat) : m.encode = 0x01 :: n :: (m.username ++ p :: m.password) := by
  unfold AuthMessage.encode
  rw [hname, hpassword, UInt8.ofNat_toNat, UInt8.ofNat_toNat]

/-- The credentials of the wire are looked up in the table. -/
theorem usersCredentialsAreValid_iff (users : ManagedUsers) (username password : List Byte) :
    usersCredentialsAreValid users username password = true ↔
      (username, password) ∈ users.credentials.map fun c => (c.1.bytes, c.2.bytes) := by
  unfold usersCredentialsAreValid ManagedUsers.credentials
  rw [List.any_eq_true, List.map_map, List.mem_map]
  constructor
  · rintro ⟨u, hu, hp⟩
    simp only [Bool.and_eq_true, beq_iff_eq] at hp
    refine ⟨u, List.mem_filter.mpr ⟨hu, hp.1⟩, ?_⟩
    show (u.username.bytes, u.password.bytes) = _
    rw [hp.2.1.2, hp.2.2]
  · rintro ⟨u, hu, he⟩
    obtain ⟨hu, hin⟩ := List.mem_filter.mp hu
    cases he
    refine ⟨u, hu, ?_⟩
    simp only [Bool.and_eq_true, beq_iff_eq, CString.strlen]
    exact ⟨hin, ⟨⟨trivial, trivial⟩, trivial⟩, trivial⟩

/-- A username the table holds contains no NUL, so that it is read back whole. -/
theorem ofBuffer_of_valid {users : ManagedUsers} {username password : List Byte}
    (h : usersCredentialsAreValid users username password = true) : (CString.ofBuffer username).bytes = username := by
  rw [usersCredentialsAreValid_iff, List.mem_map] at h
  obtain ⟨c, _, he⟩ := h
  cases he
  rw [CString.ofBuffer_bytes]

/-- A username of which too little has come, or no byte after it. -/
theorem authVerdict_of_le (users : ManagedUsers) {n : Byte} {rest : List Byte} (h : rest.length ≤ n.toNat) :
    authVerdict users (0x01 :: n :: rest) = .wait := by
  unfold authVerdict
  dsimp only
  rw [if_neg (show ¬(0x01 : Byte) ≠ socks5AuthVersion from not_not_intro rfl), List.drop_eq_nil_iff.mpr h]

/-- A username followed by the length of the password. -/
theorem authVerdict_of_username (users : ManagedUsers) {n p : Byte} {username rest : List Byte} (h : username.length = n.toNat) :
    authVerdict users (0x01 :: n :: (username ++ p :: rest)) =
      if rest.length < p.toNat then .wait
      else if usersCredentialsAreValid users username (rest.take p.toNat) then .authenticate (some (.ofBuffer username))
      else .authenticate none := by
  have hdrop : (username ++ p :: rest).drop n.toNat = p :: rest := by rw [← h, List.drop_left]
  have htake : (username ++ p :: rest).take n.toNat = username := by rw [← h, List.take_left]
  unfold authVerdict
  dsimp only
  rw [if_neg (show ¬(0x01 : Byte) ≠ socks5AuthVersion from not_not_intro rfl), hdrop, htake]

/-- Another version is refused at once. -/
theorem authVerdict_of_version (users : ManagedUsers) {b : List Byte} (hlen : 2 ≤ b.length) (h : b[0]? ≠ some 0x01) :
    authVerdict users b = .authenticate none := by
  match b, hlen with
  | version :: n :: rest, _ =>
    unfold authVerdict
    dsimp only
    rw [if_pos]
    intro he
    exact h (congrArg some he)

/-- Too few bytes, or the beginning of a message, are waited on. -/
theorem authVerdict_of_unfinished (users : ManagedUsers) {b : List Byte} (h : Unfinished b) : authVerdict users b = .wait := by
  obtain hlen | ⟨m, ⟨t, ht⟩, hne⟩ := h
  · match b, hlen with
    | [], _ => rfl
    | [_], _ => rfl
  · match b with
    | [] => rfl
    | [_] => rfl
    | version :: n :: rest =>
      unfold AuthMessage.encode at ht hne
      simp only [List.cons_append, List.cons.injEq] at ht
      obtain ⟨rfl, rfl, ht⟩ := ht
      have hrest : rest ≠ m.username ++ UInt8.ofNat m.password.length :: m.password := by
        rintro rfl
        exact hne rfl
      have hname := toNat_ofNat_length m.username_fits
      obtain ⟨a, hname', ha⟩ | ⟨a, hrest', ha⟩ := List.append_eq_append_iff.mp ht
      · -- the bytes end inside the username, or with it
        refine authVerdict_of_le users ?_
        rw [hname, hname', List.length_append]
        omega
      · cases a with
        | nil =>
          refine authVerdict_of_le users ?_
          rw [hname, hrest', List.append_nil]
        | cons p a =>
          simp only [List.cons_append, List.cons.injEq] at ha
          obtain ⟨rfl, ha⟩ := ha
          have hmore : t ≠ [] := by
            rintro rfl
            rw [List.append_nil] at ha
            exact hrest (by rw [hrest', ha])
          have hlen := congrArg List.length ha
          have hpos := List.length_pos_iff.mpr hmore
          rw [List.length_append] at hlen
          rw [hrest', authVerdict_of_username users hname.symm, if_pos]
          rw [toNat_ofNat_length m.password_fits]
          omega

/-- A whole message is decided by the table. -/
theorem authVerdict_of_encode (users : ManagedUsers) (m : AuthMessage) (more : List Byte) :
    authVerdict users (m.encode ++ more) =
      if usersCredentialsAreValid users m.username m.password then .authenticate (some (.ofBuffer m.username))
      else .authenticate none := by
  have hcut : m.encode ++ more = 0x01 :: UInt8.ofNat m.username.length ::
      (m.username ++ UInt8.ofNat m.password.length :: (m.password ++ more)) := by simp [AuthMessage.encode]
  have hpassword := toNat_ofNat_length m.password_fits
  rw [hcut, authVerdict_of_username users (toNat_ofNat_length m.username_fits).symm,
    if_neg (by rw [hpassword, List.length_append]; omega), hpassword, List.take_left]

/-- Bytes that end within the username, or with it, are the beginning of a message. -/
theorem unfinished_of_le {n : Byte} {rest : List Byte} (h : rest.length ≤ n.toNat) : Unfinished (0x01 :: n :: rest) := by
  have hn := n.toNat_lt
  -- filled up with zeros, the bytes are a message with an empty password
  have hlen : (rest ++ List.replicate (n.toNat - rest.length) (0 : Byte)).length = n.toNat := by
    rw [List.length_append, List.length_replicate]
    omega
  refine .inr ⟨⟨rest ++ List.replicate (n.toNat - rest.length) 0, [], by omega, Nat.zero_le _⟩, ?_⟩
  rw [AuthMessage.encode_eq (p := 0) hlen rfl]
  constructor
  · rw [List.append_assoc, List.cons_prefix_cons, List.cons_prefix_cons]
    exact ⟨rfl, rfl, List.prefix_append rest _⟩
  · intro he
    have := congrArg List.length he
    simp only [List.length_cons, List.length_append, List.length_replicate, List.length_nil] at this
    omega

/-- Bytes that end within the password are the beginning of a message. -/
theorem unfinished_of_username {n p : Byte} {username rest : List Byte} (hname : username.length = n.toNat)
    (h : rest.length < p.toNat) : Unfinished (0x01 :: n :: (username ++ p :: rest)) := by
  have hn := n.toNat_lt
  have hp := p.toNat_lt
  have hlen : (rest ++ List.replicate (p.toNat - rest.length) (0 : Byte)).length = p.toNat := by
    rw [List.length_append, List.length_replicate]
    omega
  refine .inr ⟨⟨username, rest ++ List.replicate (p.toNat - rest.length) 0, by omega, by omega⟩, ?_⟩
  rw [AuthMessage.encode_eq hname hlen]
  constructor
  · rw [List.cons_prefix_cons, List.cons_prefix_cons, List.prefix_append_right_inj, List.cons_prefix_cons]
    exact ⟨rfl, rfl, rfl, List.prefix_append rest _⟩
  · intro he
    have := congrArg List.length he
    simp only [List.length_cons, List.length_append, List.length_replicate] at this
    omega

/-- Bytes that are not waited on are of another version, or a message with something after it. -/
theorem auth_finished {b : List Byte} (h : ¬Unfinished b) :
    2 ≤ b.length ∧ (b[0]? ≠ some 0x01 ∨ ∃ (m : AuthMessage) (more : List Byte), b = m.encode ++ more) := by
  have hlen : 2 ≤ b.length := by
    by_contra hlt
    exact h (.inl (by omega))
  refine ⟨hlen, ?_⟩
  match b, hlen with
  | version :: n :: rest, _ =>
    by_cases hv : version = 0x01
    · subst hv
      refine .inr ?_
      have hn := n.toNat_lt
      have hgt : n.toNat < rest.length := by
        by_contra hle
        exact h (unfinished_of_le (by omega))
      have hname : (rest.take n.toNat).length = n.toNat := by
        rw [List.length_take]
        omega
      have hcut := List.take_append_drop n.toNat rest
      rw [List.drop_eq_getElem_cons hgt] at hcut
      generalize rest[n.toNat] = p at hcut
      generalize rest.drop (n.toNat + 1) = rest' at hcut
      generalize rest.take n.toNat = username at hname hcut
      subst hcut
      have hp := p.toNat_lt
      have hge : p.toNat ≤ rest'.length := by
        by_contra hlt
        exact h (unfinished_of_username hname (by omega))
      have hpassword : (rest'.take p.toNat).length = p.toNat := by
        rw [List.length_take]
        omega
      refine ⟨⟨username, rest'.take p.toNat, by omega, by omega⟩, rest'.drop p.toNat, ?_⟩
      rw [AuthMessage.encode_eq hname hpassword]
      simp
    · exact .inl fun he => hv (Option.some.inj he)

/-- Once the bytes are enough, more of them make no difference. -/
theorem authVerdict_append (users : ManagedUsers) {b : List Byte} (h : ¬Unfinished b) (more : List Byte) :
    authVerdict users (b ++ more) = authVerdict users b := by
  obtain ⟨hlen, hv | ⟨m, after, rfl⟩⟩ := auth_finished h
  · rw [authVerdict_of_version users hlen hv, authVerdict_of_version users (by rw [List.length_append]; omega)]
    rwa [List.getElem?_append_left (by omega)]
  · rw [List.append_assoc, authVerdict_of_encode, authVerdict_of_encode]

/-- Bytes that are not waited on are decided. -/
theorem authVerdict_of_finished (users : ManagedUsers) {b : List Byte} (h : ¬Unfinished b) :
    ∃ outcome, authVerdict users b = .authenticate outcome := by
  obtain ⟨hlen, hv | ⟨m, more, rfl⟩⟩ := auth_finished h
  · exact ⟨none, authVerdict_of_version users hlen hv⟩
  · rw [authVerdict_of_encode]
    split
    · exact ⟨_, rfl⟩
    · exact ⟨none, rfl⟩

/-- The message of a user of the table is authenticated, with its username. -/
theorem Authenticates.authVerdict {users : ManagedUsers} {b : List Byte} {m : AuthMessage} (h : Authenticates users b m) :
    authVerdict users b = .authenticate (some (.ofBuffer m.username)) := by
  obtain ⟨⟨more, rfl⟩, hin⟩ := h
  rw [authVerdict_of_encode, if_pos ((usersCredentialsAreValid_iff users _ _).mpr hin)]

/-- Only the message of a user of the table is authenticated, and its username has room in its array. -/
theorem authenticates_of_authVerdict {users : ManagedUsers} {b : List Byte} {username : CString}
    (h : authVerdict users b = .authenticate (some username)) :
    ∃ m, Authenticates users b m ∧ username.bytes = m.username ∧ username.strlen < clientUsernameMax + 1 := by
  have hfinished : ¬Unfinished b := by
    intro hu
    rw [authVerdict_of_unfinished users hu] at h
    cases h
  obtain ⟨hlen, hv | ⟨m, more, rfl⟩⟩ := auth_finished hfinished
  · rw [authVerdict_of_version users hlen hv] at h
    cases h
  · rw [authVerdict_of_encode] at h
    split at h
    · rename_i hvalid
      cases h
      have hbytes := ofBuffer_of_valid hvalid
      refine ⟨m, ⟨List.prefix_append _ _, (usersCredentialsAreValid_iff users _ _).mp hvalid⟩, hbytes, ?_⟩
      rw [CString.strlen, hbytes]
      exact Nat.lt_succ_of_le m.username_fits
    · cases h

/-- `auth_parse_request` on any bytes received and any table. It never reads past them. It waits exactly for bytes that are too
few or the beginning of a message; otherwise it authenticates exactly the message of a user of the table, whatever follows, and
more bytes change nothing. The username changes on success only, and then is the one of the message, with room for its NUL. -/
theorem auth_parse (users : ManagedUsers) (state : ClientState) :
    ∃ complete authenticated state', authParseRequest users state = some (complete, authenticated, state') ∧
      (complete = false ↔ Unfinished state.readBuffer) ∧
      (authenticated = true ↔ ∃ m, Authenticates users state.readBuffer m) ∧
      (authenticated = false → state' = state) ∧
      (authenticated = true → ∃ m, Authenticates users state.readBuffer m ∧ ∃ username : CString,
        username.bytes = m.username ∧ username.strlen < clientUsernameMax + 1 ∧ state' = { state with username }) ∧
      (complete = true → ∀ more, authParseRequest users { state with readBuffer := state.readBuffer ++ more } =
        some (true, authenticated, { state' with readBuffer := state.readBuffer ++ more })) := by
  rw [authParseRequest_eq]
  by_cases hu : Unfinished state.readBuffer
  · have hno : ¬∃ m, Authenticates users state.readBuffer m := by
      rintro ⟨m, hm⟩
      have := hm.authVerdict
      rw [authVerdict_of_unfinished users hu] at this
      cases this
    rw [authVerdict_of_unfinished users hu]
    exact ⟨false, false, state, rfl, iff_of_true rfl hu, iff_of_false nofun hno, fun _ => rfl, nofun, nofun⟩
  · obtain ⟨outcome, hv⟩ := authVerdict_of_finished users hu
    have hmore : ∀ more, authVerdict users (state.readBuffer ++ more) = .authenticate outcome :=
      fun more => (authVerdict_append users hu more).trans hv
    rw [hv]
    cases outcome with
    | none =>
      have hno : ¬∃ m, Authenticates users state.readBuffer m := by
        rintro ⟨m, hm⟩
        have := hm.authVerdict
        rw [hv] at this
        cases this
      refine ⟨true, false, state, rfl, iff_of_false nofun hu, iff_of_false nofun hno, fun _ => rfl, nofun, fun _ more => ?_⟩
      rw [authParseRequest_eq, hmore more]
    | some username =>
      obtain ⟨m, hm, hbytes, hfits⟩ := authenticates_of_authVerdict hv
      refine ⟨true, true, { state with username }, rfl, iff_of_false nofun hu, iff_of_true rfl ⟨m, hm⟩, nofun,
        fun _ => ⟨m, hm, username, hbytes, hfits, rfl⟩, fun _ more => ?_⟩
      rw [authParseRequest_eq, hmore more]

end SocksProxy
