import SocksProxy.Runs

/-!
# Admission

No session is admitted to make a request but by the choice of method 0x00 while no user is configured, or by credentials the users
table held when they were checked. The username it was admitted under stays its username.
-/

namespace SocksProxy

/-- The stages of a session that was admitted and is not yet at its end: it may make a request, or has made one. -/
def ClientStage.Admitted (stage : ClientStage) : Prop :=
  stage = .request ∨ stage = .resolving ∨ stage = .connecting ∨ stage = .relay

/-- The authentication message with this username and this password. -/
def authMessage (username password : CString) : List Byte :=
  socks5AuthVersion :: UInt8.ofNat username.strlen :: username.bytes ++ UInt8.ofNat password.strlen :: password.bytes

/-- In this step the greeting of session `sid` was answered with method 0x00, and the users table was empty. -/
def Server.AdmitsAnyone (s : Server) (e : Event) (sid : Nat) : Prop :=
  .prepared (.greeting socks5MethodNoAuth) ∈ s.doing e sid ∧ usersCount s.managedUsers = 0

/-- In this step `auth_parse_request` matched what session `sid` had received by then: a username and a password that the users
table held. -/
def Server.AdmitsUser (s : Server) (e : Event) (sid : Nat) (username : CString) : Prop :=
  ∃ state bytes password state', s.sessions sid = some state ∧
    .recvHandshake bytes ∈ s.doing e sid ∧ .prepared (.auth socks5AuthSuccess) ∈ s.doing e sid ∧
    (username, password) ∈ s.managedUsers.credentials ∧ authMessage username password <+: state.readBuffer ++ bytes ∧
    authParseRequest s.managedUsers { state with readBuffer := state.readBuffer ++ bytes } = some (true, true, state') ∧
    state'.username = username

/-! ## Credentials -/

/-- Credentials found valid are those of a slot in use. -/
theorem credentials_of_valid {users : ManagedUsers} {username password : List Byte}
    (h : usersCredentialsAreValid users username password = true) :
    ∃ u p : CString, (u, p) ∈ users.credentials ∧ u.bytes = username ∧ p.bytes = password := by
  unfold usersCredentialsAreValid at h
  obtain ⟨user, hm, hv⟩ := List.any_eq_true.mp h
  simp only [Bool.and_eq_true, beq_iff_eq] at hv
  refine ⟨user.username, user.password, List.mem_map.mpr ⟨user, List.mem_filter.mpr ⟨hm, hv.1⟩, rfl⟩, hv.2.1.2, hv.2.2⟩

/-- A positive verdict on an authentication is about credentials the table holds, which open the bytes received. -/
theorem authVerdict_some {users : ManagedUsers} {buffer : List Byte} {username : CString}
    (h : authVerdict users buffer = .authenticate (some username)) :
    ∃ password, (username, password) ∈ users.credentials ∧ authMessage username password <+: buffer := by
  unfold authVerdict at h
  split at h
  · rename_i version usernameLen rest
    split at h
    · cases h
    · rename_i hversion
      split at h
      · cases h
      · rename_i passwordLen rest' hdrop
        split at h
        · cases h
        · split at h
          · rename_i hlen hvalid
            obtain ⟨u, p, hm, hu, hp⟩ := credentials_of_valid hvalid
            rw [← hu, CString.ofBuffer_bytes] at h
            obtain rfl : u = username := by simpa using h
            have hlt : usernameLen.toNat < rest.length := by
              have := congrArg List.length hdrop
              simp only [List.length_drop, List.length_cons] at this
              omega
            have hul : u.strlen = usernameLen.toNat := by
              rw [CString.strlen, hu, List.length_take]
              omega
            have hpl : p.strlen = passwordLen.toNat := by
              rw [CString.strlen, hp, List.length_take]
              omega
            refine ⟨p, hm, rest'.drop passwordLen.toNat, ?_⟩
            have hrest : rest = rest.take usernameLen.toNat ++ passwordLen :: rest' := by
              rw [← hdrop, List.take_append_drop]
            rw [authMessage, hul, hpl, UInt8.ofNat_toNat, UInt8.ofNat_toNat, not_not.mp hversion, hu, hp]
            conv_rhs => rw [hrest, ← List.take_append_drop passwordLen.toNat rest']
            simp
          · cases h
  · cases h

/-! ## One step -/

/-- A session admitted under this username, or closed. -/
def Life.Named (username : CString) : Life → Prop
  | .unborn => False
  | .live v => v.state.username = username ∧ v.state.stage ≠ .greeting ∧ v.state.stage ≠ .auth
  | .gone => True

section Step

variable {env : Env} {L L' : Life} {acts : List Act} {username : CString}

/-- Connecting to addresses keeps the username. -/
theorem Connects.named {v v' : View} {st : ClientState} {l : List AddrInfo} {acts : List Act} (h : Connects v st l acts v') :
    v'.state.username = st.username ∧ (v'.state.stage = .connecting ∨ v'.state.stage = .closing) := by
  obtain ⟨_, _, _, ⟨_, _, _, _, _, rfl⟩ | ⟨_, rfl, _, rfl⟩⟩ := h.eq
  · exact ⟨rfl, .inl rfl⟩
  · exact ⟨rfl, .inr rfl⟩

/-- Beginning a request keeps the username. -/
theorem Begins.named {v v' : View} {st : ClientState} {r : Socks5Request} {acts : List Act} (h : Begins v st r acts v') :
    v'.state.username = st.username ∧ v'.state.stage ≠ .greeting ∧ v'.state.stage ≠ .auth := by
  have hu : (st.beginning r).username = st.username := by
    obtain ⟨host, hb⟩ := st.beginning_eq r
    rw [hb]
  cases h with
  | resolving => exact ⟨hu, by simp, by simp⟩
  | unresolved => exact ⟨hu, by simp [View.replying, ClientState.refused]⟩
  | connecting => exact ⟨hu, by simp [View.connecting], by simp [View.connecting]⟩
  | unconnected => exact ⟨hu, by simp [View.replying, ClientState.refused]⟩

/-- An admitted session keeps its username through every step. -/
theorem SessionStep.named (h : SessionStep env L acts L') (hn : L.Named username) : L'.Named username := by
  cases h with
  | accepted => exact hn.elim
  | never => exact hn.elim
  | closed => trivial
  | clientEnded => trivial
  | targetEnded => trivial
  | connectDone => exact hn
  | waits => exact hn
  | hungUp => trivial
  | greeted _ _ _ _ hst => exact absurd hst hn.2.1
  | authenticated _ _ _ _ hst => exact absurd hst hn.2.2
  | unauthenticated _ _ _ _ hst => exact absurd hst hn.2.2
  | rejected => exact ⟨hn.1, by simp [View.replying], by simp [View.replying]⟩
  | begun _ _ _ _ _ _ hb =>
    obtain ⟨h1, h2⟩ := hb.named
    exact ⟨h1.trans hn.1, h2⟩
  | unresolved => exact ⟨hn.1, by simp [View.replying, ClientState.refused], by simp [View.replying, ClientState.refused]⟩
  | resolved _ _ _ hc =>
    obtain ⟨h1, h2⟩ := hc.named
    exact ⟨h1.trans hn.1, by rcases h2 with h2 | h2 <;> simp [h2]⟩
  | connected => exact ⟨hn.1, by simp [View.replying, ClientState.connected], by simp [View.replying, ClientState.connected]⟩
  | unconnected _ _ _ hc =>
    obtain ⟨h1, h2⟩ := hc.named
    exact ⟨h1.trans hn.1, by rcases h2 with h2 | h2 <;> simp [h2]⟩
  | replyBlocked => exact hn
  | replySent => exact hn
  | replySentClosing => trivial
  | relayStarts => exact hn
  | fromClient => exact hn
  | toTargetBlocked => exact hn
  | toTarget => exact hn
  | fromTarget => exact hn
  | toClientBlocked => exact hn
  | toClient => exact hn

/-- A session that was admitted under a username keeps it. -/
theorem SessionSteps.named (h : SessionSteps env L acts L') (hn : L.Named username) : L'.Named username :=
  Traces.Steps.preserves (fun _ _ _ hn h => SessionStep.named h hn) hn h

/-- The greeting of a session was answered with method 0x00, and the users table was empty. -/
def Env.AdmitsAnyone (env : Env) (acts : List Act) : Prop :=
  .prepared (.greeting socks5MethodNoAuth) ∈ acts ∧ usersCount env.users = 0

/-- The credentials a session received were found in the users table. -/
def Env.AdmitsUser (env : Env) (acts : List Act) (username : CString) : Prop :=
  ∃ v bytes, env.recv .client v (.data bytes) ∧ .recvHandshake bytes ∈ acts ∧ .prepared (.auth socks5AuthSuccess) ∈ acts ∧
    authVerdict env.users (v.state.readBuffer ++ bytes) = .authenticate (some username)

/-- A session that is there and was admitted. -/
def Life.Admitted : Life → Prop
  | .live v => v.state.stage.Admitted
  | _ => False

/-- A step that leads to an admitted session starts from one, or admits it. -/
theorem SessionStep.admitted (h : SessionStep env L acts L') (ha : L'.Admitted) :
    L.Admitted ∨ env.AdmitsAnyone acts ∨ ∃ username, env.AdmitsUser acts username ∧ L'.Named username := by
  cases h with
  | accepted => simp [Life.Admitted, View.accepted, ClientState.accepted, ClientStage.Admitted] at ha
  | never => exact ha.elim
  | closed => exact ha.elim
  | clientEnded => exact ha.elim
  | targetEnded => exact ha.elim
  | connectDone => exact .inl ha
  | waits => exact .inl ha
  | hungUp => exact ha.elim
  | @greeted v bytes method _ _ _ _ hst hv =>
    refine .inr (.inl ?_)
    have hm : method = chosenMethod env.users ((v.state.readBuffer ++ bytes).drop 2 |>.take
        ((v.state.readBuffer ++ bytes)[1]?.getD 0).toNat) := by
      rw [hst] at hv
      simp only [verdict, greetingVerdict] at hv
      split at hv
      · rename_i heq
        rw [heq]
        split at hv
        · cases hv
        · split at hv
          · cases hv
          · cases hv
            rfl
      · cases hv
    simp only [Life.Admitted, View.replying, stageAfterMethod, ClientStage.Admitted] at ha
    rw [hm] at ha ⊢
    unfold chosenMethod at ha ⊢
    split at ha
    · simp [socks5MethodUsernamePassword] at ha
    · split at ha
      · rename_i hno
        rw [if_neg ‹_›, if_pos hno]
        refine ⟨by simp, ?_⟩
        simpa [authIsRequired, usersAreConfigured] using hno.1
      · simp [socks5MethodNoAcceptable, socks5MethodUsernamePassword, socks5MethodNoAuth] at ha
  | @authenticated v bytes username _ hr _ _ hst hv =>
    refine .inr (.inr ⟨username, ⟨v, bytes, hr, by simp, by simp, ?_⟩, rfl, by simp [View.replying], by simp [View.replying]⟩)
    rw [hst] at hv
    exact hv
  | unauthenticated => simp [Life.Admitted, View.replying, ClientStage.Admitted] at ha
  | rejected => simp [Life.Admitted, View.replying, ClientStage.Admitted] at ha
  | begun _ _ _ _ hst => exact .inl (.inl hst)
  | unresolved hst => exact .inl (.inr (.inl hst))
  | resolved hst => exact .inl (.inr (.inl hst))
  | connected hst => exact .inl (.inr (.inr (.inl hst)))
  | unconnected hst => exact .inl (.inr (.inr (.inl hst)))
  | replyBlocked => exact .inl ha
  | replySent => exact .inl ha
  | replySentClosing => exact ha.elim
  | relayStarts => exact .inl ha
  | fromClient => exact .inl ha
  | toTargetBlocked => exact .inl ha
  | toTarget => exact .inl ha
  | fromTarget => exact .inl ha
  | toClientBlocked => exact .inl ha
  | toClient => exact .inl ha

/-- Steps that lead to an admitted session start from one, or one of them admits it. -/
theorem SessionSteps.admitted (h : SessionSteps env L acts L') (ha : L'.Admitted) :
    L.Admitted ∨ env.AdmitsAnyone acts ∨ ∃ username, env.AdmitsUser acts username ∧ L'.Named username := by
  induction h with
  | refl => exact .inl ha
  | tail _ hstep ih =>
    rcases hstep.admitted ha with ha' | ⟨h1, h2⟩ | ⟨username, ⟨v, bytes, hr, h1, h2, h3⟩, hn⟩
    · rcases ih ha' with h0 | ⟨h1, h2⟩ | ⟨username, ⟨v, bytes, hr, h1, h2, h3⟩, hn⟩
      · exact .inl h0
      · exact .inr (.inl ⟨List.mem_append_left _ h1, h2⟩)
      · exact .inr (.inr ⟨username, ⟨v, bytes, hr, List.mem_append_left _ h1, List.mem_append_left _ h2, h3⟩, hstep.named hn⟩)
    · exact .inr (.inl ⟨List.mem_append_right _ h1, h2⟩)
    · exact .inr (.inr ⟨username, ⟨v, bytes, hr, List.mem_append_right _ h1, List.mem_append_right _ h2, h3⟩, hn⟩)

end Step

/-! ## Every run -/

section Run

variable (c : Config) (sid : Nat)

/-- A session admitted under a username keeps it in every continuation of the run. -/
theorem run_named {username : CString} {es : List Event} (hn : ((run c.start es).life sid).Named username)
    (post : List Event) : ((run c.start (es ++ post)).life sid).Named username := by
  induction post using List.reverseRecOn with
  | nil => simpa using hn
  | append_singleton post e ih =>
    obtain ⟨_, _, hs⟩ := (run_lives c (es ++ post) e).steps sid
    rw [← List.append_assoc]
    exact SessionSteps.named hs ih

/-- A session that is in stage `REQUEST`, `RESOLVING`, `CONNECTING` or `RELAY` was admitted at an earlier step of its own: its
greeting was answered with method 0x00 while the users table was empty, or the credentials it sent were in the users table of
that step, and its username is the one of those credentials from then on. -/
theorem admitted_at_earlier_step (es : List Event) {state : ClientState} (hs : (run c.start es).sessions sid = some state)
    (hst : state.stage = .request ∨ state.stage = .resolving ∨ state.stage = .connecting ∨ state.stage = .relay) :
    ∃ pre e post, es = pre ++ e :: post ∧
      ((run c.start pre).AdmitsAnyone e sid ∨
        ∃ username, (run c.start pre).AdmitsUser e sid username ∧
          ∀ later state', (run c.start (pre ++ e :: later)).sessions sid = some state' → state'.username = username) := by
  have ha : ((run c.start es).life sid).Admitted := by
    rw [Server.life_of_some hs]
    exact hst
  clear hs hst
  induction es using List.reverseRecOn with
  | nil =>
    rw [show run c.start [] = c.start from rfl, c.life_start] at ha
    exact ha.elim
  | append_singleton es e ih =>
    obtain ⟨acts, hacts, hsteps⟩ := (run_lives c es e).steps sid
    rw [run_append] at hacts
    have hdoing := Server.doing_eq hacts
    rcases SessionSteps.admitted hsteps ha with h0 | ⟨h1, h2⟩ | ⟨username, ⟨v, bytes, hr, h1, h2, h3⟩, hn⟩
    · obtain ⟨pre, e', post, rfl, h⟩ := ih h0
      exact ⟨pre, e', post ++ [e], by simp, h⟩
    · exact ⟨es, e, [], rfl, .inl ⟨by rw [hdoing]; exact h1, h2⟩⟩
    · refine ⟨es, e, [], rfl, .inr ⟨username, ?_, fun later state' hs' => ?_⟩⟩
      · obtain ⟨password, hm, hp⟩ := authVerdict_some h3
        refine ⟨v.state, bytes, password, { v.state with readBuffer := v.state.readBuffer ++ bytes, username },
          (Server.sessions_of_life hr.life).1, by rw [hdoing]; exact h1, by rw [hdoing]; exact h2, hm, hp, ?_, rfl⟩
        have h3 : authVerdict (run c.start es).managedUsers (v.state.readBuffer ++ bytes) = .authenticate (some username) := h3
        rw [authParseRequest_eq]
        simp only [h3]
      · have hl := run_named c sid hn later
        rw [show es ++ [e] ++ later = es ++ e :: later by simp, Server.life_of_some hs'] at hl
        exact hl.1

end Run

/-- A run: a client connects and offers method 0x00 to a server without users. -/
def admissionRun : List Event :=
  [.read 3 { accepts := [.accepted 5 .ok true] }, .read 5 { recv := .data [0x05, 0x01, 0x00] }]

/-- The session of this run was admitted by its greeting. -/
theorem admitted_at_earlier_step_first : ∃ pre e post, admissionRun = pre ++ e :: post ∧
    ((run (Config.first .zeroed).start pre).AdmitsAnyone e 0 ∨
      ∃ username, (run (Config.first .zeroed).start pre).AdmitsUser e 0 username ∧
        ∀ later state', (run (Config.first .zeroed).start (pre ++ e :: later)).sessions 0 = some state' →
          state'.username = username) :=
  admitted_at_earlier_step (Config.first .zeroed) 0 admissionRun
    (Option.some_get (x := (run (Config.first .zeroed).start admissionRun).sessions 0) (by decide +kernel)).symm
    (.inl (by decide +kernel))

end SocksProxy
