import SocksProxy.Theorems.AccessLog
import SocksProxy.Theorems.Admission
import SocksProxy.Theorems.UsersHistory

/-!
# Who is in the access log

Every line of the access log can be answered for. It belongs to one session, which was admitted at one moment of the run: anonymously,
when the history of the users had left no user, or under the name on the line, which the history had given the password that the
session presented. No change of the users, before or after, puts another name on the line.
-/

namespace SocksProxy

/-- The username of a session that nobody has authenticated. -/
def anonymous : CString := (literal "anonymous").snprintf (clientUsernameMax + 1)

/-! ## One step -/

/-- A username that a session was admitted under: before these acts, anonymously by them, or with credentials by them. -/
def Env.Vouches (env : Env) (earlier : CString → Prop) (acts : List Act) (username : CString) : Prop :=
  earlier username ∨ username = anonymous ∧ env.AdmitsAnyone acts ∨ env.AdmitsUser acts username

/-- A session whose username is one it was admitted under, once it is admitted, and that of nobody before its greeting. -/
def Life.Vouched (earlier : CString → Prop) : Life → Prop
  | .live v => (v.state.stage = .greeting → v.state.username = anonymous) ∧ (v.state.stage.Admitted → earlier v.state.username)
  | _ => True

section Step

variable {env : Env} {L L' : Life} {acts acts' : List Act} {earlier earlier' : CString → Prop} {username : CString}

/-- More acts, and more admissions before them. -/
theorem Env.Vouches.mono (h : env.Vouches earlier acts username) (he : ∀ u, earlier u → earlier' u) (ha : ∀ a ∈ acts, a ∈ acts') :
    env.Vouches earlier' acts' username := by
  obtain h | ⟨hu, h1, h2⟩ | ⟨v, bytes, hr, h1, h2, h3⟩ := h
  · exact .inl (he username h)
  · exact .inr (.inl ⟨hu, ha _ h1, h2⟩)
  · exact .inr (.inr ⟨v, bytes, hr, ha _ h1, ha _ h2, h3⟩)

/-- What is vouched for stays so. -/
theorem Life.Vouched.mono (h : L.Vouched earlier) (he : ∀ u, earlier u → earlier' u) : L.Vouched earlier' := by
  cases L with
  | live v => exact ⟨h.1, fun ha => he _ (h.2 ha)⟩
  | _ => trivial

/-- Lines of the access log have the name of the session. -/
theorem entries_logActs_username (st : ClientState) (success : Bool) :
    ∀ entry ∈ Act.entries (st.logActs success), entry.username = st.username := by
  intro entry he
  unfold ClientState.logActs at he
  split at he
  · cases he
  · obtain rfl := List.mem_singleton.mp he
    rfl

/-- The line of a refusal has the name of the session. -/
theorem entries_refusedActs_username (pre : List Act) (hpre : pre.all Act.unlogged = true) (st : ClientState) (code : Byte) :
    ∀ entry ∈ Act.entries (pre ++ st.refusedActs code), entry.username = st.username := by
  rw [(refusedActs_log pre hpre st code).2]
  exact entries_logActs_username st false

/-- The line of a connection has the name of the session. -/
theorem Connects.entries_username {v v' : View} {st : ClientState} {l : List AddrInfo} (h : Connects v st l acts v') :
    ∀ entry ∈ Act.entries acts, entry.username = st.username := by
  obtain ⟨addrs, current, e, ⟨fd, c, _, _, rfl, _⟩ | ⟨st', rfl, rfl, _⟩⟩ := h.eq
  · have hquiet : (addrs.map Act.attempted).all Act.unlogged = true := by simp [Act.unlogged]
    intro entry he
    rw [(Act.of_unlogged hquiet).2] at he
    cases he
  · exact entries_refusedActs_username _ (by simp [Act.unlogged]) _ _

/-- The line of a request that begins has the name of the session. -/
theorem Begins.entries_username {v v' : View} {st : ClientState} {r : Socks5Request} (h : Begins v st r acts v') :
    ∀ entry ∈ Act.entries acts, entry.username = st.username := by
  have hu : (st.beginning r).username = st.username := by
    obtain ⟨host, hb⟩ := st.beginning_eq r
    rw [hb]
  rw [← hu]
  cases h with
  | resolving => exact fun entry he => by cases he
  | unresolved => exact entries_refusedActs_username [] rfl _ _
  | connecting => exact fun entry he => by cases he
  | unconnected => exact entries_refusedActs_username [.attempted r.addr] rfl _ _

/-- Only an admitted session is logged, under its name. -/
theorem SessionStep.entries_username (h : SessionStep env L acts L') :
    ∀ entry ∈ Act.entries acts, ∃ v, L = .live v ∧ v.state.stage.Admitted ∧ entry.username = v.state.username := by
  have hnone : ∀ {as : List Act}, as.all Act.unlogged = true → ∀ entry ∈ Act.entries as,
      ∃ v, L = .live v ∧ v.state.stage.Admitted ∧ entry.username = v.state.username := by
    intro as ha entry he
    rw [(Act.of_unlogged ha).2] at he
    cases he
  cases h with
  | @begun v _ bytes r acts' _ _ _ _ hst _ hb =>
    intro entry he
    have he : entry ∈ Act.entries ([.recvHandshake bytes, .begun r] ++ acts') := he
    rw [Act.entries_append] at he
    exact ⟨v, rfl, .inl hst, hb.entries_username entry he⟩
  | @unresolved v status result hst _ _ =>
    exact fun entry he => ⟨v, rfl, .inr (.inl hst), entries_refusedActs_username [.resolved status result] rfl v.state _ entry he⟩
  | @resolved v v' result acts' hst _ _ hcon =>
    intro entry he
    have he : entry ∈ Act.entries ([.resolved 0 result] ++ acts') := he
    rw [Act.entries_append] at he
    exact ⟨v, rfl, .inr (.inl hst), hcon.entries_username entry he⟩
  | @connected v c hst _ _ _ =>
    exact fun entry he => ⟨v, rfl, .inr (.inr (.inl hst)), entries_logActs_username v.state true entry he⟩
  | @unconnected v v' e acts' hst _ _ hcon =>
    exact fun entry he => ⟨v, rfl, .inr (.inr (.inl hst)), hcon.entries_username entry he⟩
  | _ => exact hnone (by simp [Act.unlogged])

/-- A session before its greeting is anonymous. -/
theorem SessionStep.unnamed (h : SessionStep env L acts L') (hL : L.Vouched earlier) {v' : View} (hv : L' = .live v')
    (hst : v'.state.stage = .greeting) : v'.state.username = anonymous := by
  cases h with
  | accepted =>
    cases hv
    rfl
  | connectDone =>
    cases hv
    exact hL.1 hst
  | waits =>
    cases hv
    exact hL.1 hst
  | @greeted v bytes method =>
    cases hv
    obtain h | h | h := stageAfterMethod_cases method <;> exact absurd (h.symm.trans hst) nofun
  | authenticated => cases hv; cases hst
  | unauthenticated => cases hv; cases hst
  | rejected => cases hv; cases hst
  | begun _ _ _ _ _ _ hb =>
    cases hv
    exact absurd hst hb.named.2.1
  | unresolved => cases hv; cases hst
  | resolved _ _ _ hc =>
    cases hv
    exact absurd hst (by rcases hc.named.2 with h | h <;> rw [h] <;> decide)
  | connected => cases hv; cases hst
  | unconnected _ _ _ hc =>
    cases hv
    exact absurd hst (by rcases hc.named.2 with h | h <;> rw [h] <;> decide)
  | never | closed | clientEnded | targetEnded | hungUp | replySentClosing => cases hv
  | _ =>
    cases hv
    exact hL.1 hst

/-- A step that admits a session admits it anonymously, or under the username it has then. -/
theorem SessionStep.admits (h : SessionStep env L acts L') (hL : L.Vouched earlier) (hno : ¬L.Admitted) {v' : View}
    (hv : L' = .live v') (ha : v'.state.stage.Admitted) : env.Vouches earlier acts v'.state.username := by
  have hadm : L.Admitted ∨ env.AdmitsAnyone acts ∨ ∃ username, env.AdmitsUser acts username ∧ L'.Named username := by
    rw [hv] at h ⊢
    exact h.admitted ha
  obtain h0 | hany | ⟨username, huser, hnamed⟩ := hadm
  · exact absurd h0 hno
  · refine .inr (.inl ⟨?_, hany⟩)
    -- the greeting is the only step that admits without credentials
    cases h with
    | @greeted v bytes method _ _ _ _ hst _ =>
      cases hv
      exact hL.1 hst
    | authenticated => exact absurd hany.1 (by simp)
    | accepted => cases hv; simp [View.accepted, ClientState.accepted, ClientStage.Admitted] at ha
    | unauthenticated => cases hv; simp [View.replying, ClientStage.Admitted] at ha
    | rejected => cases hv; simp [View.replying, ClientStage.Admitted] at ha
    | begun _ _ _ _ hst => exact absurd (.inl hst) hno
    | unresolved hst => exact absurd (.inr (.inl hst)) hno
    | resolved hst => exact absurd (.inr (.inl hst)) hno
    | connected hst => exact absurd (.inr (.inr (.inl hst))) hno
    | unconnected hst => exact absurd (.inr (.inr (.inl hst))) hno
    | never | closed | clientEnded | targetEnded | hungUp | replySentClosing => cases hv
    | _ => cases hv; exact absurd ha hno
  · rw [hv] at hnamed
    exact .inr (.inr (hnamed.1 ▸ huser))

/-- A step vouches for the lines it writes and for the username it leaves. -/
theorem SessionStep.vouched (h : SessionStep env L acts L') (hL : L.Vouched earlier) :
    (∀ entry ∈ Act.entries acts, earlier entry.username) ∧ L'.Vouched (env.Vouches earlier acts) := by
  refine ⟨fun entry he => ?_, ?_⟩
  · obtain ⟨v, rfl, hst, hu⟩ := h.entries_username entry he
    rw [hu]
    exact hL.2 hst
  · cases hL' : L' with
    | live v' =>
      refine ⟨h.unnamed hL hL', fun ha => ?_⟩
      by_cases h0 : L.Admitted
      · cases L with
        | live v =>
          have hn : (Life.live v).Named v.state.username := by
            refine ⟨rfl, ?_, ?_⟩ <;> intro hst <;> rw [Life.Admitted, hst] at h0 <;>
              obtain h0 | h0 | h0 | h0 := h0 <;> cases h0
          have hn' := h.named hn
          rw [hL'] at hn'
          rw [hn'.1]
          exact .inl (hL.2 h0)
        | _ => exact h0.elim
      · exact h.admits hL h0 hL' ha
    | _ => trivial

/-- The steps of an event vouch for the lines they write and for the username they leave. -/
theorem SessionSteps.vouched (h : SessionSteps env L acts L') (hL : L.Vouched earlier) :
    (∀ entry ∈ Act.entries acts, env.Vouches earlier acts entry.username) ∧ L'.Vouched (env.Vouches earlier acts) := by
  refine Traces.Steps.invariant
    (P := fun acts L => (∀ entry ∈ Act.entries acts, env.Vouches earlier acts entry.username) ∧ L.Vouched (env.Vouches earlier acts))
    (fun hist L as L' hp hs => ?_) [] ⟨(fun entry he => by cases he), hL.mono fun u hu => .inl hu⟩ h
  obtain ⟨hentries, hlife⟩ := hs.vouched hp.2
  have hold : ∀ u, env.Vouches earlier hist u → env.Vouches earlier (hist ++ as) u :=
    fun u hu => hu.mono (fun _ => id) fun a ha => List.mem_append_left as ha
  refine ⟨fun entry he => ?_, hlife.mono fun u hu => ?_⟩
  · rw [Act.entries_append] at he
    obtain he | he := List.mem_append.mp he
    · exact hold _ (hp.1 entry he)
    · exact hold _ (hentries entry he)
  · obtain hu | ⟨hu, h1, h2⟩ | ⟨v, bytes, hr, h1, h2, h3⟩ := hu
    · exact hold u hu
    · exact .inr (.inl ⟨hu, List.mem_append_right hist h1, h2⟩)
    · exact .inr (.inr ⟨v, bytes, hr, List.mem_append_right hist h1, List.mem_append_right hist h2, h3⟩)

end Step

/-! ## Every run -/

/-- In this step session `sid` presented this username and this password, and was told that they are right. -/
def Server.Presents (s : Server) (e : Event) (sid : Nat) (username password : CString) : Prop :=
  ∃ state bytes, s.sessions sid = some state ∧ .recvHandshake bytes ∈ s.doing e sid ∧
    .prepared (.auth socks5AuthSuccess) ∈ s.doing e sid ∧ authMessage username password <+: state.readBuffer ++ bytes

/-- In this step session `sid` was admitted under this username: anonymously, by a server without users, or with credentials that the
table held. -/
def Server.AdmitsAs (s : Server) (e : Event) (sid : Nat) (username : CString) : Prop :=
  username = anonymous ∧ s.AdmitsAnyone e sid ∨
    ∃ password, (username, password) ∈ s.managedUsers.credentials ∧ s.Presents e sid username password

/-- In this run session `sid` was admitted under this username. -/
def Config.AdmittedAs (c : Config) (es : List Event) (sid : Nat) (username : CString) : Prop :=
  ∃ pre e post, es = pre ++ e :: post ∧ (run c.start pre).AdmitsAs e sid username

/-- The acts of a session and its username are vouched for by the run. -/
theorem run_vouched (c : Config) (es : List Event) (sid : Nat) :
    (∀ entry ∈ Act.entries ((run c.start es).acts sid), c.AdmittedAs es sid entry.username) ∧
      ((run c.start es).life sid).Vouched (c.AdmittedAs es sid) := by
  induction es using List.reverseRecOn with
  | nil =>
    rw [show run c.start [] = c.start from rfl, c.life_start]
    exact ⟨(fun entry he => by cases he), trivial⟩
  | append_singleton es e ih =>
    obtain ⟨acts, hacts, hsteps⟩ := (run_lives c es e).steps sid
    have hlonger : ∀ u, c.AdmittedAs es sid u → c.AdmittedAs (es ++ [e]) sid u := by
      rintro u ⟨pre, e', post, rfl, h⟩
      exact ⟨pre, e', post ++ [e], by simp, h⟩
    have hnow : ∀ u, ((run c.start es).env e sid).Vouches (c.AdmittedAs es sid) acts u → c.AdmittedAs (es ++ [e]) sid u := by
      have hdoing : (run c.start es).doing e sid = acts := Server.doing_eq (by rw [← hacts, run_append])
      rintro u (hu | ⟨hu, h1, h2⟩ | ⟨v, bytes, hr, h1, h2, h3⟩)
      · exact hlonger u hu
      · exact ⟨es, e, [], rfl, .inl ⟨hu, by rw [hdoing]; exact h1, h2⟩⟩
      · obtain ⟨password, hm, hp⟩ := authVerdict_some h3
        exact ⟨es, e, [], rfl, .inr ⟨password, hm, v.state, bytes, (Server.sessions_of_life hr.life).1,
          by rw [hdoing]; exact h1, by rw [hdoing]; exact h2, hp⟩⟩
    obtain ⟨hentries, hlife⟩ := SessionSteps.vouched hsteps ih.2
    refine ⟨fun entry he => ?_, hlife.mono hnow⟩
    rw [hacts, Act.entries_append] at he
    obtain he | he := List.mem_append.mp he
    · exact hlonger _ (ih.1 entry he)
    · exact hnow _ (hentries entry he)

/-- A line of the access log was written by a session. -/
theorem exists_session_of_entry {c : Config} {es : List Event} {entry : AccessLogEntry} (h : entry ∈ (run c.start es).accessLog) :
    ∃ sid, entry ∈ Act.entries ((run c.start es).acts sid) := by
  rw [run_accessLog] at h
  obtain ⟨o, ho, he⟩ := List.mem_filterMap.mp h
  cases o with
  | act sid a => exact ⟨sid, List.mem_filterMap.mpr ⟨a, List.mem_filterMap.mpr ⟨.act sid a, ho, if_pos rfl⟩, he⟩⟩
  | _ => cases he

/-- Credentials that the table holds are entries of the map it stands for. -/
theorem ManagedUsers.StandsFor.lookup {users : ManagedUsers} {m : UserMap} (h : users.StandsFor m) {username password : CString}
    (hm : (username, password) ∈ users.credentials) : m.passwords.lookup username.bytes = some password.bytes := by
  obtain ⟨u, hu, he⟩ := List.mem_map.mp hm
  obtain ⟨hmem, huse⟩ := List.mem_filter.mp hu
  cases he
  have hvalid : usersCredentialsAreValid users u.username.bytes u.password.bytes = true := by
    refine List.any_eq_true.mpr ⟨u, hmem, ?_⟩
    simp [huse, CString.strlen]
  rw [h.credentialsAreValid, UserMap.valid] at hvalid
  exact beq_iff_eq.mp hvalid

/-- Every line of the access log can be answered for, in every run. It was written by one session, which was admitted at a moment of
the run: either it chose method 0x00 when the lines executed by then had left no user, and the line says `anonymous`; or it presented
the username on the line with a password, and the lines executed by then had given the name that password. -/
theorem log_accountable (c : Config) {m : UserMap} (h : c.users.StandsFor m) (es : List Event) {entry : AccessLogEntry}
    (he : entry ∈ (run c.start es).accessLog) :
    ∃ sid pre e post, es = pre ++ e :: post ∧ entry ∈ Act.entries ((run c.start es).acts sid) ∧
      (entry.username = anonymous ∧ .prepared (.greeting socks5MethodNoAuth) ∈ (run c.start pre).doing e sid ∧
          (m.history (c.executed pre)).passwords.keys.card = 0 ∨
        ∃ password : CString, (m.history (c.executed pre)).passwords.lookup entry.username.bytes = some password.bytes ∧
          (run c.start pre).Presents e sid entry.username password) := by
  obtain ⟨sid, hent⟩ := exists_session_of_entry he
  obtain ⟨pre, e, post, hes, hadm⟩ := (run_vouched c es sid).1 entry hent
  have hthen := run_users c h pre
  refine ⟨sid, pre, e, post, hes, hent, ?_⟩
  obtain ⟨hu, hgreet, hnone⟩ | ⟨password, hm, hpresents⟩ := hadm
  · exact .inl ⟨hu, hgreet, by rw [← hthen.count, hnone]⟩
  · exact .inr ⟨password, hthen.lookup hm, hpresents⟩

/-- A user is added, logs in, asks for a name that is not found, and is deleted before the log is read. -/
def accountableRun : List Event :=
  [.read 4 { accepts := [.accepted 5 .ok true, .accepted 6 .ok true] }, .read 5 { recv := .data (ascii "ADDUSER a p\n") },
    .read 3 { accepts := [.accepted 7 .ok true] }, .read 7 { recv := .data [5, 1, 2] }, .write 7 { sends := [.sent 2] },
    .read 7 { recv := .data [1, 1, 97, 1, 112] }, .write 7 { sends := [.sent 2] },
    .read 7 { recv := .data [5, 1, 0, 3, 1, 98, 0, 80] }, .publish 3 eaiNoname [], .notify 3 true, .notifications [{}],
    .read 6 { recv := .data (ascii "DELUSER a\n") }]

/-- The line of that session. -/
def accountableEntry : AccessLogEntry := { username := literal "a", host := literal "b", port := 80, success := false }

/-- The user is gone, and the line is answered for. -/
theorem log_accountable_deleted :
    usersCount (run (Config.first (usersInitFromArgs [])).start accountableRun).managedUsers = 0 ∧
    ∃ sid pre e post, accountableRun = pre ++ e :: post ∧
      ∃ password : CString, ((UserMap.ofArgs []).history ((Config.first (usersInitFromArgs [])).executed pre)).passwords.lookup
          (ascii "a") = some password.bytes ∧
        (run (Config.first (usersInitFromArgs [])).start pre).Presents e sid (literal "a") password := by
  refine ⟨by decide +kernel, ?_⟩
  have he : accountableEntry ∈ (run (Config.first (usersInitFromArgs [])).start accountableRun).accessLog := by decide +kernel
  obtain ⟨sid, pre, e, post, hes, _, ⟨hu, _⟩ | ⟨password, hm, hp⟩⟩ :=
    log_accountable (.first (usersInitFromArgs [])) (standsFor_usersInitFromArgs []) accountableRun he
  · exact absurd hu (by decide +kernel)
  · exact ⟨sid, pre, e, post, hes, password, hm, hp⟩

end SocksProxy
