import SocksProxy.Theorems.Notifications
import SocksProxy.Theorems.Targets

/-!
# The code of the reply to a request

Six places of the source queue the reply to a request, and only one of them where the session enters `RELAY`. The code of each of
the others comes from an error that was saved, or from the status of the resolver, both of which stand for success when they are
zero. The error that is saved is zero until an attempt fails, so a list of addresses none of which can be attempted leaves it zero.
-/

namespace SocksProxy

/-- The codes of the replies to a request that were queued. -/
def Act.codes (acts : List Act) : List Byte :=
  acts.filterMap fun a => match a with
    | .prepared (.request code) => some code
    | _ => none

/-- A session in `RELAY` whose outbound socket is connected, without error. -/
def Server.Connected (s : Server) (sid : Nat) : Prop :=
  ∃ v, s.life sid = .live v ∧ v.state.stage = .relay ∧ v.connect = some (.completed 0)

/-- In the event after these the session enters `RELAY`, with its outbound socket connected. -/
def Config.Enters (c : Config) (es : List Event) (e : Event) (sid : Nat) : Prop :=
  ¬(run c.start es).Relays sid ∧ (run c.start (es ++ [e])).Connected sid

/-- The codes queued for a session along a run are true: a code is that of success if and only if it is queued in the event in which
the session enters `RELAY` with its socket connected; and an event that connects or fails its request queues a code. -/
def Config.TrueCodes (c : Config) (sid : Nat) (es : List Event) : Prop :=
  ∀ pre e post, es = pre ++ e :: post →
    (∀ code ∈ Act.codes ((run c.start pre).doing e sid), code = socks5ReplySuccess ↔ c.Enters pre e sid) ∧
    (c.Enters pre e sid ∨ .failed ∈ (run c.start pre).doing e sid → Act.codes ((run c.start pre).doing e sid) ≠ [])

/-! ## Codes and their kinds of acts -/

namespace Act

@[simp] theorem codes_nil : codes [] = [] := rfl

@[simp] theorem codes_append (acts acts' : List Act) : codes (acts ++ acts') = codes acts ++ codes acts' :=
  List.filterMap_append

/-- A code is queued by the reply that has it. -/
theorem mem_codes {acts : List Act} {code : Byte} : code ∈ codes acts ↔ .prepared (.request code) ∈ acts := by
  simp only [codes, List.mem_filterMap]
  constructor
  · rintro ⟨a, ha, he⟩
    split at he
    · cases he
      exact ha
    · cases he
  · intro h
    exact ⟨_, h, rfl⟩

/-- The codes are those of the replies to a request. -/
theorem codes_replies (acts : List Act) : codes acts = (replies acts).filterMap fun
    | .request code => some code
    | _ => none := by
  induction acts with
  | nil => rfl
  | cons a acts ih =>
    rw [← List.singleton_append, codes_append, replies_append, List.filterMap_append, ih]
    congr 1
    cases a with
    | prepared reply => cases reply <;> rfl
    | _ => rfl

end Act

/-- A dialogue has one reply to a request at most. -/
theorem Orderly.codes {acts : List Act} (h : Orderly (Act.replies acts)) : (Act.codes acts).length ≤ 1 := by
  rw [Act.codes_replies]
  rcases h with h | h | h | h | h | ⟨welcome, code, hw, h⟩
  · simp [h]
  · simp [h]
  · simp [h]
  · simp [h]
  · rcases h with h | h <;> simp [h]
  · rcases hw with hw | hw <;> simp [h, hw]

/-! ## The error that is saved -/

/-- Only the number zero is answered with success. -/
theorem socks5ReplyForErrno_eq {e : Nat} : socks5ReplyForErrno e = socks5ReplySuccess ↔ e = 0 := by
  unfold socks5ReplyForErrno
  constructor
  · intro h
    by_contra hne
    rw [if_neg hne] at h
    split at h
    · exact absurd h (by decide)
    · split at h
      · exact absurd h (by decide)
      · split at h
        · exact absurd h (by decide)
        · split at h <;> exact absurd h (by decide)
  · intro h
    rw [if_pos h]

/-- Only the status zero of the resolver is answered with success. -/
theorem socks5ReplyForGaiError_eq {status : Int} : socks5ReplyForGaiError status = socks5ReplySuccess ↔ status = 0 := by
  unfold socks5ReplyForGaiError
  constructor
  · intro h
    by_contra hne
    rw [if_neg hne] at h
    split at h
    · exact absurd h (by decide)
    · split at h <;> exact absurd h (by decide)
  · intro h
    rw [if_pos h]

/-- A list that is used up leaves no error if and only if there was none and nothing of the list could be attempted. -/
theorem Tries.error_eq {st st' : ClientState} {l : List AddrInfo} {acts : List Act} (h : Tries st l acts st' none) :
    st'.lastConnectError = 0 ↔ st.lastConnectError = 0 ∧ usable l = [] := by
  generalize hc : (none : Option ConnectStatus) = c at h
  induction h with
  | exhausted => simp [usable]
  | skipped hf hf' _ ih => rw [ih hc, usable_skip hf hf']
  | failed hf he _ ih =>
    rw [ih hc, usable_cons hf]
    simp [he]
  | started => cases hc

/-- A list of which a connection was started has an address that can be attempted. -/
theorem Tries.usable_ne {st st' : ClientState} {l : List AddrInfo} {acts : List Act} {c : ConnectStatus}
    (h : Tries st l acts st' (some c)) : usable l ≠ [] := by
  generalize hc : some c = c' at h
  induction h with
  | exhausted => cases hc
  | skipped hf hf' _ ih =>
    rw [usable_skip hf hf']
    exact ih hc
  | failed hf => simp [usable_cons hf]
  | started hf => simp [usable_cons hf]

/-- A request is rejected with a code that is not that of success. -/
theorem requestVerdict_reject {buffer : List Byte} {code : Byte} (h : requestVerdict buffer = .reject code) :
    code ≠ socks5ReplySuccess := by
  unfold requestVerdict at h
  split at h
  · cases h
  · split at h
    · cases h
    · split at h
      · cases h
        split
        · decide
        · assumption
      · cases h

/-! ## What a step queues -/

/-- The acts of a session and its codes: a code of success goes with a success, or with a list of the resolver none of which can be
attempted, and with such a list it always goes, and with a failure; and no success or failure is without a code. -/
structure Act.Coded (acts : List Act) : Prop where
  granted : socks5ReplySuccess ∈ codes acts → .succeeded ∈ acts ∨ ∃ l, .resolved 0 l ∈ acts ∧ usable l = []
  vacuous : ∀ l, .resolved 0 l ∈ acts → usable l = [] → socks5ReplySuccess ∈ codes acts ∧ .failed ∈ acts
  succeeded : .succeeded ∈ acts → socks5ReplySuccess ∈ codes acts
  failed : .failed ∈ acts → codes acts ≠ []

namespace Act.Coded

variable {acts acts' : List Act}

/-- Acts that decide nothing, and queue no code. -/
theorem quiet (h : acts.all Act.undecided = true) (hc : Act.codes acts = []) : Act.Coded acts where
  granted := fun hm => by simp [hc] at hm
  vacuous := fun l hm => absurd hm (Act.not_resolved h 0 l)
  succeeded := fun hm => absurd hm (Act.not_decided h).1
  failed := fun hm => absurd hm (Act.not_decided h).2

/-- One sequence of acts after another. -/
theorem append (h : Act.Coded acts) (h' : Act.Coded acts') : Act.Coded (acts ++ acts') where
  granted := by
    intro hm
    rw [Act.codes_append] at hm
    obtain hm | hm := List.mem_append.mp hm
    · exact (h.granted hm).imp (List.mem_append_left _) fun ⟨l, hl, he⟩ => ⟨l, List.mem_append_left _ hl, he⟩
    · exact (h'.granted hm).imp (List.mem_append_right _) fun ⟨l, hl, he⟩ => ⟨l, List.mem_append_right _ hl, he⟩
  vacuous := by
    intro l hm he
    rw [Act.codes_append]
    obtain hm | hm := List.mem_append.mp hm
    · obtain ⟨h1, h2⟩ := h.vacuous l hm he
      exact ⟨List.mem_append_left _ h1, List.mem_append_left _ h2⟩
    · obtain ⟨h1, h2⟩ := h'.vacuous l hm he
      exact ⟨List.mem_append_right _ h1, List.mem_append_right _ h2⟩
  succeeded := by
    intro hm
    rw [Act.codes_append]
    obtain hm | hm := List.mem_append.mp hm
    · exact List.mem_append_left _ (h.succeeded hm)
    · exact List.mem_append_right _ (h'.succeeded hm)
  failed := by
    intro hm
    rw [Act.codes_append, Ne, List.append_eq_nil_iff, not_and_or]
    exact (List.mem_append.mp hm).imp h.failed h'.failed

end Act.Coded

@[simp] theorem ClientState.codes_logActs (st : ClientState) (success : Bool) : Act.codes (st.logActs success) = [] := by
  unfold ClientState.logActs
  split <;> rfl

@[simp] theorem ClientState.codes_refusedActs (st : ClientState) (code : Byte) : Act.codes (st.refusedActs code) = [code] :=
  congrArg (code :: ·) (st.codes_logActs false)

@[simp] theorem ClientState.codes_connectedActs (st : ClientState) : Act.codes st.connectedActs = [socks5ReplySuccess] :=
  congrArg (socks5ReplySuccess :: ·) (st.codes_logActs true)

/-- A failure that is answered with a code other than that of success. -/
theorem ClientState.coded_refusedActs (st : ClientState) {code : Byte} (hne : code ≠ socks5ReplySuccess) :
    Act.Coded (st.refusedActs code) where
  granted := fun hm => by
    rw [st.codes_refusedActs, List.mem_singleton] at hm
    exact absurd hm.symm hne
  vacuous := fun l hm => absurd hm ((st.mem_refusedActs code).2 0 l)
  succeeded := fun hm => absurd hm (st.mem_refusedActs code).1
  failed := fun _ => by simp

/-- A success. -/
theorem ClientState.coded_connectedActs (st : ClientState) : Act.Coded st.connectedActs where
  granted := fun _ => .inl (by simp [ClientState.connectedActs])
  vacuous := fun l hm => absurd hm (st.mem_connectedActs.2 0 l)
  succeeded := fun _ => by simp
  failed := fun hm => absurd hm st.mem_connectedActs.1

/-- A session that waits for its resolver has no error saved. -/
def Life.Errorless : Life → Prop
  | .live v => v.state.stage = .resolving → v.state.lastConnectError = 0
  | _ => True

section Step

variable {env : Env} {L L' : Life} {acts : List Act} {v v' : View} {st : ClientState}

/-- What comes of connecting to the addresses of a list: a connection is started, of a list that can be attempted, or the request is
refused with the error that is saved in the end. -/
theorem Connects.outcome {l : List AddrInfo} (h : Connects v st l acts v') :
    (acts.all Act.undecided = true ∧ Act.codes acts = [] ∧ usable l ≠ [] ∧ v'.state.stage = .connecting) ∨
    ∃ (tried : List Act) (st' : ClientState), acts = tried ++ st'.refusedActs (socks5ReplyForErrno st'.lastConnectError) ∧
      tried.all Act.undecided = true ∧ Act.codes tried = [] ∧
      (st'.lastConnectError = 0 ↔ st.lastConnectError = 0 ∧ usable l = []) ∧ v'.state.stage = .closing := by
  have htried : ∀ addrs : List SockAddr, Act.codes (addrs.map .attempted) = [] := by
    intro addrs
    refine List.filterMap_eq_nil_iff.mpr fun a ha => ?_
    obtain ⟨addr, _, rfl⟩ := List.mem_map.mp ha
    rfl
  cases h with
  | started htr =>
    obtain ⟨addrs, rfl⟩ := htr.acts_eq
    obtain ⟨_, _, ⟨hc, _⟩ | ⟨_, _, _, _, _, rfl⟩⟩ := htr.eq
    · cases hc
    · exact .inl ⟨htr.undecided, htried addrs, htr.usable_ne, rfl⟩
  | refused htr =>
    obtain ⟨addrs, rfl⟩ := htr.acts_eq
    exact .inr ⟨_, _, rfl, htr.undecided, htried addrs, htr.error_eq, rfl⟩

/-- Beginning a request: a resolution or an attempt is started, and then no error is saved, or the request is refused with an
error. -/
theorem Begins.coded {r : Socks5Request} (h : Begins v st r acts v') : Act.Coded acts ∧ (Life.live v').Errorless := by
  cases h with
  | resolving =>
    refine ⟨.quiet rfl rfl, fun _ => ?_⟩
    obtain ⟨host, hb⟩ := st.beginning_eq r
    show (st.beginning r).lastConnectError = 0
    rw [hb]
  | unresolved => exact ⟨(st.beginning r).coded_refusedActs (by decide), fun h => by cases h⟩
  | connecting => exact ⟨.quiet rfl rfl, fun h => by cases h⟩
  | unconnected _ he =>
    refine ⟨?_, fun h => by cases h⟩
    have hquiet : Act.Coded [.attempted r.addr] := .quiet rfl rfl
    exact hquiet.append ((st.beginning r).coded_refusedActs fun h => he (socks5ReplyForErrno_eq.mp h))

/-- A session that was told its connection failed goes on, or is refused with an error. -/
theorem Connects.coded {l : List AddrInfo} (h : Connects v st l acts v') (he : st.lastConnectError ≠ 0) :
    Act.Coded acts ∧ (Life.live v').Errorless := by
  obtain ⟨hacts, hcodes, _, hst⟩ | ⟨tried, st', rfl, htried, hcodes, herr, hst⟩ := h.outcome
  · refine ⟨.quiet hacts hcodes, fun h => ?_⟩
    rw [hst] at h
    cases h
  · refine ⟨.append (.quiet htried hcodes) (st'.coded_refusedActs fun h => ?_), fun h => ?_⟩
    · exact he (herr.mp (socks5ReplyForErrno_eq.mp h)).1
    · rw [hst] at h
      cases h

/-- A session that takes a result without error goes on, or is refused; it is refused with the code of success if and only if nothing
of the result can be attempted. -/
theorem Connects.coded_resolved {l : List AddrInfo} (h : Connects v st l acts v') (he : st.lastConnectError = 0) :
    Act.Coded (.resolved 0 l :: acts) ∧ (Life.live v').Errorless := by
  have hone : ∀ {l'}, Act.resolved 0 l' ∈ Act.resolved 0 l :: acts → Act.resolved 0 l' ∉ acts → l' = l := by
    intro l' hm hno
    obtain heq | hm := List.mem_cons.mp hm
    · injection heq
    · exact absurd hm hno
  obtain ⟨hacts, hcodes, huse, hst⟩ | ⟨tried, st', rfl, htried, hcodes, herr, hst⟩ := h.outcome
  · obtain ⟨hs, hf⟩ := Act.not_decided hacts
    have hcodes' : Act.codes (.resolved 0 l :: acts) = [] := hcodes
    refine ⟨⟨fun hm => ?_, fun l' hm hnone => ?_, fun hm => ?_, fun hm => ?_⟩, fun h => ?_⟩
    · rw [hcodes'] at hm
      cases hm
    · rw [hone hm (Act.not_resolved hacts 0 l')] at hnone
      exact absurd hnone huse
    · exact absurd ((List.mem_cons.mp hm).resolve_left (fun h => by cases h)) hs
    · exact absurd ((List.mem_cons.mp hm).resolve_left (fun h => by cases h)) hf
    · rw [hst] at h
      cases h
  · have hcodes' : Act.codes (.resolved 0 l :: (tried ++ st'.refusedActs (socks5ReplyForErrno st'.lastConnectError))) =
        [socks5ReplyForErrno st'.lastConnectError] := by
      show Act.codes (tried ++ _) = _
      rw [Act.codes_append, hcodes, ClientState.codes_refusedActs, List.nil_append]
    have hsuccess : socks5ReplySuccess ∈ [socks5ReplyForErrno st'.lastConnectError] ↔ usable l = [] := by
      rw [List.mem_singleton, eq_comm, socks5ReplyForErrno_eq, herr]
      exact and_iff_right he
    have hfailed : .failed ∈ Act.resolved 0 l :: (tried ++ st'.refusedActs (socks5ReplyForErrno st'.lastConnectError)) := by
      simp [ClientState.refusedActs]
    refine ⟨⟨fun hm => ?_, fun l' hm hnone => ?_, fun hm => ?_, fun _ => ?_⟩, fun h => ?_⟩
    · rw [hcodes', hsuccess] at hm
      exact .inr ⟨l, List.mem_cons_self .., hm⟩
    · have hno : Act.resolved 0 l' ∉ tried ++ st'.refusedActs (socks5ReplyForErrno st'.lastConnectError) := by
        intro hm'
        exact (List.mem_append.mp hm').elim (Act.not_resolved htried 0 l') ((st'.mem_refusedActs _).2 0 l')
      rw [hone hm hno] at hnone
      rw [hcodes', hsuccess]
      exact ⟨hnone, hfailed⟩
    · have hm' := List.mem_append.mp ((List.mem_cons.mp hm).resolve_left (fun h => by cases h))
      exact absurd hm' (not_or.mpr ⟨(Act.not_decided htried).1, (st'.mem_refusedActs _).1⟩)
    · rw [hcodes']
      exact List.cons_ne_nil _ _
    · rw [hst] at h
      cases h

/-- A method leads to no resolution. -/
theorem stageAfterMethod_ne (method : Byte) : stageAfterMethod method ≠ .resolving := by
  unfold stageAfterMethod
  split
  · exact fun h => by cases h
  · split <;> exact fun h => by cases h

/-- What one step queues. -/
theorem SessionStep.coded (h : SessionStep env L acts L') (hL : L.Errorless) : Act.Coded acts ∧ L'.Errorless := by
  cases h with
  | accepted => exact ⟨.quiet rfl rfl, fun h => by cases h⟩
  | greeted => exact ⟨.quiet rfl rfl, fun h => absurd h (stageAfterMethod_ne _)⟩
  | authenticated => exact ⟨.quiet rfl rfl, fun h => by cases h⟩
  | unauthenticated => exact ⟨.quiet rfl rfl, fun h => by cases h⟩
  | rejected _ _ _ _ hst hv =>
    rw [hst] at hv
    have hne := requestVerdict_reject hv
    refine ⟨⟨fun hm => ?_, fun l hm => ?_, fun hm => ?_, fun _ => ?_⟩, fun h => by cases h⟩
    · exact absurd (List.mem_singleton.mp hm).symm hne
    · simp at hm
    · simp at hm
    · exact List.cons_ne_nil _ _
  | @begun v v' bytes r acts _ _ _ _ _ _ hb =>
    obtain ⟨hcoded, herr⟩ := hb.coded
    have hquiet : Act.Coded [.recvHandshake bytes, .begun r] := .quiet rfl rfl
    exact ⟨hquiet.append hcoded, herr⟩
  | @unresolved v status result _ hbad =>
    refine ⟨?_, fun h => by cases h⟩
    have hrefused := v.state.mem_refusedActs (socks5ReplyForGaiError status)
    have hcodes : Act.codes (.resolved status result :: v.state.refusedActs (socks5ReplyForGaiError status)) =
        [socks5ReplyForGaiError status] := ClientState.codes_refusedActs _ _
    have hsuccess : socks5ReplySuccess ∈ [socks5ReplyForGaiError status] ↔ status = 0 := by
      rw [List.mem_singleton, eq_comm, socks5ReplyForGaiError_eq]
    refine ⟨fun hm => ?_, fun l hm hnone => ?_, fun hm => ?_, fun _ => ?_⟩
    · rw [hcodes, hsuccess] at hm
      subst hm
      obtain rfl := hbad.resolve_left fun h => h rfl
      exact .inr ⟨[], List.mem_cons_self .., rfl⟩
    · obtain heq | hm := List.mem_cons.mp hm
      · injection heq with hstatus
        rw [hcodes, hsuccess]
        exact ⟨hstatus.symm, List.mem_cons_of_mem _ (by simp [ClientState.refusedActs])⟩
      · exact absurd hm (hrefused.2 0 l)
    · exact absurd ((List.mem_cons.mp hm).resolve_left (fun h => by cases h)) hrefused.1
    · rw [hcodes]
      exact List.cons_ne_nil _ _
  | resolved hst _ _ hcon => exact hcon.coded_resolved (hL hst)
  | connected => exact ⟨ClientState.coded_connectedActs _, fun h => by cases h⟩
  | unconnected _ _ he hcon => exact hcon.coded he
  | never => exact ⟨.quiet rfl rfl, trivial⟩
  | closed => exact ⟨.quiet rfl rfl, trivial⟩
  | clientEnded => exact ⟨.quiet rfl rfl, trivial⟩
  | targetEnded => exact ⟨.quiet rfl rfl, trivial⟩
  | hungUp => exact ⟨.quiet rfl rfl, trivial⟩
  | connectDone => exact ⟨.quiet rfl rfl, hL⟩
  | replySentClosing => exact ⟨.quiet (by simp [Act.undecided]) (by simp [Act.codes]), trivial⟩
  | _ => exact ⟨.quiet (by simp [Act.undecided]) (by simp [Act.codes]), hL⟩

/-- What several steps queue. -/
theorem SessionSteps.coded (h : SessionSteps env L acts L') (hL : L.Errorless) : Act.Coded acts ∧ L'.Errorless := by
  induction h with
  | refl => exact ⟨.quiet rfl rfl, hL⟩
  | tail _ hs ih =>
    obtain ⟨hcoded, herr⟩ := ih
    obtain ⟨hcoded', herr'⟩ := hs.coded herr
    exact ⟨hcoded.append hcoded', herr'⟩

end Step

/-! ## Every run -/

section Run

variable (c : Config)

/-- What a session does in an event of a run comes after what it did before, and before what it does later. -/
theorem run_acts_split (pre : List Event) (e : Event) (post : List Event) (sid : Nat) :
    ∃ later, (run c.start (pre ++ e :: post)).acts sid =
      (run c.start pre).acts sid ++ (run c.start pre).doing e sid ++ later := by
  have hcons : pre ++ e :: post = (pre ++ [e]) ++ post := by rw [List.append_assoc, List.singleton_append]
  rw [hcons]
  obtain ⟨acts, ha, -⟩ := (run_lives c pre e).steps sid
  have hd : (run c.start pre).doing e sid = acts := Server.doing_eq (by rw [← run_append, ha])
  rw [hd, ← ha]
  clear hcons
  generalize pre ++ [e] = first
  induction post using List.reverseRecOn with
  | nil => exact ⟨[], by rw [List.append_nil, List.append_nil]⟩
  | append_singleton post e ih =>
    obtain ⟨later, hlater⟩ := ih
    obtain ⟨acts', ha', -⟩ := (run_lives c (first ++ post) e).steps sid
    exact ⟨later ++ acts', by rw [← List.append_assoc, ha', hlater, List.append_assoc]⟩

/-- What a session has done it did in some event. -/
theorem run_acts_doing {es : List Event} {sid : Nat} {a : Act} (h : a ∈ (run c.start es).acts sid) :
    ∃ pre e post, es = pre ++ e :: post ∧ a ∈ (run c.start pre).doing e sid := by
  induction es using List.reverseRecOn with
  | nil => cases h
  | append_singleton es e ih =>
    obtain ⟨acts, ha, -⟩ := (run_lives c es e).steps sid
    rw [ha] at h
    obtain h | h := List.mem_append.mp h
    · obtain ⟨pre, e', post, rfl, hdoing⟩ := ih h
      exact ⟨pre, e', post ++ [e], by rw [List.append_assoc, List.cons_append], hdoing⟩
    · exact ⟨es, e, [], rfl, by rw [Server.doing_eq (by rw [← run_append, ha])]; exact h⟩

/-- After every run a session that waits for its resolver has no error saved. -/
theorem run_errorless (es : List Event) (sid : Nat) : ((run c.start es).life sid).Errorless := by
  refine run_session c (P := fun _ L => L.Errorless) (fun _ _ => True) sid trivial ?_ es (fun _ _ _ _ => trivial)
  intro pre e _ hist L acts L' hL _ hstep
  exact (hstep.coded hL).2

/-- What a session queues in an event of a run. -/
theorem run_coded (es : List Event) (e : Event) (sid : Nat) : Act.Coded ((run c.start es).doing e sid) := by
  obtain ⟨acts, ha, hsteps⟩ := (run_lives c es e).steps sid
  rw [Server.doing_eq (by rw [← run_append, ha])]
  exact (hsteps.coded (run_errorless c es sid)).1

/-- A session is sent one code at most. -/
theorem run_one_code {pre : List Event} {e : Event} {sid : Nat} {code code' : Byte}
    (h : code ∈ Act.codes ((run c.start pre).doing e sid)) (h' : code' ∈ Act.codes ((run c.start pre).doing e sid)) :
    code = code' := by
  obtain ⟨later, hsplit⟩ := run_acts_split c pre e [] sid
  obtain ⟨d, hd, -⟩ := run_heard c (pre ++ [e]) sid
  have hone := hd.script.orderly.codes
  rw [hsplit, Act.codes_append, Act.codes_append, List.length_append, List.length_append] at hone
  have hlen : (Act.codes ((run c.start pre).doing e sid)).length ≤ 1 := by omega
  generalize Act.codes ((run c.start pre).doing e sid) = codes at h h' hlen
  cases codes with
  | nil => cases h
  | cons x rest =>
    obtain rfl : rest = [] := List.eq_nil_of_length_eq_zero (by rw [List.length_cons] at hlen; omega)
    exact (List.mem_singleton.mp h).trans (List.mem_singleton.mp h').symm

/-- A step that is a success leaves the session in `RELAY` with its socket connected, unless the kernel reported it too early. -/
theorem SessionStep.connects {env : Env} {v v' : View} {acts : List Act} (h : SessionStep env (.live v) acts (.live v'))
    (hm : .succeeded ∈ acts) (hp : ¬env.premature) : v'.state.stage = .relay ∧ v'.connect = some (.completed 0) := by
  cases h with
  | connected _ _ hc hdone =>
    obtain rfl := hdone.resolve_right fun h => hp h.1
    exact ⟨rfl, hc⟩
  | begun _ _ _ _ _ _ hb => exact absurd (by simpa using hm) hb.not_succeeded
  | resolved _ _ _ hcon => exact absurd (by simpa using hm) hcon.not_succeeded
  | unconnected _ _ _ hcon => exact absurd hm hcon.not_succeeded
  | _ => simp at hm

/-- A session is counted as a success in the event in which it enters `RELAY` with its socket connected. -/
theorem run_enters {es : List Event} {e : Event} (sid : Nat) (hp : ¬e.Premature (run c.start es)) :
    c.Enters es e sid ↔ .succeeded ∈ (run c.start es).doing e sid := by
  rw [run_enters_relay c es e sid]
  constructor
  · rintro ⟨hbefore, v, hl, hst, -⟩
    exact ⟨hbefore, v.state, (Server.sessions_of_life hl).1, hst⟩
  · rintro ⟨hbefore, hafter⟩
    refine ⟨hbefore, ?_⟩
    have hm := (run_enters_relay c es e sid).mpr ⟨hbefore, hafter⟩
    have hi := run_inv c es
    obtain ⟨acts, ha, hsteps⟩ := (run_lives c es e).steps sid
    rw [Server.doing_eq (by rw [← run_append, ha])] at hm
    obtain ⟨v, hst, hw⟩ := hsteps.succeeded hm
    have hl := hw.life
    obtain ⟨a, rfl⟩ := hw.called
    obtain ⟨acts', v', hworked, hstep⟩ := targetWrite_connecting hi hl hw hst
    rw [← step_write_target hi hw, ← run_append] at hworked
    have hsame := hworked.frame.acts_self
    rw [ha] at hsame
    obtain rfl := List.append_cancel_left hsame
    obtain ⟨hrelay, hdone⟩ := hstep.connects hm hp
    exact ⟨v', hworked.life, hrelay, hdone⟩

/-- A session does not take a result and succeed in one event. -/
theorem run_not_both {es : List Event} {e : Event} {sid : Nat} {status : Int} {l : List AddrInfo}
    (h : .resolved status l ∈ (run c.start es).doing e sid) : .succeeded ∉ (run c.start es).doing e sid := by
  obtain ⟨acts, ha, hsteps⟩ := (run_lives c es e).steps sid
  rw [Server.doing_eq (by rw [← run_append, ha])] at h ⊢
  intro hm
  obtain ⟨as, rfl⟩ := (hsteps.takes h).draining
  obtain ⟨v, -, hw⟩ := hsteps.succeeded hm
  obtain ⟨a, he⟩ := hw.called
  cases he

/-- In every run in which the kernel reports no socket as writable before its connection has completed, and for every session: every
code it queues is that of success if and only if it enters `RELAY` in the same event with its socket connected, and every request that
is connected or fails is answered with a code, if and only if every list the session takes from the resolver without an error has an
address that can be attempted. -/
theorem codes_true (es : List Event) (sid : Nat)
    (hkernel : ∀ pre e post, es = pre ++ e :: post → ¬e.Premature (run c.start pre)) :
    c.TrueCodes sid es ↔ ∀ l, .resolved 0 l ∈ (run c.start es).acts sid → usable l ≠ [] := by
  constructor
  · intro htrue l hl hnone
    obtain ⟨pre, e, post, hes, hdoing⟩ := run_acts_doing c hl
    obtain ⟨hcode, -⟩ := (run_coded c pre e sid).vacuous l hdoing hnone
    have henters := ((htrue pre e post hes).1 _ hcode).mp rfl
    rw [run_enters c sid (hkernel pre e post hes)] at henters
    exact run_not_both c hdoing henters
  · intro hall pre e post hes
    have hcoded := run_coded c pre e sid
    have hrelay := run_enters c sid (hkernel pre e post hes)
    refine ⟨fun code hcode => ⟨fun hsuccess => ?_, fun henters => ?_⟩, fun h => ?_⟩
    · subst hsuccess
      obtain hm | ⟨l, hl, hnone⟩ := hcoded.granted hcode
      · exact hrelay.mpr hm
      · obtain ⟨later, hsplit⟩ := run_acts_split c pre e post sid
        refine absurd hnone (hall l ?_)
        rw [hes, hsplit]
        exact List.mem_append_left _ (List.mem_append_right _ hl)
    · exact run_one_code c hcode (hcoded.succeeded (hrelay.mp henters))
    · obtain henters | hfailed := h
      · exact List.ne_nil_of_mem (hcoded.succeeded (hrelay.mp henters))
      · exact hcoded.failed hfailed

end Run

/-- A client asks for a name that the resolver knows, but only by an address of another family. -/
def otherFamily : List Event :=
  [.read 3 { accepts := [.accepted 5 .ok true] }, .read 5 { recv := .data [5, 1, 0] }, .write 5 { sends := [.sent 2] },
    .read 5 { recv := .data [5, 1, 0, 3, 1, 97, 0, 80] }, .publish 1 0 [{ family := .other 1, addr := .other 1 }], .notify 1 true,
    .notifications [{}]]

/-- The same, with an address to connect to. -/
def oneAddress : List Event :=
  [.read 3 { accepts := [.accepted 5 .ok true] }, .read 5 { recv := .data [5, 1, 0] }, .write 5 { sends := [.sent 2] },
    .read 5 { recv := .data [5, 1, 0, 3, 1, 97, 0, 80] }, .publish 1 0 [{ family := .inet, addr := .inet [10, 0, 0, 1] 80 }],
    .notify 1 true, .notifications [{ attempts := [{ socket := .ok 6, setNonblocking := .ok, connect := .error .einprogress }] }],
    .connectDone 6 0, .write 6 {}]

/-- The socket an event reports as writable. -/
def Event.written : Event → Option Int
  | .write fd _ => some fd
  | _ => none

/-- A report comes too early if the connection of its socket is pending. -/
theorem Event.premature_iff (s : Server) (e : Event) :
    e.Premature s ↔ ((e.written.bind s.files).any fun file => file.connect == .pending) = true := by
  unfold Event.Premature
  rw [Option.any_eq_true]
  constructor
  · rintro ⟨fd, a, file, rfl, hf, hp⟩
    exact ⟨file, hf, beq_iff_eq.mpr hp⟩
  · rintro ⟨file, hf, hp⟩
    obtain ⟨fd, hfd, hf⟩ := Option.bind_eq_some_iff.mp hf
    cases e with
    | write fd' a =>
      obtain rfl := Option.some.inj hfd
      exact ⟨_, a, file, rfl, hf, beq_iff_eq.mp hp⟩
    | _ => cases hfd

instance (s : Server) (e : Event) : Decidable (e.Premature s) := decidable_of_iff _ (e.premature_iff s).symm

/-- With an address to connect to, the codes are true. -/
theorem codes_true_one : (Config.first .zeroed).TrueCodes 0 oneAddress := by
  refine (codes_true (Config.first .zeroed) oneAddress 0 ?_).mpr fun l hl => ?_
  · unfold oneAddress
    simp only [Traces.forall_split_cons, Traces.forall_split_nil]
    decide +kernel
  · have hdone : ((run (Config.first .zeroed).start oneAddress).acts 0).filter (fun a => !a.undecided) =
        [.resolved 0 [{ family := .inet, addr := .inet [10, 0, 0, 1] 80 }], .succeeded] := by
      decide +kernel
    have hm : .resolved 0 l ∈ ((run (Config.first .zeroed).start oneAddress).acts 0).filter (fun a => !a.undecided) :=
      List.mem_filter.mpr ⟨hl, rfl⟩
    rw [hdone] at hm
    obtain heq | hm := List.mem_cons.mp hm
    · injection heq with _ hlist
      subst hlist
      decide
    · cases List.mem_singleton.mp hm

/-- Without one, the client is told that its request succeeded, while the session goes to `CLOSING`. -/
theorem codes_untrue :
    (∀ pre e post, otherFamily = pre ++ e :: post → ¬e.Premature (run (Config.first .zeroed).start pre)) ∧
    Act.codes ((run (Config.first .zeroed).start otherFamily).acts 0) = [socks5ReplySuccess] ∧
    ((run (Config.first .zeroed).start otherFamily).sessions 0).map (·.stage) = some .closing ∧
    ¬(Config.first .zeroed).TrueCodes 0 otherFamily := by
  have hcodes : Act.codes ((run (Config.first .zeroed).start (otherFamily.take 6)).doing (.notifications [{}]) 0) =
      [socks5ReplySuccess] := by
    decide +kernel
  have hclosing : ((run (Config.first .zeroed).start otherFamily).sessions 0).map (·.stage) = some .closing := by decide +kernel
  refine ⟨?_, by decide +kernel, hclosing, fun htrue => ?_⟩
  · unfold otherFamily
    simp only [Traces.forall_split_cons, Traces.forall_split_nil]
    decide +kernel
  · have hsuccess : socks5ReplySuccess ∈
        Act.codes ((run (Config.first .zeroed).start (otherFamily.take 6)).doing (.notifications [{}]) 0) := by
      rw [hcodes]
      exact List.mem_singleton_self _
    obtain ⟨-, v, hl, hrelay, -⟩ := ((htrue (otherFamily.take 6) (.notifications [{}]) [] rfl).1 _ hsuccess).mp rfl
    have hs := (Server.sessions_of_life hl).1
    rw [show otherFamily.take 6 ++ [.notifications [{}]] = otherFamily from rfl] at hs
    rw [hs, Option.map_some, Option.some.injEq, hrelay] at hclosing
    cases hclosing

end SocksProxy
