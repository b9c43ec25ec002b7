import SocksProxy.Theorems.AccessLog

/-!
# The order of the attempts

The list a resolver yields is worked off from two places, the taking of the result and the failure of a pending connection, which
share the position in the list. Whatever mixture of the two happens, the addresses a session can connect to are attempted in the
order of the list, each once, until one is connected to; and the request fails only when there is none left.
-/

namespace SocksProxy

/-- The addresses a session has attempted to connect to, in order. -/
def Act.attempts (acts : List Act) : List SockAddr :=
  acts.filterMap fun a => match a with
    | .attempted addr => some addr
    | _ => none

/-- The addresses of a list that can be connected to: those of entries of the families `AF_INET` and `AF_INET6`. -/
def usable (l : List AddrInfo) : List SockAddr :=
  (l.filter fun info => info.family = .inet ∨ info.family = .inet6).map (·.addr)

/-- An act that neither takes a result, nor attempts a connection, nor decides the request. -/
def Act.early : Act → Bool
  | .attempted _ => false
  | .resolved _ _ => false
  | .succeeded => false
  | .failed => false
  | _ => true

/-- An act that neither takes a result nor decides the request. -/
def Act.undecided : Act → Bool
  | .resolved _ _ => false
  | .succeeded => false
  | .failed => false
  | _ => true

/-- What a session may have done since it took a list: it attempted the first of the usable addresses, in order; it attempted
nothing after a success; and if it failed, it attempted all of them and had no success. -/
structure Outcome (l : List AddrInfo) (post : List Act) : Prop where
  inOrder : Act.attempts post <+: usable l
  failed : .failed ∈ post → Act.attempts post = usable l ∧ .succeeded ∉ post
  stops : ∀ after, .succeeded :: after <:+ post → Act.attempts after = []

/-- A session that has started a connection, with the addresses that are left: it was asked for an address, or it has attempted the
others since it took a list. -/
def Trying (hist : List Act) (rest : List SockAddr) : Prop :=
  (∀ status l, .resolved status l ∉ hist) ∨
  ∃ pre l post, hist = pre ++ .resolved 0 l :: post ∧ pre.all Act.early = true ∧ post.all Act.undecided = true ∧
    Act.attempts post ++ rest = usable l

/-- A session that starts no more connections: it took no list, or this came of it. -/
def Concluded (hist : List Act) : Prop :=
  (∀ l, .resolved 0 l ∉ hist) ∨
  ∃ pre l post, hist = pre ++ .resolved 0 l :: post ∧ pre.all Act.early = true ∧ (∀ status l', .resolved status l' ∉ post) ∧
    Outcome l post

/-- How far a session has got with the addresses of its target. -/
def Life.Course (hist : List Act) : Life → Prop
  | .unborn => hist = []
  | .live v =>
    (v.state.stage = .greeting ∨ v.state.stage = .auth ∨ v.state.stage = .request ∨ v.state.stage = .resolving) ∧
      hist.all Act.early = true ∨
    v.state.stage = .connecting ∧ Trying hist (usable v.state.targetAddressCurrent) ∨
    (v.state.stage = .relay ∨ v.state.stage = .closing) ∧ Concluded hist
  | .gone => Concluded hist

/-! ## Attempts and their kinds of acts -/

namespace Act

@[simp] theorem attempts_nil : attempts [] = [] := rfl

@[simp] theorem attempts_append (acts acts' : List Act) : attempts (acts ++ acts') = attempts acts ++ attempts acts' :=
  List.filterMap_append

@[simp] theorem attempts_attempted (addr : SockAddr) (acts : List Act) :
    attempts (.attempted addr :: acts) = addr :: attempts acts := rfl

/-- An attempt among acts is one of their attempts. -/
theorem mem_attempts {acts : List Act} {addr : SockAddr} : .attempted addr ∈ acts ↔ addr ∈ attempts acts := by
  simp only [attempts, List.mem_filterMap]
  constructor
  · intro h
    exact ⟨_, h, rfl⟩
  · rintro ⟨a, ha, he⟩
    cases a <;> cases he
    exact ha

/-- Attempts are read off acts that are all attempts. -/
@[simp] theorem attempts_map (addrs : List SockAddr) : attempts (addrs.map .attempted) = addrs := by
  induction addrs with
  | nil => rfl
  | cons addr addrs ih => rw [List.map_cons, attempts_attempted, ih]

/-- An early act decides nothing. -/
theorem undecided_of_early {acts : List Act} (h : acts.all early = true) : acts.all undecided = true := by
  rw [List.all_eq_true] at h ⊢
  intro a ha
  have := h a ha
  cases a <;> simp_all [early, undecided]

/-- There is no attempt among early acts. -/
theorem attempts_of_early {acts : List Act} (h : acts.all early = true) : attempts acts = [] := by
  rw [List.all_eq_true] at h
  refine List.filterMap_eq_nil_iff.mpr fun a ha => ?_
  have := h a ha
  cases a <;> simp_all [early]

/-- No result is taken among undecided acts. -/
theorem not_resolved {acts : List Act} (h : acts.all undecided = true) (status : Int) (l : List AddrInfo) :
    .resolved status l ∉ acts := by
  intro hm
  have := List.all_eq_true.mp h _ hm
  simp [undecided] at this

/-- Undecided acts have not decided the request. -/
theorem not_decided {acts : List Act} (h : acts.all undecided = true) : .succeeded ∉ acts ∧ .failed ∉ acts := by
  refine ⟨fun hm => ?_, fun hm => ?_⟩
  · have := List.all_eq_true.mp h _ hm
    simp [undecided] at this
  · have := List.all_eq_true.mp h _ hm
    simp [undecided] at this

end Act

namespace ClientState

/-- Writing to the access log is an early act. -/
@[simp] theorem early_logActs (st : ClientState) (success : Bool) : (st.logActs success).all Act.early = true := by
  unfold logActs
  split <;> rfl

/-- Refusing a request attempts nothing. -/
theorem attempts_refusedActs (st : ClientState) (code : Byte) : Act.attempts (st.refusedActs code) = [] := by
  have h : Act.attempts (st.refusedActs code) = Act.attempts (st.logActs false) := rfl
  rw [h, Act.attempts_of_early (st.early_logActs false)]

/-- Refusing a request takes no result and is no success. -/
theorem mem_refusedActs (st : ClientState) (code : Byte) :
    .succeeded ∉ st.refusedActs code ∧ ∀ status l, .resolved status l ∉ st.refusedActs code := by
  have hlog := Act.undecided_of_early (st.early_logActs false)
  simp only [refusedActs, List.mem_cons, reduceCtorEq, false_or]
  exact ⟨(Act.not_decided hlog).1, Act.not_resolved hlog⟩

/-- Answering a request with success attempts nothing. -/
theorem attempts_connectedActs (st : ClientState) : Act.attempts st.connectedActs = [] := by
  have h : Act.attempts st.connectedActs = Act.attempts (st.logActs true) := rfl
  rw [h, Act.attempts_of_early (st.early_logActs true)]

/-- Answering a request with success takes no result and is no failure. -/
theorem mem_connectedActs (st : ClientState) :
    .failed ∉ st.connectedActs ∧ ∀ status l, .resolved status l ∉ st.connectedActs := by
  have hlog := Act.undecided_of_early (st.early_logActs true)
  simp only [connectedActs, List.mem_cons, reduceCtorEq, false_or]
  exact ⟨(Act.not_decided hlog).2, Act.not_resolved hlog⟩

end ClientState

/-! ## The list worked off -/

/-- An entry of a family that can be connected to is usable. -/
theorem usable_cons {current : AddrInfo} (h : current.family = .inet ∨ current.family = .inet6) (next : List AddrInfo) :
    usable (current :: next) = current.addr :: usable next := by
  simp only [usable, List.filter_cons, h, decide_true, if_true, List.map_cons]

/-- An entry of another family is skipped. -/
theorem usable_skip {current : AddrInfo} (h : current.family ≠ .inet) (h' : current.family ≠ .inet6) (next : List AddrInfo) :
    usable (current :: next) = usable next := by
  simp only [usable, List.filter_cons, h, h', or_self, decide_false, Bool.false_eq_true, if_false]

/-- The usable addresses are attempted from the first; when a connection was started, those after it are left. -/
theorem Tries.attempts {st st' : ClientState} {l : List AddrInfo} {acts : List Act} {c : Option ConnectStatus}
    (h : Tries st l acts st' c) : Act.attempts acts ++ (if c = none then [] else usable st'.targetAddressCurrent) = usable l := by
  induction h with
  | exhausted => rfl
  | skipped hf hf' _ ih => rw [usable_skip hf hf', ih]
  | failed hf _ _ ih => rw [usable_cons hf, Act.attempts_attempted, List.cons_append, ih]
  | started hf _ _ => rw [usable_cons hf, if_neg nofun, Act.attempts_attempted, Act.attempts_nil, List.singleton_append]

/-- Trying addresses decides nothing. -/
theorem Tries.undecided {st st' : ClientState} {l : List AddrInfo} {acts : List Act} {c : Option ConnectStatus}
    (h : Tries st l acts st' c) : acts.all Act.undecided = true := by
  obtain ⟨addrs, rfl⟩ := h.acts_eq
  simp [Act.undecided]

/-! ## What becomes of a list -/

/-- An act at the head of a suffix that is not in the first part of two is in the second. -/
theorem suffix_of_append {α : Type} {x : α} {a b after : List α} (hx : x ∉ a) (h : x :: after <:+ a ++ b) : x :: after <:+ b := by
  obtain ⟨t, ht⟩ := h
  obtain ⟨m, _, hb⟩ | ⟨m, ha, hb⟩ := List.append_eq_append_iff.mp ht
  · cases m with
    | nil => exact ⟨[], hb⟩
    | cons y m =>
      refine absurd ?_ hx
      simp_all
  · exact ⟨m, hb.symm⟩

/-- What follows a success among acts that attempt nothing attempts nothing. -/
theorem attempts_of_suffix {acts after : List Act} {a : Act} (h : Act.attempts acts = []) (hs : a :: after <:+ acts) :
    Act.attempts after = [] := by
  obtain ⟨t, rfl⟩ := hs
  rw [← List.singleton_append, Act.attempts_append, Act.attempts_append, List.append_eq_nil_iff, List.append_eq_nil_iff] at h
  exact h.2.2

namespace Outcome

variable {l : List AddrInfo} {post acts : List Act}

/-- A list is open as long as nothing is decided and the attempts are the first of the usable addresses. -/
theorem undecided (h : post.all Act.undecided = true) (ho : Act.attempts post <+: usable l) : Outcome l post := by
  obtain ⟨hs, hf⟩ := Act.not_decided h
  exact ⟨ho, fun hm => absurd hm hf, fun after ha => absurd (ha.subset (List.mem_cons_self ..)) hs⟩

/-- A success: nothing is attempted from then on. -/
theorem succeed (h : post.all Act.undecided = true) (ho : Act.attempts post <+: usable l) (ha : Act.attempts acts = [])
    (hf : .failed ∉ acts) : Outcome l (post ++ acts) := by
  obtain ⟨hs, hf'⟩ := Act.not_decided h
  refine ⟨?_, fun hm => ?_, fun after hsuf => attempts_of_suffix ha (suffix_of_append hs hsuf)⟩
  · rw [Act.attempts_append, ha, List.append_nil]
    exact ho
  · exact absurd (List.mem_append.mp hm) (not_or.mpr ⟨hf', hf⟩)

/-- A failure: all usable addresses were attempted. -/
theorem fail (h : post.all Act.undecided = true) (ho : Act.attempts post = usable l) (ha : Act.attempts acts = [])
    (hs : .succeeded ∉ acts) : Outcome l (post ++ acts) := by
  have hno : .succeeded ∉ post ++ acts := fun hm =>
    absurd (List.mem_append.mp hm) (not_or.mpr ⟨(Act.not_decided h).1, hs⟩)
  have hall : Act.attempts (post ++ acts) = usable l := by rw [Act.attempts_append, ha, List.append_nil, ho]
  exact ⟨hall ▸ List.prefix_rfl, fun _ => ⟨hall, hno⟩, fun after hsuf => absurd (hsuf.subset (List.mem_cons_self ..)) hno⟩

/-- Acts that are early change nothing of it. -/
theorem quiet (h : Outcome l post) (he : acts.all Act.early = true) : Outcome l (post ++ acts) := by
  have ha := Act.attempts_of_early he
  obtain ⟨hs, hf⟩ := Act.not_decided (Act.undecided_of_early he)
  have hall : Act.attempts (post ++ acts) = Act.attempts post := by rw [Act.attempts_append, ha, List.append_nil]
  refine ⟨hall ▸ h.inOrder, fun hm => ?_, fun after hsuf => ?_⟩
  · obtain ⟨h1, h2⟩ := h.failed ((List.mem_append.mp hm).resolve_right hf)
    exact ⟨hall.trans h1, fun hm' => absurd (List.mem_append.mp hm') (not_or.mpr ⟨h2, hs⟩)⟩
  · -- the success was before the early acts
    obtain ⟨t, ht⟩ := hsuf
    obtain ⟨m, hp, hm⟩ | ⟨m, hp, hm⟩ := List.append_eq_append_iff.mp ht
    · cases m with
      | nil =>
        rw [List.nil_append] at hm
        refine absurd ?_ hs
        rw [← hm]
        exact List.mem_cons_self ..
      | cons a m =>
        simp only [List.cons_append, List.cons.injEq] at hm
        obtain ⟨rfl, rfl⟩ := hm
        rw [Act.attempts_append, ha, List.append_nil]
        exact h.stops m ⟨t, hp.symm⟩
    · refine absurd ?_ hs
      rw [hm]
      exact List.mem_append_right _ (List.mem_cons_self ..)

end Outcome

/-! ## One step -/

section Step

variable {env : Env} {L L' : Life} {v v' : View} {st : ClientState} {r : Socks5Request} {hist acts : List Act}
  {rest : List SockAddr}

/-- A session that has only done early things has started no connection. -/
theorem concluded_of_early (h : hist.all Act.early = true) : Concluded hist :=
  .inl fun l => Act.not_resolved (Act.undecided_of_early h) 0 l

/-- A session that starts no more connections starts none in early acts. -/
theorem Concluded.quiet (h : Concluded hist) (he : acts.all Act.early = true) : Concluded (hist ++ acts) := by
  have hno := Act.not_resolved (Act.undecided_of_early he)
  obtain h | ⟨pre, l, post, rfl, hpre, hpost, ho⟩ := h
  · exact .inl fun l hm => (List.mem_append.mp hm).elim (h l) (hno 0 l)
  · refine .inr ⟨pre, l, post ++ acts, by rw [List.append_assoc, List.cons_append], hpre, fun status l' hm => ?_, ho.quiet he⟩
    exact (List.mem_append.mp hm).elim (hpost status l') (hno status l')

/-- A connection that was started may be given up, without a word on the outcome. -/
theorem Trying.gone (h : Trying hist rest) (he : acts.all Act.early = true) : Concluded (hist ++ acts) := by
  refine Concluded.quiet ?_ he
  obtain h | ⟨pre, l, post, rfl, hpre, hpost, ho⟩ := h
  · exact .inl fun l => h 0 l
  · exact .inr ⟨pre, l, post, rfl, hpre, Act.not_resolved hpost, .undecided hpost ⟨rest, ho⟩⟩

/-- A connection that was started may succeed. -/
theorem Trying.succeed (h : Trying hist rest) (st : ClientState) : Concluded (hist ++ st.connectedActs) := by
  obtain ⟨hf, hno⟩ := st.mem_connectedActs
  obtain h | ⟨pre, l, post, rfl, hpre, hpost, ho⟩ := h
  · exact .inl fun l hm => (List.mem_append.mp hm).elim (h 0 l) (hno 0 l)
  · refine .inr ⟨pre, l, post ++ st.connectedActs, by rw [List.append_assoc, List.cons_append], hpre, fun status l' hm => ?_,
      .succeed hpost ⟨rest, ho⟩ st.attempts_connectedActs hf⟩
    exact (List.mem_append.mp hm).elim (Act.not_resolved hpost status l') (hno status l')

/-- When the addresses are used up, the request is refused. -/
theorem Trying.fail (h : Trying hist []) (st : ClientState) (code : Byte) : Concluded (hist ++ st.refusedActs code) := by
  obtain ⟨hs, hno⟩ := st.mem_refusedActs code
  obtain h | ⟨pre, l, post, rfl, hpre, hpost, ho⟩ := h
  · exact .inl fun l hm => (List.mem_append.mp hm).elim (h 0 l) (hno 0 l)
  · rw [List.append_nil] at ho
    refine .inr ⟨pre, l, post ++ st.refusedActs code, by rw [List.append_assoc, List.cons_append], hpre, fun status l' hm => ?_,
      .fail hpost ho (st.attempts_refusedActs code) hs⟩
    exact (List.mem_append.mp hm).elim (Act.not_resolved hpost status l') (hno status l')

/-- A session that attempts some of the addresses that are left. -/
theorem Trying.attempt {addrs : List SockAddr} (h : Trying hist rest) (hundecided : acts.all Act.undecided = true)
    (hrest : Act.attempts acts ++ addrs = rest) : Trying (hist ++ acts) addrs := by
  obtain h | ⟨pre, l, post, rfl, hpre, hpost, ho⟩ := h
  · exact .inl fun status l hm => (List.mem_append.mp hm).elim (h status l) (Act.not_resolved hundecided status l)
  · refine .inr ⟨pre, l, post ++ acts, by rw [List.append_assoc, List.cons_append], hpre, ?_, ?_⟩
    · rw [List.all_append, hpost, hundecided, Bool.and_self]
    · rw [Act.attempts_append, List.append_assoc, hrest, ho]

/-- Connecting to the addresses that are left. -/
theorem Connects.course {l : List AddrInfo} (h : Connects v st l acts v') (ht : Trying hist (usable l)) :
    Life.Course (hist ++ acts) (.live v') := by
  cases h with
  | started htr =>
    obtain ⟨current, e, ⟨hc, _⟩ | ⟨fd, c', _, _, _, rfl⟩⟩ := htr.eq
    · cases hc
    · have hrest := htr.attempts
      rw [if_neg nofun] at hrest
      exact .inr (.inl ⟨rfl, ht.attempt htr.undecided hrest⟩)
  | refused htr =>
    have hrest := htr.attempts
    rw [if_pos rfl] at hrest
    rw [← List.append_assoc]
    exact .inr (.inr ⟨.inr rfl, (ht.attempt htr.undecided hrest).fail _ _⟩)

/-- Beginning a request. -/
theorem Begins.course (h : Begins v st r acts v') (he : hist.all Act.early = true) : Life.Course (hist ++ acts) (.live v') := by
  have hnone := Act.not_resolved (Act.undecided_of_early he)
  cases h with
  | resolving _ => exact .inl ⟨.inr (.inr (.inr rfl)), by rw [List.append_nil, he]⟩
  | unresolved _ =>
    refine .inr (.inr ⟨.inr rfl, .inl fun l hm => ?_⟩)
    exact (List.mem_append.mp hm).elim (hnone 0 l) ((st.beginning r).mem_refusedActs _ |>.2 0 l)
  | connecting _ _ _ =>
    refine .inr (.inl ⟨rfl, .inl fun status l hm => ?_⟩)
    rcases List.mem_append.mp hm with hm | hm
    · exact hnone status l hm
    · exact absurd (List.mem_singleton.mp hm) nofun
  | @unconnected e _ _ =>
    refine .inr (.inr ⟨.inr rfl, .inl fun l hm => ?_⟩)
    rcases List.mem_append.mp hm with hm | hm
    · exact hnone 0 l hm
    · rcases List.mem_cons.mp hm with hm | hm
      · cases hm
      · exact (st.beginning r).mem_refusedActs _ |>.2 0 l hm

/-- Early acts in a session that stays in its stage, with the addresses it has. -/
theorem Life.Course.quiet (h : Life.Course hist (.live v)) (he : acts.all Act.early = true)
    (hst : v'.state.stage = v.state.stage) (hc : v'.state.targetAddressCurrent = v.state.targetAddressCurrent) :
    Life.Course (hist ++ acts) (.live v') := by
  rcases h with ⟨hs, h⟩ | ⟨hs, h⟩ | ⟨hs, h⟩ <;> rw [← hst] at hs
  · exact .inl ⟨hs, by rw [List.all_append, h, he, Bool.and_self]⟩
  · refine .inr (.inl ⟨hs, h.attempt (Act.undecided_of_early he) ?_⟩)
    rw [Act.attempts_of_early he, List.nil_append, hc]
  · exact .inr (.inr ⟨hs, h.quiet he⟩)

/-- Whatever a session is doing, it may be closed. -/
theorem Life.Course.gone (h : Life.Course hist (.live v)) (he : acts.all Act.early = true) : Life.Course (hist ++ acts) .gone := by
  rcases h with ⟨_, h⟩ | ⟨_, h⟩ | ⟨_, h⟩
  · exact concluded_of_early (by rw [List.all_append, h, he, Bool.and_self])
  · exact h.gone he
  · exact h.quiet he

/-- In the handshake, a session has only done early things. -/
theorem Life.Course.untried (h : Life.Course hist (.live v))
    (hst : v.state.stage = .greeting ∨ v.state.stage = .auth ∨ v.state.stage = .request ∨ v.state.stage = .resolving) :
    hist.all Act.early = true := by
  rcases h with ⟨_, h⟩ | ⟨hs, _⟩ | ⟨hs, _⟩
  · exact h
  · rw [hs] at hst
    rcases hst with hst | hst | hst | hst <;> cases hst
  · rcases hs with hs | hs <;> rw [hs] at hst <;> rcases hst with hst | hst | hst | hst <;> cases hst

/-- A session that is connecting has addresses left. -/
theorem Life.Course.trying (h : Life.Course hist (.live v)) (hst : v.state.stage = .connecting) :
    Trying hist (usable v.state.targetAddressCurrent) := by
  rcases h with ⟨hs, _⟩ | ⟨_, h⟩ | ⟨hs, _⟩
  · rw [hst] at hs
    rcases hs with hs | hs | hs | hs <;> cases hs
  · exact h
  · rw [hst] at hs
    rcases hs with hs | hs <;> cases hs

/-- A handshake message answered. -/
theorem Life.Course.answered (h : Life.Course hist (.live v)) (he : acts.all Act.early = true)
    (hst : v.state.stage = .greeting ∨ v.state.stage = .auth ∨ v.state.stage = .request)
    (hst' : v'.state.stage = .auth ∨ v'.state.stage = .request ∨ v'.state.stage = .closing) :
    Life.Course (hist ++ acts) (.live v') := by
  have hearly : (hist ++ acts).all Act.early = true := by
    rw [List.all_append, h.untried (hst.imp_right fun h => h.imp_right .inl), he, Bool.and_self]
  rcases hst' with hst' | hst' | hst'
  · exact .inl ⟨.inr (.inl hst'), hearly⟩
  · exact .inl ⟨.inr (.inr (.inl hst')), hearly⟩
  · exact .inr (.inr ⟨.inr hst', concluded_of_early hearly⟩)

/-- Every step keeps to the course. -/
theorem SessionStep.course (h : SessionStep env L acts L') (hL : L.Course hist) : L'.Course (hist ++ acts) := by
  cases h with
  | accepted _ =>
    rw [show hist = [] from hL]
    exact .inl ⟨.inl rfl, rfl⟩
  | never =>
    rw [show hist = [] from hL]
    exact concluded_of_early rfl
  | closed => exact hL.gone rfl
  | clientEnded => exact hL.gone rfl
  | targetEnded => exact hL.gone rfl
  | hungUp => exact hL.gone rfl
  | replySentClosing => exact hL.gone (by simp [Act.early])
  | greeted _ _ _ _ hst _ => exact hL.answered rfl (.inl hst) (stageAfterMethod_cases _)
  | authenticated _ _ _ _ hst _ => exact hL.answered rfl (.inr (.inl hst)) (.inr (.inl rfl))
  | unauthenticated _ _ _ _ hst _ => exact hL.answered rfl (.inr (.inl hst)) (.inr (.inr rfl))
  | rejected _ _ _ _ hst _ =>
    have hnone := Act.not_resolved (Act.undecided_of_early (hL.untried (.inr (.inr (.inl hst)))))
    refine .inr (.inr ⟨.inr rfl, .inl fun l hm => ?_⟩)
    exact (List.mem_append.mp hm).elim (hnone 0 l) (by simp)
  | @begun v _ bytes r acts' _ _ _ _ hst _ hb =>
    have he := hL.untried (.inr (.inr (.inl hst)))
    have he' : (hist ++ [Act.recvHandshake bytes, .begun r]).all Act.early = true := by
      rw [List.all_append, he]
      rfl
    have hb' := hb.course he'
    rw [List.append_assoc] at hb'
    exact hb'
  | @unresolved v status result hst hs _ =>
    have he := hL.untried (.inr (.inr (.inr hst)))
    refine .inr (.inr ⟨.inr rfl, ?_⟩)
    have hnone := Act.not_resolved (Act.undecided_of_early he)
    obtain ⟨hsucc, hno⟩ := v.state.mem_refusedActs (socks5ReplyForGaiError status)
    by_cases h0 : status = 0
    · -- an empty list is used up at once
      obtain rfl := hs.resolve_left fun hne => hne h0
      subst h0
      have hfail : Outcome [] ([] ++ v.state.refusedActs (socks5ReplyForGaiError 0)) :=
        .fail rfl rfl (v.state.attempts_refusedActs _) hsucc
      exact .inr ⟨hist, [], _, rfl, he, hno, hfail⟩
    · refine .inl fun l hm => ?_
      rcases List.mem_append.mp hm with hm | hm
      · exact hnone 0 l hm
      · rcases List.mem_cons.mp hm with hm | hm
        · cases hm
          exact h0 rfl
        · exact hno 0 l hm
  | @resolved v _ result acts' hst _ _ hcon =>
    have ht : Trying (hist ++ [.resolved 0 result]) (usable result) :=
      .inr ⟨hist, result, [], rfl, hL.untried (.inr (.inr (.inr hst))), rfl, rfl⟩
    have hc := hcon.course ht
    rw [List.append_assoc] at hc
    exact hc
  | connected hst _ _ _ => exact .inr (.inr ⟨.inl rfl, (hL.trying hst).succeed _⟩)
  | unconnected hst _ _ hcon => exact hcon.course (hL.trying hst)
  | _ => exact hL.quiet (by simp [Act.early]) rfl rfl

end Step

/-- A session that keeps to its course concludes as it should. -/
theorem Life.Course.concluded {hist : List Act} {L : Life} (h : L.Course hist) : Concluded hist := by
  have hnil : ∀ {acts}, Concluded (acts ++ []) → Concluded acts := by
    intro acts hc
    rw [List.append_nil] at hc
    exact hc
  cases L with
  | unborn =>
    rw [show hist = [] from h]
    exact concluded_of_early rfl
  | live v => exact hnil (h.gone rfl)
  | gone => exact h

/-- A list that was taken is taken once, so what came of it is what came of the only one. -/
theorem Concluded.outcome {hist pre post : List Act} {l : List AddrInfo} (h : Concluded hist)
    (he : hist = pre ++ .resolved 0 l :: post) : Act.attempts pre = [] ∧ Outcome l post := by
  obtain h | ⟨pre', l', post', rfl, hpre, hpost, ho⟩ := h
  · exact absurd (he ▸ List.mem_append_right _ (List.mem_cons_self ..)) (h l)
  · have hpre' := Act.not_resolved (Act.undecided_of_early hpre)
    obtain ⟨m, rfl, hm⟩ | ⟨m, rfl, hm⟩ := List.append_eq_append_iff.mp he
    · cases m with
      | nil =>
        simp only [List.nil_append, List.cons.injEq, Act.resolved.injEq, true_and] at hm
        obtain ⟨rfl, rfl⟩ := hm
        rw [List.append_nil]
        exact ⟨Act.attempts_of_early hpre, ho⟩
      | cons a m =>
        simp only [List.cons_append, List.cons.injEq] at hm
        obtain ⟨rfl, rfl⟩ := hm
        exact absurd (List.mem_append_right _ (List.mem_cons_self ..)) (hpost 0 l)
    · cases m with
      | nil =>
        simp only [List.nil_append, List.cons.injEq, Act.resolved.injEq, true_and] at hm
        obtain ⟨rfl, rfl⟩ := hm
        rw [List.append_nil] at hpre
        exact ⟨Act.attempts_of_early hpre, ho⟩
      | cons a m =>
        simp only [List.cons_append, List.cons.injEq] at hm
        obtain ⟨rfl, rfl⟩ := hm
        exact absurd (List.mem_append_right _ (List.mem_cons_self ..)) (hpre' 0 l)

/-- In every run every session keeps to its course. -/
theorem run_course (c : Config) (es : List Event) (sid : Nat) :
    ((run c.start es).life sid).Course ((run c.start es).acts sid) :=
  run_session c (P := fun hist L => L.Course hist) (fun _ _ => True) sid rfl
    (fun _ _ _ _ _ _ _ hL _ hs => hs.course hL) es fun _ _ _ _ => trivial

end SocksProxy
