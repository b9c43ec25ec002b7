import SocksProxy.Theorems.Replies
import Mathlib.Algebra.Order.BigOperators.Group.Finset

/-!
# Accounting

The metrics add up what the sessions did: how many there are, how many there were, and how their requests ended. Each session is
counted opened once, closed once, and its request as a success or as a failure, never as both.
-/

namespace SocksProxy

namespace Obs

/-- How many acts of this kind a trace has, of all sessions together. -/
def tally (p : Act → Bool) (trace : List Obs) : Nat :=
  trace.countP fun o => match o with
    | .act _ a => p a
    | _ => false

@[simp] theorem tally_nil (p : Act → Bool) : tally p [] = 0 := rfl

@[simp] theorem tally_append (p : Act → Bool) (trace trace' : List Obs) :
    tally p (trace ++ trace') = tally p trace + tally p trace' :=
  List.countP_append

theorem tally_cons (p : Act → Bool) (o : Obs) (trace : List Obs) : tally p (o :: trace) = tally p [o] + tally p trace := by
  rw [← tally_append, List.singleton_append]

/-- An observation that is an act counts if it is of the kind. -/
theorem tally_act (p : Act → Bool) (sid : Nat) (a : Act) : tally p [.act sid a] = if p a then 1 else 0 :=
  List.countP_singleton

/-- The acts of a trace are those of sessions with numbers below `n`, so what they did adds up to the tally of the trace. -/
theorem sum_tally (p : Act → Bool) {n : Nat} {trace : List Obs} (h : ∀ sid, n ≤ sid → acts sid trace = []) :
    ∑ sid ∈ Finset.range n, (acts sid trace).countP p = tally p trace := by
  induction trace with
  | nil => simp [acts]
  | cons o trace ih =>
    cases o with
    | opened file fd => simpa [tally] using ih h
    | closed file => simpa [tally] using ih h
    | act sid a =>
      have hlt : sid < n := by
        by_contra hge
        have := h sid (by omega)
        simp [acts_act] at this
      have hrest : ∀ sid', n ≤ sid' → acts sid' trace = [] := by
        intro sid' hge
        have := h sid' hge
        rw [acts_act, if_neg (by omega)] at this
        exact this
      have hsplit : ∀ sid', (acts sid' (.act sid a :: trace)).countP p =
          (if sid = sid' then (if p a then 1 else 0) else 0) + (acts sid' trace).countP p := by
        intro sid'
        rw [acts_act]
        split
        · rw [List.countP_cons, Nat.add_comm]
        · simp
      simp only [hsplit]
      rw [Finset.sum_add_distrib, ih hrest, Finset.sum_ite_eq, if_pos (Finset.mem_range.mpr hlt), ← tally_act p sid a,
        ← tally_append]
      rfl

end Obs

/-! ## The accounts of a trace -/

/-- A connection was counted opened. -/
def Act.opens (a : Act) : Bool := a == .accepted

/-- A connection was counted closed. -/
def Act.closes (a : Act) : Bool := a == .freed

/-- A request was counted as a success. -/
def Act.succeeds (a : Act) : Bool := a == .succeeded

/-- A request was counted as a failure. -/
def Act.fails (a : Act) : Bool := a == .failed

namespace Accounts

/-- What one observation adds to the counters that only grow. -/
theorem totals_countObs (c : Accounts) (o : Obs) :
    (c.countObs o).metrics.historicalConnections =
      c.metrics.historicalConnections + UInt64.ofNat (Obs.tally Act.opens [o]) ∧
    (c.countObs o).metrics.successfulConnections =
      c.metrics.successfulConnections + UInt64.ofNat (Obs.tally Act.succeeds [o]) ∧
    (c.countObs o).metrics.failedConnections =
      c.metrics.failedConnections + UInt64.ofNat (Obs.tally Act.fails [o]) := by
  cases o with
  | opened file fd => simp [countObs, Obs.tally]
  | closed file => simp [countObs, Obs.tally]
  | act sid a =>
    simp only [countObs, Obs.tally_act]
    cases a
    case freed =>
      simp only [count, ServerMetrics.connectionClosed, Act.opens, Act.succeeds, Act.fails]
      split <;> simp
    all_goals simp [count, ServerMetrics.connectionOpened, ServerMetrics.connectionSucceeded, ServerMetrics.connectionFailed,
      ServerMetrics.addTargetToClientBytes, ServerMetrics.addClientToTargetBytes, Act.opens, Act.succeeds, Act.fails]

/-- The counters that only grow are what was counted, modulo 2^64. -/
theorem totals_fold (trace : List Obs) (c : Accounts) :
    (trace.foldl countObs c).metrics.historicalConnections =
      c.metrics.historicalConnections + UInt64.ofNat (Obs.tally Act.opens trace) ∧
    (trace.foldl countObs c).metrics.successfulConnections =
      c.metrics.successfulConnections + UInt64.ofNat (Obs.tally Act.succeeds trace) ∧
    (trace.foldl countObs c).metrics.failedConnections =
      c.metrics.failedConnections + UInt64.ofNat (Obs.tally Act.fails trace) := by
  induction trace generalizing c with
  | nil => simp
  | cons o trace ih =>
    obtain ⟨h1, h2, h3⟩ := ih (c.countObs o)
    obtain ⟨g1, g2, g3⟩ := c.totals_countObs o
    rw [List.foldl_cons, h1, h2, h3, g1, g2, g3, Obs.tally_cons _ o trace, Obs.tally_cons _ o trace,
      Obs.tally_cons _ o trace]
    simp only [UInt64.ofNat_add, UInt64.add_assoc]
    exact ⟨trivial, trivial, trivial⟩

/-- What one observation does to the counts of open connections. -/
theorem open_countObs (c : Accounts) (o : Obs) :
    (∃ sid, o = .act sid .accepted) ∧ (c.countObs o).active = c.active + 1 ∧
      (c.countObs o).metrics.concurrentConnections = c.metrics.concurrentConnections + 1 ∧
      Obs.tally Act.opens [o] = 1 ∧ Obs.tally Act.closes [o] = 0 ∨
    (∃ sid, o = .act sid .freed) ∧ (c.countObs o).active = c.active - 1 ∧
      (0 < c.metrics.concurrentConnections →
        (c.countObs o).metrics.concurrentConnections = c.metrics.concurrentConnections - 1) ∧
      Obs.tally Act.opens [o] = 0 ∧ Obs.tally Act.closes [o] = 1 ∨
    (c.countObs o).active = c.active ∧ (c.countObs o).metrics.concurrentConnections = c.metrics.concurrentConnections ∧
      Obs.tally Act.opens [o] = 0 ∧ Obs.tally Act.closes [o] = 0 := by
  cases o with
  | opened file fd => exact .inr (.inr ⟨rfl, rfl, rfl, rfl⟩)
  | closed file => exact .inr (.inr ⟨rfl, rfl, rfl, rfl⟩)
  | act sid a =>
    cases a
    case accepted => exact .inl ⟨⟨sid, rfl⟩, rfl, rfl, rfl, rfl⟩
    case freed =>
      refine .inr (.inl ⟨⟨sid, rfl⟩, rfl, fun hpos => ?_, rfl, rfl⟩)
      simp only [countObs, count, ServerMetrics.connectionClosed, gt_iff_lt, if_pos hpos]
    all_goals exact .inr (.inr ⟨rfl, rfl, rfl, rfl⟩)

/-- In a trace that never closes more connections than it opened, those open are those opened less those closed. -/
theorem open_fold {trace : List Obs}
    (h : ∀ pre post, trace = pre ++ post → Obs.tally Act.closes pre ≤ Obs.tally Act.opens pre) :
    (trace.foldl countObs .zeroed).active + Obs.tally Act.closes trace = Obs.tally Act.opens trace ∧
    (Obs.tally Act.opens trace < 2 ^ 64 →
      (trace.foldl countObs .zeroed).metrics.concurrentConnections.toNat + Obs.tally Act.closes trace =
        Obs.tally Act.opens trace) := by
  induction trace using List.reverseRecOn with
  | nil => exact ⟨rfl, fun _ => rfl⟩
  | append_singleton trace o ih =>
    obtain ⟨h1, h2⟩ := ih fun pre post he => h pre (post ++ [o]) (by simp [he])
    have hall := h _ [] (List.append_nil _).symm
    rw [List.foldl_append, List.foldl_cons, List.foldl_nil]
    rw [Obs.tally_append, Obs.tally_append] at hall ⊢
    generalize trace.foldl countObs .zeroed = c at h1 h2 ⊢
    rcases c.open_countObs o with ⟨_, ha, hc, ho, hf⟩ | ⟨_, ha, hc, ho, hf⟩ | ⟨ha, hc, ho, hf⟩ <;> rw [ha, ho, hf] <;>
      rw [ho, hf] at hall
    · refine ⟨by omega, fun hlt => ?_⟩
      have := h2 (by omega)
      rw [hc, UInt64.toNat_add, Nat.mod_eq_of_lt (by simp only [UInt64.toNat_one]; omega), UInt64.toNat_one]
      omega
    · refine ⟨by omega, fun hlt => ?_⟩
      have := h2 (by omega)
      have hpos : 0 < c.metrics.concurrentConnections := by
        rw [UInt64.lt_iff_toNat_lt]
        simp only [UInt64.toNat_zero]
        omega
      have hle : (1 : UInt64) ≤ c.metrics.concurrentConnections := by
        rw [UInt64.le_iff_toNat_le, UInt64.toNat_one]
        omega
      rw [hc hpos, UInt64.toNat_sub_of_le _ _ hle, UInt64.toNat_one]
      omega
    · rw [hc]
      exact ⟨by omega, fun hlt => by have := h2 (by omega); omega⟩

end Accounts

/-! ## The acts of one session -/

/-- What a session that lives so far has been counted for: nothing before it is accepted, opened while it is there, opened and closed
once it is gone; an object that never was a session for nothing. -/
def Life.Tallied : Life → List Act → Prop
  | .unborn, acts => acts = []
  | .live _, acts => acts.countP Act.opens = 1 ∧ acts.countP Act.closes = 0
  | .gone, acts => acts = [] ∨ acts.countP Act.opens = 1 ∧ acts.countP Act.closes = 1

/-- An act that counts no connection opened or closed. -/
def Act.inner : Act → Bool
  | .accepted => false
  | .freed => false
  | _ => true

/-- A line of the access log counts no connection. -/
@[simp] theorem ClientState.inner_logActs (st : ClientState) (success : Bool) : (st.logActs success).all Act.inner = true := by
  unfold ClientState.logActs
  split <;> rfl

/-- The answer to a request that failed counts no connection. -/
@[simp] theorem ClientState.inner_refusedActs (st : ClientState) (code : Byte) : (st.refusedActs code).all Act.inner = true :=
  st.inner_logActs false

/-- The answer to a request that succeeded counts no connection. -/
@[simp] theorem ClientState.inner_connectedActs (st : ClientState) : st.connectedActs.all Act.inner = true :=
  st.inner_logActs true

/-- Acts that count no connection leave the counts as they are. -/
theorem Act.countP_inner {acts : List Act} (h : acts.all inner = true) : acts.countP opens = 0 ∧ acts.countP closes = 0 := by
  have hall := List.all_eq_true.mp h
  refine ⟨List.countP_eq_zero.mpr fun a ha => ?_, List.countP_eq_zero.mpr fun a ha => ?_⟩
  · have := hall a ha
    cases a <;> simp [inner, opens] at this ⊢
  · have := hall a ha
    cases a <;> simp [inner, closes] at this ⊢

section Step

variable {env : Env} {L L' : Life} {v v' : View} {st : ClientState} {acts : List Act}

/-- Connecting to addresses counts no connection. -/
theorem Connects.inner {l : List AddrInfo} (h : Connects v st l acts v') : acts.all Act.inner = true := by
  obtain ⟨addrs, _, e, ⟨_, _, _, _, rfl, _⟩ | ⟨st', _, rfl, _⟩⟩ := h.eq <;> simp [Act.inner]

/-- Beginning a request counts no connection. -/
theorem Begins.inner {r : Socks5Request} (h : Begins v st r acts v') : acts.all Act.inner = true := by
  cases h <;> simp [Act.inner]

/-- A step accepts a session, does something for a session that stays, or frees a session at its end. -/
theorem SessionStep.ends (h : SessionStep env L acts L') :
    L = .unborn ∧ (acts = [.accepted] ∧ (∃ v, L' = .live v) ∨ acts = [] ∧ L' = .gone) ∨
    (∃ v v', L = .live v ∧ L' = .live v' ∧ acts.all Act.inner = true) ∨
    ∃ v before, L = .live v ∧ L' = .gone ∧ acts = before ++ [.freed] ∧ before.all Act.inner = true := by
  cases h with
  | accepted => exact .inl ⟨rfl, .inl ⟨rfl, _, rfl⟩⟩
  | never => exact .inl ⟨rfl, .inr ⟨rfl, rfl⟩⟩
  | closed => exact .inr (.inr ⟨_, [], rfl, rfl, rfl, rfl⟩)
  | clientEnded => exact .inr (.inr ⟨_, [.eofClient], rfl, rfl, rfl, rfl⟩)
  | targetEnded => exact .inr (.inr ⟨_, [.eofTarget], rfl, rfl, rfl, rfl⟩)
  | @hungUp _ bytes => exact .inr (.inr ⟨_, [.recvHandshake bytes], rfl, rfl, rfl, rfl⟩)
  | @replySentClosing _ chunks => exact .inr (.inr ⟨_, _, rfl, rfl, rfl, by simp [Act.inner]⟩)
  | begun _ _ _ _ _ _ hb => exact .inr (.inl ⟨_, _, rfl, rfl, by simpa [Act.inner] using hb.inner⟩)
  | resolved _ _ _ hcon => exact .inr (.inl ⟨_, _, rfl, rfl, by simpa [Act.inner] using hcon.inner⟩)
  | unconnected _ _ _ hcon => exact .inr (.inl ⟨_, _, rfl, rfl, hcon.inner⟩)
  | connected => exact .inr (.inl ⟨_, _, rfl, rfl, ClientState.inner_connectedActs _⟩)
  | _ => exact .inr (.inl ⟨_, _, rfl, rfl, by simp [Act.inner]⟩)

/-- No connection is counted closed before it is counted opened. -/
def Act.Causal (acts : List Act) : Prop := ∀ pre post, acts = pre ++ post → pre.countP Act.closes ≤ pre.countP Act.opens

/-- Acts that close no more than was opened before them may follow. -/
theorem Act.Causal.append {hist : List Act} (h : Act.Causal hist)
    (hle : hist.countP Act.closes + acts.countP Act.closes ≤ hist.countP Act.opens) : Act.Causal (hist ++ acts) := by
  intro pre post he
  rcases List.append_eq_append_iff.mp he with ⟨mid, rfl, rfl⟩ | ⟨mid, rfl, rfl⟩
  · rw [List.countP_append] at hle
    rw [List.countP_append, List.countP_append]
    omega
  · exact h pre mid rfl

/-- Every step keeps the counts of a session, and no connection is ever counted closed before it was counted opened. -/
theorem SessionStep.tallied (h : SessionStep env L acts L') {hist : List Act} (ht : L.Tallied hist ∧ Act.Causal hist) :
    L'.Tallied (hist ++ acts) ∧ Act.Causal (hist ++ acts) := by
  obtain ⟨ht, hcausal⟩ := ht
  obtain ⟨rfl, ⟨rfl, v, rfl⟩ | ⟨rfl, rfl⟩⟩ | ⟨v, v', rfl, rfl, hin⟩ | ⟨v, before, rfl, rfl, rfl, hin⟩ := h.ends
  · cases ht
    exact ⟨⟨rfl, rfl⟩, hcausal.append (Nat.le_refl 0)⟩
  · cases ht
    exact ⟨.inl rfl, hcausal⟩
  · obtain ⟨h1, h2⟩ := Act.countP_inner hin
    obtain ⟨ho, hc⟩ := ht
    refine ⟨⟨?_, ?_⟩, hcausal.append ?_⟩
    · rw [List.countP_append, ho, h1]
    · rw [List.countP_append, hc, h2]
    · rw [ho, hc, h2]
      exact Nat.zero_le _
  · obtain ⟨h1, h2⟩ := Act.countP_inner hin
    obtain ⟨ho, hc⟩ := ht
    have hone : [Act.freed].countP Act.opens = 0 ∧ [Act.freed].countP Act.closes = 1 := ⟨rfl, rfl⟩
    refine ⟨.inr ⟨?_, ?_⟩, hcausal.append ?_⟩
    · rw [List.countP_append, List.countP_append, ho, h1, hone.1]
    · rw [List.countP_append, List.countP_append, hc, h2, hone.2]
    · rw [List.countP_append, ho, hc, h2, hone.2]

end Step

/-! ## Success -/

section Success

variable {env : Env} {L L' : Life} {v v' : View} {st : ClientState} {acts : List Act}

@[simp] theorem ClientState.succeeded_logActs (st : ClientState) (success : Bool) : .succeeded ∉ st.logActs success := by
  unfold ClientState.logActs
  split <;> simp

@[simp] theorem ClientState.succeeded_refusedActs (st : ClientState) (code : Byte) : .succeeded ∉ st.refusedActs code := by
  simp [ClientState.refusedActs]

/-- Connecting to addresses is no success yet. -/
theorem Connects.not_succeeded {l : List AddrInfo} (h : Connects v st l acts v') : .succeeded ∉ acts := by
  obtain ⟨addrs, _, e, ⟨_, _, _, _, rfl, _⟩ | ⟨st', _, rfl, _⟩⟩ := h.eq <;> simp

/-- Beginning a request is no success yet. -/
theorem Begins.not_succeeded {r : Socks5Request} (h : Begins v st r acts v') : .succeeded ∉ acts := by
  cases h <;> simp

/-- The only step that counts a success is that of a session whose target became writable while it was being connected to. -/
theorem SessionStep.succeeded (h : SessionStep env L acts L') (hm : .succeeded ∈ acts) :
    ∃ v, v.state.stage = .connecting ∧ env.writable v := by
  cases h with
  | connected hst hw => exact ⟨_, hst, hw⟩
  | begun _ _ _ _ _ _ hb => exact absurd (by simpa using hm) hb.not_succeeded
  | resolved _ _ _ hcon => exact absurd (by simpa using hm) hcon.not_succeeded
  | unconnected _ _ _ hcon => exact absurd hm hcon.not_succeeded
  | _ => simp at hm

/-- A session that is counted as a success has had its target become writable while it was being connected to. -/
theorem SessionSteps.succeeded (h : SessionSteps env L acts L') (hm : .succeeded ∈ acts) :
    ∃ v, v.state.stage = .connecting ∧ env.writable v := by
  induction h with
  | refl => cases hm
  | tail _ hs ih =>
    rcases List.mem_append.mp hm with hm | hm
    · exact ih hm
    · exact hs.succeeded hm

end Success

namespace Server

/-- A session is in `RELAY`. -/
def Relays (s : Server) (sid : Nat) : Prop := ∃ state, s.sessions sid = some state ∧ state.stage = .relay

/-- How many sessions are there. -/
def liveSessions (s : Server) : Nat := ((Finset.range s.nextObject).filter fun sid => (s.sessions sid).isSome).card

/-- How many sessions ever performed this act. -/
def sessionsThat (s : Server) (a : Act) : Nat := ((Finset.range s.nextObject).filter fun sid => a ∈ s.acts sid).card

end Server

/-! ## Every run -/

section Run

variable (c : Config)

/-- After every run a session has been counted opened and closed as its life says. -/
theorem run_tallied (es : List Event) (sid : Nat) :
    ((run c.start es).life sid).Tallied ((run c.start es).acts sid) ∧ Act.Causal ((run c.start es).acts sid) := by
  refine run_session c (P := fun hist L => L.Tallied hist ∧ Act.Causal hist) (fun _ _ => True) sid ⟨rfl, ?_⟩ ?_ es
    (fun _ _ _ _ => trivial)
  · intro pre post he
    rw [(List.append_eq_nil_iff.mp he.symm).1]
    exact Nat.le_refl 0
  · rintro pre e _ hist L acts L' ht _ hstep
    exact hstep.tallied ht

/-- After every run a session that is there has been counted as a success if and only if it is in `RELAY`. -/
theorem run_succeeded (es : List Event) (sid : Nat) {state : ClientState} (hst : (run c.start es).sessions sid = some state) :
    ((run c.start es).acts sid).count .succeeded = if state.stage = .relay then 1 else 0 := by
  obtain ⟨d, h, hs⟩ := run_heard c es sid
  rw [Server.life_of_some hst] at hs
  rw [h.counted.successes]
  have ht : state.stage.Speaks d.talk := hs.talk
  split
  · rename_i hst
    rw [hst] at ht
    rw [show d.talk = .served from ht]
    rfl
  · rename_i hst
    generalize d.talk = talk at ht
    cases talk
    case served => exact absurd ht.relay hst
    all_goals rfl

/-- The event in which a session is counted as a success is the one in which it enters `RELAY`. -/
theorem run_enters_relay (es : List Event) (e : Event) (sid : Nat) :
    .succeeded ∈ (run c.start es).doing e sid ↔
      ¬(run c.start es).Relays sid ∧ (run c.start (es ++ [e])).Relays sid := by
  have hi := run_inv c es
  obtain ⟨acts, ha, hsteps⟩ := (run_lives c es e).steps sid
  have hd : (run c.start es).doing e sid = acts := Server.doing_eq (by rw [← run_append, ha])
  rw [hd]
  constructor
  · intro hm
    obtain ⟨v, hst, hw⟩ := hsteps.succeeded hm
    have hl := hw.life
    obtain ⟨a, rfl⟩ := hw.called
    refine ⟨?_, ?_⟩
    · rintro ⟨state, hs, hr⟩
      rw [(Server.sessions_of_life hl).1] at hs
      cases hs
      rw [hst] at hr
      cases hr
    · -- the write handler of a connecting target leaves the session there
      obtain ⟨acts', v', hworked, _⟩ := targetWrite_connecting hi hl hw hst
      rw [← step_write_target hi hw, ← run_append] at hworked
      have hcount := run_succeeded c _ sid (Server.sessions_of_life hworked.life).1
      rw [ha, List.count_append] at hcount
      have hpos := List.count_pos_iff.mpr hm
      refine ⟨v'.state, (Server.sessions_of_life hworked.life).1, ?_⟩
      by_contra hne
      rw [if_neg hne] at hcount
      omega
  · rintro ⟨hbefore, state, hs, hr⟩
    have hafter := run_succeeded c (es ++ [e]) sid hs
    rw [if_pos hr, ha, List.count_append] at hafter
    have hnone : ((run c.start es).acts sid).count .succeeded = 0 := by
      cases hl : (run c.start es).life sid with
      | unborn =>
        have ht := (run_tallied c es sid).1
        rw [hl] at ht
        rw [show (run c.start es).acts sid = [] from ht]
        rfl
      | live v =>
        rw [run_succeeded c es sid (Server.sessions_of_life hl).1, if_neg]
        intro hrelay
        exact hbefore ⟨v.state, (Server.sessions_of_life hl).1, hrelay⟩
      | gone =>
        have hgone := (run_gone c hl [e]).1
        rw [Server.life_of_some hs] at hgone
        cases hgone
    exact List.count_pos_iff.mp (by omega)

/-- A session is counted opened at most once, and has its request counted as often as it was counted opened, at most. -/
theorem run_settled (es : List Event) (sid : Nat) :
    ((run c.start es).acts sid).count .succeeded + ((run c.start es).acts sid).count .failed ≤
      ((run c.start es).acts sid).count .accepted ∧
    ((run c.start es).acts sid).count .accepted ≤ 1 := by
  obtain ⟨d, h, _⟩ := run_heard c es sid
  have ht := (run_tallied c es sid).1
  have hopen : (run c.start es).acts sid = [] ∨ ((run c.start es).acts sid).count .accepted = 1 := by
    cases hl : (run c.start es).life sid <;> rw [hl] at ht
    case unborn => exact .inl ht
    case live => exact .inr ht.1
    case gone => exact ht.imp id And.left
  rcases hopen with hopen | hopen
  · rw [hopen]
    exact ⟨Nat.le_refl 0, Nat.zero_le 1⟩
  · have hs := h.counted.successes
    have hf := h.counted.failures
    rw [hopen]
    refine ⟨?_, Nat.le_refl 1⟩
    generalize d.talk = talk at hs hf
    cases talk <;> simp only [Talk.successes, Talk.failures] at hs hf <;> omega

/-- The sessions that performed an act no session performs twice are as many as such acts were performed. -/
theorem run_sessionsThat (es : List Event) {a : Act} (h : ∀ sid, ((run c.start es).acts sid).count a ≤ 1) :
    (run c.start es).sessionsThat a = Obs.tally (· == a) (run c.start es).trace := by
  rw [← Obs.sum_tally (· == a) fun sid => run_acts_fresh c es, Server.sessionsThat, Finset.card_filter]
  refine Finset.sum_congr rfl fun sid _ => ?_
  have hle := h sid
  show _ = ((run c.start es).acts sid).count a
  split
  · rename_i hm
    have := List.count_pos_iff.mpr hm
    omega
  · rename_i hm
    rw [List.count_eq_zero.mpr hm]

/-- The sessions that are there are those counted opened and not yet counted closed. -/
theorem run_liveSessions (es : List Event) :
    (run c.start es).liveSessions + Obs.tally Act.closes (run c.start es).trace =
      Obs.tally Act.opens (run c.start es).trace := by
  rw [← Obs.sum_tally Act.closes fun sid => run_acts_fresh c es, ← Obs.sum_tally Act.opens fun sid => run_acts_fresh c es,
    Server.liveSessions, Finset.card_filter, ← Finset.sum_add_distrib]
  refine Finset.sum_congr rfl fun sid _ => ?_
  have ht := (run_tallied c es sid).1
  show _ + ((run c.start es).acts sid).countP Act.closes = ((run c.start es).acts sid).countP Act.opens
  cases hs : (run c.start es).sessions sid with
  | some state =>
    rw [Server.life_of_some hs] at ht
    simp [ht.1, ht.2]
  | none =>
    simp only [Server.life, hs] at ht
    split at ht
    · rcases ht with ht | ⟨h1, h2⟩
      · simp [ht]
      · simp [h1, h2]
    · rw [show (run c.start es).acts sid = [] from ht]
      simp

/-- At no point of a run were more connections counted closed than opened. -/
theorem run_trace_causal (es : List Event) {pre post : List Obs} (h : (run c.start es).trace = pre ++ post) :
    Obs.tally Act.closes pre ≤ Obs.tally Act.opens pre := by
  have hfresh : ∀ sid, (run c.start es).nextObject ≤ sid → Obs.acts sid pre = [] := by
    intro sid hsid
    have := run_acts_fresh c es hsid
    rw [Server.acts, h, Obs.acts_append] at this
    exact (List.append_eq_nil_iff.mp this).1
  rw [← Obs.sum_tally Act.closes hfresh, ← Obs.sum_tally Act.opens hfresh]
  refine Finset.sum_le_sum fun sid _ => ?_
  refine (run_tallied c es sid).2 _ (Obs.acts sid post) ?_
  rw [Server.acts, h, Obs.acts_append]

/-- The active connections are the sessions that are there. -/
theorem run_active (es : List Event) : (run c.start es).activeClientConnections = (run c.start es).liveSessions := by
  obtain ⟨hactive, _⟩ := Accounts.open_fold fun pre post => run_trace_causal c es
  rw [← (run_inv c es).accounts] at hactive
  exact Nat.add_right_cancel (hactive.trans (run_liveSessions c es).symm)

/-- The accounts after every run:

- the active connections are the sessions that are there, and the connections ever counted are the sessions ever registered;
- each session is counted as a success or as a failure at most once and never as both, as a success in the event in which it
  enters `RELAY` and in no other;
- as long as less than 2^64 sessions were registered, the concurrent connections are the sessions that are there too, and neither
  they nor the successes and failures together exceed the connections ever counted. -/
theorem connections_counted (es : List Event) :
    (run c.start es).activeClientConnections = (run c.start es).liveSessions ∧
    (run c.start es).metrics.historicalConnections = UInt64.ofNat ((run c.start es).sessionsThat .accepted) ∧
    (run c.start es).metrics.successfulConnections = UInt64.ofNat ((run c.start es).sessionsThat .succeeded) ∧
    (run c.start es).metrics.failedConnections = UInt64.ofNat ((run c.start es).sessionsThat .failed) ∧
    (∀ sid, ((run c.start es).acts sid).count .succeeded + ((run c.start es).acts sid).count .failed ≤ 1) ∧
    (∀ e sid, .succeeded ∈ (run c.start es).doing e sid ↔
      ¬(run c.start es).Relays sid ∧ (run c.start (es ++ [e])).Relays sid) ∧
    ((run c.start es).sessionsThat .accepted < 2 ^ 64 →
      (run c.start es).metrics.concurrentConnections.toNat = (run c.start es).liveSessions ∧
      (run c.start es).metrics.concurrentConnections ≤ (run c.start es).metrics.historicalConnections ∧
      (run c.start es).metrics.successfulConnections.toNat + (run c.start es).metrics.failedConnections.toNat ≤
        (run c.start es).metrics.historicalConnections.toNat) := by
  have hsettled := run_settled c es
  have hacc := run_sessionsThat c es (a := .accepted) fun sid => (hsettled sid).2
  have hsucc := run_sessionsThat c es (a := .succeeded) fun sid => by have := hsettled sid; omega
  have hfail := run_sessionsThat c es (a := .failed) fun sid => by have := hsettled sid; omega
  have hlive := run_liveSessions c es
  obtain ⟨_, hconc⟩ := Accounts.open_fold fun pre post => run_trace_causal c es
  obtain ⟨h1, h2, h3⟩ := Accounts.totals_fold (run c.start es).trace .zeroed
  have hle : (run c.start es).sessionsThat .succeeded + (run c.start es).sessionsThat .failed ≤
      (run c.start es).sessionsThat .accepted := by
    rw [hacc, hsucc, hfail, ← Obs.sum_tally _ fun sid => run_acts_fresh c es, ← Obs.sum_tally _ fun sid => run_acts_fresh c es,
      ← Obs.sum_tally _ fun sid => run_acts_fresh c es, ← Finset.sum_add_distrib]
    exact Finset.sum_le_sum fun sid _ => (hsettled sid).1
  rw [← (run_inv c es).accounts] at hconc h1 h2 h3
  have htotals : (run c.start es).metrics.historicalConnections = UInt64.ofNat ((run c.start es).sessionsThat .accepted) ∧
      (run c.start es).metrics.successfulConnections = UInt64.ofNat ((run c.start es).sessionsThat .succeeded) ∧
      (run c.start es).metrics.failedConnections = UInt64.ofNat ((run c.start es).sessionsThat .failed) := by
    rw [hacc, hsucc, hfail]
    exact ⟨h1.trans (UInt64.zero_add _), h2.trans (UInt64.zero_add _), h3.trans (UInt64.zero_add _)⟩
  obtain ⟨hh, hs, hf⟩ := htotals
  refine ⟨run_active c es, hh, hs, hf, fun sid => ?_, fun e sid => run_enters_relay c es e sid,
    fun hlt => ?_⟩
  · have := hsettled sid
    omega
  · have hopens : Obs.tally Act.opens (run c.start es).trace = (run c.start es).sessionsThat .accepted := hacc.symm
    have hc := hconc (by rw [hopens]; exact hlt)
    have hc' : (run c.start es).metrics.concurrentConnections.toNat = (run c.start es).liveSessions :=
      Nat.add_right_cancel (hc.trans hlive.symm)
    have hsize : ∀ n, n ≤ (run c.start es).sessionsThat .accepted → (UInt64.ofNat n).toNat = n :=
      fun n hn => UInt64.toNat_ofNat_of_lt' (Nat.lt_of_le_of_lt hn hlt)
    rw [hh, hs, hf, UInt64.le_iff_toNat_le, hsize _ (Nat.le_refl _), hsize _ (by omega), hsize _ (by omega)]
    exact ⟨hc', by omega, hle⟩

end Run

end SocksProxy
