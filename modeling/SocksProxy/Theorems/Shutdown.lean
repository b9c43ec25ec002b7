import SocksProxy.Lemmas.Control
import SocksProxy.Theorems.Accounting
import SocksProxy.Theorems.Lifetimes

/-!
# The graceful shutdown

A first signal closes the listeners and lets the sessions that are there come to their ends; only a second one ends the loop
under them. Both are acted on by the main loop alone, so what is left to see is that the handlers neither touch the flags nor
register a listener, and that the count of active connections is that of the sessions.
-/

namespace SocksProxy

/-- The event is the arrival of a signal. -/
def Event.isSignal : Event → Bool
  | .signal => true
  | _ => false

/-- The shutdown has been acted on: the listeners are closed, or the main loop has been left. -/
def Server.Stopping (s : Server) : Prop := s.stoppedAccepting = true ∨ s.phase ≠ .running

/-- No slot belongs to a listener. -/
def Server.Deaf (s : Server) : Prop := ∀ fd item, s.selector.slot fd = some item → ¬item.Listens

section Steps

variable {s : Server}

/-- The flags the signals set. -/
theorem flags_step (h : Inv s) (e : Event) :
    (step s e).shutdownRequested = (s.shutdownRequested || e.isSignal) ∧
    (step s e).forceShutdown = (s.forceShutdown || e.isSignal && s.shutdownRequested) := by
  have hc := step_control h e
  have h1 : (step s e).shutdownRequested = (s.controlAfter e).shutdownRequested := congrArg Control.shutdownRequested hc
  have h2 : (step s e).forceShutdown = (s.controlAfter e).forceShutdown := congrArg Control.forceShutdown hc
  rw [h1, h2]
  cases e with
  | signal =>
    simp only [Server.controlAfter, Event.isSignal]
    split
    · rename_i hr
      simp [Server.control, hr]
    · rename_i hr
      simp [Server.control, hr]
  | notify job allocated =>
    simp only [Server.controlAfter, Event.isSignal, Bool.or_false, Bool.false_and]
    cases s.threads job with
    | notifying fd =>
      dsimp only
      split
      · exact ⟨rfl, rfl⟩
      · split <;> exact ⟨rfl, rfl⟩
    | _ => exact ⟨rfl, rfl⟩
  | notifications as =>
    simp only [Server.controlAfter, Event.isSignal, Bool.or_false, Bool.false_and]
    split <;> exact ⟨rfl, rfl⟩
  | shutdownCheck =>
    simp only [Server.controlAfter, Event.isSignal, Bool.or_false, Bool.false_and]
    split <;> exact ⟨rfl, rfl⟩
  | loopTest =>
    simp only [Server.controlAfter, Event.isSignal, Bool.or_false, Bool.false_and]
    split <;> exact ⟨rfl, rfl⟩
  | teardown =>
    simp only [Server.controlAfter, Event.isSignal, Bool.or_false, Bool.false_and]
    split <;> exact ⟨rfl, rfl⟩
  | _ => simp [Server.controlAfter, Event.isSignal, Server.control]

/-- The server never accepts again once it has stopped to. -/
theorem stoppedAccepting_step (h : Inv s) (e : Event) (hs : s.stoppedAccepting = true) : (step s e).stoppedAccepting = true := by
  have h1 : (step s e).stoppedAccepting = (s.controlAfter e).stoppedAccepting := congrArg Control.stoppedAccepting (step_control h e)
  rw [h1]
  cases e with
  | notify job allocated =>
    simp only [Server.controlAfter]
    cases s.threads job with
    | notifying fd =>
      dsimp only
      split
      · exact hs
      · split <;> exact hs
    | _ => exact hs
  | shutdownCheck =>
    simp only [Server.controlAfter]
    split
    · simp [hs]
    · exact hs
  | notifications as =>
    simp only [Server.controlAfter]
    split <;> exact hs
  | signal =>
    simp only [Server.controlAfter]
    split <;> exact hs
  | loopTest =>
    simp only [Server.controlAfter]
    split <;> exact hs
  | teardown =>
    simp only [Server.controlAfter]
    split <;> exact hs
  | _ => exact hs

/-- A shutdown acted on stays so. -/
theorem Server.Stopping.step (hs : s.Stopping) (h : Inv s) (e : Event) : (SocksProxy.step s e).Stopping := by
  rcases hs with hs | hs
  · exact .inl (stoppedAccepting_step h e hs)
  · refine .inr ?_
    rcases phase_step h e with hp | ⟨hp, _⟩ | ⟨_, _, hp⟩
    · rw [hp]
      exact hs
    · exact absurd hp hs
    · rw [hp]
      decide

/-- Once the shutdown has been acted on, no event calls an accept handler. -/
theorem Server.Stopping.not_accepts (hs : s.Stopping) (h : Inv s) (e : Event) : ¬e.Accepts s := by
  rintro ⟨fd, a, item, rfl, hp, hi, hl⟩
  rcases hs with hs | hs
  · exact h.listening.stopped hs fd item hi hl
  · exact hs hp

/-- The only step that leaves the loop without a second signal is one that finds no session. -/
theorem sessions_step_exit (h : Inv s) (hactive : s.activeClientConnections = 0 → ∀ sid, s.sessions sid = none)
    (hf : s.forceShutdown = false) (hi : s.phase ≠ .running → ∀ sid, s.sessions sid = none) {e : Event}
    (hp : (step s e).phase ≠ .running) (sid : Nat) : (step s e).sessions sid = none := by
  by_contra hs
  rcases phase_step h e with hsame | ⟨_, _, ⟨_, hforce⟩ | ⟨rfl, _, hzero⟩⟩ | ⟨rfl, hx, _⟩
  · rw [hsame] at hp
    exact (step_unjoined h e (Server.Stopping.not_accepts (.inr hp) h e)).sessions sid hs (hi hp sid)
  · rw [hf] at hforce
    cases hforce
  · have hn : ¬Event.shutdownCheck.Accepts s := by
      rintro ⟨_, _, _, he, _⟩
      cases he
    exact (step_unjoined h _ hn).sessions sid hs (hactive hzero sid)
  · have hx' : s.phase ≠ .running := by simp [hx]
    exact (step_unjoined h _ (Server.Stopping.not_accepts (.inr hx') h _)).sessions sid hs (hi hx' sid)

/-- The slots of the listeners are gone once the selector is. -/
theorem deaf_step_destroyed (h : Inv s) (hi : s.phase = .destroyed → s.Deaf) {e : Event} (hp : (step s e).phase = .destroyed) :
    (step s e).Deaf := by
  intro fd item hslot hl
  rcases phase_step h e with hsame | ⟨_, hx, _⟩ | ⟨rfl, hx, _⟩
  · rw [hsame] at hp
    have hn := Server.Stopping.not_accepts (.inr (by simp [hp])) h e
    exact hi hp fd item ((step_unjoined h e hn).listens fd item hslot hl) hl
  · rw [hp] at hx
    cases hx
  · obtain ⟨s1, _, _, hno, heq⟩ := teardown_undisturbed h (by simp [hx])
    simp only [step, if_pos hx, heq] at hslot
    have hslot' : s1.selector.slot fd = some item := hslot
    rw [hno] at hslot'
    cases hslot'

end Steps

section Run

variable (c : Config)

/-- What the flags tell about the signals that have arrived. -/
theorem run_flags (es : List Event) :
    (es.countP Event.isSignal = 0 → (run c.start es).shutdownRequested = false) ∧
    (es.countP Event.isSignal ≤ 1 → (run c.start es).forceShutdown = false) := by
  induction es using List.reverseRecOn with
  | nil => exact ⟨fun _ => rfl, fun _ => rfl⟩
  | append_singleton es e ih =>
    obtain ⟨h1, h2⟩ := flags_step (run_inv c es) e
    rw [run_append, h1, h2, List.countP_append, List.countP_singleton]
    cases he : e.isSignal with
    | false =>
      rw [Bool.or_false, Bool.false_and, Bool.or_false]
      exact ih
    | true =>
      refine ⟨fun hzero => ?_, fun hle => ?_⟩
      · simp at hzero
      · have hzero : es.countP Event.isSignal = 0 := by simpa using hle
        rw [ih.1 hzero, ih.2 (by omega)]
        rfl

/-- No session is there when no connection is active. -/
theorem run_inactive (es : List Event) (h : (run c.start es).activeClientConnections = 0) (sid : Nat) :
    (run c.start es).sessions sid = none := by
  rw [run_active, Server.liveSessions, Finset.card_eq_zero] at h
  rcases Nat.lt_or_ge sid (run c.start es).nextObject with hlt | hge
  · by_contra hs
    have hm : sid ∈ (Finset.range (run c.start es).nextObject).filter fun sid => ((run c.start es).sessions sid).isSome :=
      Finset.mem_filter.mpr ⟨Finset.mem_range.mpr hlt, Option.isSome_iff_ne_none.mpr hs⟩
    rw [h] at hm
    exact absurd hm (Finset.notMem_empty sid)
  · exact ((run_inv c es).own.fresh sid hge).1

/-- Until a second signal arrives, the loop is left with no session. -/
theorem run_exits_idle (es : List Event) (hle : es.countP Event.isSignal ≤ 1) (hp : (run c.start es).phase ≠ .running) (sid : Nat) :
    (run c.start es).sessions sid = none := by
  induction es using List.reverseRecOn generalizing sid with
  | nil => exact absurd rfl hp
  | append_singleton es e ih =>
    rw [List.countP_append] at hle
    rw [run_append] at hp ⊢
    exact sessions_step_exit (run_inv c es) (run_inactive c es) ((run_flags c es).2 (by omega))
      (fun hp' sid' => ih (by omega) hp' sid') hp sid

/-- Once the shutdown has been acted on, nobody comes any more. -/
theorem run_stopping {pre : List Event} (hs : (run c.start pre).Stopping) (post : List Event) :
    (run c.start (pre ++ post)).Stopping ∧ Unjoined (run c.start pre) (run c.start (pre ++ post)) := by
  induction post using List.reverseRecOn with
  | nil =>
    rw [List.append_nil]
    exact ⟨hs, .refl _⟩
  | append_singleton post e ih =>
    have h := run_inv c (pre ++ post)
    rw [← List.append_assoc, run_append]
    exact ⟨ih.1.step h e, ih.2.trans (step_unjoined h e (ih.1.not_accepts h e))⟩

/-- Nobody listens once the listeners are closed. -/
theorem run_deaf (es : List Event) (hs : (run c.start es).stoppedAccepting = true ∨ (run c.start es).phase = .destroyed) :
    (run c.start es).Deaf := by
  rcases hs with hs | hs
  · exact (run_inv c es).listening.stopped hs
  · induction es using List.reverseRecOn with
    | nil => cases hs
    | append_singleton es e ih =>
      rw [run_append] at hs ⊢
      exact deaf_step_destroyed (run_inv c es) ih hs

/-- The files of the two listeners, and that nobody else holds a file at the start. -/
theorem Config.listener_of_holds {file : Nat} {owner : Option FdHandler × Option Nat} (h : c.start.Holds file owner) :
    owner = (some .acceptHandler, none) ∨ owner = (some .managementAcceptHandler, none) := by
  obtain ⟨fd, f, item, _, _, hi, rfl⟩ := h
  rw [c.slot_start] at hi
  split at hi
  · cases hi
    exact .inr rfl
  · split at hi
    · cases hi
      exact .inl rfl
    · cases hi

/-- The owner of a listener's file has a listener's slot. -/
theorem Item.listens_of_owner {item : Item FdHandler Nat}
    (h : item.owner = (some .acceptHandler, none) ∨ item.owner = (some .managementAcceptHandler, none)) : item.Listens := by
  unfold Item.owner at h
  by_cases ht : item.handler = some .targetHandler
  · simp [ht] at h
  · rw [if_neg ht] at h
    rcases h with h | h
    · exact .inl (congrArg Prod.fst h)
    · exact .inr (congrArg Prod.fst h)

/-- When nobody listens, the files that stood for the listeners have been closed, each exactly once. -/
theorem Config.Visits.closed {c : Config} {es : List Event} {s : Server} (hv : c.Visits es s) (hd : s.Deaf) {fd : Int} {f : OpenFile}
    (hf : c.start.files fd = some f) : Obs.closings f.serial s.trace = 1 := by
  obtain ⟨own, hcus⟩ := hv.own
  have hcus : Custody c.start s := (run_custody c [] es).trans hcus
  have hlt := c.own_start.ledger.below fd f hf
  refine (own.closed_or_held (Nat.lt_of_lt_of_le hlt hcus.nextFile)).resolve_right ?_
  rintro ⟨_, owner, hown, _⟩
  have hown' := c.listener_of_holds (hcus.holds f.serial owner hlt hown)
  obtain ⟨fd', _, item, _, _, hi, rfl⟩ := hown
  exact hd fd' item hi (Item.listens_of_owner hown')

/-- The shutdown in every run:

- as long as at most one signal has arrived, the loop is left only when no session is there, and none is there after;
- once the shutdown has been acted on, no event calls an accept handler, and whoever is there was there when it was;
- both listeners are registered until the server stops accepting; from then on, and after every exit from the loop as soon as the
  destruction of the selector begins, no slot is a listener's, and each of the two files has been closed exactly once. -/
theorem graceful_shutdown (es : List Event) :
    (es.countP Event.isSignal ≤ 1 → (run c.start es).phase ≠ .running → ∀ sid, (run c.start es).sessions sid = none) ∧
    (∀ pre post, es = pre ++ post → (run c.start pre).Stopping →
      (∀ e : Event, ¬e.Accepts (run c.start es)) ∧ Unjoined (run c.start pre) (run c.start es)) ∧
    ((run c.start es).stoppedAccepting = false → (run c.start es).phase ≠ .destroyed →
      (run c.start es).Registered (run c.start es).serverFd .acceptHandler none ∧
      (run c.start es).Registered (run c.start es).managementFd .managementAcceptHandler none) ∧
    ∀ s, (s = run c.start es ∧ (s.stoppedAccepting = true ∨ s.phase = .destroyed) ∨
        ∃ turns, (run c.start es).phase = .exited ∧ s = destroyUntil (run c.start es) turns) →
      s.Deaf ∧ ∀ fd, fd = c.serverFd ∨ fd = c.managementFd →
        ∃ f, c.start.files fd = some f ∧ Obs.closings f.serial s.trace = 1 := by
  have hi := run_inv c es
  refine ⟨run_exits_idle c es, ?_, hi.listening.registered, fun s hs => ?_⟩
  · rintro pre post rfl hs
    obtain ⟨h1, h2⟩ := run_stopping c hs post
    exact ⟨h1.not_accepts hi, h2⟩
  · have hvd : c.Visits es s ∧ s.Deaf := by
      rcases hs with ⟨rfl, hs⟩ | ⟨turns, hp, rfl⟩
      · exact ⟨.between, run_deaf c es hs⟩
      · exact ⟨.destroying turns hp, (destroyUntil_ending hi (by simp [hp]) turns).1.silent⟩
    refine ⟨hvd.2, fun fd hfd => ?_⟩
    have hopen := c.own_start.opened fd
    rw [c.slot_start] at hopen
    have hsome : (c.start.files fd).isSome = true := by
      rw [hopen]
      rcases hfd with rfl | rfl
      · rw [if_neg c.distinct, if_pos rfl]
        rfl
      · rw [if_pos rfl]
        rfl
    obtain ⟨f, hf⟩ := Option.isSome_iff_exists.mp hsome
    exact ⟨f, hf, hvd.1.closed hvd.2 hf⟩

end Run

end SocksProxy
