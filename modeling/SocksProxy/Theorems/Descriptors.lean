import SocksProxy.Theorems.Accounting
import SocksProxy.Theorems.ManagementExchange
import SocksProxy.Theorems.Shutdown
import Mathlib.Combinatorics.Enumerative.DoubleCounting

/-!
# The descriptors in use

Every descriptor that is open between two events is accounted for: it is that of the client of one session, of the target that one
session has, of one management connection, or of a listener that still stands. None of them is ever left behind.
-/

namespace SocksProxy

namespace Server

/-- How many descriptors are open, of those below `ITEMS_MAX_SIZE`. -/
def openDescriptors (s : Server) : Nat := ((Finset.range itemsMaxSize).filter fun n : Nat => (s.files n).isSome).card

/-- The slots with this handler. -/
def slotsOf (s : Server) (handler : FdHandler) : Finset Nat :=
  (Finset.range itemsMaxSize).filter fun n : Nat => (s.selector.slot n).bind (·.handler) = some handler

/-- The sessions that are there. -/
def sessionSet (s : Server) : Finset Nat := (Finset.range s.nextObject).filter fun sid => (s.sessions sid).isSome

/-- The sessions that have a target descriptor. -/
def targetSet (s : Server) : Finset Nat := (Finset.range s.nextObject).filter fun sid => (s.sessions sid).any (·.targetFd != -1)

/-- The management connections that are there. -/
def managementSet (s : Server) : Finset Nat := (Finset.range s.nextObject).filter fun mid => (s.managements mid).isSome

/-- How many listeners still stand. -/
def listeners (s : Server) : Nat := if s.stoppedAccepting || s.phase == .destroyed then 0 else 2

end Server

/-- Two sets that a relation pairs, one to one, have as many elements. -/
theorem card_eq_of_pairing {α β : Type} {S : Finset α} {T : Finset β} (R : α → β → Prop) (hleft : ∀ a ∈ S, ∃ b ∈ T, R a b)
    (hright : ∀ b ∈ T, ∃ a ∈ S, R a b) (hone : ∀ a a' b, R a b → R a' b → a = a') (hfun : ∀ a b b', R a b → R a b' → b = b') :
    S.card = T.card := by
  refine Nat.le_antisymm ?_ ?_
  · exact Finset.card_le_card_of_forall_subsingleton R hleft fun b _ a ha a' ha' => hone a a' b ha.2 ha'.2
  · exact Finset.card_le_card_of_forall_subsingleton' R hright fun a _ b hb b' hb' => hfun a b b' hb.2 hb'.2

section Counting

variable {s : Server} {handler : FdHandler}

/-- The slots with a handler, by their registration. -/
theorem Server.mem_slotsOf {n : Nat} : n ∈ s.slotsOf handler ↔ n < itemsMaxSize ∧ ∃ data, s.Registered n handler data := by
  rw [Server.slotsOf, Finset.mem_filter, Finset.mem_range]
  refine and_congr_right fun _ => ⟨fun h => ?_, ?_⟩
  · obtain ⟨item, hi, hh⟩ := Option.bind_eq_some_iff.mp h
    exact ⟨item.data, item, hi, hh, rfl⟩
  · rintro ⟨_, item, hi, hh, _⟩
    exact Option.bind_eq_some_iff.mpr ⟨item, hi, hh⟩

/-- A registered descriptor is one of the slots with its handler. -/
theorem Server.Registered.mem {fd : Int} {data : Option Nat} (h : s.Registered fd handler data) :
    fd.toNat ∈ s.slotsOf handler ∧ (fd.toNat : Int) = fd := by
  obtain ⟨item, hi, hh, hd⟩ := h
  have hv := invalidFd_eq_false_iff.mp (FdSelector.valid_of_slot hi)
  have hfd : (fd.toNat : Int) = fd := Int.toNat_of_nonneg hv.1
  refine ⟨Server.mem_slotsOf.mpr ⟨?_, data, item, ?_, hh, hd⟩, hfd⟩
  · show fd.toNat < 1024
    omega
  · rw [hfd]
    exact hi

/-- Where every slot with a handler has an owner, every owner has such a slot, and no two slots one owner, there are as many slots
with the handler as there are owners. -/
theorem Server.card_slotsOf {owners : Finset Nat}
    (howned : ∀ fd data, s.Registered fd handler data → ∃ o ∈ owners, data = some o)
    (hone : ∀ o fd fd', s.Registered fd handler (some o) → s.Registered fd' handler (some o) → fd = fd')
    (hall : ∀ o ∈ owners, ∃ fd, s.Registered fd handler (some o)) : (s.slotsOf handler).card = owners.card := by
  refine card_eq_of_pairing (fun n o => s.Registered (n : Int) handler (some o)) (fun n hn => ?_) (fun o ho => ?_)
    (fun n n' o hn hn' => Int.ofNat.inj (hone o _ _ hn hn')) (fun n o o' ho ho' => ?_)
  · obtain ⟨_, data, hr⟩ := Server.mem_slotsOf.mp hn
    obtain ⟨o, ho, rfl⟩ := howned _ _ hr
    exact ⟨o, ho, hr⟩
  · obtain ⟨fd, hr⟩ := hall o ho
    obtain ⟨hm, hfd⟩ := hr.mem
    refine ⟨fd.toNat, hm, ?_⟩
    rw [hfd]
    exact hr
  · obtain ⟨item, hi, _, hd⟩ := ho
    obtain ⟨item', hi', _, hd'⟩ := ho'
    rw [hi] at hi'
    cases hi'
    exact Option.some.inj (hd.symm.trans hd')

/-- The open descriptors are the slots of the five handlers. -/
theorem Own.openDescriptors_eq (own : Own s) :
    s.openDescriptors = (s.slotsOf .clientHandler).card + (s.slotsOf .targetHandler).card +
      (s.slotsOf .managementClientHandler).card + ((s.slotsOf .acceptHandler).card + (s.slotsOf .managementAcceptHandler).card) := by
  have hto : Set.MapsTo (fun n : Nat => (s.selector.slot n).bind (·.handler))
      ((Finset.range itemsMaxSize).filter fun n : Nat => (s.files n).isSome)
      (([some .clientHandler, some .targetHandler, some .managementClientHandler, some .acceptHandler,
        some .managementAcceptHandler] : List (Option FdHandler)).toFinset) := by
    intro n hn
    have hopen := (Finset.mem_filter.mp hn).2
    rw [own.opened] at hopen
    obtain ⟨item, hi⟩ := Option.isSome_iff_exists.mp hopen
    have howned := own.owned n item hi
    unfold Server.SlotOwned at howned
    dsimp only
    rw [hi, Option.bind_some]
    cases hh : item.handler with
    | none =>
      rw [hh] at howned
      exact howned.elim
    | some handler => cases handler <;> decide
  have hfiber : ∀ handler, ((Finset.range itemsMaxSize).filter fun n : Nat => (s.files n).isSome).filter
      (fun n : Nat => (s.selector.slot n).bind (·.handler) = some handler) = s.slotsOf handler := by
    intro handler
    rw [Finset.filter_filter, Server.slotsOf]
    refine Finset.filter_congr fun n _ => ⟨fun h => h.2, fun h => ⟨?_, h⟩⟩
    obtain ⟨item, hi, -⟩ := Option.bind_eq_some_iff.mp h
    rw [own.opened, hi]
    rfl
  rw [Server.openDescriptors, Finset.card_eq_sum_card_fiberwise hto, List.sum_toFinset _ (by decide)]
  simp only [List.map_cons, List.map_nil, List.sum_cons, List.sum_nil, hfiber]
  omega

/-- What is there has a number below the next one. -/
theorem Own.born (own : Own s) {o : Nat} (h : s.sessions o ≠ none ∨ s.managements o ≠ none) : o < s.nextObject := by
  by_contra hge
  obtain ⟨hs, hm⟩ := own.fresh o (Nat.le_of_not_lt hge)
  exact h.elim (fun h => h hs) fun h => h hm

/-- One client slot for each session. -/
theorem Own.card_clients (own : Own s) : (s.slotsOf .clientHandler).card = s.sessionSet.card := by
  have hslot : ∀ fd data, s.Registered fd .clientHandler data →
      ∃ sid state, s.sessions sid = some state ∧ state.clientFd = fd ∧ data = some sid := by
    rintro fd _ ⟨item, hi, hh, rfl⟩
    obtain ⟨sid, v, hl, hfd, hd, -⟩ := own.clientSlot hi hh
    exact ⟨sid, v.state, (Server.sessions_of_life hl).1, hfd, hd⟩
  refine Server.card_slotsOf (fun fd data hr => ?_) (fun sid fd fd' hr hr' => ?_) fun sid hsid => ?_
  · obtain ⟨sid, state, hs, -, rfl⟩ := hslot fd data hr
    have hlt := own.born (.inl (Option.ne_none_iff_exists'.mpr ⟨state, hs⟩))
    exact ⟨sid, Finset.mem_filter.mpr ⟨Finset.mem_range.mpr hlt, by rw [hs]; rfl⟩, rfl⟩
  · obtain ⟨_, state, hs, hfd, hd⟩ := hslot fd _ hr
    obtain ⟨_, state', hs', hfd', hd'⟩ := hslot fd' _ hr'
    cases hd
    cases hd'
    rw [hs] at hs'
    cases hs'
    exact hfd.symm.trans hfd'
  · obtain ⟨state, hs⟩ := Option.isSome_iff_exists.mp (Finset.mem_filter.mp hsid).2
    exact ⟨state.clientFd, own.client sid state hs⟩

/-- One target slot for each session that has a target. -/
theorem Own.card_targets (own : Own s) : (s.slotsOf .targetHandler).card = s.targetSet.card := by
  have hslot : ∀ fd data, s.Registered fd .targetHandler data →
      ∃ sid state, s.sessions sid = some state ∧ state.targetFd = fd ∧ fd ≠ -1 ∧ data = some sid := by
    rintro fd _ ⟨item, hi, hh, rfl⟩
    obtain ⟨sid, v, hl, hfd, hd, -⟩ := own.targetSlot hi hh
    exact ⟨sid, v.state, (Server.sessions_of_life hl).1, hfd, ne_neg_one_of_slot hi, hd⟩
  refine Server.card_slotsOf (fun fd data hr => ?_) (fun sid fd fd' hr hr' => ?_) fun sid hsid => ?_
  · obtain ⟨sid, state, hs, hfd, hne, rfl⟩ := hslot fd data hr
    have hlt := own.born (.inl (Option.ne_none_iff_exists'.mpr ⟨state, hs⟩))
    refine ⟨sid, Finset.mem_filter.mpr ⟨Finset.mem_range.mpr hlt, ?_⟩, rfl⟩
    rw [hs, Option.any_some, hfd]
    exact bne_iff_ne.mpr hne
  · obtain ⟨_, state, hs, hfd, -, hd⟩ := hslot fd _ hr
    obtain ⟨_, state', hs', hfd', -, hd'⟩ := hslot fd' _ hr'
    cases hd
    cases hd'
    rw [hs] at hs'
    cases hs'
    exact hfd.symm.trans hfd'
  · obtain ⟨state, hs, hne⟩ := (Option.any_eq_true _ _).mp (Finset.mem_filter.mp hsid).2
    exact ⟨state.targetFd, own.target sid state hs (bne_iff_ne.mp hne)⟩

/-- One slot for each management connection, where each that is there has a slot. -/
theorem Own.card_managements (own : Own s) (hall : ∀ mid state, s.managements mid = some state →
    ∃ fd, s.Registered fd .managementClientHandler (some mid)) :
    (s.slotsOf .managementClientHandler).card = s.managementSet.card := by
  refine Server.card_slotsOf (fun fd data hr => ?_) own.management fun mid hmid => ?_
  · obtain ⟨item, hi, hh, rfl⟩ := hr
    obtain ⟨mid, hm⟩ := own.managementSlot hi hh
    obtain ⟨state, hst⟩ := hm.state
    refine ⟨mid, Finset.mem_filter.mpr ⟨Finset.mem_range.mpr (hm.born own), ?_⟩, hm.data⟩
    rw [hst]
    rfl
  · obtain ⟨state, hst⟩ := Option.isSome_iff_exists.mp (Finset.mem_filter.mp hmid).2
    exact hall mid state hst

/-- One slot for a handler that is registered under one descriptor only. -/
theorem Server.card_slotsOf_one {fd : Int} {data : Option Nat} (hr : s.Registered fd handler data)
    (honly : ∀ fd' data', s.Registered fd' handler data' → fd' = fd) : (s.slotsOf handler).card = 1 := by
  refine Finset.card_eq_one.mpr ⟨fd.toNat, Finset.ext fun n => ?_⟩
  rw [Finset.mem_singleton]
  refine ⟨fun hn => ?_, ?_⟩
  · obtain ⟨_, data', hr'⟩ := Server.mem_slotsOf.mp hn
    rw [← honly _ _ hr', Int.toNat_natCast]
  · rintro rfl
    exact hr.mem.1

/-- No slot for a handler that is not registered. -/
theorem Server.card_slotsOf_zero (hno : ∀ fd data, ¬s.Registered fd handler data) : (s.slotsOf handler).card = 0 := by
  refine Finset.card_eq_zero.mpr (Finset.eq_empty_of_forall_notMem fun n hn => ?_)
  obtain ⟨_, data, hr⟩ := Server.mem_slotsOf.mp hn
  exact hno _ _ hr

/-- Two slots for the listeners as long as they stand, and none after. -/
theorem Inv.card_listeners (h : Inv s) (hdeaf : s.phase = .destroyed → s.Deaf) :
    (s.slotsOf .acceptHandler).card + (s.slotsOf .managementAcceptHandler).card = s.listeners := by
  have howned : ∀ fd data, s.Registered fd .acceptHandler data → fd = s.serverFd := by
    rintro fd _ ⟨item, hi, hh, rfl⟩
    have ho := h.own.owned fd item hi
    unfold Server.SlotOwned at ho
    rw [hh] at ho
    exact ho
  have howned' : ∀ fd data, s.Registered fd .managementAcceptHandler data → fd = s.managementFd := by
    rintro fd _ ⟨item, hi, hh, rfl⟩
    have ho := h.own.owned fd item hi
    unfold Server.SlotOwned at ho
    rw [hh] at ho
    exact ho
  unfold Server.listeners
  split
  · rename_i hs
    have hd : s.Deaf := by
      rw [Bool.or_eq_true, beq_iff_eq] at hs
      exact hs.elim h.listening.stopped hdeaf
    have hno : ∀ fd data, ¬s.Registered fd .acceptHandler data := by
      rintro fd data ⟨item, hi, hh, -⟩
      exact hd fd item hi (.inl hh)
    have hno' : ∀ fd data, ¬s.Registered fd .managementAcceptHandler data := by
      rintro fd data ⟨item, hi, hh, -⟩
      exact hd fd item hi (.inr hh)
    rw [Server.card_slotsOf_zero hno, Server.card_slotsOf_zero hno']
  · rename_i hs
    rw [Bool.or_eq_true, beq_iff_eq, not_or] at hs
    obtain ⟨hr, hr'⟩ := h.listening.registered (Bool.eq_false_iff.mpr hs.1) hs.2
    rw [Server.card_slotsOf_one hr howned, Server.card_slotsOf_one hr' howned']

end Counting

/-- The descriptors after every run. Each that is open is below `ITEMS_MAX_SIZE`, and there are exactly as many as there are sessions,
sessions with a target, management connections and listeners that stand, taken together: nothing that is gone leaves a descriptor
open, nothing that is there is without one, and together they are never more than the table holds. -/
theorem descriptors_accounted (c : Config) (es : List Event) :
    (∀ fd, ((run c.start es).files fd).isSome = true → 0 ≤ fd ∧ fd < itemsMaxSize) ∧
    (run c.start es).openDescriptors = (run c.start es).liveSessions + (run c.start es).targetSet.card +
      (run c.start es).managementSet.card + (run c.start es).listeners ∧
    (run c.start es).openDescriptors ≤ itemsMaxSize := by
  have h := run_inv c es
  refine ⟨fun fd hopen => ?_, ?_, ?_⟩
  · rw [h.own.opened] at hopen
    obtain ⟨item, hi⟩ := Option.isSome_iff_exists.mp hopen
    exact invalidFd_eq_false_iff.mp (FdSelector.valid_of_slot hi)
  · have hmanaged : ∀ mid state, (run c.start es).managements mid = some state →
        ∃ fd, (run c.start es).Registered fd .managementClientHandler (some mid) := by
      intro mid state hst
      obtain ⟨fd, item, hi, hh, hd, -⟩ := (@run_exchanged c mid es).attended state hst
      exact ⟨fd, item, hi, hh, hd⟩
    rw [h.own.openDescriptors_eq, h.own.card_clients, h.own.card_targets, h.own.card_managements hmanaged,
      h.card_listeners fun hp => run_deaf c es (.inr hp)]
    rfl
  · refine (Finset.card_filter_le _ _).trans ?_
    rw [Finset.card_range]

end SocksProxy
