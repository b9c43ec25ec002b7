import SocksProxy.Lemmas.Consistent
import SocksProxy.Library.Traces

/-!
# The state of the selector

Whatever is done to a selector of the server's capacity, its slots, its two descriptor sets and `max_fd` agree.
-/

namespace SocksProxy

variable {H D : Type}

/-- A selector by itself is a state that holds a selector. -/
instance : SelectorWorld (FdSelector H D) H D where
  selector := id
  setSelector := fun sel _ => sel
  selector_setSelector := fun _ _ => rfl

/-- An operation on a selector. The callback of an unregistration may unregister other descriptors, whose own callbacks unregister
nothing. -/
inductive SelectorOp (H D : Type) where
  | register (fd : Int) (handler : Option H) (interest : FdInterest) (data : Option D) (alloc : Bool)
  | setInterest (fd : Int) (interest : FdInterest)
  | unregister (fd : Int) (others : List Int) (apart : fd ∉ others)

/-- The callback of an unregistration, as far as the selector is concerned: other descriptors are unregistered. -/
def unregisterOthers (others : List Int) (s : FdSelector H D) : FdSelector H D :=
  others.foldl (fun s other => (selectorUnregisterFd (fun _ _ s => s) s other).1) s

namespace SelectorOp

/-- What an operation does to a selector, and the status it returns. -/
def apply (s : FdSelector H D) : SelectorOp H D → FdSelector H D × SelectorStatus
  | .register fd handler interest data alloc => s.selectorRegister fd handler interest data alloc
  | .setInterest fd interest => s.selectorSetInterest fd interest
  | .unregister fd others _ => selectorUnregisterFd (fun _ _ s => unregisterOthers others s) s fd

/-- The selector after some operations, from `selector_new(1024)`. -/
def run (ops : List (SelectorOp H D)) : FdSelector H D :=
  ops.foldl (fun s op => (op.apply s).1) (FdSelector.selectorNew 1024 true).1

end SelectorOp

namespace FdSelector.Consistent

variable {s : FdSelector H D}

/-- The callback of an unregistration keeps the selector consistent. -/
theorem unregisterOthers (h : s.Consistent) (others : List Int) : (SocksProxy.unregisterOthers others s).Consistent := by
  induction others generalizing s with
  | nil => exact h
  | cons other others ih =>
    refine ih (selectorUnregisterFd (σ := FdSelector H D) (w := s) h fun _ _ w hw => ?_).1
    cases hw
    exact h

/-- Every operation keeps the selector consistent, and changes nothing when it fails. -/
theorem apply (h : s.Consistent) (op : SelectorOp H D) :
    (op.apply s).1.Consistent ∧ ((op.apply s).2 ≠ .success → (op.apply s).1 = s) := by
  cases op with
  | register fd handler interest data alloc => exact h.selectorRegister fd handler interest data alloc
  | setInterest fd interest => exact h.selectorSetInterest fd interest
  | unregister fd others apart =>
    refine selectorUnregisterFd (σ := FdSelector H D) (w := s) h fun _ _ w hw => ?_
    cases hw
    exact h.unregisterOthers others

end FdSelector.Consistent

/-- A selector of the server's capacity is consistent after every sequence of operations. -/
theorem SelectorOp.run_consistent (ops : List (SelectorOp H D)) : (SelectorOp.run ops).Consistent := by
  have hstep : ∀ (s : FdSelector H D) (op : SelectorOp H D), s.Consistent → (op.apply s).1.Consistent :=
    fun _ op h => (h.apply op).1
  exact Traces.foldl_invariant FdSelector.Consistent.selectorNew hstep ops

/-- In every state reached from `selector_new(1024)`:

- each slot is unused or at its own index;
- a descriptor is in a set if and only if it is the index of a slot in use with the interest;
- `max_fd` is the largest index of a slot in use, and zero if there is none;
- no access fell outside the table;
- and an operation that fails leaves everything as it is. -/
theorem selector_consistent (ops : List (SelectorOp H D)) :
    (∀ i, i < (SelectorOp.run ops).fdSize → ((SelectorOp.run ops).fds i).fd = -1 ∨ ((SelectorOp.run ops).fds i).fd = i) ∧
    (∀ fd, (SelectorOp.run ops).masterR fd = true ↔ ∃ i < (SelectorOp.run ops).fdSize, fd = i ∧
      ((SelectorOp.run ops).fds i).used = true ∧ ((SelectorOp.run ops).fds i).interest.read = true) ∧
    (∀ fd, (SelectorOp.run ops).masterW fd = true ↔ ∃ i < (SelectorOp.run ops).fdSize, fd = i ∧
      ((SelectorOp.run ops).fds i).used = true ∧ ((SelectorOp.run ops).fds i).interest.write = true) ∧
    ((∃ i < (SelectorOp.run ops).fdSize, ((SelectorOp.run ops).fds i).used = true) →
      ∃ i < (SelectorOp.run ops).fdSize, (SelectorOp.run ops).maxFd = i ∧ ((SelectorOp.run ops).fds i).used = true ∧
        ∀ j < (SelectorOp.run ops).fdSize, ((SelectorOp.run ops).fds j).used = true → j ≤ i) ∧
    ((∀ i < (SelectorOp.run ops).fdSize, ((SelectorOp.run ops).fds i).used = false) → (SelectorOp.run ops).maxFd = 0) ∧
    (SelectorOp.run ops).wild = false ∧
    ∀ op : SelectorOp H D, (op.apply (SelectorOp.run ops)).2 ≠ .success →
      (op.apply (SelectorOp.run ops)).1 = SelectorOp.run ops := by
  have h : (SelectorOp.run ops).Consistent := SelectorOp.run_consistent ops
  generalize SelectorOp.run ops = s at h ⊢
  refine ⟨h.indexed, fun fd => ?_, fun fd => ?_, fun hex => ?_, fun hno => ?_, h.tame, fun op => (h.apply op).2⟩
  · rw [h.readable, Option.any_eq_true, h.exists_slot_iff]
  · rw [h.writable, Option.any_eq_true, h.exists_slot_iff]
  · -- the slot in use shows that `max_fd` is not zero for want of any, and its own slot is the largest
    obtain ⟨i, hi, hu⟩ := hex
    have htop : (s.slot s.maxFd).isSome = true := by
      refine h.largest.elim (fun h0 => ?_) id
      have hs := (h.slot_of_used hi hu).2
      have := h.above _ _ hs
      rw [h0, show (0 : Int) = (i : Int) by omega, hs]
      rfl
    obtain ⟨item, hs⟩ := Option.isSome_iff_exists.mp htop
    obtain ⟨j, hj, hmax, hu', _⟩ := h.exists_slot_iff.mp ⟨item, hs, rfl⟩
    refine ⟨j, hj, hmax, hu', fun k hk huk => ?_⟩
    have := h.above _ _ (h.slot_of_used hk huk).2
    omega
  · refine h.largest.resolve_right fun hl => ?_
    obtain ⟨item, hs⟩ := Option.isSome_iff_exists.mp hl
    obtain ⟨j, hj, _, hu, _⟩ := h.exists_slot_iff.mp ⟨item, hs, rfl⟩
    rw [hno j hj] at hu
    cases hu

end SocksProxy
