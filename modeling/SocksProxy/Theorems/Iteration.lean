import SocksProxy.Lemmas.Control
import SocksProxy.Runs

/-!
# Iterations of the selector

`handle_iteration` walks the slots with the ready sets of one call of `pselect`, while the handlers it calls unregister
descriptors and register others. A call is for the registration that was found ready only if no handler has stored a new one in a
slot whose ready bit is still to be looked at: the sets are not brought up to date. With handlers that may register any number the
kernel has free, an iteration is safe exactly if none of those numbers has such a bit.

An iteration of the server is a sequence of the events of its runs.
-/

namespace SocksProxy

section Watching

variable {σ H D : Type} [SelectorWorld σ H D]

/-- A call of a handler: the descriptor of its key, whether it is the write handler, and the state it is called in. -/
structure Call (σ : Type) where
  fd : Int
  write : Bool
  world : σ

/-- A state with the calls made so far. -/
structure Watched (σ : Type) where
  world : σ
  calls : List (Call σ)

instance : SelectorWorld (Watched σ) H D where
  selector := fun w => SelectorWorld.selector w.world
  setSelector := fun s w => { w with world := SelectorWorld.setSelector s w.world }
  selector_setSelector := fun s w => SelectorWorld.selector_setSelector s w.world

/-- A handler whose calls are noted. -/
def watch (write : Bool) (f : Option H → SelectorKey D → σ → σ) (handler : Option H) (key : SelectorKey D) (w : Watched σ) :
    Watched σ :=
  ⟨f handler key w.world, w.calls ++ [⟨key.fd, write, w.world⟩]⟩

section Calls

variable (hr hw : Option H → SelectorKey D → σ → σ) (slaveR slaveW : Int → Bool)

/-- The calls `handle_iteration` makes, in order. -/
def iterationCalls (w : σ) : List (Call σ) :=
  (handleIteration (watch false hr) (watch true hw) slaveR slaveW (⟨w, []⟩ : Watched σ)).calls

/-- The state after so many turns of the loop. -/
def walk (w : σ) (n : Nat) : σ := (List.range n).foldl (visitSlot hr hw slaveR slaveW) w

/-- The state in which a turn decides on the write handler. -/
def afterRead (w : σ) (i : Nat) : σ :=
  if slaveR ((SelectorWorld.selector w).fds i).fd && ((SelectorWorld.selector w).fds i).interest.read then
    hr ((SelectorWorld.selector w).fds i).handler
      { fd := ((SelectorWorld.selector w).fds i).fd, data := ((SelectorWorld.selector w).fds i).data } w
  else w

/-- The calls of one turn. -/
def visitCalls (w : σ) (i : Nat) : List (Call σ) :=
  if ((SelectorWorld.selector w).fds i).used then
    (if slaveR ((SelectorWorld.selector w).fds i).fd && ((SelectorWorld.selector w).fds i).interest.read then
      [⟨((SelectorWorld.selector w).fds i).fd, false, w⟩] else []) ++
    if slaveW i && ((SelectorWorld.selector (afterRead hr slaveR w i)).fds i).interest.write then
      [⟨((SelectorWorld.selector w).fds i).fd, true, afterRead hr slaveR w i⟩] else []
  else []

/-- A turn that is watched is the same turn, and its calls are noted. -/
theorem visitSlot_watch (w : σ) (calls : List (Call σ)) (i : Nat) :
    visitSlot (watch false hr) (watch true hw) slaveR slaveW (⟨w, calls⟩ : Watched σ) i =
      ⟨visitSlot hr hw slaveR slaveW w i, calls ++ visitCalls hr slaveR slaveW w i⟩ := by
  have hsel : ∀ w' : Watched σ, SelectorWorld.selector w' = SelectorWorld.selector w'.world := fun _ => rfl
  unfold visitSlot visitCalls afterRead
  simp only [hsel]
  split
  · by_cases hread : (slaveR ((SelectorWorld.selector w).fds i).fd && ((SelectorWorld.selector w).fds i).interest.read) = true
    · simp only [hread, if_true, watch]
      split <;> simp
    · simp only [if_neg hread]
      split <;> simp [watch]
  · rw [List.append_nil]

/-- The calls of an iteration are those of its turns. -/
theorem mem_iterationCalls {w : σ} {call : Call σ} : call ∈ iterationCalls hr hw slaveR slaveW w ↔
    ∃ i, i < (SelectorWorld.selector w).maxFd.toNat + 1 ∧
      call ∈ visitCalls hr slaveR slaveW (walk hr hw slaveR slaveW w i) i := by
  have hfold : ∀ n, (List.range n).foldl (visitSlot (watch false hr) (watch true hw) slaveR slaveW) (⟨w, []⟩ : Watched σ) =
      ⟨walk hr hw slaveR slaveW w n,
        (List.range n).flatMap fun i => visitCalls hr slaveR slaveW (walk hr hw slaveR slaveW w i) i⟩ := by
    intro n
    induction n with
    | zero => rfl
    | succ n ih =>
      rw [List.range_succ, List.foldl_append, ih, List.foldl_cons, List.foldl_nil, visitSlot_watch, List.flatMap_append,
        List.flatMap_singleton, walk, walk, List.range_succ, List.foldl_append]
      rfl
  show call ∈ ((List.range ((SelectorWorld.selector w).maxFd.toNat + 1)).foldl _ (⟨w, []⟩ : Watched σ)).calls ↔ _
  rw [hfold]
  simp only [List.mem_flatMap, List.mem_range]

/-- One more turn. -/
theorem walk_succ (w : σ) (n : Nat) :
    walk hr hw slaveR slaveW w (n + 1) = visitSlot hr hw slaveR slaveW (walk hr hw slaveR slaveW w n) n := by
  rw [walk, List.range_succ, List.foldl_append]
  rfl

/-- A turn, by what it finds when it decides on the write handler. -/
theorem visitSlot_eq (w : σ) (i : Nat) : visitSlot hr hw slaveR slaveW w i =
    if ((SelectorWorld.selector w).fds i).used then
      if slaveW i && ((SelectorWorld.selector (afterRead hr slaveR w i)).fds i).interest.write then
        hw ((SelectorWorld.selector (afterRead hr slaveR w i)).fds i).handler
          { fd := ((SelectorWorld.selector w).fds i).fd, data := ((SelectorWorld.selector w).fds i).data }
          (afterRead hr slaveR w i)
      else afterRead hr slaveR w i
    else w :=
  rfl

end Calls

/-! ## What a call finds -/

/-- Which registration a slot holds, if it is in use. -/
def registration (w : σ) (fd : Int) : Option Nat := ((SelectorWorld.selector w).slot fd).map (·.serial)

/-- The registration a call is made for is the one its slot held when the ready sets were taken. -/
def Call.Current (w : σ) (call : Call σ) : Prop :=
  ∃ n, registration call.world call.fd = some n ∧ registration w call.fd = some n

/-- A handler keeps the selector in order and registers no numbers but these. -/
structure Behaves (may : Int → Prop) (f : σ → σ) : Prop where
  consistent : ∀ w, (SelectorWorld.selector w).Consistent → (SelectorWorld.selector (f w)).Consistent
  registers : ∀ w fd n, (SelectorWorld.selector w).Consistent → registration (f w) fd = some n →
    registration w fd = some n ∨ may fd

section Safety

variable (slaveR slaveW : Int → Bool)

/-- The bit that makes a turn call its read or its write handler. -/
def readyBit (i : Nat) (write : Bool) : Bool := if write then slaveW i else slaveR i

/-- After a call of a turn's read or write handler, a bit of this descriptor is still to be looked at. -/
def Pending (i : Nat) (write : Bool) (fd : Int) : Prop :=
  i < fd ∧ (slaveR fd = true ∨ slaveW fd = true) ∨ fd = i ∧ write = false ∧ slaveW fd = true

/-- Before a turn, what is still to be looked at is in order: a slot with a bit holds the registration it held at first, or
none. -/
structure Untouched (w0 : σ) (i : Nat) (w : σ) : Prop where
  consistent : (SelectorWorld.selector w).Consistent
  same : ∀ fd n, (i : Int) ≤ fd → slaveR fd = true ∨ slaveW fd = true → registration w fd = some n →
    registration w0 fd = some n

end Safety

section Forward

variable {hr hw : Option H → SelectorKey D → σ → σ} {slaveR slaveW : Int → Bool} {may : Int → Bool → Int → Prop} {w0 w : σ}
  {i : Nat}

/-- A slot in use holds a registration. -/
theorem registration_of_used (h : (SelectorWorld.selector w).Consistent) (hi : i < 1024)
    (hu : ((SelectorWorld.selector w).fds i).used = true) :
    registration w i = some ((SelectorWorld.selector w).fds i).serial := by
  unfold registration
  rw [(h.slot_of_used (by rw [h.size]; omega) hu).2]
  rfl

/-- A slot with an interest in writing is in use. -/
theorem used_of_write (h : (SelectorWorld.selector w).Consistent)
    (hw : ((SelectorWorld.selector w).fds i).interest.write = true) : ((SelectorWorld.selector w).fds i).used = true := by
  cases hu : ((SelectorWorld.selector w).fds i).used with
  | true => rfl
  | false =>
    rw [h.blank i hu] at hw
    cases hw

/-- The largest descriptor in use is a valid one. -/
theorem FdSelector.Consistent.maxFd_lt {s : FdSelector H D} (h : s.Consistent) : s.maxFd.toNat < 1024 := by
  obtain hm | hm := h.largest
  · omega
  · obtain ⟨_, hm⟩ := Option.isSome_iff_exists.mp hm
    have hv := invalidFd_eq_false_iff.mp (FdSelector.valid_of_slot hm)
    omega

/-- What was in order before a handler is in order after it, as far as its numbers leave it alone. -/
theorem Untouched.after {f : σ → σ} {fds : Int → Prop} (h : Untouched slaveR slaveW w0 i w) (hb : Behaves fds f) :
    (SelectorWorld.selector (f w)).Consistent ∧
      ∀ fd n, (i : Int) ≤ fd → slaveR fd = true ∨ slaveW fd = true → ¬fds fd → registration (f w) fd = some n →
        registration w0 fd = some n := by
  refine ⟨hb.consistent w h.consistent, fun fd n hle hbit hno hreg => ?_⟩
  exact h.same fd n hle hbit ((hb.registers w fd n h.consistent hreg).resolve_right hno)

/-- A turn whose handlers register no number with a bit to be looked at makes its calls for the registrations found ready, and
leaves the rest in order. -/
theorem Untouched.visit (hread : ∀ handler key, Behaves (may key.fd false) (hr handler key))
    (hwrite : ∀ handler key, Behaves (may key.fd true) (hw handler key))
    (hsafe : ∀ write fd, readyBit slaveR slaveW i write = true → may i write fd → ¬Pending slaveR slaveW i write fd)
    (hi : i < 1024) (h : Untouched slaveR slaveW w0 i w) :
    (∀ call ∈ visitCalls hr slaveR slaveW w i, call.Current w0) ∧
      Untouched slaveR slaveW w0 (i + 1) (visitSlot hr hw slaveR slaveW w i) := by
  by_cases hu : ((SelectorWorld.selector w).fds i).used = true
  · have hfd := (h.consistent.slot_of_used (by rw [h.consistent.size]; omega) hu).1
    have hreg := registration_of_used h.consistent hi hu
    -- what the turn finds when it decides on the write handler
    have hmid : (SelectorWorld.selector (afterRead hr slaveR w i)).Consistent ∧
        ∀ fd n, (i : Int) ≤ fd → slaveR fd = true ∨ slaveW fd = true → (fd = i → slaveW fd = true) →
          registration (afterRead hr slaveR w i) fd = some n → registration w0 fd = some n := by
      unfold afterRead
      split
      · rename_i hbit
        rw [Bool.and_eq_true, hfd] at hbit
        have hb := hread ((SelectorWorld.selector w).fds i).handler
          { fd := ((SelectorWorld.selector w).fds i).fd, data := ((SelectorWorld.selector w).fds i).data }
        obtain ⟨hc, hsame⟩ := h.after hb
        refine ⟨hc, fun fd n hle hready hown hr => hsame fd n hle hready (fun hm => ?_) hr⟩
        refine hsafe false fd hbit.1 (hfd ▸ hm) ?_
        by_cases he : fd = i
        · exact .inr ⟨he, rfl, hown he⟩
        · exact .inl ⟨by omega, hready⟩
      · exact ⟨h.consistent, fun fd n hle hready _ => h.same fd n hle hready⟩
    obtain ⟨hc, hsame⟩ := hmid
    refine ⟨fun call hcall => ?_, ?_⟩
    · rw [visitCalls, if_pos hu, hfd] at hcall
      obtain hcall | hcall := List.mem_append.mp hcall
      · split at hcall
        · rename_i hbit
          obtain rfl := List.mem_singleton.mp hcall
          exact ⟨_, hreg, h.same i _ (Int.le_refl _) (.inl (Bool.and_eq_true_iff.mp hbit).1) hreg⟩
        · cases hcall
      · split at hcall
        · rename_i hbit
          obtain rfl := List.mem_singleton.mp hcall
          obtain ⟨hbit, hint⟩ := Bool.and_eq_true_iff.mp hbit
          have hnow := registration_of_used hc hi (used_of_write hc hint)
          exact ⟨_, hnow, hsame i _ (Int.le_refl _) (.inr hbit) (fun _ => hbit) hnow⟩
        · cases hcall
    · rw [visitSlot_eq, if_pos hu]
      split
      · rename_i hbit
        have hb := hwrite ((SelectorWorld.selector (afterRead hr slaveR w i)).fds i).handler
          { fd := ((SelectorWorld.selector w).fds i).fd, data := ((SelectorWorld.selector w).fds i).data }
        refine ⟨hb.consistent _ hc, fun fd n hle hready hreg' => ?_⟩
        refine hsame fd n (by omega) hready (fun he => absurd hle (by omega)) ((hb.registers _ fd n hc hreg').resolve_right ?_)
        exact fun hm => hsafe true fd (Bool.and_eq_true_iff.mp hbit).1 (hfd ▸ hm) (.inl ⟨by omega, hready⟩)
      · exact ⟨hc, fun fd n hle hready hreg' => hsame fd n (by omega) hready (fun he => absurd hle (by omega)) hreg'⟩
  · rw [visitCalls, if_neg hu]
    refine ⟨fun _ hcall => absurd hcall List.not_mem_nil, ?_⟩
    rw [visitSlot_eq, if_neg hu]
    exact ⟨h.consistent, fun fd n hle => h.same fd n (by omega)⟩

/-- As long as the handlers register no number with a bit to be looked at, every turn leaves the rest in order. -/
theorem untouched_walk (h0 : (SelectorWorld.selector w).Consistent)
    (hread : ∀ handler key, Behaves (may key.fd false) (hr handler key))
    (hwrite : ∀ handler key, Behaves (may key.fd true) (hw handler key))
    (hsafe : ∀ (i : Nat) write fd, readyBit slaveR slaveW i write = true → may i write fd → ¬Pending slaveR slaveW i write fd)
    {n : Nat} (hn : n ≤ 1024) : Untouched slaveR slaveW w n (walk hr hw slaveR slaveW w n) := by
  induction n with
  | zero => exact ⟨h0, fun _ _ _ _ h => h⟩
  | succ n ih =>
    rw [walk_succ]
    exact ((ih (by omega)).visit hread hwrite (hsafe n) (by omega)).2

end Forward

/-! ## A number that is handed out again -/

/-- Unregister a descriptor and register it again, for reading and writing. -/
def reregister (handler : H) (fd : Int) (w : σ) : σ :=
  onSelector (fun s => (s.selectorRegister fd (some handler) ⟨true, true⟩ none true).1)
    (selectorUnregisterFd (fun _ _ w => w) w fd).1

section Reregister

variable {w : σ} {fd : Int}

/-- An unregistration whose callback does nothing empties one slot, and hands out no registration. -/
theorem selector_unregister (h : (SelectorWorld.selector w).Consistent) (hv : invalidFd fd = false) :
    (SelectorWorld.selector (selectorUnregisterFd (fun _ _ w => w) w fd).1).serial = (SelectorWorld.selector w).serial ∧
    ∀ fd', (SelectorWorld.selector (selectorUnregisterFd (fun _ _ w => w) w fd).1).slot fd' =
      if fd' = fd then none else (SelectorWorld.selector w).slot fd' := by
  have hw : SelectorWorld.selector (onSelector (·.touch fd.toNat) w) = SelectorWorld.selector w := by
    rw [onSelector, SelectorWorld.selector_setSelector, h.touch hv]
  unfold selectorUnregisterFd
  simp only [hv, Bool.false_eq_true, if_false, hw]
  cases hu : ((SelectorWorld.selector w).fds fd.toNat).used with
  | false =>
    simp only [Bool.not_false, if_true, hw]
    refine ⟨trivial, fun fd' => ?_⟩
    split
    · subst_vars
      rw [FdSelector.slot_of_valid hv, hu]
      rfl
    · rfl
  | true =>
    simp only [Bool.not_true, Bool.false_eq_true, if_false]
    rw [onSelector, SelectorWorld.selector_setSelector, hw]
    exact ⟨rfl, FdSelector.slot_clearItem hv⟩

/-- A descriptor that was registered again: its slot has both interests and the registration that was next. -/
theorem slot_reregister (h : (SelectorWorld.selector w).Consistent) (hv : invalidFd fd = false) (handler : H) (fd' : Int) :
    (SelectorWorld.selector (reregister handler fd w)).slot fd' =
      if fd' = fd then
        some { fd, interest := ⟨true, true⟩, handler := some handler, data := none, serial := (SelectorWorld.selector w).serial }
      else (SelectorWorld.selector w).slot fd' := by
  have hc : (SelectorWorld.selector (selectorUnregisterFd (fun _ _ w => w) w fd).1).Consistent :=
    (h.selectorUnregisterFd fun _ _ _ he => he ▸ h).1
  obtain ⟨hserial, hslot⟩ := selector_unregister h hv
  have hreg := (FdSelector.selectorRegister_of_free hv (by rw [hc.size]; omega) ((hslot fd).trans (if_pos rfl)) handler
    ⟨true, true⟩ (none : Option D) true).2.2.2 fd'
  rw [reregister, onSelector, SelectorWorld.selector_setSelector, hreg, hslot, hserial]
  split <;> rfl

/-- Registering a descriptor again keeps the selector in order, and registers that descriptor only. -/
theorem behaves_reregister {may : Int → Prop} (hv : invalidFd fd = false) (hm : may fd) (handler : H) :
    Behaves may (reregister handler fd : σ → σ) where
  consistent := fun w h => by
    rw [reregister, onSelector, SelectorWorld.selector_setSelector]
    exact ((h.selectorUnregisterFd fun _ _ _ he => he ▸ h).1.selectorRegister fd (some handler) ⟨true, true⟩ none true).1
  registers := fun w fd' n h hreg => by
    by_cases he : fd' = fd
    · exact .inr (he ▸ hm)
    · left
      rw [registration, slot_reregister h hv, if_neg he] at hreg
      exact hreg

/-- Doing nothing is in order. -/
theorem behaves_id (may : Int → Prop) : Behaves may (fun w : σ => w) where
  consistent := fun _ h => h
  registers := fun _ _ _ _ h => .inl h

end Reregister

section Backward

variable {slaveR slaveW : Int → Bool} {w : σ} {i : Nat}

/-- A handler that registers one descriptor again when it is called for another, and else does nothing. -/
def handsOut (handler : H) (fd : Int) (i : Nat) (called : Bool) (_ : Option H) (key : SelectorKey D) (w : σ) : σ :=
  if key.fd = i ∧ called = true then reregister handler fd w else w

/-- Such a handler registers no number it may not register. -/
theorem behaves_handsOut {may : Int → Prop} {fd : Int} (hv : invalidFd fd = false) (handler : H) {called : Bool}
    {handler' : Option H} {key : SelectorKey D} (hm : key.fd = i → called = true → may fd) :
    Behaves may (handsOut handler fd i called handler' key : σ → σ) := by
  by_cases h : key.fd = i ∧ called = true
  · have he : (handsOut handler fd i called handler' key : σ → σ) = reregister handler fd := funext fun w => if_pos h
    rw [he]
    exact behaves_reregister hv (hm h.1 h.2) handler
  · have he : (handsOut handler fd i called handler' key : σ → σ) = fun w => w := funext fun w => if_neg h
    rw [he]
    exact behaves_id may

/-- What `pselect` found ready was registered with that interest. -/
structure Found (slaveR slaveW : Int → Bool) (w : σ) : Prop where
  readable : ∀ fd, slaveR fd = true → (SelectorWorld.selector w).masterR fd = true
  writable : ∀ fd, slaveW fd = true → (SelectorWorld.selector w).masterW fd = true

/-- The slot of a descriptor that was found ready. -/
theorem Found.slot (hf : Found slaveR slaveW w) (h : (SelectorWorld.selector w).Consistent) {fd : Int}
    (hready : slaveR fd = true ∨ slaveW fd = true) :
    ∃ item, (SelectorWorld.selector w).slot fd = some item ∧ (slaveR fd = true → item.interest.read = true) ∧
      (slaveW fd = true → item.interest.write = true) := by
  have hread : slaveR fd = true → ((SelectorWorld.selector w).slot fd).any (·.interest.read) = true :=
    fun hr => h.readable fd ▸ hf.readable fd hr
  have hwrite : slaveW fd = true → ((SelectorWorld.selector w).slot fd).any (·.interest.write) = true :=
    fun hw => h.writable fd ▸ hf.writable fd hw
  cases hs : (SelectorWorld.selector w).slot fd with
  | none =>
    rw [hs] at hread hwrite
    rcases hready with hr | hw
    · cases hread hr
    · cases hwrite hw
  | some item =>
    rw [hs] at hread hwrite
    exact ⟨item, rfl, hread, hwrite⟩

/-- The entry of a slot that is in use. -/
theorem entry_of_slot (h : (SelectorWorld.selector w).Consistent) {item : Item H D}
    (hs : (SelectorWorld.selector w).slot i = some item) :
    (SelectorWorld.selector w).fds i = item ∧ item.used = true ∧ item.fd = i ∧ i < 1024 ∧
      i < (SelectorWorld.selector w).maxFd.toNat + 1 := by
  have hv := invalidFd_eq_false_iff.mp (FdSelector.valid_of_slot hs)
  obtain ⟨hf, hu⟩ := FdSelector.fds_of_slot hs
  rw [Int.toNat_natCast] at hf
  have ha := h.above _ _ hs
  have hfd := (h.slot_of_used (by rw [h.size]; omega) (hf ▸ hu)).1
  rw [hf] at hfd
  exact ⟨hf, hu, hfd, by omega, by omega⟩

/-- The handlers do nothing in the turn of another descriptor. -/
theorem handsOut_other (h : (SelectorWorld.selector w).Consistent) {k : Nat} (hk : k < 1024) (hne : k ≠ i) (handler : H)
    (fd : Int) (called : Bool) (handler' : Option H) :
    handsOut handler fd i called handler'
      { fd := ((SelectorWorld.selector w).fds k).fd, data := ((SelectorWorld.selector w).fds k).data } w = w := by
  refine if_neg fun hand => ?_
  have hfd : ((SelectorWorld.selector w).fds k).fd = i := hand.1
  obtain he | he := h.indexed k (by rw [h.size]; omega)
  · rw [he] at hfd
    unfold fdUnused at hfd
    omega
  · omega

/-- The read handler does nothing in the turn of another descriptor. -/
theorem afterRead_handsOut (h : (SelectorWorld.selector w).Consistent) {k : Nat} (hk : k < 1024) (hne : k ≠ i) (handler : H)
    (fd : Int) (called : Bool) : afterRead (handsOut handler fd i called) slaveR w k = w := by
  unfold afterRead
  rw [handsOut_other h hk hne]
  split <;> rfl

/-- A turn of another descriptor does nothing. -/
theorem visitSlot_handsOut (h : (SelectorWorld.selector w).Consistent) {k : Nat} (hk : k < 1024) (hne : k ≠ i) (handler : H)
    (fd : Int) (write : Bool) :
    visitSlot (handsOut handler fd i !write) (handsOut handler fd i write) slaveR slaveW w k = w := by
  rw [visitSlot_eq, afterRead_handsOut h hk hne, handsOut_other h hk hne]
  split
  · split <;> rfl
  · rfl

/-- The turn of the descriptor itself registers the other one again. -/
theorem visitSlot_handsOut_self (h : (SelectorWorld.selector w).Consistent) (hf : Found slaveR slaveW w) {write : Bool}
    (hbit : readyBit slaveR slaveW i write = true) (handler : H) (fd : Int) :
    visitSlot (handsOut handler fd i !write) (handsOut handler fd i write) slaveR slaveW w i = reregister handler fd w ∧
      (write = false → afterRead (handsOut handler fd i !write) slaveR w i = reregister handler fd w) := by
  have hready : slaveR i = true ∨ slaveW i = true := by
    cases write with
    | false => exact .inl hbit
    | true => exact .inr hbit
  obtain ⟨item, hs, hread, hwrite⟩ := hf.slot h hready
  obtain ⟨hfds, hu, hfd, -, -⟩ := entry_of_slot h hs
  rw [visitSlot_eq, hfds, hu, if_pos rfl]
  unfold afterRead
  rw [hfds, hfd]
  cases write with
  | false =>
    have hcall : handsOut handler fd i (!false) item.handler { fd := i, data := item.data } w = reregister handler fd w :=
      if_pos ⟨rfl, rfl⟩
    have hidle : ∀ handler' (w' : σ), handsOut handler fd i false handler' { fd := i, data := item.data } w' = w' :=
      fun _ _ => if_neg fun hand => by cases hand.2
    have hgo : (slaveR i && item.interest.read) = true := Bool.and_eq_true_iff.mpr ⟨hbit, hread hbit⟩
    rw [if_pos hgo, hcall, hidle]
    exact ⟨by split <;> rfl, fun _ => rfl⟩
  | true =>
    have hcall : ∀ handler', handsOut handler fd i true handler' { fd := i, data := item.data } w = reregister handler fd w :=
      fun _ => if_pos ⟨rfl, rfl⟩
    have hidle : handsOut handler fd i (!true) item.handler { fd := i, data := item.data } w = w :=
      if_neg fun hand => by cases hand.2
    have hstay : (if (slaveR i && item.interest.read) = true then w else w) = w := by split <;> rfl
    have hgo : (slaveW i && item.interest.write) = true := Bool.and_eq_true_iff.mpr ⟨hbit, hwrite hbit⟩
    rw [hidle, hstay, hcall, hfds, if_pos hgo]
    exact ⟨rfl, fun he => by cases he⟩

/-- The states of an iteration in which one call registers a descriptor again. -/
theorem walk_handsOut (h : (SelectorWorld.selector w).Consistent) (hf : Found slaveR slaveW w) {write : Bool}
    (hbit : readyBit slaveR slaveW i write = true) (hi : i < 1024) (handler : H) {fd : Int} (hv : invalidFd fd = false) {k : Nat}
    (hk : k ≤ 1024) :
    walk (handsOut handler fd i !write) (handsOut handler fd i write) slaveR slaveW w k =
      if k ≤ i then w else reregister handler fd w := by
  induction k with
  | zero => exact (if_pos (Nat.zero_le i)).symm
  | succ k ih =>
    rw [walk_succ, ih (by omega)]
    by_cases hlt : k < i
    · rw [if_pos (by omega), if_pos (by omega), visitSlot_handsOut h (by omega) (by omega) handler fd write]
    · by_cases he : k = i
      · subst he
        rw [if_pos (Nat.le_refl k), if_neg (by omega), (visitSlot_handsOut_self h hf hbit handler fd).1]
      · have hb : Behaves (fun _ => True) (reregister handler fd : σ → σ) := behaves_reregister hv trivial handler
        have hc := hb.consistent w h
        rw [if_neg (by omega), if_neg (by omega), visitSlot_handsOut hc (by omega) he handler fd write]

/-- If a handler may register a number with a bit to be looked at, there is one that makes the iteration call for a registration
that was not found ready. -/
theorem exists_stale_call (h : (SelectorWorld.selector w).Consistent) (hf : Found slaveR slaveW w) (handler : H) {write : Bool}
    {fd : Int} (hbit : readyBit slaveR slaveW i write = true) (hp : Pending slaveR slaveW i write fd) :
    ∃ call ∈ iterationCalls (handsOut handler fd i !write) (handsOut handler fd i write) slaveR slaveW w, ¬call.Current w := by
  have hready : slaveR fd = true ∨ slaveW fd = true := by
    obtain ⟨-, hready⟩ | ⟨-, -, hw⟩ := hp
    · exact hready
    · exact .inr hw
  obtain ⟨item, hs, -, -⟩ := hf.slot h hready
  have hv := FdSelector.valid_of_slot hs
  obtain ⟨j, rfl⟩ := Int.eq_ofNat_of_zero_le (invalidFd_eq_false_iff.mp hv).1
  have hj := entry_of_slot h hs
  have hi : i ≤ j := by
    obtain ⟨hlt, -⟩ | ⟨he, -⟩ := hp <;> omega
  have hb : Behaves (fun _ => True) (reregister handler j : σ → σ) := behaves_reregister hv trivial handler
  have hc := hb.consistent w h
  obtain ⟨hfds, hu, hfd, -, -⟩ := entry_of_slot hc ((slot_reregister h hv handler j).trans (if_pos rfl))
  have hwalk := fun k (hk : k ≤ 1024) => walk_handsOut h hf hbit (by omega) handler hv hk
  -- any call for the descriptor after it was registered again finds the new registration
  have hstale : ∀ called, ¬(⟨j, called, reregister handler j w⟩ : Call σ).Current w := by
    rintro called ⟨n, hnew, hold⟩
    rw [registration, slot_reregister h hv, if_pos rfl] at hnew
    rw [registration, hs] at hold
    have hlt := h.numbered j (by rw [h.size]; omega) (hj.1 ▸ hj.2.1)
    have he : item.serial = n := Option.some.inj hold
    rw [hj.1, he, ← Option.some.inj hnew] at hlt
    exact Nat.lt_irrefl _ hlt
  suffices hmem : ∃ called, (⟨j, called, reregister handler j w⟩ : Call σ) ∈
      visitCalls (handsOut handler j i !write) slaveR slaveW
        (walk (handsOut handler j i !write) (handsOut handler j i write) slaveR slaveW w j) j by
    obtain ⟨called, hmem⟩ := hmem
    exact ⟨_, (mem_iterationCalls _ _ slaveR slaveW).mpr ⟨j, hj.2.2.2.2, hmem⟩, hstale called⟩
  rw [hwalk j (by omega)]
  obtain ⟨hlt, -⟩ | ⟨he, hfalse, hw⟩ := hp
  · rw [if_neg (by omega), visitCalls, hfds, hu, if_pos rfl, hfd,
      afterRead_handsOut hc (by omega) (by omega) handler j, hfds]
    rcases hready with hr | hw
    · exact ⟨false, List.mem_append_left _ (by rw [hr]; exact List.mem_singleton_self _)⟩
    · exact ⟨true, List.mem_append_right _ (by rw [hw]; exact List.mem_singleton_self _)⟩
  · obtain rfl : j = i := by omega
    rw [if_pos (Nat.le_refl j), visitCalls, hj.1, hj.2.1, if_pos rfl, hj.2.2.1,
      (visitSlot_handsOut_self h hf hbit handler j).2 hfalse, hfds]
    exact ⟨true, List.mem_append_right _ (by rw [hw]; exact List.mem_singleton_self _)⟩

end Backward

instance {w : σ} (call : Call σ) : Decidable (call.Current w) :=
  decidable_of_iff ((registration call.world call.fd).isSome = true ∧ registration w call.fd = registration call.world call.fd)
    ⟨fun ⟨h, he⟩ => ⟨_, (Option.some_get h).symm, he.trans (Option.some_get h).symm⟩,
      fun ⟨_, h, he⟩ => ⟨h ▸ rfl, he.trans h.symm⟩⟩

/-- Whatever the handlers of an iteration do, as long as they keep the selector in order and register no numbers but those they
may, every call is for the registration that was in its slot when the ready sets were taken: this is so exactly if none of those
numbers has a ready bit that is still to be looked at after the call. -/
theorem calls_current_iff [Nonempty H] {w : σ} {slaveR slaveW : Int → Bool} (h : (SelectorWorld.selector w).Consistent)
    (hf : Found slaveR slaveW w) (may : Int → Bool → Int → Prop) :
    (∀ hr hw : Option H → SelectorKey D → σ → σ, (∀ handler key, Behaves (may key.fd false) (hr handler key)) →
      (∀ handler key, Behaves (may key.fd true) (hw handler key)) →
      ∀ call ∈ iterationCalls hr hw slaveR slaveW w, call.Current w) ↔
    ∀ (i : Nat) write fd, readyBit slaveR slaveW i write = true → may i write fd → ¬Pending slaveR slaveW i write fd := by
  constructor
  · intro hall i write fd hbit hm hp
    obtain ⟨handler⟩ := ‹Nonempty H›
    obtain ⟨call, hmem, hstale⟩ := exists_stale_call h hf handler hbit hp
    have hready : slaveR fd = true ∨ slaveW fd = true := by
      obtain ⟨-, hready⟩ | ⟨-, -, hw⟩ := hp
      · exact hready
      · exact .inr hw
    obtain ⟨item, hs, -, -⟩ := hf.slot h hready
    have hv := FdSelector.valid_of_slot hs
    refine hstale (hall _ _ (fun handler' key => behaves_handsOut hv handler fun hkey hcalled => ?_)
      (fun handler' key => behaves_handsOut hv handler fun hkey hcalled => ?_) call hmem)
    · rw [hkey]
      cases write with
      | false => exact hm
      | true => cases hcalled
    · rw [hkey]
      exact hcalled ▸ hm
  · intro hsafe hr hw hread hwrite call hcall
    obtain ⟨i, hi, hmem⟩ := (mem_iterationCalls hr hw slaveR slaveW).mp hcall
    have hlt : i < 1024 := by
      have hm := h.maxFd_lt
      omega
    exact ((untouched_walk h hread hwrite hsafe (by omega)).visit hread hwrite (hsafe i) hlt).1 call hmem

end Watching

/-! ## An iteration of the server -/

section Iterations

variable {s : Server}

/-- The read handlers of the server, each with the next answers. -/
def readHandlers (handler : Option FdHandler) (key : SelectorKey Nat) (w : Iterating) : Iterating :=
  (handleRead (w.2.headD {}) handler key w.1, w.2.tail)

/-- The write handlers of the server, each with the next answers. -/
def writeHandlers (handler : Option FdHandler) (key : SelectorKey Nat) (w : Iterating) : Iterating :=
  (handleWrite (w.2.headD {}) handler key w.1, w.2.tail)

/-- An event that calls a handler for this descriptor, which was found ready for it. -/
def Event.CallFor (slaveR slaveW : Int → Bool) (fd : Int) (e : Event) : Prop :=
  ∃ a, e = .read fd a ∧ slaveR fd = true ∨ e = .write fd a ∧ slaveW fd = true

/-- A slot that can be written to after its read handler has the data it had. -/
theorem data_after_read (h : Inv s) (hp : s.phase = .running) {fd : Int} {item item' : Item FdHandler Nat}
    (hi : s.selector.slot fd = some item) (hr : item.interest.read = true) (a : Answers)
    (hi' : (handleRead a item.handler { fd := item.fd, data := item.data } s).selector.slot fd = some item')
    (hw : item'.interest.write = true) : item'.data = item.data := by
  obtain ⟨h', -, hu⟩ := handleRead_inv h hp hi hr a
  rcases h.own.slot_cases hi with ⟨sid, ho⟩ | ⟨mid, hm⟩ | hl
  · obtain ⟨v, -, hh⟩ := handleRead_handled h hp hi hr ho a
    obtain ⟨acts, fr, -⟩ := hh.steps
    by_cases hown : item'.Of sid
    · rw [hown.2, ho.2]
    · have hold := fr.foreign fd item' hi' hown
      rw [hi] at hold
      rw [Option.some.inj hold]
  · have hmanaged := managementRead_managed h.own hm a
    rw [hm.handler] at hi'
    rw [(hmanaged.after item' hi').2.2.1, hm.data]
  · -- the listener is still there, and is only ever read from
    refine absurd ?_ (h'.not_listens hi' hw)
    have hopen : s.stoppedAccepting = false := by
      cases hs : s.stoppedAccepting with
      | false => rfl
      | true => exact absurd hl (h.listening.stopped hs fd item hi)
    have hc := hu.control
    have hphase := (congrArg Control.phase hc).trans hp
    have hstopped := congrArg Control.stoppedAccepting hc
    have hserver := congrArg Control.serverFd hc
    have hmanagement := congrArg Control.managementFd hc
    have hreg := h'.listening.registered (hstopped.trans hopen) fun hd => by cases hphase.symm.trans hd
    have howned := h.own.owned fd item hi
    unfold Server.SlotOwned at howned
    rcases hl with hl | hl
    · rw [hl] at howned
      have hfd : fd = s.serverFd := howned
      obtain ⟨item1, hi1, hh, -⟩ := hreg.1
      rw [show (handleRead _ _ _ s).serverFd = s.serverFd from hserver, ← hfd, hi'] at hi1
      exact .inl (Option.some.inj hi1 ▸ hh)
    · rw [hl] at howned
      have hfd : fd = s.managementFd := howned
      obtain ⟨item1, hi1, hh, -⟩ := hreg.2
      rw [show (handleRead _ _ _ s).managementFd = s.managementFd from hmanagement, ← hfd, hi'] at hi1
      exact .inr (Option.some.inj hi1 ▸ hh)

/-- Calls of handlers keep the invariant, and leave the server in its loop. -/
theorem run_calls (h : Inv s) (hp : s.phase = .running) {slaveR slaveW : Int → Bool} {es : List Event}
    (hes : ∀ e ∈ es, ∃ fd, e.CallFor slaveR slaveW fd) : Inv (run s es) ∧ (run s es).phase = .running := by
  induction es generalizing s with
  | nil => exact ⟨h, hp⟩
  | cons e es ih =>
    refine ih (step_inv h e).1 ?_ fun e' he' => hes e' (List.mem_cons_of_mem _ he')
    obtain ⟨fd, a, he⟩ := hes e List.mem_cons_self
    obtain hsame | ⟨-, -, ⟨he', -⟩ | ⟨he', -⟩⟩ | ⟨he', -⟩ := phase_step h e
    · exact hsame.trans hp
    all_goals
      subst he'
      obtain ⟨he, -⟩ | ⟨he, -⟩ := he <;> cases he

/-- The read half of a turn is one event or none. What it leaves in the slot has the data of the key, if it can be written to. -/
theorem afterRead_run (h : Inv s) (hp : s.phase = .running) (slaveR slaveW : Int → Bool) (as : List Answers) {i : Nat}
    {item : Item FdHandler Nat} (hitem : s.selector.fds i = item) (hi : s.selector.slot i = some item) :
    ∃ es as', (∀ e ∈ es, e.CallFor slaveR slaveW i) ∧
      afterRead readHandlers slaveR ((s, as) : Iterating) i = (run s es, as') ∧
      ∀ item', (run s es).selector.slot i = some item' → item'.interest.write = true → item'.data = item.data := by
  have hkey := h.own.indexed _ _ hi
  have hsel : SelectorWorld.selector ((s, as) : Iterating) = s.selector := rfl
  unfold afterRead
  rw [hsel, hitem, hkey]
  split
  · rename_i hbit
    obtain ⟨hbit, hint⟩ := Bool.and_eq_true_iff.mp hbit
    have hstep : run s [.read i (as.headD {})] =
        handleRead (as.headD {}) item.handler { fd := item.fd, data := item.data } s := by
      simp only [run, List.foldl_cons, List.foldl_nil, step, hi]
      exact if_pos ⟨hp, hint⟩
    refine ⟨[.read i (as.headD {})], as.tail, fun e he => ⟨as.headD {}, ?_⟩, ?_, ?_⟩
    · exact .inl ⟨List.mem_singleton.mp he, hbit⟩
    · rw [hstep, hkey, readHandlers]
    · rw [hstep]
      intro item' hi' hw
      exact data_after_read h hp hi hint _ hi' hw
  · exact ⟨[], as, fun _ he => absurd he List.not_mem_nil, rfl,
      fun item' hi' _ => congrArg Item.data (Option.some.inj (hi'.symm.trans hi))⟩

/-- A turn of the iteration is one event for each handler it calls. -/
theorem visitSlot_run (h : Inv s) (hp : s.phase = .running) (slaveR slaveW : Int → Bool) (as : List Answers) {i : Nat}
    (hi : i < 1024) :
    ∃ es as', (∀ e ∈ es, e.CallFor slaveR slaveW i) ∧
      visitSlot readHandlers writeHandlers slaveR slaveW ((s, as) : Iterating) i = (run s es, as') := by
  have hsel : ∀ w : Iterating, SelectorWorld.selector w = w.1.selector := fun _ => rfl
  rw [visitSlot_eq, hsel, hsel]
  cases hu : (s.selector.fds i).used with
  | false => exact ⟨[], as, fun _ he => absurd he List.not_mem_nil, rfl⟩
  | true =>
    rw [if_pos rfl]
    obtain ⟨hfd, hslot⟩ := h.own.selector.slot_of_used (by rw [h.own.selector.size]; omega) hu
    obtain ⟨es, as', hes, hafter, hdata⟩ := afterRead_run h hp slaveR slaveW as rfl hslot
    obtain ⟨hinv, hrunning⟩ := run_calls h hp fun e he => ⟨_, hes e he⟩
    rw [hafter]
    dsimp only
    split
    · rename_i hbit
      obtain ⟨hbit, hint⟩ := Bool.and_eq_true_iff.mp hbit
      have hused := used_of_write (w := ((run s es, as') : Iterating)) hinv.own.selector hint
      obtain ⟨hfd', hnow⟩ := hinv.own.selector.slot_of_used (by rw [hinv.own.selector.size]; omega) hused
      refine ⟨es ++ [.write i (as'.headD {})], as'.tail, fun e he => ?_, ?_⟩
      · obtain he | he := List.mem_append.mp he
        · exact hes e he
        · exact ⟨as'.headD {}, .inr ⟨List.mem_singleton.mp he, hbit⟩⟩
      · have hstep : step (run s es) (.write i (as'.headD {})) =
            handleWrite (as'.headD {}) ((run s es).selector.fds i).handler
              { fd := ((run s es).selector.fds i).fd, data := ((run s es).selector.fds i).data } (run s es) := by
          simp only [step, hnow]
          exact if_pos ⟨hrunning, hint⟩
        rw [run_append, hstep, hfd', hdata _ hnow hint, ← hfd, writeHandlers]
    · exact ⟨es, as', hes, rfl⟩

/-- An iteration of the server is a run of its events: what holds after every run holds between two iterations. -/
theorem handleIteration_run (h : Inv s) (hp : s.phase = .running) (slaveR slaveW : Int → Bool) (as : List Answers) :
    ∃ es, (∀ e ∈ es, ∃ fd, e.CallFor slaveR slaveW fd) ∧ s.handleIteration slaveR slaveW as = run s es := by
  have hwalk : ∀ n, n ≤ 1024 → ∃ es as', (∀ e ∈ es, ∃ fd, e.CallFor slaveR slaveW fd) ∧
      walk readHandlers writeHandlers slaveR slaveW ((s, as) : Iterating) n = (run s es, as') := by
    intro n hn
    induction n with
    | zero => exact ⟨[], as, fun _ he => absurd he List.not_mem_nil, rfl⟩
    | succ n ih =>
      obtain ⟨es, as', hes, hwalk⟩ := ih (by omega)
      obtain ⟨hinv, hrunning⟩ := run_calls h hp hes
      obtain ⟨es', as'', hes', hvisit⟩ := visitSlot_run hinv hrunning slaveR slaveW as' (i := n) (by omega)
      refine ⟨es ++ es', as'', fun e he => ?_, ?_⟩
      · obtain he | he := List.mem_append.mp he
        · exact hes e he
        · exact ⟨n, hes' e he⟩
      · rw [walk_succ, hwalk, hvisit, run, run, run, List.foldl_append]
  obtain ⟨es, as', hes, hwalk⟩ := hwalk (s.selector.maxFd.toNat + 1) h.own.selector.maxFd_lt
  exact ⟨es, hes, congrArg Prod.fst hwalk⟩

end Iterations

/-- Four clients connect. The last one is connected to a target whose socket is 5, and has a request for it; the second and the
third have been greeted. -/
def beforeIteration : List Event :=
  [.read 3 { accepts := [.accepted 5 .ok true, .accepted 6 .ok true, .accepted 7 .ok true, .accepted 8 .ok true] },
    .read 5 { recv := .eof }, .read 8 { recv := .data [5, 1, 0] }, .write 8 { sends := [.sent 2] },
    .read 8
      { recv := .data [5, 1, 0, 1, 127, 0, 0, 1, 0, 80]
        attempts := [{ socket := .ok 5, setNonblocking := .ok, connect := .error .einprogress }] },
    .connectDone 5 0, .write 5 {}, .write 8 { sends := [.sent 10] }, .read 8 { recv := .data [71, 69, 84] },
    .read 5 { recv := .data [72, 84, 84, 80] }, .read 6 { recv := .data [5, 1, 0] }, .write 6 { sends := [.sent 2] },
    .read 7 { recv := .data [5, 1, 0] }, .write 7 { sends := [.sent 2] }]

/-- The requests of the two clients, once the target has gone: their sockets get the numbers that its session has set free. -/
def iterationAnswers : List Answers :=
  [{ sends := [.error ⟨32, by decide⟩] },
    { recv := .data [5, 1, 0, 1, 127, 0, 0, 1, 0, 80]
      attempts := [{ socket := .ok 5, setNonblocking := .ok, connect := .error .einprogress }] },
    { recv := .data [5, 1, 0, 1, 127, 0, 0, 1, 0, 80]
      attempts := [{ socket := .ok 8, setNonblocking := .ok, connect := .error .einprogress }] }, {}]

/-- The server before the iteration, with the answers to its handlers. -/
def crowded : Iterating := (run (Config.first .zeroed).start beforeIteration, iterationAnswers)

/-- The two clients have sent their requests. -/
def requestsRead (fd : Int) : Bool := fd == 6 || fd == 7

/-- The connected client and its target can be written to. -/
def pairWritten (fd : Int) : Bool := fd == 5 || fd == 8

/-- The ready sets are ones that `pselect` can leave. -/
theorem crowded_found : Found requestsRead pairWritten crowded where
  readable := fun fd h => by
    obtain h | h := Bool.or_eq_true_iff.mp h
    · obtain rfl := eq_of_beq h
      decide +kernel
    · obtain rfl := eq_of_beq h
      decide +kernel
  writable := fun fd h => by
    obtain h | h := Bool.or_eq_true_iff.mp h
    · obtain rfl := eq_of_beq h
      decide +kernel
    · obtain rfl := eq_of_beq h
      decide +kernel

/-- The selector of the server is in order. -/
theorem crowded_consistent : (SelectorWorld.selector crowded).Consistent :=
  (run_inv (Config.first .zeroed) beforeIteration).own.selector

/-- For handlers that may register number 9 the iteration is safe; for handlers of 7 that may register number 8 it is not. -/
theorem calls_current_crowded :
    (∀ hr hw : Option FdHandler → SelectorKey Nat → Iterating → Iterating,
      (∀ handler key, Behaves (fun fd => fd = 9) (hr handler key)) →
      (∀ handler key, Behaves (fun fd => fd = 9) (hw handler key)) →
      ∀ call ∈ iterationCalls hr hw requestsRead pairWritten crowded, call.Current crowded) ∧
    ¬∀ hr hw : Option FdHandler → SelectorKey Nat → Iterating → Iterating,
      (∀ handler key, Behaves (fun fd => key.fd = 7 ∧ fd = 8) (hr handler key)) →
      (∀ handler key, Behaves (fun fd => key.fd = 7 ∧ fd = 8) (hw handler key)) →
      ∀ call ∈ iterationCalls hr hw requestsRead pairWritten crowded, call.Current crowded := by
  have : Nonempty FdHandler := ⟨.clientHandler⟩
  have hiff := calls_current_iff crowded_consistent crowded_found
  constructor
  · refine (hiff fun _ _ fd => fd = 9).mpr fun i write fd _ hfd hp => ?_
    subst hfd
    obtain ⟨-, hr | hw⟩ | ⟨-, -, hw⟩ := hp
    · exact absurd hr (by decide)
    · exact absurd hw (by decide)
    · exact absurd hw (by decide)
  · intro hall
    exact (hiff fun i _ fd => i = 7 ∧ fd = 8).mp hall 7 false 8 (by decide) ⟨rfl, rfl⟩ (.inl (by decide))

/-- The write handler of the server runs for number 8, found ready when it was a client's, after that client was closed and while
the connection of the socket that has got its number is pending. The session of this socket goes on to relay, as if connected. -/
theorem write_call_stale :
    (∃ call ∈ iterationCalls readHandlers writeHandlers requestsRead pairWritten crowded,
      call.fd = 8 ∧ call.write = true ∧ ¬call.Current crowded ∧
        (call.world.1.files 8).map (·.connect) = some .pending) ∧
    ((crowded.1.handleIteration requestsRead pairWritten crowded.2).files 8).map (·.connect) = some .pending ∧
    (crowded.1.acts 2).any (· == .succeeded) = false ∧
    ((crowded.1.handleIteration requestsRead pairWritten crowded.2).acts 2).any (· == .succeeded) = true := by
  decide +kernel

end SocksProxy
