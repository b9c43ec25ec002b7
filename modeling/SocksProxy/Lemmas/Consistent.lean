import SocksProxy.Lemmas.Slots

/-!
# The redundant state of the selector

The two descriptor sets and `max_fd` repeat what the slots say. Every operation keeps them in agreement, and none reaches outside
the table.
-/

namespace SocksProxy

variable {H D : Type}

namespace FdSelector

/-- The table has the size `selector_new(1024)` gave it, each entry is unused or at its own index, the descriptor sets and `max_fd`
say what the slots say, no access fell outside the table, an unused entry has no interest, and the registrations in the table have
numbers below the next one. -/
structure Consistent (s : FdSelector H D) : Prop where
  size : s.fdSize = 1025
  indexed : ∀ i, i < s.fdSize → (s.fds i).fd = fdUnused ∨ (s.fds i).fd = i
  spare : (s.fds 1024).used = false
  readable : ∀ fd, s.masterR fd = (s.slot fd).any (·.interest.read)
  writable : ∀ fd, s.masterW fd = (s.slot fd).any (·.interest.write)
  above : ∀ fd item, s.slot fd = some item → fd ≤ s.maxFd
  largest : s.maxFd = 0 ∨ (s.slot s.maxFd).isSome = true
  tame : s.wild = false
  blank : ∀ i, (s.fds i).used = false → (s.fds i).interest = opNoop
  numbered : ∀ i, i < s.fdSize → (s.fds i).used = true → (s.fds i).serial < s.serial

/-- The scan of `items_max_fd` over so many slots: nothing in use exceeds its result, which is zero or in use. -/
theorem scan_spec (fds : Nat → Item H D) (n : Nat) :
    (∀ i, i < n → (fds i).used = true → (fds i).fd ≤ (List.range n).foldl
      (fun max i => if (fds i).used then (if (fds i).fd > max then (fds i).fd else max) else max) 0) ∧
    ((List.range n).foldl (fun max i => if (fds i).used then (if (fds i).fd > max then (fds i).fd else max) else max) 0 = 0 ∨
      ∃ i, i < n ∧ (fds i).used = true ∧ (fds i).fd = (List.range n).foldl
        (fun max i => if (fds i).used then (if (fds i).fd > max then (fds i).fd else max) else max) 0) := by
  induction n with
  | zero => exact ⟨fun i hi => absurd hi (Nat.not_lt_zero i), .inl rfl⟩
  | succ n ih =>
    obtain ⟨hle, hmem⟩ := ih
    rw [List.range_succ, List.foldl_append, List.foldl_cons, List.foldl_nil]
    generalize (List.range n).foldl
      (fun max i => if (fds i).used then (if (fds i).fd > max then (fds i).fd else max) else max) 0 = max at hle hmem ⊢
    have hold : max = 0 ∨ ∃ i, i < n + 1 ∧ (fds i).used = true ∧ (fds i).fd = max := by
      refine hmem.imp id ?_
      rintro ⟨i, hi, hu, hf⟩
      exact ⟨i, Nat.lt_succ_of_lt hi, hu, hf⟩
    split
    · rename_i hu
      split
      · rename_i hgt
        refine ⟨fun i hi hui => ?_, .inr ⟨n, Nat.lt_succ_self n, hu, rfl⟩⟩
        rcases Nat.lt_succ_iff_lt_or_eq.mp hi with hi | rfl
        · have := hle i hi hui
          omega
        · exact Int.le_refl _
      · rename_i hgt
        refine ⟨fun i hi hui => ?_, hold⟩
        rcases Nat.lt_succ_iff_lt_or_eq.mp hi with hi | rfl
        · exact hle i hi hui
        · omega
    · rename_i hu
      refine ⟨fun i hi hui => ?_, hold⟩
      rcases Nat.lt_succ_iff_lt_or_eq.mp hi with hi | rfl
      · exact hle i hi hui
      · exact absurd hui hu

/-- A scan from zero finds nothing negative. -/
theorem itemsMaxFd_spec (s : FdSelector H D) :
    (∀ i, i ≤ s.maxFd.toNat → (s.fds i).used = true → (s.fds i).fd ≤ s.itemsMaxFd) ∧
    (s.itemsMaxFd = 0 ∨ ∃ i, i ≤ s.maxFd.toNat ∧ (s.fds i).used = true ∧ (s.fds i).fd = s.itemsMaxFd) := by
  obtain ⟨h1, h2⟩ := scan_spec s.fds (s.maxFd.toNat + 1)
  refine ⟨fun i hi => h1 i (by omega), h2.imp id ?_⟩
  rintro ⟨i, hi, h⟩
  exact ⟨i, by omega, h⟩

namespace Consistent

variable {s s' : FdSelector H D}

/-- A fresh selector is consistent. -/
theorem selectorNew : (FdSelector.selectorNew (H := H) (D := D) 1024 true).1.Consistent := by
  have hsize : (FdSelector.selectorNew (H := H) (D := D) 1024 true).1.fdSize = 1025 := by
    show nextCapacity 1024 = 1025
    decide
  have hfds : ∀ i, i < 1025 → ((FdSelector.selectorNew (H := H) (D := D) 1024 true).1.fds i).fd = fdUnused := by
    intro i hi
    show (if 0 ≤ i ∧ i < nextCapacity 1024 then (Item.zeroed (H := H) (D := D)).itemInit else Item.zeroed).fd = _
    rw [if_pos ⟨Nat.zero_le i, hi⟩]
    rfl
  have hslot : ∀ fd, (FdSelector.selectorNew (H := H) (D := D) 1024 true).1.slot fd = none := by
    intro fd
    cases hv : invalidFd fd with
    | true => exact slot_of_invalid hv
    | false =>
      have hr := invalidFd_eq_false_iff.mp hv
      rw [slot_of_valid hv, if_neg]
      simp [Item.used, hfds fd.toNat (by omega)]
  exact {
    size := hsize
    indexed := fun i hi => .inl (hfds i (by rwa [hsize] at hi))
    spare := by simp [Item.used, hfds 1024 (by omega)]
    readable := fun fd => by
      rw [hslot]
      rfl
    writable := fun fd => by
      rw [hslot]
      rfl
    above := fun fd item hi => by
      rw [hslot] at hi
      cases hi
    largest := .inl rfl
    tame := rfl
    blank := fun i _ => by
      show Item.interest (if 0 ≤ i ∧ i < nextCapacity 1024 then (Item.zeroed (H := H) (D := D)).itemInit else Item.zeroed) = opNoop
      split <;> rfl
    numbered := fun i hi hu => by
      rw [hsize] at hi
      simp [Item.used, hfds i hi] at hu }

/-- An entry in use is the slot of its own descriptor. -/
theorem slot_of_used (h : s.Consistent) {i : Nat} (hi : i < s.fdSize) (hu : (s.fds i).used = true) :
    (s.fds i).fd = i ∧ s.slot i = some (s.fds i) := by
  have hne : i ≠ 1024 := by
    rintro rfl
    rw [h.spare] at hu
    cases hu
  have hv : invalidFd i = false := invalidFd_eq_false_iff.mpr ⟨by omega, by rw [h.size] at hi; omega⟩
  refine ⟨(h.indexed i hi).resolve_left ?_, ?_⟩
  · intro he
    simp [Item.used, he] at hu
  · rw [slot_of_valid hv, Int.toNat_natCast, if_pos hu]

/-- A slot is an entry in use at the index of its descriptor. -/
theorem exists_slot_iff (h : s.Consistent) {fd : Int} {p : Item H D → Prop} :
    (∃ item, s.slot fd = some item ∧ p item) ↔ ∃ i < s.fdSize, fd = i ∧ (s.fds i).used = true ∧ p (s.fds i) := by
  constructor
  · rintro ⟨item, hi, hp⟩
    have hr := invalidFd_eq_false_iff.mp (valid_of_slot hi)
    obtain ⟨hf, hu⟩ := fds_of_slot hi
    exact ⟨fd.toNat, by rw [h.size]; omega, by omega, hf ▸ hu, hf ▸ hp⟩
  · rintro ⟨i, hi, rfl, hu, hp⟩
    exact ⟨_, (h.slot_of_used hi hu).2, hp⟩

/-- Every valid descriptor has its entry inside the table. -/
theorem inside (h : s.Consistent) {fd : Int} (hv : invalidFd fd = false) : fd.toNat < s.fdSize := by
  have hr := invalidFd_eq_false_iff.mp hv
  rw [h.size]
  omega

/-- An access to the entry of a valid descriptor changes nothing. -/
theorem touch (h : s.Consistent) {fd : Int} (hv : invalidFd fd = false) : s.touch fd.toNat = s := touch_of_lt (h.inside hv)

/-- One entry was stored, and the descriptor sets and `max_fd` were brought in agreement with it. -/
theorem update (h : s.Consistent) {fd : Int} (hv : invalidFd fd = false) {item : Item H D}
    (hf : item.fd = fdUnused ∨ item.fd = fd) (hfds : s'.fds = Function.update s.fds fd.toNat item)
    (hsize : s'.fdSize = s.fdSize) (hwild : s'.wild = s.wild) (hserial : s.serial ≤ s'.serial)
    (hblank : item.used = false → item.interest = opNoop) (hnumber : item.used = true → item.serial < s'.serial)
    (hr : s'.masterR = Function.update s.masterR fd (item.used && item.interest.read))
    (hw : s'.masterW = Function.update s.masterW fd (item.used && item.interest.write))
    (above : ∀ fd item, s'.slot fd = some item → fd ≤ s'.maxFd)
    (largest : s'.maxFd = 0 ∨ (s'.slot s'.maxFd).isSome = true) : s'.Consistent := by
  have hrange := invalidFd_eq_false_iff.mp hv
  have hslot : ∀ fd', s'.slot fd' = if fd' = fd then (if item.used then some item else none) else s.slot fd' := by
    intro fd'
    rw [slot_congr (s := s.setItem fd.toNat item) hfds, slot_setItem hv]
  exact {
    size := hsize.trans h.size
    indexed := fun i hi => by
      rw [hfds]
      by_cases he : i = fd.toNat
      · subst he
        rw [Function.update_self]
        exact hf.imp_right fun hf => by rw [hf]; omega
      · rw [Function.update_of_ne he]
        exact h.indexed i (hsize ▸ hi)
    spare := by
      rw [hfds, Function.update_of_ne (by omega)]
      exact h.spare
    readable := fun fd' => by
      rw [hr, hslot, Function.update_apply]
      split
      · cases item.used <;> simp
      · exact h.readable fd'
    writable := fun fd' => by
      rw [hw, hslot, Function.update_apply]
      split
      · cases item.used <;> simp
      · exact h.writable fd'
    above
    largest
    tame := hwild.trans h.tame
    blank := fun i hu => by
      rw [hfds, Function.update_apply] at hu ⊢
      split at hu
      · rw [if_pos ‹_›]
        exact hblank hu
      · rw [if_neg ‹_›]
        exact h.blank i hu
    numbered := fun i hi hu => by
      rw [hfds, Function.update_apply] at hu ⊢
      split at hu
      · rw [if_pos ‹_›]
        exact hnumber hu
      · rw [if_neg ‹_›]
        exact Nat.lt_of_lt_of_le (h.numbered i (hsize ▸ hi) hu) hserial }

/-- Setting an interest keeps the selector consistent, and changes nothing when it fails. -/
theorem selectorSetInterest (h : s.Consistent) (fd : Int) (i : FdInterest) :
    (s.selectorSetInterest fd i).1.Consistent ∧
    ((s.selectorSetInterest fd i).2 ≠ .success → (s.selectorSetInterest fd i).1 = s) := by
  have hslot := slot_selectorSetInterest s fd i
  unfold FdSelector.selectorSetInterest at hslot ⊢
  cases hv : invalidFd fd with
  | true => exact ⟨h, fun _ => rfl⟩
  | false =>
    rw [hv] at hslot
    simp only [Bool.false_eq_true, if_false, h.touch hv] at hslot ⊢
    cases hu : (s.fds fd.toNat).used with
    | false => exact ⟨h, fun _ => rfl⟩
    | true =>
      rw [hu] at hslot
      simp only [Bool.not_true, Bool.false_eq_true, if_false] at hslot ⊢
      have hfd : ((s.fds fd.toNat).withInterest i).fd = fd := by
        have := (h.slot_of_used (h.inside hv) hu).1
        have hr := invalidFd_eq_false_iff.mp hv
        show (s.fds fd.toNat).fd = fd
        omega
      refine ⟨h.update hv (.inr hfd) rfl rfl rfl (Nat.le_refl _) (fun hu' => absurd hu (by rw [show (s.fds _).used = _ from hu']; simp))
        (fun hu' => h.numbered _ (h.inside hv) hu') ?_ ?_ ?_ ?_, fun hne => absurd rfl hne⟩
      · show Function.update s.masterR ((s.fds fd.toNat).withInterest i).fd _ = _
        rw [hfd]
      · show Function.update s.masterW ((s.fds fd.toNat).withInterest i).fd _ = _
        rw [hfd]
      · intro fd' item hi
        rw [hslot] at hi
        split at hi
        · subst_vars
          obtain ⟨item', hi', _⟩ := Option.map_eq_some_iff.mp hi
          exact h.above _ item' hi'
        · exact h.above fd' item hi
      · refine h.largest.imp id fun hl => ?_
        rw [hslot]
        split
        · rename_i he
          rw [Option.isSome_map, ← he]
          exact hl
        · exact hl

/-- A registration keeps the selector consistent, and changes nothing when it fails. -/
theorem selectorRegister (h : s.Consistent) (fd : Int) (handler : Option H) (interest : FdInterest) (data : Option D)
    (alloc : Bool) :
    (s.selectorRegister fd handler interest data alloc).1.Consistent ∧
    ((s.selectorRegister fd handler interest data alloc).2 ≠ .success →
      (s.selectorRegister fd handler interest data alloc).1 = s) := by
  cases hv : invalidFd fd with
  | true =>
    rw [selectorRegister_of_invalid hv]
    exact ⟨h, fun _ => rfl⟩
  | false =>
    have hr := invalidFd_eq_false_iff.mp hv
    have hgt : ¬fd.toNat > s.fdSize := by
      have := h.inside hv
      omega
    cases handler with
    | none =>
      simp only [FdSelector.selectorRegister, Option.isNone_none, Bool.or_true, if_true]
      exact ⟨h, fun _ => trivial⟩
    | some handler =>
      cases hslot : s.slot fd with
      | some item =>
        obtain ⟨hf, hu⟩ := fds_of_slot hslot
        simp only [FdSelector.selectorRegister, hv, Option.isNone_some, Bool.or_self, Bool.false_eq_true, if_false, hgt, ne_eq,
          not_true_eq_false, h.touch hv, hf, hu, if_true]
        exact ⟨h, fun _ => trivial⟩
      | none =>
        obtain ⟨hok, _, _, hslots⟩ := selectorRegister_of_free hv (by rw [h.size]; omega) hslot handler interest data alloc
        refine ⟨?_, fun hne => absurd hok hne⟩
        have hu := not_used_of_slot_none hv hslot
        have heq : (s.selectorRegister fd (some handler) interest data alloc).1 =
            { s with
              fds := Function.update s.fds fd.toNat { fd, interest, handler := some handler, data, serial := s.serial }
              maxFd := if fd > s.maxFd then fd else s.maxFd
              masterR := Function.update s.masterR fd ((fd != fdUnused) && interest.read)
              masterW := Function.update s.masterW fd ((fd != fdUnused) && interest.write)
              serial := s.serial + 1 } := by
          simp only [FdSelector.selectorRegister, hv, Option.isNone_some, Bool.or_self, Bool.false_eq_true, if_false, hgt, ne_eq,
            not_true_eq_false, h.touch hv, hu, setItem, itemsUpdateFdsetForFd]
          by_cases hmax : fd > s.maxFd
          · simp only [hmax, if_true]
            rfl
          · simp only [hmax, if_false]
            rfl
        rw [heq] at hslots ⊢
        have hne : (fd != fdUnused) = true := by simp [fdUnused]; omega
        refine h.update hv (.inr rfl) rfl rfl rfl (Nat.le_succ _) (fun hu' => absurd (hne.symm.trans hu') (by simp))
          (fun _ => Nat.lt_succ_self _) rfl rfl (fun fd' item hi => ?_) ?_
        · rw [hslots] at hi
          show fd' ≤ if fd > s.maxFd then fd else s.maxFd
          split at hi
          · subst_vars
            split <;> omega
          · have := h.above fd' item hi
            split <;> omega
        · show (if fd > s.maxFd then fd else s.maxFd) = 0 ∨
            (FdSelector.slot _ (if fd > s.maxFd then fd else s.maxFd)).isSome = true
          rw [hslots]
          split
          · rw [if_pos rfl]
            exact .inr rfl
          · refine h.largest.imp id fun hl => ?_
            split
            · rfl
            · exact hl

/-- Clearing a bit that is not set changes nothing. -/
theorem update_false {f : Int → Bool} {fd : Int} (h : f fd = false) : Function.update f fd false = f := by
  rw [← h, Function.update_eq_self]

/-- The end of an unregistration keeps the selector consistent. -/
theorem clearItem (h : s.Consistent) {fd : Int} (hv : invalidFd fd = false) : (s.clearItem fd).Consistent := by
  have hr := invalidFd_eq_false_iff.mp hv
  -- the bits cleared are those of the slot, or of no descriptor if the slot was not in use
  have hbits : ∀ f : Int → Bool, (∀ fd', s.slot fd' = none → f fd' = false) →
      Function.update f ((s.fds fd.toNat).withInterest opNoop).fd false = Function.update f fd false := by
    intro f hf
    show Function.update f (s.fds fd.toNat).fd false = _
    cases hu : (s.fds fd.toNat).used with
    | true =>
      have hx : (s.fds fd.toNat).fd = fd := by
        have := (h.slot_of_used (h.inside hv) hu).1
        omega
      rw [hx]
    | false =>
      have hx : (s.fds fd.toNat).fd = -1 := by simpa [Item.used, fdUnused] using hu
      rw [hx, update_false (hf (-1) (slot_neg_one s)), update_false (hf fd (by rw [slot_of_valid hv, hu]; rfl))]
  have hslot := slot_clearItem (s := s) hv
  have hfds := clearItem_fds s fd
  have hused : ∀ i, ((s.clearItem fd).fds i).used = true → (s.clearItem fd).fds i = s.fds i ∧ (i : Int) ≠ fd := by
    intro i hui
    rw [hfds] at hui ⊢
    have hne : i ≠ fd.toNat := by
      rintro rfl
      simp [setItem, Item.itemInit, Item.used] at hui
    exact ⟨Function.update_of_ne hne _ _, by omega⟩
  -- the scan runs over the slots up to the old `max_fd`, which is above every slot in use
  have hscan : (∀ i, i ≤ s.maxFd.toNat → ((s.clearItem fd).fds i).used = true →
        ((s.clearItem fd).fds i).fd ≤ (s.clearItem fd).maxFd) ∧
      ((s.clearItem fd).maxFd = 0 ∨ ∃ i, i ≤ s.maxFd.toNat ∧ ((s.clearItem fd).fds i).used = true ∧
        ((s.clearItem fd).fds i).fd = (s.clearItem fd).maxFd) :=
    itemsMaxFd_spec { s.clearItem fd with maxFd := s.maxFd }
  have hslots : ∀ fd' item', (s.clearItem fd).slot fd' = some item' → ∃ i : Nat, (i : Int) = fd' ∧ i ≤ s.maxFd.toNat ∧
      (s.clearItem fd).fds i = item' ∧ item'.used = true ∧ item'.fd = fd' := by
    intro fd' item' hi'
    have hr' := invalidFd_eq_false_iff.mp (valid_of_slot hi')
    obtain ⟨hf', hu'⟩ := fds_of_slot hi'
    rw [hslot] at hi'
    split at hi'
    · cases hi'
    · have ha := h.above fd' item' hi'
      have hx := (h.slot_of_used (h.inside (valid_of_slot hi')) ((fds_of_slot hi').1 ▸ hu')).1
      rw [(fds_of_slot hi').1] at hx
      exact ⟨fd'.toNat, by omega, by omega, hf', hu', by omega⟩
  refine h.update hv (.inl rfl) hfds rfl rfl (Nat.le_refl _) (fun _ => rfl) (fun hu => by cases hu) ?_ ?_
    (fun fd' item' hi' => ?_) ?_
  · show Function.update s.masterR _ (_ && false) = Function.update s.masterR fd false
    rw [Bool.and_false]
    exact hbits _ fun fd' hn => by rw [h.readable, hn]; rfl
  · show Function.update s.masterW _ (_ && false) = Function.update s.masterW fd false
    rw [Bool.and_false]
    exact hbits _ fun fd' hn => by rw [h.writable, hn]; rfl
  · obtain ⟨i, hi, hle, hf', hu', hfd'⟩ := hslots fd' item' hi'
    have := hscan.1 i hle (hf' ▸ hu')
    rw [hf'] at this
    omega
  · refine hscan.2.imp id ?_
    rintro ⟨i, hle, hui, hmax⟩
    obtain ⟨hold, hne⟩ := hused i hui
    have hlt : i < s.fdSize := by
      have hm := h.largest
      rw [h.size]
      rcases hm with hm | hm
      · omega
      · obtain ⟨_, hm⟩ := Option.isSome_iff_exists.mp hm
        have := invalidFd_eq_false_iff.mp (valid_of_slot hm)
        omega
    rw [hold] at hui hmax
    obtain ⟨hx, hs⟩ := h.slot_of_used hlt hui
    rw [← hmax, hx, hslot, if_neg hne, hs]
    rfl

/-- An unregistration keeps the selector consistent if its callback does, and changes nothing when it fails: a failure is noticed
before the callback is called. -/
theorem selectorUnregisterFd {σ : Type} [SelectorWorld σ H D] {handleClose : Option H → SelectorKey D → σ → σ} {w : σ} {fd : Int}
    (h : (SelectorWorld.selector w).Consistent)
    (hclose : ∀ handler key (w' : σ), SelectorWorld.selector w' = SelectorWorld.selector w →
      (SelectorWorld.selector (handleClose handler key w')).Consistent) :
    (SelectorWorld.selector (SocksProxy.selectorUnregisterFd handleClose w fd).1).Consistent ∧
    ((SocksProxy.selectorUnregisterFd handleClose w fd).2 ≠ .success →
      SelectorWorld.selector (SocksProxy.selectorUnregisterFd handleClose w fd).1 = SelectorWorld.selector w) := by
  unfold SocksProxy.selectorUnregisterFd
  cases hv : invalidFd fd with
  | true => exact ⟨h, fun _ => rfl⟩
  | false =>
    have hw : SelectorWorld.selector (onSelector (·.touch fd.toNat) w) = SelectorWorld.selector w := by
      rw [onSelector, SelectorWorld.selector_setSelector, h.touch hv]
    simp only [Bool.false_eq_true, if_false, hw]
    cases hu : ((SelectorWorld.selector w).fds fd.toNat).used with
    | false =>
      simp only [Bool.not_false, if_true, hw]
      exact ⟨h, fun _ => trivial⟩
    | true =>
      simp only [Bool.not_true, Bool.false_eq_true, if_false]
      refine ⟨?_, fun hne => absurd rfl hne⟩
      rw [onSelector, SelectorWorld.selector_setSelector]
      exact (hclose _ _ _ hw).clearItem hv

end Consistent

end FdSelector

end SocksProxy
