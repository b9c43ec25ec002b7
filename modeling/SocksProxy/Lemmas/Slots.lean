import SocksProxy.Selector

/-!
# The operations of the selector, slot by slot

What each operation does to the slot of each descriptor. The rest of the development reads the selector through
`FdSelector.slot` and these equations, and never unfolds its operations.
-/

namespace SocksProxy

variable {H D : Type}

/-- A valid descriptor is a natural number below `ITEMS_MAX_SIZE`. -/
theorem invalidFd_eq_false_iff {fd : Int} : invalidFd fd = false ↔ 0 ≤ fd ∧ fd < 1024 := by
  simp [invalidFd, itemsMaxSize]

/-- -1 is not a valid descriptor. -/
@[simp] theorem invalidFd_neg_one : invalidFd (-1) = true := by decide

/-- Two valid descriptors with the same index are the same. -/
theorem eq_of_toNat_eq {fd fd' : Int} (h : invalidFd fd = false) (h' : invalidFd fd' = false) (e : fd.toNat = fd'.toNat) :
    fd = fd' := by
  rw [invalidFd_eq_false_iff] at h h'
  omega

namespace FdSelector

/-- A slot in use belongs to a valid descriptor. -/
theorem valid_of_slot {s : FdSelector H D} {fd : Int} {item : Item H D} (h : s.slot fd = some item) :
    invalidFd fd = false := by
  unfold slot at h
  split at h
  · cases h
  · simpa using ‹¬invalidFd fd = true›

/-- No slot belongs to an invalid descriptor. -/
theorem slot_of_invalid {s : FdSelector H D} {fd : Int} (h : invalidFd fd = true) : s.slot fd = none := by
  simp [slot, h]

/-- -1 names no slot. -/
@[simp] theorem slot_neg_one (s : FdSelector H D) : s.slot (-1) = none :=
  slot_of_invalid invalidFd_neg_one

/-- The slot of a valid descriptor. -/
theorem slot_of_valid {s : FdSelector H D} {fd : Int} (h : invalidFd fd = false) :
    s.slot fd = if (s.fds fd.toNat).used then some (s.fds fd.toNat) else none := by
  simp [slot, h]

/-- A slot in use is what the table holds at its index. -/
theorem fds_of_slot {s : FdSelector H D} {fd : Int} {item : Item H D} (h : s.slot fd = some item) :
    s.fds fd.toNat = item ∧ item.used = true := by
  rw [slot_of_valid (valid_of_slot h)] at h
  split at h
  · cases h
    exact ⟨rfl, ‹_›⟩
  · cases h

/-- The table's entry of a valid descriptor that has no slot is not in use. -/
theorem not_used_of_slot_none {s : FdSelector H D} {fd : Int} (hv : invalidFd fd = false) (h : s.slot fd = none) :
    (s.fds fd.toNat).used = false := by
  rw [slot_of_valid hv] at h
  split at h
  · cases h
  · rename_i hu
    simpa using hu

/-- Slots depend on the table only. -/
theorem slot_congr {s s' : FdSelector H D} (h : s'.fds = s.fds) (fd : Int) : s'.slot fd = s.slot fd := by
  simp [slot, h]

@[simp] theorem touch_fds (s : FdSelector H D) (i : Nat) : (s.touch i).fds = s.fds := by
  unfold touch
  split <;> rfl

@[simp] theorem slot_touch (s : FdSelector H D) (i : Nat) (fd : Int) : (s.touch i).slot fd = s.slot fd :=
  slot_congr (touch_fds s i) fd

@[simp] theorem touch_fdSize (s : FdSelector H D) (i : Nat) : (s.touch i).fdSize = s.fdSize := by
  unfold touch
  split <;> rfl

@[simp] theorem touch_resolutionJobs (s : FdSelector H D) (i : Nat) : (s.touch i).resolutionJobs = s.resolutionJobs := by
  unfold touch
  split <;> rfl

/-- An access inside the table changes nothing. -/
theorem touch_of_lt {s : FdSelector H D} {i : Nat} (h : i < s.fdSize) : s.touch i = s := by
  simp [touch, h]

@[simp] theorem slot_itemsUpdateFdsetForFd (s : FdSelector H D) (item : Item H D) (fd : Int) :
    (s.itemsUpdateFdsetForFd item).slot fd = s.slot fd := rfl

/-- Storing an entry changes the slot of its descriptor only. -/
theorem slot_setItem {s : FdSelector H D} {fd : Int} (hv : invalidFd fd = false) (item : Item H D) (fd' : Int) :
    (s.setItem fd.toNat item).slot fd' =
      if fd' = fd then (if item.used then some item else none) else s.slot fd' := by
  by_cases hv' : invalidFd fd' = true
  · have hne : fd' ≠ fd := by
      rintro rfl
      rw [hv] at hv'
      cases hv'
    simp [slot_of_invalid hv', hne]
  · have hv' : invalidFd fd' = false := by simpa using hv'
    rw [slot_of_valid hv', slot_of_valid hv']
    by_cases he : fd' = fd
    · subst he
      simp [setItem]
    · have : fd'.toNat ≠ fd.toNat := fun e => he (eq_of_toNat_eq hv' hv e)
      simp [setItem, he, this]

/-- Setting the interest of a descriptor changes the interest of its slot, if it has one, and nothing else. -/
theorem slot_selectorSetInterest (s : FdSelector H D) (fd : Int) (i : FdInterest) (fd' : Int) :
    (s.selectorSetInterest fd i).1.slot fd' =
      if fd' = fd then (s.slot fd).map (·.withInterest i) else s.slot fd' := by
  unfold selectorSetInterest
  cases hv : invalidFd fd with
  | true =>
    simp only [if_true]
    by_cases he : fd' = fd
    · subst he
      simp [slot_of_invalid hv]
    · simp [he]
  | false =>
    simp only [Bool.false_eq_true, if_false, touch_fds]
    cases hu : (s.fds fd.toNat).used with
    | false =>
      simp only [Bool.not_false, if_true, slot_touch]
      by_cases he : fd' = fd
      · subst he
        simp [slot_of_valid hv, hu]
      · simp [he]
    | true =>
      simp only [Bool.not_true, Bool.false_eq_true, if_false]
      have hu' : ((s.fds fd.toNat).withInterest i).used = true := hu
      rw [slot_itemsUpdateFdsetForFd, slot_setItem hv, slot_touch, slot_of_valid hv, hu, hu']
      simp

@[simp] theorem selectorSetInterest_fdSize (s : FdSelector H D) (fd : Int) (i : FdInterest) :
    (s.selectorSetInterest fd i).1.fdSize = s.fdSize := by
  unfold selectorSetInterest
  split
  · rfl
  · simp only
    split <;> simp [setItem, itemsUpdateFdsetForFd]

@[simp] theorem selectorSetInterest_resolutionJobs (s : FdSelector H D) (fd : Int) (i : FdInterest) :
    (s.selectorSetInterest fd i).1.resolutionJobs = s.resolutionJobs := by
  unfold selectorSetInterest
  split
  · rfl
  · simp only
    split <;> simp [setItem, itemsUpdateFdsetForFd]

/-- The end of an unregistration stores an unused entry. -/
theorem clearItem_fds (s : FdSelector H D) (fd : Int) :
    (s.clearItem fd).fds = (s.setItem fd.toNat (Item.itemInit Item.zeroed)).fds := by
  simp [clearItem, setItem, itemsUpdateFdsetForFd]

/-- The end of an unregistration empties the slot of its descriptor and no other. -/
theorem slot_clearItem {s : FdSelector H D} {fd : Int} (hv : invalidFd fd = false) (fd' : Int) :
    (s.clearItem fd).slot fd' = if fd' = fd then none else s.slot fd' := by
  rw [slot_congr (clearItem_fds s fd), slot_setItem hv]
  rfl

@[simp] theorem clearItem_fdSize (s : FdSelector H D) (fd : Int) : (s.clearItem fd).fdSize = s.fdSize := rfl

@[simp] theorem clearItem_resolutionJobs (s : FdSelector H D) (fd : Int) :
    (s.clearItem fd).resolutionJobs = s.resolutionJobs := rfl

/-- The registration of a descriptor that cannot be stored. -/
theorem selectorRegister_of_invalid {s : FdSelector H D} {fd : Int} (hv : invalidFd fd = true) (h : Option H)
    (i : FdInterest) (d : Option D) (alloc : Bool) : s.selectorRegister fd h i d alloc = (s, .iargs) := by
  simp [selectorRegister, hv]

/-- The registration of a free descriptor inside the table succeeds and stores the slot it was given. -/
theorem selectorRegister_of_free {s : FdSelector H D} {fd : Int} (hv : invalidFd fd = false) (hs : 1024 ≤ s.fdSize)
    (hf : s.slot fd = none) (h : H) (i : FdInterest) (d : Option D) (alloc : Bool) :
    (s.selectorRegister fd (some h) i d alloc).2 = .success ∧
    (s.selectorRegister fd (some h) i d alloc).1.fdSize = s.fdSize ∧
    (s.selectorRegister fd (some h) i d alloc).1.resolutionJobs = s.resolutionJobs ∧
    ∀ fd', (s.selectorRegister fd (some h) i d alloc).1.slot fd' =
      if fd' = fd then some { fd, interest := i, handler := some h, data := d, serial := s.serial } else s.slot fd' := by
  have hr := invalidFd_eq_false_iff.mp hv
  have hgt : ¬fd.toNat > s.fdSize := by omega
  have hlt : fd.toNat < s.fdSize := by omega
  have hu := not_used_of_slot_none hv hf
  have hu' : Item.used ({ fd, interest := i, handler := some h, data := d, serial := s.serial } : Item H D) = true := by
    simp [Item.used, fdUnused]
    omega
  unfold selectorRegister
  simp only [hv, Option.isNone_some, Bool.or_self, Bool.false_eq_true, if_false, hgt, ne_eq, not_true_eq_false,
    touch_of_lt hlt, hu]
  refine ⟨trivial, ?_, ?_, fun fd' => ?_⟩
  · split <;> rfl
  · split <;> rfl
  · rw [slot_congr (s := s.setItem fd.toNat { fd, interest := i, handler := some h, data := d, serial := s.serial })
      (by split <;> rfl), slot_setItem hv, hu', if_pos rfl]

end FdSelector

end SocksProxy
