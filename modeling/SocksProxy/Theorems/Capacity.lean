import SocksProxy.Theorems.SelectorState
import Mathlib.Algebra.Ring.Nat

/-!
# The size of the table

Whether the selector stays inside its table, for a table of any initial size. The selector grows its table in one place only, the
test of `selector_register`, and that test forgets one descriptor: the one equal to the size. The other operations take a
descriptor that was never registered as it is.

A selector is used here by single steps in program order, so that the calls made by a callback stand between the call that runs
it and the rest of that call.
-/

namespace SocksProxy

variable {H D : Type}

/-- A selector, and the unregistrations whose callback is running, innermost first. -/
structure SelectorCalls (H D : Type) where
  selector : FdSelector H D
  closing : List Int

/-- A step of the selector's user. A call of `selector_unregister_fd` is two steps, one up to its callback and one after it. -/
inductive SelectorStep (H D : Type) where
  | register (fd : Int) (handler : Option H) (interest : FdInterest) (data : Option D)
  | setInterest (fd : Int) (interest : FdInterest)
  | unregister (fd : Int)
  | closeReturns
  | notifyBlock (fd : Nat)
  | handleBlock

namespace FdSelector

/-- The accesses of a loop over the slots up to `last`. -/
def touchUpTo (s : FdSelector H D) (last : Int) : FdSelector H D :=
  (List.range (last.toNat + 1)).foldl touch s

/-- `selector_unregister_fd` after its callback: the slot again, and the slots `items_max_fd` looks at. -/
def closeReturns (s : FdSelector H D) (fd : Int) : FdSelector H D :=
  ((s.touch fd.toNat).touchUpTo s.maxFd).clearItem fd

end FdSelector

namespace SelectorCalls

/-- Apply an operation to the selector. -/
def onSelector (f : FdSelector H D → FdSelector H D) (c : SelectorCalls H D) : SelectorCalls H D :=
  { c with selector := f c.selector }

/-- One step. Allocations succeed; a turn of the loop of `handle_block_notifications` takes one notification. -/
def step (c : SelectorCalls H D) : SelectorStep H D → SelectorCalls H D
  | .register fd handler interest data => c.onSelector fun s => (s.selectorRegister fd handler interest data true).1
  | .setInterest fd interest => c.onSelector fun s => (s.selectorSetInterest fd interest).1
  | .unregister fd =>
    if invalidFd fd then c
    else
      let c := c.onSelector (·.touch fd.toNat)
      if (c.selector.fds fd.toNat).used then { c with closing := fd :: c.closing } else c
  | .closeReturns =>
    match c.closing with
    | [] => c
    | fd :: closing => { selector := c.selector.closeReturns fd, closing }
  | .notifyBlock fd => c.onSelector (·.pushJob fd)
  | .handleBlock =>
    match c.selector.resolutionJobs with
    | [] => c
    | fd :: jobs => c.onSelector fun s => { s.touch fd.toNat with resolutionJobs := jobs }

/-- The steps one after another, from `selector_new(n)`. -/
def run (n : Nat) (es : List (SelectorStep H D)) : SelectorCalls H D :=
  es.foldl step { selector := (FdSelector.selectorNew n true).1, closing := [] }

end SelectorCalls

namespace SelectorStep

/-- The step asks for no slot past the table: a registration that is not refused names any descriptor but the one equal to the
size, and every other call names a descriptor below the size. -/
def Fits (c : SelectorCalls H D) : SelectorStep H D → Prop
  | .register fd handler _ _ => invalidFd fd = true ∨ handler = none ∨ fd.toNat ≠ c.selector.fdSize
  | .setInterest fd _ => invalidFd fd = true ∨ fd.toNat < c.selector.fdSize
  | .unregister fd => invalidFd fd = true ∨ fd.toNat < c.selector.fdSize
  | .handleBlock => ∀ fd ∈ c.selector.resolutionJobs.head?, fd.toNat < c.selector.fdSize
  | .closeReturns => True
  | .notifyBlock _ => True

instance (c : SelectorCalls H D) (e : SelectorStep H D) : Decidable (e.Fits c) := by
  cases e <;> unfold Fits <;> infer_instance

end SelectorStep

/-- One turn more of the loop of `next_capacity` is one bit more. -/
theorem countBits_succ (turns tmp bits : Nat) : countBits turns tmp (bits + 1) = countBits turns tmp bits + 1 := by
  induction turns generalizing tmp bits with
  | zero => rfl
  | succ turns ih =>
    unfold countBits
    split
    · exact ih _ _
    · rfl

/-- The loop of `next_capacity` finds enough bits. -/
theorem lt_two_pow_countBits {turns n : Nat} (h : n < 2 ^ turns) : n < 2 ^ countBits turns n 0 := by
  induction turns generalizing n with
  | zero =>
    have : n = 0 := by omega
    subst this
    exact Nat.one_pos
  | succ turns ih =>
    unfold countBits
    split
    · rw [countBits_succ, Nat.pow_succ, Nat.shiftRight_eq_div_pow, Nat.pow_one]
      have : n / 2 < 2 ^ countBits turns (n / 2) 0 := ih (by rw [Nat.pow_succ] at h; omega)
      omega
    · have : n = 0 := by omega
      subst this
      exact Nat.one_pos

/-- The size to grow to has room for the descriptor asked for. -/
theorem lt_nextCapacity {n : Nat} (h : n ≤ itemsMaxSize) : n < nextCapacity n := by
  have hbits : n < 2 ^ countBits 64 n 0 := lt_two_pow_countBits (by rw [itemsMaxSize] at h; omega)
  unfold nextCapacity
  simp only [Nat.one_shiftLeft]
  split <;> omega

namespace FdSelector

/-- A loop that stays inside the table changes nothing. -/
theorem touchUpTo_of_lt {s : FdSelector H D} {last : Int} (hpos : 0 < s.fdSize) (h : last < s.fdSize) :
    s.touchUpTo last = s := by
  have hall : ∀ i ∈ List.range (last.toNat + 1), s.touch i = s := by
    intro i hi
    rw [List.mem_range] at hi
    exact touch_of_lt (by omega)
  unfold touchUpTo
  generalize List.range (last.toNat + 1) = is at hall
  induction is with
  | nil => rfl
  | cons i is ih =>
    rw [List.foldl_cons, hall i (List.mem_cons_self ..)]
    exact ih fun j hj => hall j (List.mem_cons_of_mem _ hj)

/-- The table a registration stores its slot in. -/
def grown (s : FdSelector H D) (n : Nat) (alloc : Bool) : FdSelector H D × SelectorStatus :=
  if n > s.fdSize then s.ensureCapacity n alloc else (s, .success)

/-- A registration, once there is room for it. -/
def place (s : FdSelector H D) (fd : Int) (handler : Option H) (interest : FdInterest) (data : Option D) :
    FdSelector H D × SelectorStatus :=
  let s := s.touch fd.toNat
  if (s.fds fd.toNat).used then (s, .fdinuse)
  else
    let item := { fd, interest, handler, data, serial := s.serial }
    let s := { s.setItem fd.toNat item with serial := s.serial + 1 }
    let s := if fd > s.maxFd then { s with maxFd := fd } else s
    (s.itemsUpdateFdsetForFd item, .success)

/-- A registration grows the table and then stores its slot. -/
theorem selectorRegister_eq (s : FdSelector H D) (fd : Int) (handler : Option H) (interest : FdInterest) (data : Option D)
    (alloc : Bool) : s.selectorRegister fd handler interest data alloc =
      if invalidFd fd || handler.isNone then (s, .iargs)
      else if (s.grown fd.toNat alloc).2 ≠ .success then s.grown fd.toNat alloc
      else (s.grown fd.toNat alloc).1.place fd handler interest data := rfl

/-- No access fell outside the table, and none of the loops up to `max_fd` can: no slot holds a descriptor past the table. -/
structure InTable (s : FdSelector H D) : Prop where
  tame : s.wild = false
  nonempty : 0 < s.fdSize
  held : ∀ i < s.fdSize, (s.fds i).fd < s.fdSize
  top : s.maxFd < s.fdSize

namespace InTable

variable {s : FdSelector H D}

/-- `ensure_capacity` makes the room it was asked for. -/
theorem ensureCapacity (h : s.InTable) {n : Nat} (hn : n ≤ itemsMaxSize) :
    (s.ensureCapacity n true).1.InTable ∧ (s.ensureCapacity n true).2 = .success ∧
    n < (s.ensureCapacity n true).1.fdSize ∧ s.fdSize ≤ (s.ensureCapacity n true).1.fdSize := by
  unfold FdSelector.ensureCapacity
  by_cases hlt : n < s.fdSize
  · rw [if_pos hlt]
    exact ⟨h, rfl, hlt, Nat.le_refl _⟩
  · rw [if_neg hlt, if_neg (Nat.not_lt.mpr hn), if_pos rfl]
    have hroom := lt_nextCapacity hn
    have htop := h.top
    refine ⟨⟨h.tame, ?_, fun i hi => ?_, ?_⟩, rfl, hroom, ?_⟩
    · show 0 < nextCapacity n
      omega
    · show (if s.fdSize ≤ i ∧ i < nextCapacity n then (s.fds i).itemInit else s.fds i).fd < (nextCapacity n : Int)
      split
      · show fdUnused < (nextCapacity n : Int)
        unfold fdUnused
        omega
      · have hheld := h.held i (by change i < nextCapacity n at hi; omega)
        omega
    · show s.maxFd < (nextCapacity n : Int)
      omega
    · show s.fdSize ≤ nextCapacity n
      omega

/-- Storing a slot that holds no descriptor past the table. -/
theorem setItem (h : s.InTable) (i : Nat) (item : Item H D) (hitem : item.fd < s.fdSize) : (s.setItem i item).InTable where
  tame := h.tame
  nonempty := h.nonempty
  held := by
    intro j hj
    show (Function.update s.fds i item j).fd < (s.fdSize : Int)
    by_cases hji : j = i
    · subst hji
      rwa [Function.update_self]
    · rw [Function.update_of_ne hji]
      exact h.held j hj
  top := h.top

/-- The growth a registration asks for leaves room for every descriptor but the one equal to the size. -/
theorem grown (h : s.InTable) {fd : Int} (hv : invalidFd fd = false) (hne : fd.toNat ≠ s.fdSize) :
    (s.grown fd.toNat true).1.InTable ∧ (s.grown fd.toNat true).2 = .success ∧
    fd.toNat < (s.grown fd.toNat true).1.fdSize ∧ s.fdSize ≤ (s.grown fd.toNat true).1.fdSize := by
  have hr := invalidFd_eq_false_iff.mp hv
  unfold FdSelector.grown
  split
  · exact h.ensureCapacity (by rw [itemsMaxSize]; omega)
  · exact ⟨h, rfl, by dsimp only; omega, Nat.le_refl _⟩

/-- Storing a slot there is room for. -/
theorem place (h : s.InTable) {fd : Int} (hlt : fd.toNat < s.fdSize) (hpos : 0 ≤ fd) (handler : H) (interest : FdInterest)
    (data : Option D) : (s.place fd (some handler) interest data).1.InTable ∧
      (s.place fd (some handler) interest data).1.fdSize = s.fdSize := by
  unfold FdSelector.place
  rw [touch_of_lt hlt]
  dsimp only
  split
  · exact ⟨h, rfl⟩
  · have hset := h.setItem fd.toNat { fd, interest, handler := some handler, data, serial := s.serial }
      (by show fd < _; omega)
    have htop := hset.top
    split
    · exact ⟨⟨hset.tame, hset.nonempty, hset.held, by show fd < (s.fdSize : Int); omega⟩, rfl⟩
    · exact ⟨⟨hset.tame, hset.nonempty, hset.held, htop⟩, rfl⟩

/-- A registration of any descriptor but the one equal to the size. -/
theorem selectorRegister (h : s.InTable) {fd : Int} (hv : invalidFd fd = false) (handler : H) (interest : FdInterest)
    (data : Option D) (hne : fd.toNat ≠ s.fdSize) :
    (s.selectorRegister fd (some handler) interest data true).1.InTable ∧
    s.fdSize ≤ (s.selectorRegister fd (some handler) interest data true).1.fdSize := by
  obtain ⟨hin, hok, hlt, hle⟩ := h.grown hv hne
  simp only [selectorRegister_eq, hv, Option.isNone_some, Bool.or_self, Bool.false_eq_true, if_false]
  rw [if_neg (not_not_intro hok)]
  obtain ⟨hplaced, hsize⟩ := hin.place hlt (invalidFd_eq_false_iff.mp hv).1 handler interest data
  exact ⟨hplaced, hsize ▸ hle⟩

/-- A change of interest of a descriptor below the size. -/
theorem selectorSetInterest (h : s.InTable) {fd : Int} (hlt : fd.toNat < s.fdSize) (interest : FdInterest) :
    (s.selectorSetInterest fd interest).1.InTable ∧ (s.selectorSetInterest fd interest).1.fdSize = s.fdSize := by
  unfold FdSelector.selectorSetInterest
  split
  · exact ⟨h, rfl⟩
  · dsimp only
    rw [touch_of_lt hlt]
    split
    · exact ⟨h, rfl⟩
    · have hset := h.setItem fd.toNat ((s.fds fd.toNat).withInterest interest) (h.held _ hlt)
      exact ⟨⟨hset.tame, hset.nonempty, hset.held, hset.top⟩, rfl⟩

/-- The end of an unregistration of a descriptor below the size. -/
theorem closeReturns (h : s.InTable) {fd : Int} (hlt : fd.toNat < s.fdSize) :
    (s.closeReturns fd).InTable ∧ (s.closeReturns fd).fdSize = s.fdSize := by
  unfold FdSelector.closeReturns
  rw [touch_of_lt hlt, touchUpTo_of_lt h.nonempty h.top]
  refine ⟨?_, rfl⟩
  have hoff := h.setItem fd.toNat ((s.fds fd.toNat).withInterest opNoop) (h.held _ hlt)
  have hnone := hoff.setItem fd.toNat (Item.itemInit Item.zeroed) (by show fdUnused < _; unfold fdUnused; omega)
  unfold clearItem
  refine ⟨h.tame, h.nonempty, hnone.held, ?_⟩
  -- the new `max_fd` is zero or held by a slot up to the old one
  obtain ⟨_, hzero | ⟨i, hi, _, hfd⟩⟩ := itemsMaxFd_spec
    ((s.setItem fd.toNat ((s.fds fd.toNat).withInterest opNoop)).itemsUpdateFdsetForFd
      ((s.fds fd.toNat).withInterest opNoop) |>.setItem fd.toNat (Item.itemInit Item.zeroed))
  · show itemsMaxFd _ < (s.fdSize : Int)
    rw [hzero]
    have := h.nonempty
    omega
  · show itemsMaxFd _ < (s.fdSize : Int)
    rw [← hfd]
    have htop := h.top
    have hpos := h.nonempty
    exact hnone.held i (by change i ≤ s.maxFd.toNat at hi; change i < s.fdSize; omega)

end InTable

end FdSelector

namespace SelectorCalls

variable {c : SelectorCalls H D}

/-- No access fell outside the table, and the slots whose callback is running lie inside. -/
structure InTable (c : SelectorCalls H D) : Prop where
  selector : c.selector.InTable
  closing : ∀ fd ∈ c.closing, fd.toNat < c.selector.fdSize

/-- An operation that keeps the table, or grows it. -/
theorem InTable.onSelector (h : c.InTable) {f : FdSelector H D → FdSelector H D} (hin : (f c.selector).InTable)
    (hle : c.selector.fdSize ≤ (f c.selector).fdSize) : (c.onSelector f).InTable where
  selector := hin
  closing := by
    intro fd hfd
    exact Nat.lt_of_lt_of_le (h.closing fd hfd) hle

/-- The fresh selector. -/
theorem InTable.start {n : Nat} (hn : n ≤ itemsMaxSize) : (run n [] : SelectorCalls H D).InTable where
  selector := by
    have hroom := lt_nextCapacity hn
    show ((FdSelector.cleared (H := H) (D := D)).ensureCapacity n true).1.InTable
    unfold FdSelector.ensureCapacity
    rw [if_neg (show ¬n < FdSelector.cleared.fdSize from Nat.not_lt_zero n), if_neg (Nat.not_lt.mpr hn), if_pos rfl]
    refine ⟨rfl, ?_, fun i hi => ?_, ?_⟩
    · show 0 < nextCapacity n
      omega
    · show (if 0 ≤ i ∧ i < nextCapacity n then (Item.zeroed (H := H) (D := D)).itemInit else Item.zeroed).fd < _
      rw [if_pos ⟨Nat.zero_le i, hi⟩]
      show fdUnused < (nextCapacity n : Int)
      unfold fdUnused
      omega
    · show (0 : Int) < (nextCapacity n : Int)
      omega
  closing := by
    intro fd hfd
    cases hfd

/-- A step that asks for no slot past the table stays inside. -/
theorem InTable.step (h : c.InTable) {e : SelectorStep H D} (hfits : e.Fits c) : (c.step e).InTable := by
  cases e with
  | register fd handler interest data =>
    by_cases hno : (invalidFd fd || handler.isNone) = true
    · have hsame : (c.selector.selectorRegister fd handler interest data true).1 = c.selector := by
        rw [FdSelector.selectorRegister_eq, if_pos hno]
      simp only [SelectorCalls.step]
      refine h.onSelector ?_ ?_
      · rw [hsame]
        exact h.selector
      · rw [hsame]
    · rw [Bool.or_eq_true, not_or, Bool.not_eq_true, Bool.not_eq_true] at hno
      obtain ⟨hv, hsome⟩ := hno
      cases handler with
      | none => cases hsome
      | some handler =>
        obtain hbad | hnone | hne := hfits
        · rw [hv] at hbad
          cases hbad
        · cases hnone
        · obtain ⟨hin, hle⟩ := h.selector.selectorRegister hv handler interest data hne
          simp only [SelectorCalls.step]
          refine h.onSelector ?_ ?_
          · exact hin
          · exact hle
  | setInterest fd interest =>
    obtain hv | hlt := hfits
    · have hsame : (c.selector.selectorSetInterest fd interest).1 = c.selector := by
        unfold FdSelector.selectorSetInterest
        rw [if_pos hv]
      simp only [SelectorCalls.step]
      refine h.onSelector ?_ ?_
      · rw [hsame]
        exact h.selector
      · rw [hsame]
    · obtain ⟨hin, hsize⟩ := h.selector.selectorSetInterest hlt interest
      simp only [SelectorCalls.step]
      refine h.onSelector ?_ ?_
      · exact hin
      · exact Nat.le_of_eq hsize.symm
  | unregister fd =>
    simp only [SelectorCalls.step]
    split
    · exact h
    · have hlt := hfits.resolve_left ‹_›
      simp only [SelectorCalls.onSelector, FdSelector.touch_of_lt hlt]
      split
      · refine ⟨h.selector, fun fd' hfd' => ?_⟩
        obtain rfl | hfd' := List.mem_cons.mp hfd'
        · exact hlt
        · exact h.closing fd' hfd'
      · exact h
  | closeReturns =>
    simp only [SelectorCalls.step]
    split
    · exact h
    · rename_i fd closing he
      have hclosing := h.closing
      rw [he] at hclosing
      obtain ⟨hin, hsize⟩ := h.selector.closeReturns (hclosing fd (List.mem_cons_self ..))
      refine ⟨hin, fun fd' hfd' => ?_⟩
      dsimp only
      rw [hsize]
      exact hclosing fd' (List.mem_cons_of_mem _ hfd')
  | notifyBlock fd =>
    have hin := h.selector
    simp only [SelectorCalls.step]
    refine h.onSelector ?_ ?_
    · exact ⟨hin.tame, hin.nonempty, hin.held, hin.top⟩
    · exact Nat.le_refl _
  | handleBlock =>
    simp only [SelectorCalls.step]
    split
    · exact h
    · rename_i fd jobs he
      have hlt : fd.toNat < c.selector.fdSize := hfits fd (by rw [he]; rfl)
      have hin := h.selector
      refine h.onSelector ?_ ?_
      · rw [FdSelector.touch_of_lt hlt]
        exact ⟨hin.tame, hin.nonempty, hin.held, hin.top⟩
      · rw [FdSelector.touch_of_lt hlt]

/-- Where the table has room, the two steps of an unregistration, with the callback's own steps between them, are
`selector_unregister_fd`. -/
theorem selectorUnregisterFd_eq {callback : FdSelector H D → FdSelector H D} {inside : List (SelectorStep H D)}
    (hinside : ∀ s closing, inside.foldl step { selector := s, closing } = { selector := callback s, closing })
    {s : FdSelector H D} {fd : Int} (hv : invalidFd fd = false) (hused : (s.fds fd.toNat).used = true)
    (hroom : (callback (s.touch fd.toNat)).InTable) (hlt : fd.toNat < (callback (s.touch fd.toNat)).fdSize) (closing : List Int) :
    (.unregister fd :: (inside ++ [.closeReturns])).foldl step { selector := s, closing } =
      { selector := (selectorUnregisterFd (fun _ _ s => callback s) s fd).1, closing } := by
  have hopen : SelectorCalls.step { selector := s, closing } (.unregister fd) =
      { selector := s.touch fd.toNat, closing := fd :: closing } := by
    simp only [SelectorCalls.step, hv, Bool.false_eq_true, if_false, SelectorCalls.onSelector, FdSelector.touch_fds, hused,
      if_true]
  have hcall : (selectorUnregisterFd (fun _ _ s => callback s) s fd).1 = (callback (s.touch fd.toNat)).clearItem fd := by
    have hstill : ((s.touch fd.toNat).fds fd.toNat).used = true := by rw [FdSelector.touch_fds, hused]
    unfold selectorUnregisterFd
    rw [if_neg (by rw [hv]; exact Bool.false_ne_true)]
    show (if (!((s.touch fd.toNat).fds fd.toNat).used) = true then (s.touch fd.toNat, SelectorStatus.iargs)
      else ((callback (s.touch fd.toNat)).clearItem fd, .success)).1 = _
    rw [hstill]
    rfl
  rw [List.foldl_cons, hopen, List.foldl_append, hinside, hcall]
  show SelectorCalls.mk ((callback (s.touch fd.toNat)).closeReturns fd) closing = _
  unfold FdSelector.closeReturns
  rw [FdSelector.touch_of_lt hlt, FdSelector.touchUpTo_of_lt hroom.nonempty hroom.top]

end SelectorCalls

end SocksProxy
