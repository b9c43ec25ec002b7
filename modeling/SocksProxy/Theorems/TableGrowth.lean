import SocksProxy.ItemTable
import SocksProxy.Theorems.Capacity
import Mathlib.Data.Nat.Size

/-!
# The growth of the table

What `ensure_capacity` does to the table, for a table of any size and whatever the allocations answer: it makes room for the
descriptor asked for and keeps every slot there was, or it fails and leaves the table alone.
-/

namespace SocksProxy

variable {H D : Type}

/-! ## The size to grow to -/

/-- The loop of `next_capacity` ends, after as many turns as the number has bits. -/
theorem countBits_eq {n bits : Nat} (hlt : n < 2 ^ bits) (hle : ∀ b < bits, 2 ^ b ≤ n) {turns : Nat} (hturns : bits ≤ turns) :
    countBits turns n 0 = bits := by
  induction bits generalizing n turns with
  | zero =>
    have hzero : n = 0 := by omega
    cases turns with
    | zero => rfl
    | succ turns =>
      unfold countBits
      rw [if_neg (not_not_intro hzero)]
  | succ bits ih =>
    obtain ⟨turns, rfl⟩ : ∃ m, turns = m + 1 := ⟨turns - 1, by omega⟩
    have hpos : n ≠ 0 := by
      have := hle 0 (Nat.zero_lt_succ _)
      omega
    unfold countBits
    rw [if_pos hpos, countBits_succ, Nat.shiftRight_eq_div_pow, Nat.pow_one]
    rw [Nat.pow_succ] at hlt
    rw [ih (by omega) _ (by omega)]
    intro b hb
    have := hle (b + 1) (by omega)
    rw [Nat.pow_succ] at this
    omega

/-- A number the table may grow to has at most eleven bits. -/
theorem size_le_eleven {n : Nat} (h : n ≤ itemsMaxSize) : n.size ≤ 11 := by
  rw [Nat.size_le]
  rw [itemsMaxSize] at h
  omega

/-- What `next_capacity` computes: the loop stops at the bits of the number, the shift by them stays in the word and reaches past
the number, as its assertion says, and so does the result. -/
theorem nextCapacity_bits {n : Nat} (h : n ≤ itemsMaxSize) :
    ∃ bits < 64, n >>> bits = 0 ∧ (∀ b < bits, n >>> b ≠ 0) ∧ (∀ turns, bits ≤ turns → countBits turns n 0 = bits) ∧
      1 <<< bits < 2 ^ 64 ∧ n ≤ 1 <<< bits ∧ nextCapacity n = min (1 <<< bits) itemsMaxSize + 1 ∧ n < nextCapacity n := by
  have hsize : n.size ≤ 11 := size_le_eleven h
  have hlt : n < 2 ^ n.size := Nat.lt_size_self n
  have hle : ∀ b < n.size, 2 ^ b ≤ n := fun b hb => Nat.lt_size.mp hb
  have hbits : ∀ turns, n.size ≤ turns → countBits turns n 0 = n.size := fun turns hturns => countBits_eq hlt hle hturns
  refine ⟨n.size, by omega, ?_, ?_, hbits, ?_, ?_, ?_, lt_nextCapacity h⟩
  · rw [Nat.shiftRight_eq_div_pow]
    exact Nat.div_eq_of_lt hlt
  · intro b hb
    rw [Nat.shiftRight_eq_div_pow]
    exact Nat.ne_of_gt (Nat.div_pos (hle b hb) (Nat.two_pow_pos b))
  · rw [Nat.one_shiftLeft]
    exact Nat.pow_lt_pow_right (by omega) (by omega)
  · rw [Nat.one_shiftLeft]
    exact Nat.le_of_lt hlt
  · unfold nextCapacity
    rw [hbits 64 (by omega)]
    dsimp only
    split <;> omega

/-! ## The slots -/

namespace ItemTable

/-- A loop of `items_init` marks the slots it visits and leaves the others. -/
theorem getElem?_initLoop (is : List Nat) (fds : List (Item H D)) (i : Nat) :
    (is.foldl (fun fds i => fds.modify i Item.itemInit) fds)[i]? = if i ∈ is then fds[i]?.map Item.itemInit else fds[i]? := by
  induction is generalizing fds with
  | nil => rfl
  | cons j is ih =>
    rw [List.foldl_cons, ih, List.getElem?_modify]
    by_cases hji : j = i
    · subst hji
      have hmark : (fun item : Item H D => if j = j then item.itemInit else item) = Item.itemInit := funext fun _ => if_pos rfl
      rw [if_pos (List.mem_cons_self ..), hmark]
      cases fds[j]? <;> split <;> rfl
    · simp only [hji, if_false, List.mem_cons, Ne.symm hji, false_or]
      cases fds[i]? <;> rfl

/-- `items_init` marks the slots from `last` on. -/
theorem getElem?_itemsInit (fds : List (Item H D)) (last i : Nat) :
    (itemsInit fds last)[i]? = if last ≤ i then fds[i]?.map Item.itemInit else fds[i]? := by
  unfold itemsInit
  rw [getElem?_initLoop]
  by_cases hlast : last ≤ i
  · rw [if_pos hlast]
    by_cases hi : i < fds.length
    · rw [if_pos (List.mem_range'_1.mpr (by omega))]
    · rw [List.getElem?_eq_none (by omega), Option.map_none, ite_self]
  · rw [if_neg hlast, if_neg fun h => hlast (List.mem_range'_1.mp h).1]

/-- The slots `realloc` keeps. -/
theorem getElem?_realloc {fds : List (Item H D)} {newSize i : Nat} (memory : Nat → Item H D) (hi : i < fds.length)
    (hnew : fds.length ≤ newSize) : (realloc fds newSize memory)[i]? = fds[i]? := by
  unfold realloc
  rw [List.getElem?_map, List.getElem?_range (by omega), Option.map_some, List.getD_eq_getElem?_getD,
    List.getElem?_eq_getElem hi, Option.getD_some]

/-- A slot inside the table. -/
theorem slot_of_lt {t : ItemTable H D} {i : Nat} (hi : i < t.fdSize) : ∃ item, t.slot i = some item :=
  ⟨_, List.getElem?_eq_getElem (t.sized.symm ▸ hi)⟩

/-- The slot is in the table and not in use. -/
def Unused (t : ItemTable H D) (i : Nat) : Prop := ∃ item, t.slot i = some item ∧ item.used = false

/-- A slot `items_init` visits is not in use. -/
theorem unused_itemsInit {t : ItemTable H D} {fds : List (Item H D)} {last i : Nat} (ht : t.fds = some (itemsInit fds last))
    (hlast : last ≤ i) (hi : i < t.fdSize) : t.Unused i := by
  obtain ⟨item, hitem⟩ := slot_of_lt hi
  have hslot := hitem
  unfold slot at hslot
  rw [ht, Option.getD_some, getElem?_itemsInit, if_pos hlast] at hslot
  obtain ⟨old, -, rfl⟩ := Option.map_eq_some_iff.mp hslot
  exact ⟨_, hitem, rfl⟩

/-- The table has grown from another one: it has room for the descriptor, the slots there were are as they were, and the new ones
are not in use. -/
structure GrownFrom (t t' : ItemTable H D) (n : Nat) : Prop where
  room : n < t'.fdSize
  grows : t.fdSize ≤ t'.fdSize
  kept : ∀ i < t.fdSize, t'.slot i = t.slot i
  fresh : ∀ i, t.fdSize ≤ i → i < t'.fdSize → t'.Unused i

/-- The limit on the size of the memory is never met. -/
theorem nextCapacity_fits (n : Nat) : ¬nextCapacity n > sizeMax / itemSize := by
  have hsmall : nextCapacity n ≤ itemsMaxSize + 1 := by
    unfold nextCapacity
    dsimp only
    split <;> omega
  have hlarge : itemsMaxSize + 1 ≤ sizeMax / itemSize := by decide
  omega

/-- What `ensure_capacity` does: nothing when there is room, a refusal past the limit, a failure without memory, and growth
otherwise. -/
theorem ensureCapacity_cases (t : ItemTable H D) (n : Nat) (memory : Option (Nat → Item H D)) :
    (n < t.fdSize ∧ t.ensureCapacity n memory = (t, .success)) ∨
    (¬n < t.fdSize ∧ n > itemsMaxSize ∧ t.ensureCapacity n memory = (t, .maxfd)) ∨
    (¬n < t.fdSize ∧ n ≤ itemsMaxSize ∧ memory = none ∧ t.ensureCapacity n memory = (t, .enomem)) ∨
    (¬n < t.fdSize ∧ n ≤ itemsMaxSize ∧ memory ≠ none ∧ (t.ensureCapacity n memory).2 = .success ∧
      (t.ensureCapacity n memory).1.fdSize = nextCapacity n ∧ t.GrownFrom (t.ensureCapacity n memory).1 n) := by
  by_cases hfits : n < t.fdSize
  · refine .inl ⟨hfits, ?_⟩
    unfold ensureCapacity
    rw [if_pos hfits]
  refine .inr ?_
  by_cases hmax : n > itemsMaxSize
  · refine .inl ⟨hfits, hmax, ?_⟩
    unfold ensureCapacity
    rw [if_neg hfits, if_pos hmax]
  refine .inr ?_
  have hroom : n < nextCapacity n := lt_nextCapacity (Nat.not_lt.mp hmax)
  have hle : n ≤ itemsMaxSize := Nat.not_lt.mp hmax
  obtain ⟨fds, fdSize, sized⟩ := t
  dsimp only at hfits
  unfold ensureCapacity
  dsimp only
  simp only [if_neg hfits, if_neg hmax, if_neg (nextCapacity_fits n)]
  cases fds with
  | none =>
    cases memory with
    | none => exact .inl ⟨hfits, hle, rfl, rfl⟩
    | some memory =>
      obtain rfl : fdSize = 0 := sized.symm
      refine .inr ⟨hfits, hle, Option.some_ne_none _, rfl, rfl, hroom, Nat.zero_le _, ?_, ?_⟩
      · intro i hi
        exact absurd hi (Nat.not_lt_zero i)
      · intro i hold hi
        exact unused_itemsInit rfl hold hi
  | some fds =>
    cases memory with
    | none => exact .inl ⟨hfits, hle, rfl, rfl⟩
    | some memory =>
      have hlen : fds.length = fdSize := sized
      have hnew : fdSize ≤ nextCapacity n := by omega
      refine .inr ⟨hfits, hle, Option.some_ne_none _, rfl, rfl, hroom, hnew, ?_, ?_⟩
      · intro i hi
        dsimp only at hi
        unfold slot
        rw [Option.getD_some, getElem?_itemsInit, if_neg (by omega), getElem?_realloc memory (by omega) (by omega),
          Option.getD_some]
      · intro i hold hi
        exact unused_itemsInit rfl hold hi

/-! ## The selector -/

/-- The slots of a selector lie in the table, up to what unused slots hold. -/
structure Stands (t : ItemTable H D) (s : FdSelector H D) : Prop where
  size : t.fdSize = s.fdSize
  slots : ∀ i < t.fdSize, ∃ item, t.slot i = some item ∧ (item = s.fds i ∨ item.used = false ∧ (s.fds i).used = false)

/-- `ensure_capacity` on the memory of a selector's table is `ensure_capacity` on the selector. -/
theorem Stands.ensureCapacity {t : ItemTable H D} {s : FdSelector H D} (h : t.Stands s) (n : Nat)
    (memory : Option (Nat → Item H D)) :
    (t.ensureCapacity n memory).1.Stands (s.ensureCapacity n memory.isSome).1 ∧
    (t.ensureCapacity n memory).2 = (s.ensureCapacity n memory.isSome).2 := by
  have hsize := h.size
  obtain ⟨hfits, heq⟩ | ⟨hfits, hmax, heq⟩ | ⟨hfits, hle, rfl, heq⟩ | ⟨hfits, hle, hsome, hok, hnew, hgrown⟩ :=
    ensureCapacity_cases t n memory
  · rw [heq]
    unfold FdSelector.ensureCapacity
    rw [if_pos (hsize ▸ hfits)]
    exact ⟨h, rfl⟩
  · rw [heq]
    unfold FdSelector.ensureCapacity
    rw [if_neg (hsize ▸ hfits), if_pos hmax]
    exact ⟨h, rfl⟩
  · rw [heq]
    unfold FdSelector.ensureCapacity
    rw [if_neg (hsize ▸ hfits), if_neg (Nat.not_lt.mpr hle), if_neg (by exact Bool.false_ne_true)]
    exact ⟨h, rfl⟩
  · rw [hok]
    unfold FdSelector.ensureCapacity
    rw [if_neg (hsize ▸ hfits), if_neg (Nat.not_lt.mpr hle), if_pos (Option.isSome_iff_ne_none.mpr hsome)]
    refine ⟨⟨hnew, ?_⟩, rfl⟩
    intro i hi
    have hinit : ∀ s' : FdSelector H D, s'.fdSize = nextCapacity n → s.fdSize ≤ i →
        ((s'.itemsInit s.fdSize).fds i).used = false := by
      intro s' hs' hold
      unfold FdSelector.itemsInit
      dsimp only
      rw [if_pos ⟨hold, by omega⟩]
      rfl
    by_cases hold : i < t.fdSize
    · obtain ⟨item, hitem, hstands⟩ := h.slots i hold
      refine ⟨item, (hgrown.kept i hold).trans hitem, ?_⟩
      unfold FdSelector.itemsInit
      dsimp only
      rw [if_neg (by omega)]
      exact hstands
    · obtain ⟨item, hitem, hunused⟩ := hgrown.fresh i (Nat.not_lt.mp hold) hi
      exact ⟨item, hitem, .inr ⟨hunused, hinit _ rfl (by omega)⟩⟩

end ItemTable

/-- For every table, every descriptor asked for and every answer of the allocation: `ensure_capacity` succeeds with room for the
descriptor, the slots there were unchanged and the new ones unused, or it fails and leaves the table alone. It refuses exactly a
descriptor past the limit that does not already fit, it fails for want of memory only when it has to grow, and the table never
shrinks. Up to the limit the size to grow to is past the descriptor, the loop that counts its bits ends, and its shift stays in
the word. -/
theorem ensureCapacity_grows (t : ItemTable H D) (n : Nat) (memory : Option (Nat → Item H D)) :
    ((t.ensureCapacity n memory).2 = .success ∧ t.GrownFrom (t.ensureCapacity n memory).1 n ∨
      ((t.ensureCapacity n memory).2 = .maxfd ∨ (t.ensureCapacity n memory).2 = .enomem) ∧
        (t.ensureCapacity n memory).1 = t) ∧
    ((t.ensureCapacity n memory).2 = .maxfd ↔ ¬n < t.fdSize ∧ n > itemsMaxSize) ∧
    ((t.ensureCapacity n memory).2 = .enomem ↔ ¬n < t.fdSize ∧ n ≤ itemsMaxSize ∧ memory = none) ∧
    t.fdSize ≤ (t.ensureCapacity n memory).1.fdSize ∧
    ∀ m ≤ itemsMaxSize, m < nextCapacity m ∧ ∃ bits < 64, m >>> bits = 0 ∧ (∀ b < bits, m >>> b ≠ 0) ∧
      (∀ turns, bits ≤ turns → countBits turns m 0 = bits) ∧ 1 <<< bits < 2 ^ 64 ∧ m ≤ 1 <<< bits ∧
      nextCapacity m = min (1 <<< bits) itemsMaxSize + 1 := by
  have hbits : ∀ m ≤ itemsMaxSize, m < nextCapacity m ∧ ∃ bits < 64, m >>> bits = 0 ∧ (∀ b < bits, m >>> b ≠ 0) ∧
      (∀ turns, bits ≤ turns → countBits turns m 0 = bits) ∧ 1 <<< bits < 2 ^ 64 ∧ m ≤ 1 <<< bits ∧
      nextCapacity m = min (1 <<< bits) itemsMaxSize + 1 := by
    intro m hm
    obtain ⟨bits, hlt, hzero, hpos, hturns, hword, hassert, heq, hroom⟩ := nextCapacity_bits hm
    exact ⟨hroom, bits, hlt, hzero, hpos, hturns, hword, hassert, heq⟩
  obtain ⟨hfits, heq⟩ | ⟨hfits, hmax, heq⟩ | ⟨hfits, hle, hnone, heq⟩ | ⟨hfits, hle, hsome, hok, -, hgrown⟩ :=
    ItemTable.ensureCapacity_cases t n memory
  · rw [heq]
    refine ⟨.inl ⟨rfl, hfits, Nat.le_refl _, fun _ _ => rfl, fun i hold hi => absurd hi (Nat.not_lt.mpr hold)⟩, ?_, ?_,
      Nat.le_refl _, hbits⟩
    · exact ⟨fun h => SelectorStatus.noConfusion h, fun h => absurd hfits h.1⟩
    · exact ⟨fun h => SelectorStatus.noConfusion h, fun h => absurd hfits h.1⟩
  · rw [heq]
    refine ⟨.inr ⟨.inl rfl, rfl⟩, ⟨fun _ => ⟨hfits, hmax⟩, fun _ => rfl⟩, ?_, Nat.le_refl _, hbits⟩
    exact ⟨fun h => SelectorStatus.noConfusion h, fun h => absurd hmax (Nat.not_lt.mpr h.2.1)⟩
  · rw [heq]
    refine ⟨.inr ⟨.inr rfl, rfl⟩, ?_, ⟨fun _ => ⟨hfits, hle, hnone⟩, fun _ => rfl⟩, Nat.le_refl _, hbits⟩
    exact ⟨fun h => SelectorStatus.noConfusion h, fun h => absurd h.2 (Nat.not_lt.mpr hle)⟩
  · rw [hok]
    refine ⟨.inl ⟨rfl, hgrown⟩, ?_, ?_, hgrown.grows, hbits⟩
    · exact ⟨fun h => SelectorStatus.noConfusion h, fun h => absurd h.2 (Nat.not_lt.mpr hle)⟩
    · exact ⟨fun h => SelectorStatus.noConfusion h, fun h => absurd h.2.2 hsome⟩

/-- An empty table grows to three slots for the descriptor 1. -/
theorem ensureCapacity_grows_one :
    let t : ItemTable Unit Unit := { fds := none, fdSize := 0, sized := rfl }
    (t.ensureCapacity 1 (some fun _ => Item.zeroed)).2 = .success ∧ (t.ensureCapacity 1 (some fun _ => Item.zeroed)).1.fdSize = 3 ∧
    1 < nextCapacity 1 :=
  ⟨rfl, rfl, ((ensureCapacity_grows { fds := none, fdSize := 0, sized := rfl } 1
    (some fun _ => (Item.zeroed : Item Unit Unit))).2.2.2.2 1 (by decide)).1⟩

end SocksProxy
