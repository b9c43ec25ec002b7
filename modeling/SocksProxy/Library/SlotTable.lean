import Mathlib.Data.Finmap

/-!
# Tables of slots

A finite map kept in an array of slots, each free or holding one entry. A new key goes to any free slot and a key that leaves
frees its slot, so the order of the entries means nothing: a table represents the map whose entries are those of its slots.
The slots are of any type; `entry` says what a slot holds.
-/

namespace SlotTable

variable {σ α β : Type} (entry : σ → Option (Sigma fun _ : α => β))

/-- What the slots hold, in slot order. -/
def entries (table : List σ) : List (Sigma fun _ : α => β) := table.filterMap entry

/-- The table represents the map: its entries are those of the map, each in one slot. -/
def Represents (table : List σ) (m : Finmap fun _ : α => β) : Prop := m.entries = ↑(entries entry table)

variable {entry}
variable {table : List σ} {m : Finmap fun _ : α => β} {i : Nat} {slot new : σ} {e : Sigma fun _ : α => β}

/-- A table around one of its slots, before and after the slot is written. -/
theorem exists_of_slot (hi : table[i]? = some slot) (new : σ) :
    ∃ left right, table = left ++ slot :: right ∧ left.length = i ∧ table.set i new = left ++ new :: right := by
  obtain ⟨hlt, rfl⟩ := List.getElem?_eq_some_iff.mp hi
  refine ⟨table.take i, table.drop (i + 1), ?_, List.length_take_of_le hlt.le, List.set_eq_take_append_cons_drop.trans (if_pos hlt)⟩
  rw [← List.drop_eq_getElem_cons hlt, List.take_append_drop]

/-- Filling a free slot adds its entry. -/
theorem entries_fill (hi : table[i]? = some slot) (hfree : entry slot = none) (hnew : entry new = some e) :
    (entries entry (table.set i new)).Perm (e :: entries entry table) := by
  obtain ⟨left, right, ht, -, hset⟩ := exists_of_slot hi new
  rw [hset]
  conv_rhs => rw [ht]
  simp only [entries, List.filterMap_append, List.filterMap_cons, hfree, hnew]
  exact List.perm_middle

/-- Freeing a slot takes its entry away. -/
theorem entries_clear (hi : table[i]? = some slot) (hold : entry slot = some e) (hnew : entry new = none) :
    (e :: entries entry (table.set i new)).Perm (entries entry table) := by
  obtain ⟨left, right, ht, -, hset⟩ := exists_of_slot hi new
  rw [hset]
  conv_rhs => rw [ht]
  simp only [entries, List.filterMap_append, List.filterMap_cons, hold, hnew]
  exact List.perm_middle.symm

/-- Filling a free slot that has only free slots after it adds its entry at the end. -/
theorem entries_fill_last (hi : table[i]? = some slot) (hfree : entry slot = none) (hnew : entry new = some e)
    (hafter : ∀ slot' ∈ table.drop (i + 1), entry slot' = none) :
    entries entry (table.set i new) = entries entry table ++ [e] := by
  obtain ⟨left, right, ht, hl, hset⟩ := exists_of_slot hi new
  have hright : right.filterMap entry = [] := by
    rw [List.filterMap_eq_nil_iff]
    intro slot' hm
    refine hafter slot' ?_
    rw [ht, ← hl]
    simpa using hm
  rw [hset]
  conv_rhs => rw [ht]
  simp only [entries, List.filterMap_append, List.filterMap_cons, hfree, hnew, hright, List.append_nil]

/-! ## The first of equal keys -/

section Dedup

variable [DecidableEq α]

/-- Keeping the first entry of each key drops entries. -/
theorem dedupKeys_sublist (l : List (Sigma fun _ : α => β)) : l.dedupKeys.Sublist l := by
  induction l with
  | nil => exact List.Sublist.refl _
  | cons e l ih =>
    rw [List.dedupKeys_cons, List.kinsert_def]
    exact ((List.kerase_sublist _ _).trans ih).cons_cons _

/-- Keeping the first entry of each key keeps every key. -/
theorem mem_keys_dedupKeys {l : List (Sigma fun _ : α => β)} {a : α} : a ∈ l.dedupKeys.keys ↔ a ∈ l.keys := by
  rw [← List.dlookup_isSome, List.dlookup_dedupKeys, List.dlookup_isSome]

/-- An entry at the end counts only if its key is new. -/
theorem dedupKeys_append_singleton (l : List (Sigma fun _ : α => β)) (e : Sigma fun _ : α => β) :
    (l ++ [e]).dedupKeys = if e.1 ∈ l.keys then l.dedupKeys else l.dedupKeys ++ [e] := by
  induction l with
  | nil => rfl
  | cons f l ih =>
    rw [List.cons_append, List.dedupKeys_cons, List.dedupKeys_cons, ih, List.kinsert_def, List.kinsert_def]
    by_cases he : e.1 ∈ l.keys
    · rw [if_pos he, if_pos (by simp [he])]
    · rw [if_neg he]
      by_cases hef : e.1 = f.1
      · -- the new entry has the key of the first
        have hf : f.1 ∉ l.dedupKeys.keys := fun hm => he (hef ▸ mem_keys_dedupKeys.mp hm)
        rw [if_pos (by simp [hef]), List.kerase_append_right hf, List.kerase_of_notMem_keys hf, ← hef,
          List.kerase_cons_eq rfl, List.append_nil]
      · rw [if_neg (by simp [hef, he])]
        by_cases hf : f.1 ∈ l.dedupKeys.keys
        · rw [List.kerase_append_left hf]
          rfl
        · rw [List.kerase_append_right hf, List.kerase_of_notMem_keys hf, List.kerase_cons_ne (fun h => hef h.symm),
            List.kerase_nil]
          rfl

end Dedup

/-! ## The map a table represents -/

/-- A map has as many keys as entries. -/
theorem card_keys (m : Finmap fun _ : α => β) : m.keys.card = m.entries.card := by
  show m.entries.keys.card = m.entries.card
  exact Multiset.card_map _ _

namespace Represents

/-- The table whose slots are all free represents the empty map. -/
theorem empty (h : ∀ slot ∈ table, entry slot = none) : Represents entry table ∅ := by
  have he : entries entry table = [] := List.filterMap_eq_nil_iff.mpr h
  rw [Represents, he]
  rfl

/-- No key is in two slots. -/
theorem nodupKeys (h : Represents entry table m) : (entries entry table).NodupKeys := by
  have := m.nodupKeys
  rwa [show m.entries = _ from h, Multiset.coe_nodupKeys] at this

/-- The map has as many keys as the table has entries. -/
theorem card (h : Represents entry table m) : m.keys.card = (entries entry table).length := by
  rw [card_keys, show m.entries = _ from h, Multiset.coe_card]

/-- A key is in the map when some slot holds it. -/
theorem mem_iff (h : Represents entry table m) {a : α} : a ∈ m ↔ ∃ slot ∈ table, ∃ b, entry slot = some ⟨a, b⟩ := by
  rw [Finmap.mem_def, show m.entries = _ from h, Multiset.coe_keys, Multiset.mem_coe]
  simp only [List.mem_keys, entries, List.mem_filterMap]
  constructor
  · rintro ⟨b, slot, hs, he⟩
    exact ⟨slot, hs, b, he⟩
  · rintro ⟨slot, hs, b, he⟩
    exact ⟨b, slot, hs, he⟩

variable [DecidableEq α]

/-- The map sends a key to a value when some slot holds the pair. -/
theorem lookup_iff (h : Represents entry table m) {a : α} {b : β} :
    m.lookup a = some b ↔ ∃ slot ∈ table, entry slot = some ⟨a, b⟩ := by
  rw [Finmap.lookup_eq_some_iff, show m.entries = _ from h, Multiset.mem_coe]
  simp only [entries, List.mem_filterMap]

/-- Filling a free slot with a new key inserts the key. -/
theorem fill (h : Represents entry table m) (hi : table[i]? = some slot) (hfree : entry slot = none)
    {a : α} {b : β} (hnew : entry new = some ⟨a, b⟩) (hm : a ∉ m) :
    Represents entry (table.set i new) (m.insert a b) := by
  rw [Represents, Finmap.entries_insert_of_notMem hm, show m.entries = _ from h, Multiset.cons_coe, Multiset.coe_eq_coe]
  exact (entries_fill hi hfree hnew).symm

/-- Freeing the slot of a key erases the key. -/
theorem clear (h : Represents entry table m) (hi : table[i]? = some slot) {a : α} {b : β}
    (hold : entry slot = some ⟨a, b⟩) (hnew : entry new = none) : Represents entry (table.set i new) (m.erase a) := by
  have hperm := entries_clear hi hold hnew
  have hnodup : (⟨a, b⟩ :: entries entry (table.set i new) : List (Sigma fun _ : α => β)).NodupKeys :=
    (List.perm_nodupKeys hperm).mpr h.nodupKeys
  have hm : m = (AList.mk _ hnodup).toFinmap := by
    refine Finmap.ext ?_
    rw [show m.entries = _ from h]
    exact (Multiset.coe_eq_coe.mpr hperm).symm
  rw [Represents, hm, Finmap.erase_toFinmap]
  exact congrArg (fun l : List (Sigma fun _ : α => β) => (l : Multiset (Sigma fun _ : α => β))) (List.kerase_cons_eq rfl)

end Represents

end SlotTable
