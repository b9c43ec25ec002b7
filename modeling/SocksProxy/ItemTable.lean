import SocksProxy.Selector
import Mathlib.Algebra.Ring.Nat

/-!
# The memory of the table

`ensure_capacity` of `selector.c` on the memory it manages: the array `fds`, or NULL before the first allocation, and its size
`fd_size`. `FdSelector.ensureCapacity` is the same function where only the slots matter; here the two allocations stand apart, with
what each of them leaves in the memory.
-/

namespace SocksProxy

/-- `sizeof(struct item)`: two words of four bytes and two pointers. -/
def itemSize : Nat := 24

/-- `SIZE_MAX`. -/
def sizeMax : Nat := 2 ^ 64 - 1

/-- The fields `fds` and `fd_size` of a selector. NULL is `none`, an array of no slot. -/
structure ItemTable (H D : Type) where
  fds : Option (List (Item H D))
  fdSize : Nat
  sized : (fds.getD []).length = fdSize

namespace ItemTable

variable {H D : Type}

/-- The slot at an index of the table. -/
def slot (t : ItemTable H D) (i : Nat) : Option (Item H D) := (t.fds.getD [])[i]?

/-- `calloc`, when it succeeds: every byte is zero. -/
def calloc (newSize : Nat) : List (Item H D) := List.replicate newSize Item.zeroed

/-- `realloc`, when it succeeds: the slots there were, as far as they fit, and then what `memory` happens to hold. -/
def realloc (fds : List (Item H D)) (newSize : Nat) (memory : Nat → Item H D) : List (Item H D) :=
  (List.range newSize).map fun i => fds.getD i (memory i)

/-- `items_init`: mark the slots from `last` to the end as unused, one after another. -/
def itemsInit (fds : List (Item H D)) (last : Nat) : List (Item H D) :=
  (List.range' last (fds.length - last)).foldl (fun fds i => fds.modify i Item.itemInit) fds

/-- A loop over slots keeps the size of the array. -/
theorem length_initLoop (is : List Nat) (fds : List (Item H D)) :
    (is.foldl (fun fds i => fds.modify i Item.itemInit) fds).length = fds.length := by
  induction is generalizing fds with
  | nil => rfl
  | cons i is ih => rw [List.foldl_cons, ih, List.length_modify]

/-- `items_init` keeps the size of the array. -/
theorem length_itemsInit (fds : List (Item H D)) (last : Nat) : (itemsInit fds last).length = fds.length :=
  length_initLoop _ fds

/-- `ensure_capacity`. `memory` is the answer to the allocation: `none` when it fails, and otherwise what the new memory holds. -/
def ensureCapacity (t : ItemTable H D) (n : Nat) (memory : Option (Nat → Item H D)) : ItemTable H D × SelectorStatus :=
  if n < t.fdSize then (t, .success)
  else if n > itemsMaxSize then (t, .maxfd)
  else
    match t.fds with
    | none =>
      let newSize := nextCapacity n
      match memory with
      | none => (t, .enomem)
      | some _ =>
        ({ fds := some (itemsInit (calloc newSize) 0), fdSize := newSize
           sized := (length_itemsInit _ _).trans List.length_replicate }, .success)
    | some fds =>
      let newSize := nextCapacity n
      if newSize > sizeMax / itemSize then (t, .enomem)
      else
        match memory with
        | none => (t, .enomem)
        | some memory =>
          let oldSize := t.fdSize
          ({ fds := some (itemsInit (realloc fds newSize memory) oldSize), fdSize := newSize
             sized := (length_itemsInit _ _).trans (by rw [realloc, List.length_map, List.length_range]) }, .success)

end ItemTable

end SocksProxy
