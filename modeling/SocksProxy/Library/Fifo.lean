import Mathlib.Data.List.Basic

/-!
# Queues in bounded space

A queue kept in a space of fixed size, in the order in which its elements came. New elements go to the room behind the queue. The
space that taken elements leave in front of it is room again only when it is reclaimed, which costs nothing when the queue is empty.

Nothing here is about any particular element type.
-/

/-- A queue in a space for `n` elements, and how much room there is behind it. -/
@[ext] structure Fifo (α : Type) (n : Nat) where
  queue : List α
  room : Nat
  fits : queue.length + room ≤ n

namespace Fifo

variable {α : Type} {n : Nat}

/-- Nothing, in a space that is all room. -/
def empty : Fifo α n := ⟨[], n, by simp⟩

/-- Elements behind those that are there. -/
def put (f : Fifo α n) (xs : List α) (h : xs.length ≤ f.room) : Fifo α n :=
  ⟨f.queue ++ xs, f.room - xs.length, by
    have := f.fits
    rw [List.length_append]
    omega⟩

/-- What is left after the first `k` elements. When nothing is left, all of the space is room. -/
def take (f : Fifo α n) (k : Nat) : Fifo α n :=
  if f.queue.length ≤ k then empty
  else ⟨f.queue.drop k, f.room, by
    have := f.fits
    rw [List.length_drop]
    omega⟩

/-- All the space that the queue does not need is room. -/
def reclaim (f : Fifo α n) : Fifo α n :=
  ⟨f.queue, n - f.queue.length, by
    have := f.fits
    omega⟩

@[simp] theorem queue_empty : (empty : Fifo α n).queue = [] := rfl

@[simp] theorem queue_put (f : Fifo α n) (xs : List α) (h : xs.length ≤ f.room) : (f.put xs h).queue = f.queue ++ xs := rfl

@[simp] theorem queue_take (f : Fifo α n) (k : Nat) : (f.take k).queue = f.queue.drop k := by
  unfold take
  split
  · exact (List.drop_eq_nil_of_le ‹_›).symm
  · rfl

@[simp] theorem queue_reclaim (f : Fifo α n) : f.reclaim.queue = f.queue := rfl

@[simp] theorem room_reclaim (f : Fifo α n) : f.reclaim.room = n - f.queue.length := rfl

/-- Taking all there is leaves an empty queue. -/
theorem take_of_length_le (f : Fifo α n) {k : Nat} (h : f.queue.length ≤ k) : f.take k = empty := if_pos h

/-- Taking less leaves the room as it was. -/
theorem room_take (f : Fifo α n) {k : Nat} (h : k < f.queue.length) : (f.take k).room = f.room := by
  rw [take, if_neg (Nat.not_le_of_lt h)]

end Fifo
