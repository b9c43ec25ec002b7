import SocksProxy.Bytes

/-!
# The selector

`selector.c`: the table of registrations indexed by file descriptor, the two descriptor sets handed to `pselect`, and the loop
that walks the ready descriptors. The table `fds` is an array with its size; an access outside it is recorded in `wild`. The
handlers and their attachments are type parameters, since the selector never looks inside them.

The selector calls back into its user: `handle_close` runs in the middle of `selector_unregister_fd`, and the read and write
handlers run in the middle of `handle_iteration`. These two functions are therefore written over any state `σ` that holds a
selector (`SelectorWorld`), with the callbacks as parameters.

Two fields are ghosts: `wild`, and the number `serial` that names each registration by its turn among the successful calls of
`selector_register`.
-/

namespace SocksProxy

/-- The status every operation of the selector returns. -/
inductive SelectorStatus where
  | success | enomem | maxfd | iargs | fdinuse | io
  deriving DecidableEq, Repr

/-- `fd_interest`: a conjunction of `OP_READ` and `OP_WRITE`, one flag for each bit. -/
structure FdInterest where
  read : Bool
  write : Bool
  deriving DecidableEq, Repr

/-- `OP_NOOP`. -/
def opNoop : FdInterest := ⟨false, false⟩

/-- `OP_READ`. -/
def opRead : FdInterest := ⟨true, false⟩

/-- `OP_WRITE`. -/
def opWrite : FdInterest := ⟨false, true⟩

/-- `FD_UNUSED`: the mark of a slot that is not in use, and the value of a descriptor field that names none. -/
def fdUnused : Int := -1

/-- `ITEMS_MAX_SIZE`, that is `FD_SETSIZE`. -/
def itemsMaxSize : Nat := 1024

/-- A slot of the table: `struct item`. `serial` is a ghost: which registration stored it. -/
structure Item (H D : Type) where
  fd : Int
  interest : FdInterest
  handler : Option H
  data : Option D
  serial : Nat

/-- The argument of every callback: `struct selector_key`, without the selector, which the callback's state holds. -/
structure SelectorKey (D : Type) where
  fd : Int
  data : Option D

namespace Item

variable {H D : Type}

/-- `ITEM_USED`. -/
def used (item : Item H D) : Bool := item.fd != fdUnused

/-- A slot after `memset(item, 0x00, sizeof(*item))`. -/
def zeroed : Item H D := { fd := 0, interest := opNoop, handler := none, data := none, serial := 0 }

/-- `item->interest = i`. -/
def withInterest (item : Item H D) (i : FdInterest) : Item H D := { item with interest := i }

/-- `item_init`. -/
def itemInit (item : Item H D) : Item H D := { item with fd := fdUnused }

end Item

/-- `struct fdselector`: the table and its size, `max_fd`, the two prototypical descriptor sets, and the queue of notifications,
newest first. -/
structure FdSelector (H D : Type) where
  fds : Nat → Item H D
  fdSize : Nat
  maxFd : Int
  masterR : Int → Bool
  masterW : Int → Bool
  resolutionJobs : List Int
  serial : Nat
  wild : Bool

/-- `INVALID_FD`. -/
def invalidFd (fd : Int) : Bool := fd < 0 || fd ≥ itemsMaxSize

/-- The loop of `next_capacity`: how many bits the number has. It shifts a 64-bit word, so 64 turns are enough. -/
def countBits : Nat → Nat → Nat → Nat
  | 0, _, bits => bits
  | turns + 1, tmp, bits => if tmp ≠ 0 then countBits turns (tmp >>> 1) (bits + 1) else bits

/-- `next_capacity`: the size to grow to, with some slack. -/
def nextCapacity (n : Nat) : Nat :=
  let bits := countBits 64 n 0
  let tmp := 1 <<< bits
  let tmp := if tmp > itemsMaxSize then itemsMaxSize else tmp
  tmp + 1

namespace FdSelector

variable {H D : Type}

/-- The access `s->fds + i`: recorded as wild when it falls outside the table. -/
def touch (s : FdSelector H D) (i : Nat) : FdSelector H D :=
  if i < s.fdSize then s else { s with wild := true }

/-- Store a slot. -/
def setItem (s : FdSelector H D) (i : Nat) (item : Item H D) : FdSelector H D :=
  { s with fds := Function.update s.fds i item }

/-- The slot of a descriptor, if the descriptor is valid and the slot is in use. -/
def slot (s : FdSelector H D) (fd : Int) : Option (Item H D) :=
  if invalidFd fd then none
  else if (s.fds fd.toNat).used then some (s.fds fd.toNat)
  else none

/-- `items_init`: mark the slots from `last` to the end of the table as unused. -/
def itemsInit (s : FdSelector H D) (last : Nat) : FdSelector H D :=
  { s with fds := fun i => if last ≤ i ∧ i < s.fdSize then (s.fds i).itemInit else s.fds i }

/-- `items_max_fd`: the largest registered descriptor among the slots up to the present `max_fd`, or zero. -/
def itemsMaxFd (s : FdSelector H D) : Int :=
  (List.range (s.maxFd.toNat + 1)).foldl
    (fun max i => if (s.fds i).used then (if (s.fds i).fd > max then (s.fds i).fd else max) else max) 0

/-- `items_update_fdset_for_fd`. -/
def itemsUpdateFdsetForFd (s : FdSelector H D) (item : Item H D) : FdSelector H D :=
  { s with
    masterR := Function.update s.masterR item.fd (item.used && item.interest.read)
    masterW := Function.update s.masterW item.fd (item.used && item.interest.write) }

/-- `ensure_capacity`. The first allocation and the growth differ only in the call that may fail (`alloc` says whether it
succeeds): an empty table is a NULL one. -/
def ensureCapacity (s : FdSelector H D) (n : Nat) (alloc : Bool) : FdSelector H D × SelectorStatus :=
  if n < s.fdSize then (s, .success)
  else if n > itemsMaxSize then (s, .maxfd)
  else if alloc then
    let oldSize := s.fdSize
    let s := { s with fdSize := nextCapacity n }
    (s.itemsInit oldSize, .success)
  else (s, .enomem)

/-- The record `selector_new` allocates and clears, before it makes room for its table. -/
def cleared : FdSelector H D where
  fds := fun _ => Item.zeroed
  fdSize := 0
  maxFd := 0
  masterR := fun _ => false
  masterW := fun _ => false
  resolutionJobs := []
  serial := 0
  wild := false

/-- `selector_new`, when its own record could be allocated. -/
def selectorNew (initialElements : Nat) (alloc : Bool) : FdSelector H D × SelectorStatus :=
  cleared.ensureCapacity initialElements alloc

/-- `selector_register`. A NULL handler is `none`. -/
def selectorRegister (s : FdSelector H D) (fd : Int) (handler : Option H) (interest : FdInterest) (data : Option D)
    (alloc : Bool) : FdSelector H D × SelectorStatus :=
  if invalidFd fd || handler.isNone then (s, .iargs)
  else
    let ufd := fd.toNat
    let (s, ret) := if ufd > s.fdSize then s.ensureCapacity ufd alloc else (s, .success)
    if ret ≠ .success then (s, ret)
    else
      let s := s.touch ufd
      if (s.fds ufd).used then (s, .fdinuse)
      else
        let item := { fd, interest, handler, data, serial := s.serial }
        let s := { s.setItem ufd item with serial := s.serial + 1 }
        let s := if fd > s.maxFd then { s with maxFd := fd } else s
        (s.itemsUpdateFdsetForFd item, .success)

/-- `selector_set_interest`. -/
def selectorSetInterest (s : FdSelector H D) (fd : Int) (interest : FdInterest) : FdSelector H D × SelectorStatus :=
  if invalidFd fd then (s, .iargs)
  else
    let s := s.touch fd.toNat
    let item := s.fds fd.toNat
    if !item.used then (s, .iargs)
    else
      let item := item.withInterest interest
      ((s.setItem fd.toNat item).itemsUpdateFdsetForFd item, .success)

/-- The end of `selector_unregister_fd`, after the callback: the slot leaves the descriptor sets, is cleared and marked unused,
and `max_fd` is computed again. -/
def clearItem (s : FdSelector H D) (fd : Int) : FdSelector H D :=
  let item := (s.fds fd.toNat).withInterest opNoop
  let s := (s.setItem fd.toNat item).itemsUpdateFdsetForFd item
  let s := s.setItem fd.toNat (Item.itemInit Item.zeroed)
  { s with maxFd := s.itemsMaxFd }

/-- The push of `selector_notify_block`, when its record could be allocated. -/
def pushJob (s : FdSelector H D) (fd : Int) : FdSelector H D :=
  { s with resolutionJobs := fd :: s.resolutionJobs }

end FdSelector

/-- A state that holds a selector. -/
class SelectorWorld (σ : Type) (H D : outParam Type) where
  selector : σ → FdSelector H D
  setSelector : FdSelector H D → σ → σ
  selector_setSelector : ∀ s w, selector (setSelector s w) = s

section Callbacks

variable {σ H D : Type} [SelectorWorld σ H D]

/-- Apply an operation of the selector to the selector a state holds. -/
def onSelector (f : FdSelector H D → FdSelector H D) (w : σ) : σ :=
  SelectorWorld.setSelector (f (SelectorWorld.selector w)) w

/-- `selector_unregister_fd`, with the `handle_close` callback as a parameter. The callback runs while the slot still looks
used. -/
def selectorUnregisterFd (handleClose : Option H → SelectorKey D → σ → σ) (w : σ) (fd : Int) : σ × SelectorStatus :=
  if invalidFd fd then (w, .iargs)
  else
    let w := onSelector (·.touch fd.toNat) w
    let item := (SelectorWorld.selector w).fds fd.toNat
    if !item.used then (w, .iargs)
    else
      let w := handleClose item.handler { fd := item.fd, data := item.data } w
      (onSelector (·.clearItem fd) w, .success)

/-- One turn of the loop of `handle_iteration`. The key is filled before the read handler runs and used again for the write
handler; the slot itself is read again. -/
def visitSlot (handleRead handleWrite : Option H → SelectorKey D → σ → σ) (slaveR slaveW : Int → Bool) (w : σ) (i : Nat) : σ :=
  let item := (SelectorWorld.selector w).fds i
  if item.used then
    let key : SelectorKey D := { fd := item.fd, data := item.data }
    let w := if slaveR item.fd && item.interest.read then handleRead item.handler key w else w
    let item := (SelectorWorld.selector w).fds i
    if slaveW (i : Int) && item.interest.write then handleWrite item.handler key w else w
  else w

/-- `handle_iteration`: walk the slots up to the `max_fd` of the moment the walk begins. -/
def handleIteration (handleRead handleWrite : Option H → SelectorKey D → σ → σ) (slaveR slaveW : Int → Bool) (w : σ) : σ :=
  (List.range ((SelectorWorld.selector w).maxFd.toNat + 1)).foldl (visitSlot handleRead handleWrite slaveR slaveW) w

end Callbacks

end SocksProxy
