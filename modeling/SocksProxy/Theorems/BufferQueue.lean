import SocksProxy.Buffer
import SocksProxy.Library.Fifo

/-!
# The buffer is a queue

Whatever is done with a buffer, within what `buffer_write_ptr` and `buffer_read_ptr` say, it is a queue of the bytes that were accepted
and not yet read, and none of its assertions fails. The memory is compacted in the middle of other operations, and none of that is
seen from outside, but for the room that it makes.
-/

namespace SocksProxy

/-- The bytes between the two pointers. -/
def Buffer.unread (b : Buffer) : List Byte := (b.data.drop b.read).take (b.write - b.read)

/-- An operation is within a buffer: what is copied into it, and every advance, is no more than the buffer has just said. -/
def BufferOp.Within (b : Buffer) : BufferOp → Prop
  | .fill bytes adv => ∀ ptr nbyte, bufferWritePtr b = some (ptr, nbyte) → bytes.length ≤ nbyte ∧ adv ≤ nbyte
  | .readAdv bytes => ∀ ptr nbyte, bufferReadPtr b = some (ptr, nbyte) → bytes ≤ nbyte
  | _ => True

/-- Operations one after another are within a buffer. -/
def Buffer.AllWithin : Buffer → List BufferOp → Prop
  | _, [] => True
  | b, op :: ops => op.Within b ∧ ∀ b' out, op.step b = some (b', out) → b'.AllWithin ops

/-- What an operation does to a queue, and what it returns. A byte is dropped only when there is no room. A copy that is advanced over
is accepted: all that was copied, as far as the advance goes, and behind it whatever the memory held. -/
inductive QueueStep {n : Nat} : Fifo Byte n → BufferOp → Option Byte → Fifo Byte n → Prop where
  | write (f : Fifo Byte n) (c : Byte) (h : [c].length ≤ f.room) : QueueStep f (.write c) none (f.put [c] h)
  | full (f : Fifo Byte n) (c : Byte) (h : f.room = 0) : QueueStep f (.write c) none f
  | read (f : Fifo Byte n) (c : Byte) (h : f.queue.head? = some c) : QueueStep f .read (some c) (f.take 1)
  | nothing (f : Fifo Byte n) (h : f.queue = []) : QueueStep f .read (some 0) f
  | fill (f : Fifo Byte n) (bytes accepted : List Byte) (adv : Int) (h : accepted.length ≤ f.room)
      (hlen : accepted.length = adv.toNat) (hcopy : accepted.take bytes.length = bytes.take accepted.length) :
      QueueStep f (.fill bytes adv) none (f.put accepted h)
  | readAdv (f : Fifo Byte n) (bytes : Nat) : QueueStep f (.readAdv bytes) none (f.take bytes)
  | failed (f : Fifo Byte n) (bytes : Int) (h : bytes < 0) : QueueStep f (.readAdv bytes) none f
  | compact (f : Fifo Byte n) : QueueStep f .compact none f.reclaim
  | reset (f : Fifo Byte n) : QueueStep f .reset none .empty

/-- Operations on a queue one after another, with what they return. -/
inductive QueueRun {n : Nat} : Fifo Byte n → List BufferOp → List (Option Byte) → Fifo Byte n → Prop where
  | nil (f : Fifo Byte n) : QueueRun f [] [] f
  | cons {f f' f'' : Fifo Byte n} {op : BufferOp} {ops : List BufferOp} {out : Option Byte} {outs : List (Option Byte)} :
      QueueStep f op out f' → QueueRun f' ops outs f'' → QueueRun f (op :: ops) (out :: outs) f''

/-- A buffer is this queue: its pointers are in order, the queue is between them, and the room is what is left behind. -/
structure Buffer.Holds (b : Buffer) {n : Nat} (f : Fifo Byte n) : Prop where
  size : b.data.length = n
  limit : b.limit = n
  read_le : b.read ≤ b.write
  write_le : b.write ≤ b.limit
  queue : b.unread = f.queue
  room : b.limit - b.write = f.room

namespace Buffer.Holds

variable {b : Buffer} {n : Nat} {f : Fifo Byte n}

/-- There are as many bytes in the queue as between the pointers. -/
theorem length (h : b.Holds f) : f.queue.length = b.write - b.read := by
  have := h.write_le
  rw [← h.queue, Buffer.unread, List.length_take, List.length_drop, h.size, ← h.limit]
  omega

/-- A new buffer is an empty queue. -/
theorem init (memory : List Byte) : (bufferInit memory.length memory).Holds (.empty : Fifo Byte memory.length) where
  size := rfl
  limit := rfl
  read_le := Nat.le_refl 0
  write_le := Nat.zero_le _
  queue := by simp [Buffer.unread, bufferInit]
  room := rfl

/-- A buffer with both pointers at the beginning is an empty queue. -/
theorem reset (h : b.Holds f) : (bufferReset b).Holds (.empty : Fifo Byte n) where
  size := h.size
  limit := h.limit
  read_le := Nat.le_refl 0
  write_le := Nat.zero_le _
  queue := by simp [Buffer.unread, bufferReset]
  room := h.limit

/-- Compaction keeps the queue and makes room. -/
theorem compact (h : b.Holds f) : ∃ b', bufferCompact b = some b' ∧ b'.Holds f.reclaim := by
  have hlen := h.length
  have hsize := h.size
  have hlimit := h.limit
  have hread := h.read_le
  have hwrite := h.write_le
  unfold bufferCompact
  by_cases h0 : b.read = 0
  · rw [if_pos h0]
    exact ⟨b, rfl, hsize, hlimit, hread, hwrite, h.queue, by rw [Fifo.room_reclaim]; omega⟩
  · rw [if_neg h0]
    by_cases he : b.read = b.write
    · rw [if_pos he]
      have hnil : f.queue = [] := List.eq_nil_of_length_eq_zero (by omega)
      refine ⟨_, rfl, hsize, hlimit, Nat.le_refl 0, Nat.zero_le _, ?_, ?_⟩
      · simp [Buffer.unread, hnil]
      · rw [Fifo.room_reclaim]
        dsimp only
        omega
    · -- the bytes between the pointers move to the beginning
      rw [if_neg he]
      dsimp only
      rw [memmove, if_pos (by omega)]
      refine ⟨_, rfl, ?_, hlimit, Nat.zero_le _, ?_, ?_, ?_⟩
      · simp only [List.take_zero, List.nil_append, List.length_append, List.length_take, List.length_drop]
        omega
      · dsimp only
        omega
      · simp only [Buffer.unread, List.take_zero, List.nil_append, List.drop_zero, Nat.sub_zero]
        rw [List.take_left' (by rw [List.length_take, List.length_drop]; omega)]
        exact h.queue
      · rw [Fifo.room_reclaim]
        dsimp only
        omega

/-- Bytes that are stored behind the queue belong to it once they are advanced over. -/
theorem put (h : b.Holds f) (bytes : List Byte) (adv : Nat) (hroom : bytes.length ≤ f.room) (hadv : adv ≤ f.room) :
    ∃ data accepted, ∃ hacc : accepted.length ≤ f.room, store b.data b.write bytes = some data ∧ accepted.length = adv ∧
      accepted.take bytes.length = bytes.take accepted.length ∧
      Buffer.Holds { b with data, write := b.write + adv } (f.put accepted hacc) := by
  have hlen := h.length
  have hsize := h.size
  have hlimit := h.limit
  have hread := h.read_le
  have hwrite := h.write_le
  have hr := h.room
  have htail : (bytes ++ b.data.drop (b.write + bytes.length)).length = f.room := by
    rw [List.length_append, List.length_drop]
    omega
  have hacc : ((bytes ++ b.data.drop (b.write + bytes.length)).take adv).length = adv := by
    rw [List.length_take, htail]
    omega
  refine ⟨b.data.take b.write ++ bytes ++ b.data.drop (b.write + bytes.length),
    (bytes ++ b.data.drop (b.write + bytes.length)).take adv, by omega, if_pos (by omega), hacc, ?_, ?_, hlimit, ?_, ?_, ?_, ?_⟩
  · rw [hacc, List.take_take, Nat.min_comm, ← List.take_take, List.take_left]
  · simp only [List.length_append, List.length_take, List.length_drop]
    omega
  · dsimp only
    omega
  · dsimp only
    omega
  · rw [Fifo.queue_put, ← h.queue]
    simp only [Buffer.unread]
    have hbefore : (b.data.take b.write ++ bytes ++ b.data.drop (b.write + bytes.length)).drop b.read =
        (b.data.drop b.read).take (b.write - b.read) ++ (bytes ++ b.data.drop (b.write + bytes.length)) := by
      rw [List.append_assoc, List.drop_append_of_le_length (by rw [List.length_take]; omega), List.drop_take]
    have hfront : ((b.data.drop b.read).take (b.write - b.read)).length = b.write - b.read := by
      rw [List.length_take, List.length_drop]
      omega
    rw [hbefore, List.take_append, List.take_of_length_le (by omega), hfront,
      show b.write + adv - b.read - (b.write - b.read) = adv by omega]
  · simp only [Fifo.put]
    omega

/-- Reading takes bytes from the front of the queue. -/
theorem readAdv (h : b.Holds f) {k : Nat} (hk : k ≤ b.write - b.read) :
    ∃ b', bufferReadAdv b k = some b' ∧ b'.Holds (f.take k) := by
  have hlen := h.length
  have hread := h.read_le
  rw [bufferReadAdv, if_pos (by omega)]
  simp only [Int.toNat_natCast]
  rw [if_pos (by omega)]
  have hunread : Buffer.unread { b with read := b.read + k } = f.queue.drop k := by
    rw [← h.queue]
    simp only [Buffer.unread, List.drop_take, List.drop_drop, Nat.sub_add_eq]
  by_cases he : b.read + k = b.write
  · rw [if_pos he]
    have hnil : f.queue.length ≤ k := by omega
    have hfits : ([] : List Byte).length + f.room ≤ n := by
      have := f.fits
      simp only [List.length_nil]
      omega
    have hempty : Buffer.Holds { b with read := b.read + k } (⟨[], f.room, hfits⟩ : Fifo Byte n) :=
      ⟨h.size, h.limit, Nat.le_of_eq he, h.write_le, by rw [hunread, List.drop_eq_nil_of_le hnil], h.room⟩
    obtain ⟨b', hb', hh⟩ := hempty.compact
    exact ⟨b', hb', by rw [f.take_of_length_le hnil]; exact hh⟩
  · rw [if_neg he]
    refine ⟨_, rfl, h.size, h.limit, by dsimp only; omega, h.write_le, by rw [Fifo.queue_take, hunread], ?_⟩
    rw [f.room_take (by omega)]
    exact h.room

end Buffer.Holds

/-! ## Every operation -/

section Operations

variable {b : Buffer} {n : Nat} {f : Fifo Byte n}

/-- `buffer_write` puts its byte into the queue, or drops it when there is no room. -/
theorem bufferWrite_holds (h : b.Holds f) (c : Byte) :
    (∃ hroom : [c].length ≤ f.room, ∃ b', bufferWrite b c = some b' ∧ b'.Holds (f.put [c] hroom)) ∨
      f.room = 0 ∧ bufferWrite b c = some b := by
  have hr := h.room
  have hw := h.write_le
  unfold bufferWrite
  by_cases hc : b.write < b.limit
  · have hroom : [c].length ≤ f.room := by
      rw [List.length_singleton]
      omega
    obtain ⟨data, accepted, hacc, hstore, hlen, hcopy, hh⟩ := h.put [c] [c].length hroom hroom
    obtain rfl : accepted = [c] := by
      rw [hlen, List.take_length, ← hlen, List.take_length] at hcopy
      exact hcopy
    refine .inl ⟨hroom, _, ?_, hh⟩
    rw [if_pos (by rw [bufferCanWrite, decide_eq_true_eq]; omega), hstore]
    dsimp only
    rw [bufferWriteAdv, if_pos (by decide)]
    exact if_pos (by dsimp only; omega)
  · refine .inr ⟨by omega, ?_⟩
    rw [if_neg]
    rw [bufferCanWrite, decide_eq_true_eq]
    omega

/-- `buffer_read` takes the first byte, or gives zero when there is none. -/
theorem bufferRead_holds (h : b.Holds f) :
    (∃ c b', f.queue.head? = some c ∧ bufferRead b = some (b', c) ∧ b'.Holds (f.take 1)) ∨
      f.queue = [] ∧ bufferRead b = some (b, 0) := by
  have hlen := h.length
  unfold bufferRead
  by_cases hc : b.read < b.write
  · have hlt : b.read < b.data.length := by
      have := h.write_le
      rw [h.size, ← h.limit]
      omega
    obtain ⟨b', hb', hh⟩ := h.readAdv (k := 1) (by omega)
    refine .inl ⟨b.data[b.read], b', ?_, ?_, hh⟩
    · rw [← h.queue, Buffer.unread, List.drop_eq_getElem_cons hlt, List.head?_take, if_neg (by omega)]
      rfl
    · rw [if_pos (by rw [bufferCanRead, decide_eq_true_eq]; omega), List.getElem?_eq_getElem hlt]
      have hone : bufferReadAdv b 1 = some b' := hb'
      dsimp only
      rw [hone]
      rfl
  · refine .inr ⟨List.eq_nil_of_length_eq_zero (by omega), if_neg ?_⟩
    rw [bufferCanRead, decide_eq_true_eq]
    omega

/-- Every operation within a buffer is one on its queue, and no assertion fails. -/
theorem BufferOp.step_holds (h : b.Holds f) (op : BufferOp) (hw : op.Within b) :
    ∃ b' out f', op.step b = some (b', out) ∧ QueueStep f op out f' ∧ b'.Holds f' := by
  cases op with
  | write c =>
    rcases bufferWrite_holds h c with ⟨hroom, b', hb', hh⟩ | ⟨hfull, hb'⟩
    · exact ⟨b', none, _, by rw [BufferOp.step, hb']; rfl, .write f c hroom, hh⟩
    · exact ⟨b, none, f, by rw [BufferOp.step, hb']; rfl, .full f c hfull, h⟩
  | read =>
    rcases bufferRead_holds h with ⟨c, b', hhead, hb', hh⟩ | ⟨hnil, hb'⟩
    · exact ⟨b', some c, _, by rw [BufferOp.step, hb']; rfl, .read f c hhead, hh⟩
    · exact ⟨b, some 0, f, by rw [BufferOp.step, hb']; rfl, .nothing f hnil, h⟩
  | fill bytes adv =>
    have hr := h.room
    have hptr : bufferWritePtr b = some (b.write, b.limit - b.write) := if_pos h.write_le
    obtain ⟨hbytes, hadv⟩ := hw _ _ hptr
    obtain ⟨data, accepted, hacc, hstore, hlen, hcopy, hh⟩ := h.put bytes adv.toNat (by omega) (by omega)
    refine ⟨_, none, _, ?_, .fill f bytes accepted adv hacc hlen hcopy, hh⟩
    simp only [BufferOp.step, hptr, hstore, bufferWriteAdv]
    by_cases hneg : adv > -1
    · have hle := h.write_le
      rw [if_pos hneg, if_pos (by omega)]
      rfl
    · rw [if_neg hneg, show adv.toNat = 0 by omega]
      rfl
  | readAdv bytes =>
    have hptr : bufferReadPtr b = some (b.read, b.write - b.read) := if_pos h.read_le
    have hle : bytes ≤ _ := hw _ _ hptr
    by_cases hneg : bytes < 0
    · refine ⟨b, none, f, ?_, .failed f bytes hneg, h⟩
      rw [BufferOp.step, bufferReadAdv, if_neg (by omega)]
      rfl
    · obtain ⟨k, rfl⟩ := Int.eq_ofNat_of_zero_le (show 0 ≤ bytes by omega)
      obtain ⟨b', hb', hh⟩ := h.readAdv (k := k) (by omega)
      exact ⟨b', none, _, by rw [BufferOp.step, hb']; rfl, .readAdv f k, hh⟩
  | compact =>
    obtain ⟨b', hb', hh⟩ := h.compact
    exact ⟨b', none, _, by rw [BufferOp.step, hb']; rfl, .compact f, hh⟩
  | reset => exact ⟨_, none, _, rfl, .reset f, h.reset⟩

/-- Operations one after another are operations on the queue. -/
theorem Buffer.run_holds (h : b.Holds f) (ops : List BufferOp) (hw : b.AllWithin ops) :
    ∃ b' outs f', b.run ops = some (b', outs) ∧ QueueRun f ops outs f' ∧ b'.Holds f' := by
  induction ops generalizing b f with
  | nil => exact ⟨b, [], f, rfl, .nil f, h⟩
  | cons op ops ih =>
    obtain ⟨hop, hops⟩ := hw
    obtain ⟨b1, out, f1, hb1, hs, hh⟩ := op.step_holds h hop
    obtain ⟨b2, outs, f2, hb2, hr, hh'⟩ := ih hh (hops b1 out hb1)
    exact ⟨b2, out :: outs, f2, by rw [Buffer.run, hb1]; simp only [hb2, Option.map_some], .cons hs hr, hh'⟩

end Operations

/-- A buffer is a queue of bytes, for every capacity and every sequence of operations within it, and so in every state that it
reaches. No assertion fails and no access is outside the memory. The pointers stay in order, between them are the bytes that were
accepted and not yet read, in their order, and every operation returns what the queue says. `buffer_write` drops its byte only when
`write` has reached `limit`; and after `buffer_compact` there is room for all bytes of the capacity but those of the queue. -/
theorem buffer_is_queue (memory : List Byte) (ops : List BufferOp) (h : (bufferInit memory.length memory).AllWithin ops) :
    ∃ b outs, (bufferInit memory.length memory).run ops = some (b, outs) ∧
      b.limit = memory.length ∧ b.read ≤ b.write ∧ b.write ≤ b.limit ∧
      (∃ f : Fifo Byte memory.length, QueueRun .empty ops outs f ∧ b.unread = f.queue ∧ b.limit - b.write = f.room) ∧
      (∀ c, b.write ≠ b.limit → ∃ b', bufferWrite b c = some b' ∧ b'.unread = b.unread ++ [c]) ∧
      ∃ b', bufferCompact b = some b' ∧ b'.unread = b.unread ∧
        bufferWritePtr b' = some (b.unread.length, memory.length - b.unread.length) := by
  obtain ⟨b, outs, f, hrun, hq, hh⟩ := Buffer.run_holds (.init memory) ops h
  refine ⟨b, outs, hrun, hh.limit, hh.read_le, hh.write_le, ⟨f, hq, hh.queue, hh.room⟩, fun c hne => ?_, ?_⟩
  · rcases bufferWrite_holds hh c with ⟨hroom, b', hb', hh'⟩ | ⟨hfull, _⟩
    · exact ⟨b', hb', by rw [hh'.queue, hh.queue, Fifo.queue_put]⟩
    · have := hh.room
      have := hh.write_le
      omega
  · obtain ⟨b', hb', hh'⟩ := hh.compact
    have hroom := hh'.room
    have hfits := f.fits
    have hle := hh'.write_le
    have hlimit := hh'.limit
    rw [Fifo.room_reclaim] at hroom
    refine ⟨b', hb', by rw [hh'.queue, hh.queue, Fifo.queue_reclaim], ?_⟩
    rw [bufferWritePtr, if_pos hle, hh.queue, hroom, show b'.write = f.queue.length by omega]

/-- Four bytes are copied into a buffer of six, three are read, two more are copied, and the buffer is compacted. -/
theorem buffer_is_queue_six :
    ∃ b outs, (bufferInit 6 [0, 0, 0, 0, 0, 0]).run
        [.fill [72, 79, 76, 65] 4, .readAdv 3, .fill [32, 77] 2, .write 33, .compact, .write 33, .read] = some (b, outs) ∧
      ∃ f : Fifo Byte 6, QueueRun .empty
        [.fill [72, 79, 76, 65] 4, .readAdv 3, .fill [32, 77] 2, .write 33, .compact, .write 33, .read] outs f ∧
        b.unread = f.queue := by
  obtain ⟨b, outs, hrun, _, _, _, ⟨f, hq, hf, _⟩, _⟩ := buffer_is_queue [0, 0, 0, 0, 0, 0]
    [.fill [72, 79, 76, 65] 4, .readAdv 3, .fill [32, 77] 2, .write 33, .compact, .write 33, .read] (by
      simp [Buffer.AllWithin, BufferOp.Within, BufferOp.step, bufferInit, bufferWritePtr, bufferReadPtr, store, bufferWriteAdv,
        bufferReadAdv, bufferCompact, memmove, bufferWrite, bufferCanWrite])
  exact ⟨b, outs, hrun, f, hq, hf⟩

example : ((bufferInit 6 [0, 0, 0, 0, 0, 0]).run
    [.fill [72, 79, 76, 65] 4, .readAdv 3, .fill [32, 77] 2, .write 33, .compact, .write 33, .read]).map
      (fun r => (r.1.unread, r.2)) = some ([32, 77, 33], [none, none, none, none, none, none, some 65]) := by decide

end SocksProxy
