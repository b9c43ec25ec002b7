import SocksProxy.NetUtils
import SocksProxy.Theorems.BufferQueue

/-!
# The blocking helpers

What the two loops over blocking sockets send, and what they return. Each of them returns zero when it has gone through all its bytes,
and what `errno` says otherwise. But a loop that ends because `recv` failed returns zero too, and `errno` says nothing of use when
`send` took nothing without failing: it may be zero while bytes are left, and it need not be when there was nothing to send.
-/

namespace SocksProxy

/-- Some `send` takes nothing while bytes are left, of which there are `n` before the first. -/
def Stalls : Nat → List SendResult → Prop
  | _, [] => False
  | n, .sent count :: answers => count = 0 ∨ count < n ∧ Stalls (n - count) answers
  | _, .error _ :: _ => False

/-- The `send`s take all of `n` bytes. -/
def Drains : Nat → List SendResult → Prop
  | _, [] => False
  | n, .sent count :: answers => 0 < count ∧ (n ≤ count ∨ Drains (n - count) answers)
  | _, .error _ :: _ => False

/-- A call of `sock_blocking_write` reports what it did: what it has not sent is still in the buffer, and it returns zero if and only if
it has sent all of it. -/
structure BlockingWrite.Faithful (w : BlockingWrite) (b : Buffer) : Prop where
  rest : w.sent ++ w.buffer.unread = b.unread
  ret : ∀ r, w.ret = some r → (r = 0 ↔ w.sent = b.unread)

/-- A call of `sock_blocking_copy` reports what it did: it has sent a beginning of what it received, and it returns zero if and only if
the source has reached its end and all of that was sent. -/
structure BlockingCopy.Faithful (c : BlockingCopy) : Prop where
  begins : c.sent <+: c.received
  ret : ∀ r, c.ret = some r → (r = 0 ↔ c.ended = true ∧ c.sent = c.received)

/-- When `sock_blocking_write` reports what it did. With bytes to send, `errno` is not zero, or no `send` takes nothing. Without bytes,
the only `send` succeeds, and `errno` is zero. -/
def WriteReported (errno : Nat) (unread : List Byte) (sends : List SendResult) : Prop :=
  (unread ≠ [] → errno = 0 → ¬Stalls unread.length sends) ∧
  (unread = [] → ∀ answer, sends.head? = some answer → errno = 0 ∧ ∃ count, answer = .sent count)

/-- When `sock_blocking_copy` does not report what it did: `recv` fails, when all it has delivered before was sent, or a `send` takes
nothing while `errno` is zero. -/
def CopyMisreported (errno : Nat) : List (RecvResult × List SendResult) → Prop
  | [] => False
  | (recv, sends) :: rest =>
    match recv.limit copyBufferSize with
    | .data bytes => errno = 0 ∧ Stalls bytes.length sends ∨ Drains bytes.length sends ∧ CopyMisreported errno rest
    | .eof => False
    | .error _ => True

/-! ## The loop over a buffer -/

section Write

variable {errno : Nat} {b : Buffer} {n : Nat} {f : Fifo Byte n}

/-- What a call leaves when there is something to send: all was sent, or a `send` took nothing, or neither, and then the call returns
the error of a `send`, if it returns. -/
theorem sockBlockingWrite_spec (errno : Nat) (h : b.Holds f) (hne : f.queue ≠ []) (sends : List SendResult) :
    ∃ w, ∃ f' : Fifo Byte n, sockBlockingWrite errno b sends = some w ∧ w.buffer.Holds f' ∧ w.sent ++ f'.queue = f.queue ∧
      (¬Stalls f.queue.length sends ∧ f'.queue = [] ∧ w.ret = some 0 ∨
        Stalls f.queue.length sends ∧ f'.queue ≠ [] ∧ w.ret = some errno ∨
        ¬Stalls f.queue.length sends ∧ f'.queue ≠ [] ∧ ∀ r, w.ret = some r → ∃ e : Errno, r = e.code) := by
  induction sends generalizing b f with
  | nil =>
    refine ⟨_, f, by rw [sockBlockingWrite, bufferReadPtr, if_pos h.read_le]; rfl, h, rfl, .inr (.inr ⟨id, hne, ?_⟩)⟩
    intro r hr
    cases hr
  | cons answer sends ih =>
    have hlen := h.length
    have hpos := List.length_pos_iff.mpr hne
    rw [sockBlockingWrite, bufferReadPtr, if_pos h.read_le]
    dsimp only
    cases answer with
    | error e => exact ⟨_, f, rfl, h, rfl, .inr (.inr ⟨id, hne, fun r hr => ⟨e, (Option.some.inj hr).symm⟩⟩)⟩
    | sent count =>
      dsimp only
      by_cases hcount : count = 0
      · rw [if_neg (by omega)]
        exact ⟨_, f, rfl, h, rfl, .inr (.inl ⟨.inl hcount, hne, rfl⟩)⟩
      · rw [if_pos (by omega)]
        obtain ⟨b', hb', hh⟩ := h.readAdv (Nat.min_le_right count (b.write - b.read))
        rw [hb']
        dsimp only
        have hchunk : (b.data.drop b.read).take (min count (b.write - b.read)) = f.queue.take (min count (b.write - b.read)) := by
          rw [← h.queue, Buffer.unread, List.take_take, Nat.min_eq_left (Nat.min_le_right _ _)]
        have hlen' := hh.length
        rw [Fifo.queue_take, List.length_drop] at hlen'
        by_cases hmore : bufferCanRead b' = true
        · have hlt : b'.read < b'.write := by
            rw [bufferCanRead, decide_eq_true_eq] at hmore
            omega
          have hne' : (f.take (min count (b.write - b.read))).queue ≠ [] := by
            refine List.ne_nil_of_length_pos ?_
            rw [Fifo.queue_take, List.length_drop]
            omega
          obtain ⟨w, f', hw, hwh, hsent, hcases⟩ := ih hh hne'
          rw [if_pos hmore, hw]
          refine ⟨_, f', rfl, hwh, ?_, ?_⟩
          · dsimp only
            rw [List.append_assoc, hsent, hchunk, Fifo.queue_take, List.take_append_drop]
          · have hstalls : Stalls f.queue.length (.sent count :: sends) ↔
                Stalls (f.take (min count (b.write - b.read))).queue.length sends := by
              rw [Fifo.queue_take, List.length_drop, Nat.min_eq_left (by omega)]
              exact ⟨fun hs => (hs.resolve_left hcount).2, fun hs => .inr ⟨by omega, hs⟩⟩
            rw [hstalls]
            exact hcases
        · have hall : (f.take (min count (b.write - b.read))).queue = [] := by
            rw [bufferCanRead, decide_eq_true_eq] at hmore
            refine List.eq_nil_of_length_eq_zero ?_
            rw [Fifo.queue_take, List.length_drop]
            omega
          rw [if_neg hmore]
          refine ⟨_, _, rfl, hh, ?_, .inl ⟨?_, hall, rfl⟩⟩
          · dsimp only
            rw [hchunk, Fifo.queue_take, List.take_append_drop]
          · rw [Fifo.queue_take, List.drop_eq_nil_iff] at hall
            rintro (hs | ⟨hs, _⟩)
            · exact hcount hs
            · omega

/-- What a call leaves when there is nothing to send. -/
theorem sockBlockingWrite_empty (errno : Nat) (h : b.Holds f) (hnil : f.queue = []) (sends : List SendResult) :
    ∃ ret, sockBlockingWrite errno b sends = some { buffer := b, sent := [], ret } ∧
      ((∀ r, ret = some r → r = 0) ↔ ∀ answer, sends.head? = some answer → errno = 0 ∧ ∃ count, answer = .sent count) := by
  have hlen := h.length
  rw [hnil, List.length_nil] at hlen
  cases sends with
  | nil => exact ⟨none, by rw [sockBlockingWrite, bufferReadPtr, if_pos h.read_le]; rfl, by simp⟩
  | cons answer sends =>
    rw [sockBlockingWrite, bufferReadPtr, if_pos h.read_le]
    dsimp only
    cases answer with
    | error e => exact ⟨some e.code, rfl, by simp [e.ne_zero]⟩
    | sent count =>
      dsimp only
      rw [if_neg (by omega)]
      exact ⟨some errno, rfl, by simp⟩

/-- When `sock_blocking_write` reports what it did. -/
theorem sockBlockingWrite_faithful (h : b.Holds f) (sends : List SendResult) :
    ∃ w, sockBlockingWrite errno b sends = some w ∧ w.sent ++ w.buffer.unread = b.unread ∧
      (w.Faithful b ↔ WriteReported errno b.unread sends) := by
  rw [h.queue]
  by_cases hnil : f.queue = []
  · obtain ⟨ret, hw, hiff⟩ := sockBlockingWrite_empty errno h hnil sends
    refine ⟨_, hw, h.queue, fun hf => ⟨fun hne => absurd hnil hne, fun _ => hiff.mp ?_⟩, fun hr => ⟨rfl, fun r hret => ?_⟩⟩
    · exact fun r hret => (hf.ret r hret).mpr (h.queue.trans hnil).symm
    · exact ⟨fun _ => (h.queue.trans hnil).symm, fun _ => hiff.mpr (hr.2 hnil) r hret⟩
  · obtain ⟨w, f', hw, hh, hsent, hcases⟩ := sockBlockingWrite_spec errno h hnil sends
    have hrest : w.sent ++ w.buffer.unread = f.queue := by rw [hh.queue, hsent]
    have hall : w.sent = b.unread ↔ f'.queue = [] := by
      rw [h.queue, ← hsent]
      simp
    refine ⟨w, hw, hrest, ?_⟩
    have hreported : WriteReported errno f.queue sends ↔ (errno = 0 → ¬Stalls f.queue.length sends) :=
      ⟨fun hr => hr.1 hnil, fun hr => ⟨fun _ => hr, fun he => absurd he hnil⟩⟩
    have hfaithful : w.Faithful b ↔ ∀ r, w.ret = some r → (r = 0 ↔ f'.queue = []) := by
      rw [← hall]
      exact ⟨fun hf => hf.ret, fun hr => ⟨hrest.trans h.queue.symm, hr⟩⟩
    rw [hreported, hfaithful]
    obtain ⟨hs, hq, hret⟩ | ⟨hs, hq, hret⟩ | ⟨hs, hq, hret⟩ := hcases
    · simp [hs, hq, hret]
    · simp [hs, hq, hret]
    · refine ⟨fun _ _ => hs, fun _ r hr => ?_⟩
      obtain ⟨e, rfl⟩ := hret r hr
      exact ⟨fun he => absurd he e.ne_zero, fun he => absurd he hq⟩

end Write

/-! ## The loop over two sockets -/

section Copy

variable {errno : Nat}

/-- How the inner loop ends: everything is sent if and only if the `send`s take it all; else what was sent is less, and the loop
returns `errno` as it was if a `send` took nothing, and the error of a `send` if that is what ended it. -/
theorem copySend_spec (errno : Nat) {pending : List Byte} (hne : pending ≠ []) (sends : List SendResult) :
    (Drains pending.length sends ∧ ¬Stalls pending.length sends ∧ copySend errno pending sends = (pending, .drained)) ∨
    ∃ sent ending, copySend errno pending sends = (sent, ending) ∧ sent <+: pending ∧ sent ≠ pending ∧
      ¬Drains pending.length sends ∧
      (Stalls pending.length sends ∧ ending = .failed errno ∨
        ¬Stalls pending.length sends ∧ (ending = .blocked ∨ ∃ e : Errno, ending = .failed e.code)) := by
  induction sends generalizing pending with
  | nil => exact .inr ⟨[], .blocked, by rw [copySend], List.nil_prefix, hne.symm, id, .inr ⟨id, .inl rfl⟩⟩
  | cons answer sends ih =>
    have hpos := List.length_pos_iff.mpr hne
    cases answer with
    | error e => exact .inr ⟨[], _, by rw [copySend], List.nil_prefix, hne.symm, id, .inr ⟨id, .inr ⟨e, rfl⟩⟩⟩
    | sent count =>
      rw [copySend]
      dsimp only
      by_cases hcount : count = 0
      · rw [if_neg (by omega)]
        refine .inr ⟨[], _, rfl, List.nil_prefix, hne.symm, fun hd => ?_, .inl ⟨.inl hcount, rfl⟩⟩
        exact absurd hd.1 (by omega)
      · rw [if_pos (by omega)]
        by_cases hlt : count < pending.length
        · rw [if_pos (by omega), Nat.min_eq_left (Nat.le_of_lt hlt)]
          have hrest : pending.drop count ≠ [] := by
            refine List.ne_nil_of_length_pos ?_
            rw [List.length_drop]
            omega
          have hstalls : Stalls pending.length (.sent count :: sends) ↔ Stalls (pending.drop count).length sends := by
            rw [List.length_drop]
            exact ⟨fun hs => (hs.resolve_left hcount).2, fun hs => .inr ⟨hlt, hs⟩⟩
          have hdrains : Drains pending.length (.sent count :: sends) ↔ Drains (pending.drop count).length sends := by
            rw [List.length_drop]
            exact ⟨fun hd => hd.2.resolve_left (by omega), fun hd => ⟨by omega, .inr hd⟩⟩
          rw [hstalls, hdrains]
          obtain ⟨hd, hs, heq⟩ | ⟨sent, ending, heq, ⟨rest, hp⟩, hno, hd, hcases⟩ := ih hrest
          · refine .inl ⟨hd, hs, ?_⟩
            rw [heq]
            dsimp only
            rw [List.take_append_drop]
          · refine .inr ⟨pending.take count ++ sent, ending, by rw [heq], ⟨rest, ?_⟩, fun he => hno ?_, hd, hcases⟩
            · rw [List.append_assoc, hp, List.take_append_drop]
            · conv_rhs at he => rw [← List.take_append_drop count pending]
              exact List.append_cancel_left he
        · rw [if_neg (by omega), Nat.min_eq_right (Nat.le_of_not_lt hlt), List.take_length]
          refine .inl ⟨⟨by omega, .inl (Nat.le_of_not_lt hlt)⟩, ?_, rfl⟩
          rintro (hs | ⟨hs, _⟩)
          · exact hcount hs
          · exact hlt hs

/-- When `sock_blocking_copy` reports what it did. -/
theorem sockBlockingCopy_faithful (errno : Nat) (calls : List (RecvResult × List SendResult)) :
    (sockBlockingCopy errno calls).sent <+: (sockBlockingCopy errno calls).received ∧
      ((sockBlockingCopy errno calls).Faithful ↔ ¬CopyMisreported errno calls) := by
  induction calls with
  | nil => exact ⟨List.nil_prefix, fun _ => id, fun _ => ⟨List.nil_prefix, fun r hr => by cases hr⟩⟩
  | cons call calls ih =>
    obtain ⟨recv, sends⟩ := call
    rw [sockBlockingCopy, CopyMisreported]
    cases hrecv : recv.limit copyBufferSize with
    | eof => exact ⟨List.nil_prefix, fun _ => id, fun _ => ⟨List.nil_prefix, fun r hr => by cases hr; simp⟩⟩
    | error e => exact ⟨List.nil_prefix, fun hf => absurd (hf.ret 0 rfl) (by simp), fun hno => absurd trivial hno⟩
    | data bytes =>
      dsimp only
      obtain ⟨hd, hs, heq⟩ | ⟨sent, ending, heq, hp, hno, hd, hcases⟩ :=
        copySend_spec errno (limit_data hrecv).1 sends
      · -- all was sent, and what is reported of the rest is reported of all
        rw [heq]
        dsimp only
        obtain ⟨hbegins, hiff⟩ := ih
        have hsame : ∀ copy : BlockingCopy,
            (BlockingCopy.Faithful { copy with received := bytes ++ copy.received, sent := bytes ++ copy.sent } ↔
              copy.Faithful) := by
          intro copy
          constructor
          · rintro ⟨h1, h2⟩
            exact ⟨(List.prefix_append_right_inj bytes).mp h1, fun r hr => (h2 r hr).trans (by simp)⟩
          · rintro ⟨h1, h2⟩
            exact ⟨(List.prefix_append_right_inj bytes).mpr h1, fun r hr => (h2 r hr).trans (by simp)⟩
        refine ⟨(List.prefix_append_right_inj bytes).mpr hbegins, (hsame _).trans (hiff.trans ?_)⟩
        simp [hs, hd]
      · rw [heq]
        dsimp only
        obtain ⟨hs, rfl⟩ | ⟨hs, rfl | ⟨e, rfl⟩⟩ := hcases
        · refine ⟨hp, fun hf hm => ?_, fun hm => ⟨hp, fun r hr => ?_⟩⟩
          · rcases hm with ⟨he, _⟩ | ⟨hd', _⟩
            · exact absurd ((hf.ret errno rfl).mp he).1 (by simp)
            · exact hd hd'
          · cases hr
            exact ⟨fun he => absurd (.inl ⟨he, hs⟩) hm, fun hc => absurd hc.1 (by simp)⟩
        · refine ⟨hp, fun _ hm => ?_, fun _ => ⟨hp, fun r hr => by cases hr⟩⟩
          exact hm.elim (fun h => hs h.2) (fun h => hd h.1)
        · refine ⟨hp, fun _ hm => ?_, fun _ => ⟨hp, fun r hr => ?_⟩⟩
          · exact hm.elim (fun h => hs h.2) (fun h => hd h.1)
          · cases hr
            exact ⟨fun he => absurd he e.ne_zero, fun hc => absurd hc.1 (by simp)⟩

end Copy

/-- The blocking helpers, for every value of `errno` and every sequence of answers of the kernel. `sock_blocking_copy` sends a
beginning of what it receives, and it returns zero if and only if the source has reached its end and everything was sent, except when
`recv` fails after all that it delivered was sent, or a `send` takes nothing while `errno` is zero. `sock_blocking_write`, on a buffer
with its invariant, sends a beginning of what can be read and leaves exactly the rest of it, and it returns zero if and only if it has
sent everything, except when a `send` takes nothing while `errno` is zero, or when there is nothing to send and `errno` is not zero or
the `send` of nothing fails. -/
theorem blocking_reported (errno : Nat) (calls : List (RecvResult × List SendResult)) {b : Buffer} {n : Nat} {f : Fifo Byte n}
    (h : b.Holds f) (sends : List SendResult) :
    ((sockBlockingCopy errno calls).sent <+: (sockBlockingCopy errno calls).received ∧
      ((sockBlockingCopy errno calls).Faithful ↔ ¬CopyMisreported errno calls)) ∧
    ∃ w, sockBlockingWrite errno b sends = some w ∧ w.sent ++ w.buffer.unread = b.unread ∧
      (w.Faithful b ↔ WriteReported errno b.unread sends) :=
  ⟨sockBlockingCopy_faithful errno calls, sockBlockingWrite_faithful h sends⟩

/-- A copy in two parts, up to the end of the stream, and the same bytes from a new buffer. -/
theorem blocking_reported_two :
    (sockBlockingCopy 0 [(.data [1, 2], [.sent 1, .sent 1]), (.data [3], [.sent 1]), (.eof, [])]).Faithful ∧
    ∃ w, sockBlockingWrite 0 { data := [1, 2, 3], limit := 3, read := 0, write := 3 } [.sent 2, .sent 1] = some w ∧
      w.Faithful { data := [1, 2, 3], limit := 3, read := 0, write := 3 } := by
  have hb : Buffer.Holds { data := [1, 2, 3], limit := 3, read := 0, write := 3 }
      (⟨[1, 2, 3], 0, by decide⟩ : Fifo Byte 3) := ⟨rfl, rfl, by decide, by decide, rfl, rfl⟩
  obtain ⟨⟨_, hcopy⟩, w, hw, _, hwrite⟩ := blocking_reported 0
    [(.data [1, 2], [.sent 1, .sent 1]), (.data [3], [.sent 1]), (.eof, [])] hb [.sent 2, .sent 1]
  refine ⟨hcopy.mpr ?_, w, hw, hwrite.mpr ?_⟩
  · simp [CopyMisreported, RecvResult.limit, copyBufferSize, Stalls]
  · simp [WriteReported, Buffer.unread, Stalls]

/-- `sock_blocking_copy` returns zero when `recv` fails, and `sock_blocking_write` returns an old error when there is nothing to
send. -/
theorem blocking_misreported :
    (sockBlockingCopy 0 [(.error .econnrefused, [])]).ret = some 0 ∧
    (sockBlockingCopy 0 [(.error .econnrefused, [])]).ended = false ∧
    (∃ w, sockBlockingWrite 11 (bufferInit 1 [0]) [.sent 0] = some w ∧ w.ret = some 11 ∧ w.sent = (bufferInit 1 [0]).unread) ∧
    ¬(∀ errno calls, (sockBlockingCopy errno calls).Faithful) ∧
    ¬(∀ errno b n (f : Fifo Byte n) sends w, b.Holds f → sockBlockingWrite errno b sends = some w → w.Faithful b) := by
  have hw : sockBlockingWrite 11 (bufferInit 1 [0]) [.sent 0] =
      some { buffer := bufferInit 1 [0], sent := [], ret := some 11 } := rfl
  refine ⟨rfl, rfl, ⟨_, hw, rfl, rfl⟩, fun hall => ?_, fun hall => ?_⟩
  · have := ((hall 0 [(.error .econnrefused, [])]).ret 0 rfl).mp rfl
    exact absurd this.1 (by decide)
  · have := ((hall 11 (bufferInit 1 [0]) 1 .empty [.sent 0] _ (.init [0]) hw).ret 11 rfl).mpr rfl
    exact absurd this (by decide)

end SocksProxy
