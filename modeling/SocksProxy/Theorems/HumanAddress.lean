import SocksProxy.NetUtils
import SocksProxy.Theorems.LogLines

/-!
# An address for humans

What `sockaddr_to_human` leaves in the memory of its caller. The name of the address is written with a terminator where it fits, and
then a colon is appended by `strncat`, whose bound is not the size of the buffer: it always writes a terminator behind the colon. When
the name fills the buffer, that terminator is the byte behind it. A name that was cut without a terminator is worse: the colon goes
to wherever the next zero of the memory is.
-/

namespace SocksProxy

/-- The memory behind the buffer is as it was, and the string is terminated inside the buffer. -/
def HumanSafe (memory memory' : List Byte) (buffsize : Nat) : Prop :=
  memory'.drop buffsize = memory.drop buffsize ∧ (0 : Byte) ∈ memory'.take buffsize

/-- The text of an address that fits is followed by a colon and the port, as far as there is room. -/
def HumanText (memory' : List Byte) (buffsize : Nat) (addr : Option SockAddr) : Prop :=
  ∀ text port, addr.bind SockAddr.printed = some (text, port) → text.bytes.length < buffsize →
    (CString.ofBuffer memory').bytes = (text.bytes ++ ascii ":" ++ decimal port.toNat).take (buffsize - 1)

/-- How long the name is that is written for an address of the two families. -/
def nameLength (text : CString) (buffsize : Nat) : Nat :=
  if text.bytes.length < buffsize then text.bytes.length else min (ascii "unknown ip").length (buffsize - 1)

/-- When the buffer is large enough: for the name and a colon with its terminator, or else the byte behind the buffer is zero anyway.
A NULL address has no colon, but its name needs a terminator. -/
def HumanFits (memory : List Byte) (buffsize : Nat) : Option SockAddr → Prop
  | none => (ascii "null").length < buffsize
  | some addr =>
    match addr.printed with
    | some (text, _) => nameLength text buffsize + 1 < buffsize ∨ memory[buffsize]? = some 0
    | none => (ascii "unknown").length + 1 < buffsize ∨
        (ascii "unknown").length + 1 = buffsize ∧ memory[buffsize]? = some 0

/-! ## Strings in memory -/

/-- A string without NUL is at the beginning of a buffer, with its terminator, and this is behind the buffer. -/
def Terminated (memory : List Byte) (buffsize : Nat) (s tail : List Byte) : Prop :=
  (0 : Byte) ∉ s ∧ ∃ fill, memory = s ++ 0 :: fill ++ tail ∧ s.length + 1 + fill.length = buffsize

/-- A store replaces as many bytes as it has. -/
theorem store_append (front old back bytes : List Byte) (h : old.length = bytes.length) :
    store (front ++ old ++ back) front.length bytes = some (front ++ bytes ++ back) := by
  have hfront : (front ++ old ++ back).take front.length = front := by rw [List.append_assoc, List.take_left]
  have hback : (front ++ old ++ back).drop (front.length + bytes.length) = back := by
    rw [← h, ← List.length_append, List.drop_left]
  rw [store, if_pos (by simp only [List.length_append]; omega), hfront, hback]

/-- The length of a string in memory. -/
theorem strlen_append {s : List Byte} (h : (0 : Byte) ∉ s) (rest : List Byte) : strlen (s ++ 0 :: rest) = some s.length := by
  induction s with
  | nil => rfl
  | cons b s ih =>
    obtain ⟨hb, hs⟩ := not_or.mp (mt List.mem_cons.mpr h)
    have hne : (b == 0) = false := beq_eq_false_iff_ne.mpr fun he => hb he.symm
    have := ih hs
    rw [strlen] at this ⊢
    rw [List.cons_append, List.findIdx?_cons, hne, this]
    rfl

namespace Terminated

variable {memory : List Byte} {buffsize : Nat} {s tail : List Byte}

/-- The length of the string. -/
theorem strlen (h : Terminated memory buffsize s tail) : SocksProxy.strlen memory = some s.length := by
  obtain ⟨hs, fill, rfl, _⟩ := h
  rw [List.append_assoc]
  exact strlen_append hs (fill ++ tail)

/-- A terminator in the last byte changes nothing of the string. -/
theorem last (h : Terminated memory buffsize s tail) :
    ∃ memory', store memory (buffsize - 1) [0] = some memory' ∧ Terminated memory' buffsize s tail := by
  obtain ⟨hs, fill, rfl, hlen⟩ := h
  obtain rfl | ⟨fill, b, rfl⟩ := fill.eq_nil_or_concat
  · have hstore := store_append s [0] tail [0] rfl
    rw [show buffsize - 1 = s.length by simp only [List.length_nil] at hlen; omega]
    exact ⟨_, hstore, hs, [], rfl, hlen⟩
  · rw [List.concat_eq_append] at hlen ⊢
    have hstore := store_append (s ++ 0 :: fill) [b] tail [0] rfl
    rw [List.length_append, List.length_singleton] at hlen
    rw [show buffsize - 1 = (s ++ 0 :: fill).length by simp only [List.length_append, List.length_cons]; omega]
    refine ⟨s ++ 0 :: (fill ++ [0]) ++ tail, ?_, hs, fill ++ [0], rfl, ?_⟩
    · simpa using hstore
    · rw [List.length_append, List.length_singleton]
      omega

/-- A text is appended to the string as far as there is room. -/
theorem append (h : Terminated memory buffsize s tail) {text : List Byte} (ht : (0 : Byte) ∉ text) :
    ∃ memory', snprintfAt memory s.length (buffsize - s.length) text = some memory' ∧
      Terminated memory' buffsize (s ++ text.take (buffsize - 1 - s.length)) tail := by
  obtain ⟨hs, fill, rfl, hlen⟩ := h
  have hroom : buffsize - s.length - 1 = fill.length := by omega
  have hroom' : buffsize - 1 - s.length = fill.length := by omega
  have hfill : 0 :: fill = (0 :: fill).take ((text.take fill.length).length + 1) ++ fill.drop (text.take fill.length).length :=
    (List.take_append_drop ((text.take fill.length).length + 1) (0 :: fill)).symm
  have hold : ((0 :: fill).take ((text.take fill.length).length + 1)).length = (text.take fill.length ++ [0]).length := by
    simp only [List.length_take, List.length_append, List.length_cons, List.length_nil]
    omega
  have hstore := store_append s _ (fill.drop (text.take fill.length).length ++ tail) _ hold
  rw [snprintfAt, if_neg (by omega), snprintfText, hroom, hroom']
  refine ⟨_, ?_, ?_, fill.drop (text.take fill.length).length, rfl, ?_⟩
  · dsimp only
    conv_lhs => rw [hfill]
    simp only [List.append_assoc, List.cons_append, List.nil_append] at hstore ⊢
    exact hstore
  · intro hm
    exact (List.mem_append.mp hm).elim hs fun hm => ht (List.mem_of_mem_take hm)
  · simp only [List.length_append, List.length_take, List.length_drop]
    omega

/-- The string that is read back. -/
theorem ofBuffer (h : Terminated memory buffsize s tail) : (CString.ofBuffer memory).bytes = s := by
  obtain ⟨hs, fill, rfl, _⟩ := h
  have hall : ∀ b ∈ s, (b != 0) = true := fun b hb => by
    rw [bne_iff_ne]
    exact fun he => hs (he ▸ hb)
  simp only [CString.ofBuffer, List.append_assoc]
  rw [List.takeWhile_append_of_pos hall, List.cons_append, List.takeWhile_cons_of_neg (by decide), List.append_nil]

/-- What is behind the buffer. -/
theorem drop (h : Terminated memory buffsize s tail) : memory.drop buffsize = tail := by
  obtain ⟨_, fill, rfl, hlen⟩ := h
  refine List.drop_left' ?_
  simp only [List.length_append, List.length_cons]
  omega

/-- The string is terminated in the buffer. -/
theorem nul_mem (h : Terminated memory buffsize s tail) : (0 : Byte) ∈ memory.take buffsize := by
  obtain ⟨_, fill, rfl, hlen⟩ := h
  rw [List.take_left' (by simp only [List.length_append, List.length_cons]; omega)]
  simp

end Terminated

/-! ## The colon and the port -/

section Port

variable {memory : List Byte} {buffsize : Nat} {s tail : List Byte}

/-- The colon, when it fits with its terminator. -/
theorem strncat_fits (h : Terminated memory buffsize s tail) (hfit : s.length + 1 < buffsize) :
    ∃ memory', strncat memory (ascii ":") buffsize = some memory' ∧ Terminated memory' buffsize (s ++ ascii ":") tail := by
  obtain ⟨hs, fill, rfl, hlen⟩ := id h
  cases fill with
  | nil =>
    rw [List.length_nil] at hlen
    omega
  | cons x fill =>
    have hstore := store_append s [0, x] (fill ++ tail) (ascii ":" ++ [0]) rfl
    have hcolon : (ascii ":").take buffsize = ascii ":" := List.take_of_length_le (by
      rw [show (ascii ":").length = 1 from rfl]
      omega)
    refine ⟨s ++ ascii ":" ++ 0 :: fill ++ tail, ?_, ?_, fill, rfl, ?_⟩
    · rw [strncat, h.strlen, hcolon]
      simpa using hstore
    · intro hm
      exact (List.mem_append.mp hm).elim hs (by decide)
    · rw [List.length_append, show (ascii ":").length = 1 from rfl]
      rw [List.length_cons] at hlen
      omega

/-- The colon and the port, when the colon fits with its terminator: nothing is written behind the buffer. -/
theorem sockaddrPort_fits (h : Terminated memory buffsize s tail) (hfit : s.length + 1 < buffsize) (port : Option UInt16) :
    ∃ memory', sockaddrPort memory buffsize port = some memory' ∧
      Terminated memory' buffsize ((s ++ ascii ":" ++ port.elim [] fun port => decimal port.toNat).take (buffsize - 1)) tail := by
  obtain ⟨m1, h1, ht1⟩ := strncat_fits h hfit
  obtain ⟨m2, h2, ht2⟩ := ht1.last
  have hlen : (s ++ ascii ":").length = s.length + 1 := by rw [List.length_append, show (ascii ":").length = 1 from rfl]
  have hprinted : ∃ m3, snprintfPort m2 (s ++ ascii ":").length buffsize port = some m3 ∧
      Terminated m3 buffsize ((s ++ ascii ":" ++ port.elim [] fun port => decimal port.toNat).take (buffsize - 1)) tail := by
    cases port with
    | none =>
      refine ⟨m2, rfl, ?_⟩
      rw [Option.elim_none, List.append_nil, List.take_of_length_le (by omega)]
      exact ht2
    | some port =>
      have hdigits : (0 : Byte) ∉ decimal port.toNat := fun h0 => absurd (digit_of_mem_decimal h0).1 (by decide)
      obtain ⟨m3, h3, ht3⟩ := ht2.append hdigits
      refine ⟨m3, h3, ?_⟩
      rw [Option.elim_some, List.take_append, List.take_of_length_le (show (s ++ ascii ":").length ≤ buffsize - 1 by omega)]
      exact ht3
  obtain ⟨m3, h3, ht3⟩ := hprinted
  obtain ⟨m4, h4, ht4⟩ := ht3.last
  refine ⟨m4, ?_, ht4⟩
  simp only [sockaddrPort, h1, h2, ht2.strlen, h3, Option.bind_eq_bind, Option.bind_some]
  exact h4

/-- The colon, when its terminator is behind the buffer: if there is memory, that byte is cleared. -/
theorem sockaddrPort_full (h : Terminated memory buffsize s tail) (hfull : s.length + 1 = buffsize) (port : Option UInt16) :
    (tail = [] ∧ sockaddrPort memory buffsize port = none) ∨
    ∃ b rest memory', tail = b :: rest ∧ sockaddrPort memory buffsize port = some memory' ∧
      Terminated memory' buffsize s (0 :: rest) := by
  have hlen := h.strlen
  obtain ⟨hs, fill, hm, hsize⟩ := id h
  obtain rfl : fill = [] := List.eq_nil_of_length_eq_zero (by omega)
  have hcolon : (ascii ":").take buffsize = ascii ":" := List.take_of_length_le (by
    rw [show (ascii ":").length = 1 from rfl]
    omega)
  cases tail with
  | nil =>
    refine .inl ⟨rfl, ?_⟩
    simp only [sockaddrPort, strncat, hlen, Option.bind_eq_bind, Option.bind_some, hcolon]
    rw [store, if_neg, Option.bind_none]
    rw [hm]
    simp [ascii]
  | cons b rest =>
    have hstore := store_append s [0, b] rest (ascii ":" ++ [0]) rfl
    have hcat : strncat memory (ascii ":") buffsize = some (s ++ ascii ":" ++ 0 :: rest) := by
      rw [strncat, hlen, hcolon, hm]
      simpa using hstore
    -- the last byte of the buffer is the colon, and it becomes the terminator
    have hlast := store_append s (ascii ":") (0 :: rest) [0] rfl
    have ht : Terminated (s ++ [0] ++ 0 :: rest) buffsize s (0 :: rest) := ⟨hs, [], rfl, hsize⟩
    obtain ⟨m4, h4, ht4⟩ := ht.last
    have hprinted : snprintfPort (s ++ [0] ++ 0 :: rest) s.length buffsize port = some (s ++ [0] ++ 0 :: rest) := by
      cases port with
      | none => rfl
      | some port =>
        have hzero := store_append s [0] (0 :: rest) [0] rfl
        rw [snprintfPort, snprintfAt, if_neg (by omega), snprintfText, show buffsize - s.length - 1 = 0 by omega]
        exact hzero
    refine .inr ⟨b, rest, m4, rfl, ?_, ht4⟩
    simp only [sockaddrPort, hcat, Option.bind_eq_bind, Option.bind_some]
    rw [show buffsize - 1 = s.length by omega, hlast, Option.bind_some, ht.strlen, Option.bind_some, hprinted, Option.bind_some,
      show s.length = buffsize - 1 by omega]
    exact h4

end Port

/-! ## The name of the address -/

section Name

variable {memory : List Byte} {buffsize : Nat}

/-- `strncpy` fills the buffer, and leaves what is behind it. -/
theorem strncpy_eq (h : buffsize ≤ memory.length) (src : List Byte) :
    strncpy memory src buffsize =
      some (src.take buffsize ++ List.replicate (buffsize - src.length) 0 ++ memory.drop buffsize) := by
  have hlen : ((src ++ List.replicate buffsize 0).take buffsize).length = buffsize := by
    rw [List.length_take, List.length_append, List.length_replicate]
    omega
  rw [strncpy, store, if_pos (by omega), hlen, Nat.zero_add, List.take_zero, List.nil_append, List.take_append,
    List.take_replicate, Nat.min_eq_left (by omega)]

/-- A name that fits is copied with its terminator. -/
theorem strncpy_fits (h : buffsize ≤ memory.length) {src : List Byte} (hs : (0 : Byte) ∉ src) (hfit : src.length < buffsize) :
    ∃ memory', strncpy memory src buffsize = some memory' ∧ Terminated memory' buffsize src (memory.drop buffsize) := by
  obtain ⟨k, hk⟩ := Nat.exists_eq_add_of_lt hfit
  refine ⟨_, strncpy_eq h src, hs, List.replicate k 0, ?_, by rw [List.length_replicate]; omega⟩
  rw [List.take_of_length_le (Nat.le_of_lt hfit), show buffsize - src.length = k + 1 by omega, List.replicate_succ]

/-- A name that is cut and then terminated. -/
theorem strncpy_last (hpos : 0 < buffsize) (h : buffsize ≤ memory.length) {src : List Byte} (hs : (0 : Byte) ∉ src) :
    ∃ memory' memory'', strncpy memory src buffsize = some memory' ∧ store memory' (buffsize - 1) [0] = some memory'' ∧
      Terminated memory'' buffsize (src.take (buffsize - 1)) (memory.drop buffsize) := by
  by_cases hfit : src.length < buffsize
  · obtain ⟨m1, h1, ht1⟩ := strncpy_fits h hs hfit
    obtain ⟨m2, h2, ht2⟩ := ht1.last
    rw [List.take_of_length_le (by omega)]
    exact ⟨m1, m2, h1, h2, ht2⟩
  · have hcut : src.take buffsize = src.take (buffsize - 1) ++ [src[buffsize - 1]] := by
      have := List.take_succ_eq_append_getElem (l := src) (i := buffsize - 1) (by omega)
      rwa [Nat.sub_add_cancel hpos] at this
    have hlen : (src.take (buffsize - 1)).length = buffsize - 1 := by
      rw [List.length_take]
      omega
    have hstore := store_append (src.take (buffsize - 1)) [src[buffsize - 1]] (memory.drop buffsize) [0] rfl
    rw [hlen] at hstore
    refine ⟨_, _, strncpy_eq h src, ?_, fun hm => hs (List.mem_of_mem_take hm), [], rfl, ?_⟩
    · rw [show buffsize - src.length = 0 by omega, List.replicate_zero, List.append_nil, hcut]
      exact hstore
    · rw [hlen, List.length_nil]
      omega

/-- The name that is written for an address of the two families. -/
theorem sockaddrAddress_printed (hpos : 0 < buffsize) (h : buffsize ≤ memory.length) {addr : SockAddr} {text : CString}
    {port : UInt16} (hp : addr.printed = some (text, port)) :
    ∃ memory' s, sockaddrAddress memory buffsize addr = some memory' ∧ Terminated memory' buffsize s (memory.drop buffsize) ∧
      s.length = nameLength text buffsize ∧ (text.bytes.length < buffsize → s = text.bytes) := by
  rw [sockaddrAddress, hp]
  dsimp only
  rw [inetNtopTo, nameLength]
  by_cases hfit : text.bytes.length < buffsize
  · have hlen : (memory.take (text.bytes.length + 1)).length = (text.bytes ++ [0]).length := by
      rw [List.length_take, List.length_append, List.length_singleton]
      omega
    have hstore := store_append [] (memory.take (text.bytes.length + 1)) (memory.drop (text.bytes.length + 1)) _ hlen
    rw [List.nil_append, List.nil_append, List.take_append_drop, List.length_nil] at hstore
    refine ⟨text.bytes ++ [0] ++ memory.drop (text.bytes.length + 1), text.bytes, ?_, ⟨text.noNul,
      (memory.drop (text.bytes.length + 1)).take (buffsize - text.bytes.length - 1), ?_, ?_⟩, by rw [if_pos hfit], fun _ => rfl⟩
    · rw [if_pos hfit, hstore]
      rfl
    · have hrest : memory.drop (text.bytes.length + 1) =
          (memory.drop (text.bytes.length + 1)).take (buffsize - text.bytes.length - 1) ++ memory.drop buffsize := by
        conv_lhs => rw [← List.take_append_drop (buffsize - text.bytes.length - 1) (memory.drop (text.bytes.length + 1)),
          List.drop_drop, show text.bytes.length + 1 + (buffsize - text.bytes.length - 1) = buffsize by omega]
      conv_lhs => rw [hrest]
      simp
    · rw [List.length_take, List.length_drop]
      omega
  · obtain ⟨m1, m2, h1, h2, ht⟩ := strncpy_last hpos h (show (0 : Byte) ∉ ascii "unknown ip" by decide)
    refine ⟨m2, _, ?_, ht, ?_, fun hlt => absurd hlt hfit⟩
    · rw [if_neg hfit]
      simp only [Option.bind_eq_bind, Option.bind_some, Bool.false_eq_true, if_false, h1, h2]
    · rw [if_neg hfit, List.length_take, Nat.min_comm]

end Name

/-- What is behind the buffer after the colon was written over its end. -/
theorem tail_eq_iff {memory : List Byte} {buffsize : Nat} {b : Byte} {rest : List Byte} (h : memory.drop buffsize = b :: rest) :
    0 :: rest = memory.drop buffsize ↔ memory[buffsize]? = some 0 := by
  have hget : memory[buffsize]? = some b := by
    rw [← List.head?_drop, h]
    rfl
  rw [h, hget]
  simp [eq_comm]

/-- When the memory is safe once a terminated name has been written. -/
theorem sockaddrPort_safe {memory memory1 : List Byte} {buffsize : Nat} {s : List Byte}
    (ht : Terminated memory1 buffsize s (memory.drop buffsize)) (port : Option UInt16) :
    ((∃ memory', sockaddrPort memory1 buffsize port = some memory' ∧ HumanSafe memory memory' buffsize) ↔
      s.length + 1 < buffsize ∨ memory[buffsize]? = some 0) ∧
    ∀ memory', sockaddrPort memory1 buffsize port = some memory' → (CString.ofBuffer memory').bytes =
      (s ++ ascii ":" ++ port.elim [] fun port => decimal port.toNat).take (buffsize - 1) := by
  by_cases hfit : s.length + 1 < buffsize
  · obtain ⟨m, hm, htm⟩ := sockaddrPort_fits ht hfit port
    refine ⟨⟨fun _ => .inl hfit, fun _ => ⟨m, hm, htm.drop, htm.nul_mem⟩⟩, fun m' hm' => ?_⟩
    rw [hm] at hm'
    cases hm'
    exact htm.ofBuffer
  · have hfull : s.length + 1 = buffsize := by
      obtain ⟨_, fill, _, hsize⟩ := ht
      omega
    obtain ⟨htail, hnone⟩ | ⟨b, rest, m, htail, hm, htm⟩ := sockaddrPort_full ht hfull port
    · have hget : memory[buffsize]? = none := by rw [← List.head?_drop, htail]; rfl
      rw [hnone, hget]
      simp [hfit]
    · refine ⟨?_, fun m' hm' => ?_⟩
      · rw [← tail_eq_iff htail, ← htm.drop]
        constructor
        · rintro ⟨m', hm', hsafe, _⟩
          rw [hm] at hm'
          cases hm'
          exact .inr hsafe
        · rintro (hlt | hsafe)
          · exact absurd hlt hfit
          · exact ⟨m, hm, hsafe, htm.nul_mem⟩
      · rw [hm] at hm'
        cases hm'
        rw [htm.ofBuffer, List.append_assoc, List.take_left' (by omega)]

/-- After a name without a terminator, the colon is written behind the buffer, over a zero of the memory. -/
theorem sockaddrPort_cut {front tail memory' : List Byte} {buffsize : Nat} (hfront : (0 : Byte) ∉ front)
    (hlen : front.length = buffsize) (hpos : 0 < buffsize) (h : sockaddrPort (front ++ tail) buffsize none = some memory') :
    memory'.drop buffsize ≠ tail := by
  have hcolon : (ascii ":").take buffsize = ascii ":" := List.take_of_length_le hpos
  by_cases hmem : (0 : Byte) ∈ tail
  · obtain ⟨t1, t2, rfl, ht1⟩ := List.eq_append_cons_of_mem hmem
    have hnul : (0 : Byte) ∉ front ++ t1 := fun hm => (List.mem_append.mp hm).elim hfront ht1
    have hstrlen : strlen (front ++ (t1 ++ 0 :: t2)) = some (front ++ t1).length := by
      rw [← List.append_assoc]
      exact strlen_append hnul t2
    cases t2 with
    | nil =>
      -- there is no memory for the terminator behind the colon
      have hnone : store (front ++ (t1 ++ [0])) (front ++ t1).length (ascii ":" ++ [0]) = none := by
        rw [store, if_neg]
        have htext : (ascii ":" ++ [0]).length = 2 := rfl
        simp only [htext, List.length_append, List.length_singleton]
        omega
      rw [sockaddrPort, strncat, hstrlen, hcolon] at h
      simp only [Option.bind_eq_bind, Option.bind_some, hnone, Option.bind_none] at h
      cases h
    | cons x t3 =>
      obtain rfl | ⟨f, y, rfl⟩ := front.eq_nil_or_concat
      · rw [← hlen] at hpos
        cases hpos
      rw [List.concat_eq_append] at h hlen hfront hstrlen hnul
      rw [List.length_append, List.length_singleton] at hlen
      have hf : (0 : Byte) ∉ f := fun hm => hfront (List.mem_append_left _ hm)
      have hcat := store_append (f ++ [y] ++ t1) [0, x] t3 (ascii ":" ++ [0]) rfl
      have hlast := store_append f [y] (t1 ++ (ascii ":" ++ 0 :: t3)) [0] rfl
      have hagain := store_append f [0] (t1 ++ (ascii ":" ++ 0 :: t3)) [0] rfl
      have hlen' : strlen (f ++ [0] ++ (t1 ++ (ascii ":" ++ 0 :: t3))) = some f.length := by
        rw [List.append_assoc]
        exact strlen_append hf _
      have hmove : f ++ [y] ++ t1 ++ (ascii ":" ++ [0]) ++ t3 = f ++ [y] ++ (t1 ++ (ascii ":" ++ 0 :: t3)) := by simp
      have hmem' : f ++ [y] ++ (t1 ++ 0 :: x :: t3) = f ++ [y] ++ t1 ++ [0, x] ++ t3 := by simp
      rw [sockaddrPort, strncat, hstrlen, hcolon, show buffsize - 1 = f.length by omega] at h
      simp only [Option.bind_eq_bind, Option.bind_some, hmem', hcat, hmove, hlast, hlen', snprintfPort, hagain] at h
      cases h
      rw [List.drop_left' (by rw [List.length_append, List.length_singleton, hlen])]
      intro he
      have := List.append_cancel_left he
      exact absurd (List.cons.inj this).1 (by decide)
  · have hnone : strlen (front ++ tail) = none := by
      rw [strlen, List.findIdx?_eq_none_iff]
      intro b hb
      refine beq_eq_false_iff_ne.mpr fun he => ?_
      subst he
      exact (List.mem_append.mp hb).elim hfront hmem
    rw [sockaddrPort, strncat, hnone] at h
    cases h

/-- `sockaddr_to_human`, for every memory, every size of the buffer in it, every address and every port. What it does outside the
buffer and to the terminator is right if and only if the buffer is large enough: for the name that is written, a colon and a
terminator, or for as much of it as leaves only a terminator that was there before. The text of an address that fits is in every case
followed by a colon and the port, as far as there is room. -/
theorem sockaddr_safe (memory : List Byte) (buffsize : Nat) (hpos : 1 ≤ buffsize) (h : buffsize ≤ memory.length)
    (addr : Option SockAddr) :
    ((∃ memory', sockaddrToHuman memory buffsize addr = some memory' ∧ HumanSafe memory memory' buffsize ∧
      HumanText memory' buffsize addr) ↔ HumanFits memory buffsize addr) ∧
    ∀ memory', sockaddrToHuman memory buffsize addr = some memory' → HumanText memory' buffsize addr := by
  cases addr with
  | none =>
    have htext : ∀ memory', HumanText memory' buffsize none := by
      intro memory' text port hp
      cases hp
    refine ⟨?_, fun memory' _ => htext memory'⟩
    simp only [HumanFits, sockaddrToHuman]
    constructor
    · rintro ⟨memory', hm, ⟨_, hnul⟩, _⟩
      by_contra hlt
      rw [strncpy_eq h] at hm
      cases hm
      have hlen : (ascii "null").length = 4 := rfl
      rw [hlen] at hlt hnul
      rw [show buffsize - 4 = 0 by omega, List.replicate_zero, List.append_nil,
        List.take_left' (by rw [List.length_take, hlen]; omega)] at hnul
      exact absurd (List.mem_of_mem_take hnul) (by decide)
    · intro hlt
      obtain ⟨m, hm, ht⟩ := strncpy_fits h (show (0 : Byte) ∉ ascii "null" by decide) hlt
      exact ⟨m, hm, ⟨ht.drop, ht.nul_mem⟩, htext m⟩
  | some addr =>
    cases hp : addr.printed with
    | some r =>
      obtain ⟨text, port⟩ := r
      obtain ⟨m1, s, hm1, ht, hlen, hs⟩ := sockaddrAddress_printed hpos h hp
      obtain ⟨hiff, hread⟩ := sockaddrPort_safe ht (some port)
      have heq : sockaddrToHuman memory buffsize (some addr) = sockaddrPort m1 buffsize (some port) := by
        simp only [sockaddrToHuman, hm1, hp, Option.bind_eq_bind, Option.bind_some, Option.map_some]
      have htext : ∀ memory', sockaddrToHuman memory buffsize (some addr) = some memory' →
          HumanText memory' buffsize (some addr) := by
        intro memory' hm text' port' hp' hfit
        rw [Option.bind_some, hp] at hp'
        cases hp'
        rw [heq] at hm
        rw [hread memory' hm, hs hfit, Option.elim_some]
      refine ⟨?_, htext⟩
      simp only [HumanFits, hp]
      rw [← hlen, ← hiff]
      constructor
      · rintro ⟨memory', hm, hsafe, _⟩
        exact ⟨memory', heq ▸ hm, hsafe⟩
      · rintro ⟨memory', hm, hsafe⟩
        exact ⟨memory', heq.trans hm, hsafe, htext memory' (heq.trans hm)⟩
    | none =>
      have htext : ∀ memory', HumanText memory' buffsize (some addr) := by
        intro memory' text port hp'
        rw [Option.bind_some, hp] at hp'
        cases hp'
      refine ⟨?_, fun memory' _ => htext memory'⟩
      have hlen : (ascii "unknown").length = 7 := rfl
      have heq : sockaddrToHuman memory buffsize (some addr) =
          (strncpy memory (ascii "unknown") buffsize).bind fun m => sockaddrPort m buffsize none := by
        simp only [sockaddrToHuman, sockaddrAddress, hp, Option.bind_eq_bind, Option.map_none]
      simp only [HumanFits, hp, hlen]
      by_cases hfit : (ascii "unknown").length < buffsize
      · obtain ⟨m1, hm1, ht⟩ := strncpy_fits h (show (0 : Byte) ∉ ascii "unknown" by decide) hfit
        obtain ⟨hiff, _⟩ := sockaddrPort_safe ht none
        rw [hm1, Option.bind_some] at heq
        rw [hlen] at hiff hfit
        constructor
        · rintro ⟨memory', hm, hsafe, _⟩
          rcases hiff.mp ⟨memory', heq ▸ hm, hsafe⟩ with hlt | h0
          · exact .inl hlt
          · by_cases hlt : 7 + 1 < buffsize
            · exact .inl hlt
            · exact .inr ⟨by omega, h0⟩
        · intro hc
          obtain ⟨memory', hm, hsafe⟩ := hiff.mpr (hc.imp_right And.right)
          exact ⟨memory', heq.trans hm, hsafe, htext memory'⟩
      · rw [strncpy_eq h, Option.bind_some, hlen, show buffsize - 7 = 0 by omega, List.replicate_zero, List.append_nil] at heq
        rw [hlen] at hfit
        constructor
        · rintro ⟨memory', hm, ⟨hsafe, _⟩, _⟩
          rw [heq] at hm
          refine absurd hsafe (sockaddrPort_cut ?_ ?_ hpos hm)
          · exact fun hm => absurd (List.mem_of_mem_take hm) (by decide)
          · rw [List.length_take, hlen]
            omega
        · rintro (hc | ⟨hc, _⟩)
          · omega
          · omega

/-- A buffer that is large enough for its address. -/
theorem sockaddr_safe_large :
    HumanFits (List.replicate 16 7) 16 (some (.inet [1, 2, 3, 4] 9090)) ∧
    ∃ memory', sockaddrToHuman (List.replicate 16 7) 16 (some (.inet [1, 2, 3, 4] 9090)) = some memory' ∧
      HumanSafe (List.replicate 16 7) memory' 16 ∧ HumanText memory' 16 (some (.inet [1, 2, 3, 4] 9090)) := by
  have hfits : HumanFits (List.replicate 16 7) 16 (some (.inet [1, 2, 3, 4] 9090)) := .inl (by decide)
  exact ⟨hfits, (sockaddr_safe (List.replicate 16 7) 16 (by decide) (by decide) (some (.inet [1, 2, 3, 4] 9090))).1.mpr hfits⟩

/-- A buffer of eight bytes for an address whose text has seven: the ninth byte of the memory is cleared. -/
theorem sockaddr_unsafe_eight :
    sockaddrToHuman (List.replicate 16 7) 8 (some (.inet [1, 2, 3, 4] 9090)) =
      some (ascii "1.2.3.4" ++ [0, 0] ++ List.replicate 7 7) ∧
    ¬∀ memory buffsize, 1 ≤ buffsize → buffsize ≤ memory.length → ∀ addr, ∃ memory',
      sockaddrToHuman memory buffsize addr = some memory' ∧ HumanSafe memory memory' buffsize ∧
        HumanText memory' buffsize addr := by
  have heq : sockaddrToHuman (List.replicate 16 7) 8 (some (.inet [1, 2, 3, 4] 9090)) =
      some (ascii "1.2.3.4" ++ [0, 0] ++ List.replicate 7 7) := by decide
  refine ⟨heq, fun hall => ?_⟩
  obtain ⟨memory', hm, ⟨hsafe, _⟩, _⟩ := hall (List.replicate 16 7) 8 (by decide) (by decide) (some (.inet [1, 2, 3, 4] 9090))
  rw [heq] at hm
  cases hm
  exact absurd hsafe (by decide)

example : (sockaddrToHuman (List.replicate 13 0) 11 (some (.inet [1, 2, 3, 4] 9090))).map
    (fun memory => (CString.ofBuffer memory).bytes) = some (ascii "1.2.3.4:90") := by decide

end SocksProxy
