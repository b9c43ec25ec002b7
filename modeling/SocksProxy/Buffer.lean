import SocksProxy.Bytes

/-!
# The byte buffer

`buffer.c`: a piece of memory with a place to read from and a place to write to. Pointers are offsets from the beginning of the
memory. An operation has no result when one of its assertions fails or when it reaches outside the memory.
-/

namespace SocksProxy

/-- `struct buffer`: the memory that `data` points to, and the offsets of the three other pointers. -/
structure Buffer where
  data : List Byte
  limit : Nat
  read : Nat
  write : Nat
  deriving DecidableEq

/-- `buffer_reset`. -/
def bufferReset (b : Buffer) : Buffer := { b with read := 0, write := 0 }

/-- `buffer_init`. -/
def bufferInit (n : Nat) (data : List Byte) : Buffer := { data, limit := n, read := 0, write := 0 }

/-- `buffer_can_write`. -/
def bufferCanWrite (b : Buffer) : Bool := (b.limit : Int) - b.write > 0

/-- `buffer_write_ptr`: where to write, and how many bytes. -/
def bufferWritePtr (b : Buffer) : Option (Nat × Nat) :=
  if b.write ≤ b.limit then some (b.write, b.limit - b.write) else none

/-- `buffer_can_read`. -/
def bufferCanRead (b : Buffer) : Bool := (b.write : Int) - b.read > 0

/-- `buffer_read_ptr`: where to read, and how many bytes. -/
def bufferReadPtr (b : Buffer) : Option (Nat × Nat) :=
  if b.read ≤ b.write then some (b.read, b.write - b.read) else none

/-- `memmove` inside one piece of memory, as if through another: the bytes may overlap. -/
def memmove (memory : List Byte) (dest src n : Nat) : Option (List Byte) :=
  if src + n ≤ memory.length ∧ dest + n ≤ memory.length then
    some (memory.take dest ++ (memory.drop src).take n ++ memory.drop (dest + n))
  else none

/-- `buffer_compact`. -/
def bufferCompact (b : Buffer) : Option Buffer :=
  if b.read = 0 then some b
  else if b.read = b.write then some { b with read := 0, write := 0 }
  else
    let n := b.write - b.read
    (memmove b.data 0 b.read n).map fun data => { b with data, read := 0, write := n }

/-- `buffer_write_adv`. -/
def bufferWriteAdv (b : Buffer) (bytes : Int) : Option Buffer :=
  if bytes > -1 then
    if b.write + bytes.toNat ≤ b.limit then some { b with write := b.write + bytes.toNat } else none
  else some b

/-- `buffer_read_adv`. What has been read to the end is compacted at once. -/
def bufferReadAdv (b : Buffer) (bytes : Int) : Option Buffer :=
  if bytes > -1 then
    let b := { b with read := b.read + bytes.toNat }
    if b.read ≤ b.write then
      if b.read = b.write then bufferCompact b else some b
    else none
  else some b

/-- `buffer_read`: the next byte, or zero when there is none. -/
def bufferRead (b : Buffer) : Option (Buffer × Byte) :=
  if bufferCanRead b then
    match b.data[b.read]? with
    | none => none
    | some ret => (bufferReadAdv b 1).map fun b => (b, ret)
  else some (b, 0)

/-- The store of bytes at an offset of a piece of memory. -/
def store (memory : List Byte) (offset : Nat) (bytes : List Byte) : Option (List Byte) :=
  if offset + bytes.length ≤ memory.length then
    some (memory.take offset ++ bytes ++ memory.drop (offset + bytes.length))
  else none

/-- `buffer_write`: the byte is dropped when there is no room. -/
def bufferWrite (b : Buffer) (c : Byte) : Option Buffer :=
  if bufferCanWrite b then
    match store b.data b.write [c] with
    | none => none
    | some data => bufferWriteAdv { b with data } 1
  else some b

/-- What a caller does with a buffer once it is made: the operations, where `fill` is a copy of bytes to where `buffer_write_ptr`
says, followed by `buffer_write_adv`. -/
inductive BufferOp where
  | write (c : Byte)
  | read
  | fill (bytes : List Byte) (adv : Int)
  | readAdv (bytes : Int)
  | compact
  | reset

/-- One operation: the buffer after it, and the byte that `buffer_read` returns. -/
def BufferOp.step (b : Buffer) : BufferOp → Option (Buffer × Option Byte)
  | .write c => (bufferWrite b c).map (·, none)
  | .read => (bufferRead b).map fun (b, ret) => (b, some ret)
  | .fill bytes adv =>
    match bufferWritePtr b with
    | none => none
    | some (ptr, _) =>
      match store b.data ptr bytes with
      | none => none
      | some data => (bufferWriteAdv { b with data } adv).map (·, none)
  | .readAdv bytes => (bufferReadAdv b bytes).map (·, none)
  | .compact => (bufferCompact b).map (·, none)
  | .reset => some (bufferReset b, none)

/-- Operations one after another: the buffer in the end, and the bytes returned. -/
def Buffer.run : Buffer → List BufferOp → Option (Buffer × List (Option Byte))
  | b, [] => some (b, [])
  | b, op :: ops =>
    match op.step b with
    | none => none
    | some (b, out) => (b.run ops).map fun (b, outs) => (b, out :: outs)

end SocksProxy
