import SocksProxy.Buffer
import SocksProxy.InetNtop
import SocksProxy.Kernel

/-!
# Helpers of the network

`netutils.c`: an address in a form for humans, and two loops over blocking sockets. The text of an address is written into a piece of
the caller's memory, which begins where `buff` points and may be longer than `buffsize`. A function of the C library has no result
when it reaches outside that memory.
-/

namespace SocksProxy

/-! ## The C library on memory -/

/-- `strlen` of the string at the beginning of a piece of memory. -/
def strlen (memory : List Byte) : Option Nat := memory.findIdx? (· == 0)

/-- `strncpy` to the beginning of a piece of memory: exactly `n` bytes, zeros behind the string, and no terminator when the string has
`n` bytes or more. -/
def strncpy (memory : List Byte) (src : List Byte) (n : Nat) : Option (List Byte) :=
  store memory 0 ((src ++ List.replicate n 0).take n)

/-- `strncat` to the string at the beginning of a piece of memory: at most `n` bytes, and always a terminator behind them. -/
def strncat (memory : List Byte) (src : List Byte) (n : Nat) : Option (List Byte) := do
  let len ← strlen memory
  store memory len (src.take n ++ [0])

/-- `snprintf` of a text to an offset of a piece of memory. -/
def snprintfAt (memory : List Byte) (offset size : Nat) (text : List Byte) : Option (List Byte) :=
  if size = 0 then some memory else store memory offset ((snprintfText size text).1 ++ [0])

/-- `inet_ntop` with the result of this text: it writes the text and its terminator, or fails when they do not fit. -/
def inetNtopTo (memory : List Byte) (text : List Byte) (size : Nat) : Option (List Byte × Bool) :=
  if text.length < size then (store memory 0 (text ++ [0])).map (·, true) else some (memory, false)

/-! ## The functions -/

/-- What is printed of an address of the two families: the text of `inet_ntop`, and the port in host byte order. -/
def SockAddr.printed : SockAddr → Option (CString × UInt16)
  | .inet addr port => some (CString.ofBuffer (inetNtop4 addr), port)
  | .inet6 addr port => some (CString.ofBuffer (inetNtop6 addr), port)
  | _ => none

/-- The part of `sockaddr_to_human` that writes the address. -/
def sockaddrAddress (memory : List Byte) (buffsize : Nat) (addr : SockAddr) : Option (List Byte) :=
  match addr.printed with
  | some (text, _) => do
    let (memory, written) ← inetNtopTo memory text.bytes buffsize
    if written then some memory
    else do
      let memory ← strncpy memory (ascii "unknown ip") buffsize
      store memory (buffsize - 1) [0]
  | none => strncpy memory (ascii "unknown") buffsize

/-- The port behind a string of this length, when the address has one. -/
def snprintfPort (memory : List Byte) (len buffsize : Nat) : Option UInt16 → Option (List Byte)
  | some port => snprintfAt memory len (buffsize - len) (decimal port.toNat)
  | none => some memory

/-- The part of `sockaddr_to_human` that writes the port. -/
def sockaddrPort (memory : List Byte) (buffsize : Nat) (port : Option UInt16) : Option (List Byte) := do
  let memory ← strncat memory (ascii ":") buffsize
  let memory ← store memory (buffsize - 1) [0]
  let len ← strlen memory
  let memory ← snprintfPort memory len buffsize port
  store memory (buffsize - 1) [0]

/-- `sockaddr_to_human`: the memory after it. A NULL address is `none`. -/
def sockaddrToHuman (memory : List Byte) (buffsize : Nat) : Option SockAddr → Option (List Byte)
  | none => strncpy memory (ascii "null") buffsize
  | some addr => do
    let memory ← sockaddrAddress memory buffsize addr
    sockaddrPort memory buffsize (addr.printed.map (·.2))

/-- What a call of `sock_blocking_write` leaves: the buffer, the bytes that were sent, and what it returned, if it did. -/
structure BlockingWrite where
  buffer : Buffer
  sent : List Byte
  ret : Option Nat

/-- `sock_blocking_write`, with the value of `errno` when it is called. A `send` that succeeds leaves `errno` alone, also when it takes
nothing. Where the loop asks for more than is listed, `send` blocks. -/
def sockBlockingWrite (errno : Nat) (b : Buffer) : List SendResult → Option BlockingWrite
  | [] => (bufferReadPtr b).map fun _ => { buffer := b, sent := [], ret := none }
  | answer :: answers =>
    match bufferReadPtr b with
    | none => none
    | some (ptr, n) =>
      match answer with
      | .sent count =>
        let nwritten := min count n
        if nwritten > 0 then
          match bufferReadAdv b nwritten with
          | none => none
          | some b' =>
            let chunk := (b.data.drop ptr).take nwritten
            if bufferCanRead b' then
              (sockBlockingWrite errno b' answers).map fun w => { w with sent := chunk ++ w.sent }
            else some { buffer := b', sent := chunk, ret := some 0 }
        else some { buffer := b, sent := [], ret := some errno }
      | .error e => some { buffer := b, sent := [], ret := some e.code }

/-- How the inner loop of `sock_blocking_copy` ended: everything was sent, it goes to the label `error` with this value to return, or
`send` blocks. -/
inductive CopySendEnd where
  | drained
  | failed (ret : Nat)
  | blocked

/-- The inner loop of `sock_blocking_copy` over the bytes that are left: what was sent of them, and how it ended. -/
def copySend (errno : Nat) : List Byte → List SendResult → List Byte × CopySendEnd
  | _, [] => ([], .blocked)
  | pending, .sent count :: sends =>
    let nwritten := min count pending.length
    if nwritten > 0 then
      if pending.length - nwritten > 0 then
        let (sent, ending) := copySend errno (pending.drop nwritten) sends
        (pending.take nwritten ++ sent, ending)
      else (pending.take nwritten, .drained)
    else ([], .failed errno)
  | _, .error e :: _ => ([], .failed e.code)

/-- The size of the buffer of `sock_blocking_copy`. -/
def copyBufferSize : Nat := 4096

/-- What a call of `sock_blocking_copy` did: the bytes it received, the bytes it sent, whether the source has reached its end, and what
it returned, if it did. -/
structure BlockingCopy where
  received : List Byte
  sent : List Byte
  ended : Bool
  ret : Option Nat

/-- `sock_blocking_copy`, with the value of `errno` when it is called. Each `recv` is listed with the answers to the `send`s of what it
delivers; where the loops ask for more than is listed, the call blocks. An error of `recv` ends the loop like the end of the stream
does. -/
def sockBlockingCopy (errno : Nat) : List (RecvResult × List SendResult) → BlockingCopy
  | [] => { received := [], sent := [], ended := false, ret := none }
  | (recv, sends) :: rest =>
    match recv.limit copyBufferSize with
    | .data bytes =>
      let (sent, ending) := copySend errno bytes sends
      match ending with
      | .drained =>
        let copy := sockBlockingCopy errno rest
        { copy with received := bytes ++ copy.received, sent := sent ++ copy.sent }
      | .failed ret => { received := bytes, sent, ended := false, ret := some ret }
      | .blocked => { received := bytes, sent, ended := false, ret := none }
    | .eof => { received := [], sent := [], ended := true, ret := some 0 }
    | .error _ => { received := [], sent := [], ended := false, ret := some 0 }

end SocksProxy
