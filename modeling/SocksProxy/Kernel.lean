import SocksProxy.Session

/-!
# What the kernel and the C library answer

A handler of the server runs to its end without giving up control, but each of its system calls may end in several ways. The
answers to the calls one handler makes are its input, collected in `Answers`: a handler makes at most one `recv`, one loop of
`send`, one `getsockopt`, one start of a resolver thread, and one loop of `accept` or of connection attempts. Every finite
behaviour of the environment is some `Answers`, and every `Answers` is read as a behaviour the environment can show: `recv`
delivers no more than it was asked for, `send` takes no more than it was offered, and a descriptor that is already open is not
handed out again.
-/

namespace SocksProxy

/-- The value of `errno` after a call that failed: never zero. -/
structure Errno where
  code : Nat
  ne_zero : code ≠ 0
  deriving DecidableEq

namespace Errno

/-- `EBADF`. -/
def ebadf : Errno := ⟨9, by decide⟩

/-- `EAGAIN`, which is also `EWOULDBLOCK`. -/
def eagain : Errno := ⟨11, by decide⟩

/-- `EMFILE`. -/
def emfile : Errno := ⟨24, by decide⟩

/-- `ENODATA`. -/
def enodata : Errno := ⟨61, by decide⟩

/-- `ENETUNREACH`. -/
def enetunreach : Errno := ⟨101, by decide⟩

/-- `ETIMEDOUT`. -/
def etimedout : Errno := ⟨110, by decide⟩

/-- `ECONNREFUSED`. -/
def econnrefused : Errno := ⟨111, by decide⟩

/-- `EHOSTDOWN`. -/
def ehostdown : Errno := ⟨112, by decide⟩

/-- `EHOSTUNREACH`. -/
def ehostunreach : Errno := ⟨113, by decide⟩

/-- `EINPROGRESS`. -/
def einprogress : Errno := ⟨115, by decide⟩

end Errno

/-- The outcome of `recv`: bytes, the end of the stream, or an error. -/
inductive RecvResult where
  | data (bytes : List Byte)
  | eof
  | error (errno : Errno)

/-- `recv` into a buffer with room for `room` bytes: it delivers at most that many, and delivering none is returning zero. -/
def RecvResult.limit (room : Nat) : RecvResult → RecvResult
  | .data bytes => if bytes.take room = [] then .eof else .data (bytes.take room)
  | .eof => .eof
  | .error e => .error e

/-- What `recv` delivers is not empty and fits. -/
theorem limit_data {room : Nat} {r : RecvResult} {bytes : List Byte} (h : r.limit room = .data bytes) :
    bytes ≠ [] ∧ bytes.length ≤ room := by
  cases r with
  | data bs =>
    simp only [RecvResult.limit] at h
    split at h
    · cases h
    · cases h
      exact ⟨‹_›, List.length_take_le _ _⟩
  | eof => cases h
  | error e => cases h

/-- The outcome of one `send`: how many bytes it took, or an error. -/
inductive SendResult where
  | sent (count : Nat)
  | error (errno : Errno)

/-- The outcome of a call that only succeeds or fails. -/
inductive SysResult where
  | ok
  | error (errno : Errno)

/-- One turn of an accept loop: `accept`, then `set_nonblocking` and `calloc` if they are reached. -/
inductive AcceptResult where
  | accepted (fd : Int) (setNonblocking : SysResult) (allocated : Bool)
  | error (errno : Errno)

/-- One attempt to connect: `socket`, then `set_nonblocking` and `connect` if they are reached. -/
structure Attempt where
  socket : Except Errno Int
  setNonblocking : SysResult
  connect : SysResult

/-- What `socket` answers when there is no descriptor left. -/
def Attempt.exhausted : Attempt := { socket := .error .emfile, setNonblocking := .ok, connect := .ok }

/-- The calls of `start_target_resolution`: all succeed, or the first that fails. -/
inductive ResolverStart where
  | started | noMemory | noMutex | noThread
  deriving DecidableEq

/-- The answers to the system calls one handler makes. Where a loop asks for more than is listed, `accept` and `send` would
block and `socket` finds no free descriptor. -/
structure Answers where
  recv : RecvResult := .error .eagain
  sends : List SendResult := []
  getsockopt : SysResult := .ok
  attempts : List Attempt := []
  resolver : ResolverStart := .started
  accepts : List AcceptResult := []

/-- How far the connection of a socket has got. -/
inductive ConnectStatus where
  | unconnected
  | pending
  | completed (error : Nat)
  deriving DecidableEq

/-- The value `getsockopt` reads for `SO_ERROR`. -/
def ConnectStatus.soError : ConnectStatus → Nat
  | .unconnected => 0
  | .pending => 0
  | .completed error => error

/-- An open file description: which one it is, by the turn of its creation, and its connection. -/
structure OpenFile where
  serial : Nat
  connect : ConnectStatus

/-- How a loop of `send` over pending bytes ended: everything was taken, the kernel would block, or a `send` failed (with its
`errno`) or took nothing. -/
inductive SendEnd where
  | drained
  | wouldBlock
  | failed (errno : Option Errno)
  deriving DecidableEq

/-- The loop `while (off < len) { send(...) }` of the write handlers, over the pending bytes: the chunks taken, one for each
successful `send`, and how the loop ended. -/
def sendLoop : List Byte → List SendResult → List (List Byte) × SendEnd
  | [], _ => ([], .drained)
  | _ :: _, [] => ([], .wouldBlock)
  | b :: pending, .sent count :: rest =>
    if count = 0 then ([], .failed none)
    else
      let (chunks, ending) := sendLoop ((b :: pending).drop count) rest
      ((b :: pending).take count :: chunks, ending)
  | _ :: _, .error e :: _ => if e = .eagain then ([], .wouldBlock) else ([], .failed (some e))

end SocksProxy
