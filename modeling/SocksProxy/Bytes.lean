import Mathlib.Logic.Function.Basic
import Mathlib.Data.List.TakeWhile

/-!
# Bytes and C strings

The source moves octets (`uint8_t`) and NUL-terminated strings (`char *`). A byte is a `UInt8`. A C string is the bytes before
its terminator, so that none of them is NUL: a `CString` carries that fact, and a `char` buffer is read as a C string by
cutting it at its first NUL.
-/

namespace SocksProxy

/-- An octet of the wire or of a `char` buffer. -/
abbrev Byte := UInt8

/-- A C string: the bytes before the terminating NUL, none of them NUL. -/
structure CString where
  bytes : List Byte
  noNul : (0 : Byte) ∉ bytes
  deriving DecidableEq

namespace CString

/-- Two C strings with the same bytes are the same. -/
@[ext] theorem ext {a b : CString} (h : a.bytes = b.bytes) : a = b := by
  cases a
  cases b
  simp only at h
  subst h
  rfl

/-- The empty string: a buffer of zeros. -/
def empty : CString := ⟨[], by simp⟩

/-- A `char` buffer read as a C string: its bytes up to the first NUL. -/
def ofBuffer (buffer : List Byte) : CString :=
  ⟨buffer.takeWhile (· != 0), fun h => by simpa using List.mem_takeWhile_imp h⟩

/-- `strlen`. -/
def strlen (c : CString) : Nat := c.bytes.length

/-- What `snprintf(buffer, size, "%s", c)` leaves in the buffer: at most `size - 1` bytes and the terminator. -/
def snprintf (size : Nat) (c : CString) : CString :=
  ⟨c.bytes.take (size - 1), fun h => c.noNul (List.mem_of_mem_take h)⟩

/-- A buffer without NUL is read whole. -/
theorem ofBuffer_of_noNul {buffer : List Byte} (h : (0 : Byte) ∉ buffer) : ofBuffer buffer = ⟨buffer, h⟩ := by
  ext1
  simp only [ofBuffer]
  rw [List.takeWhile_eq_self_iff]
  intro x hx
  have : x ≠ 0 := fun h0 => h (h0 ▸ hx)
  simpa using this

/-- Reading back the bytes of a C string gives the string. -/
@[simp] theorem ofBuffer_bytes (c : CString) : ofBuffer c.bytes = c :=
  ofBuffer_of_noNul c.noNul

/-- A string that fits is copied whole. -/
theorem snprintf_of_lt {size : Nat} {c : CString} (h : c.strlen < size) : snprintf size c = c := by
  ext1
  simp only [snprintf]
  exact List.take_of_length_le (by simp only [strlen] at h; omega)

end CString

/-- The bytes of an ASCII literal of the source. -/
def ascii (s : String) : List Byte := s.toList.map (fun c => UInt8.ofNat c.toNat)

/-- A string literal of the source, as a C string. -/
def literal (s : String) : CString := CString.ofBuffer (ascii s)

/-- An unsigned number as `%zu`, `%hu` and `PRIu64` print it: in base ten. -/
def decimal (n : Nat) : List Byte := (Nat.toDigits 10 n).map (fun c => UInt8.ofNat c.toNat)

/-- What `snprintf(buffer, size, ...)` with this text leaves in the buffer, and the length it returns: the length the whole
text would have had. -/
def snprintfText (size : Nat) (text : List Byte) : List Byte × Nat := (text.take (size - 1), text.length)

end SocksProxy
