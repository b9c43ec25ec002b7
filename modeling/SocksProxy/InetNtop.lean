import SocksProxy.Socks5

/-!
# Addresses as text

`inet_ntop`, as the C library documents it: an IPv4 address as four decimal numbers with dots, an IPv6 address as hexadecimal
groups with the longest run of zero groups, if it has at least two, shortened to `::`, and with an embedded IPv4 address written
with dots.
-/

namespace SocksProxy

/-- An unsigned number in lower case hexadecimal, as `%x` prints it. -/
def hexadecimal (n : Nat) : List Byte := (Nat.toDigits 16 n).map (fun c => UInt8.ofNat c.toNat)

/-- Put a separator between the parts. -/
def joinWith (sep : List Byte) : List (List Byte) → List Byte
  | [] => []
  | [part] => part
  | part :: rest => part ++ sep ++ joinWith sep rest

/-- `inet_ntop(AF_INET, ...)`. -/
def inetNtop4 (addr : List Byte) : List Byte := joinWith (ascii ".") (addr.map (fun b => decimal b.toNat))

/-- The 16-bit groups of an IPv6 address, in order. -/
def groups : List Byte → List Nat
  | hi :: lo :: rest => (hi.toNat * 256 + lo.toNat) :: groups rest
  | _ => []

/-- The longest run of zeros in a list of groups, the first of them when several are longest: where it begins and how long it
is. `at` is the place of the head, `run` the length of the run that ends just before it. -/
def longestZeroRun : List Nat → Nat → Nat → Nat × Nat → Nat × Nat
  | [], place, run, best => if run > best.2 then (place - run, run) else best
  | g :: rest, place, run, best =>
    if g = 0 then longestZeroRun rest (place + 1) (run + 1) best
    else longestZeroRun rest (place + 1) 0 (if run > best.2 then (place - run, run) else best)

/-- The groups in hexadecimal with colons between them. -/
def hexGroups (gs : List Nat) : List Byte := joinWith (ascii ":") (gs.map hexadecimal)

/-- `inet_ntop(AF_INET6, ...)`. -/
def inetNtop6 (addr : List Byte) : List Byte :=
  let gs := groups addr
  let (base, len) := longestZeroRun gs 0 0 (0, 1)
  if len < 2 then hexGroups gs
  else if base = 0 ∧ (len = 6 ∨ (len = 5 ∧ gs[5]? = some 0xffff)) then
    ascii "::" ++ (if len = 5 then ascii "ffff:" else []) ++ inetNtop4 (addr.drop 12)
  else hexGroups (gs.take base) ++ ascii "::" ++ hexGroups (gs.drop (base + len))

end SocksProxy
