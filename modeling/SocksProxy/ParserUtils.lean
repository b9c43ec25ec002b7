import SocksProxy.Parser
import Mathlib.Algebra.Ring.Nat

/-!
# A parser for a word

`parser_utils.c`: the definition of a parser that follows a C string without regard to case. A state stands for the number of
characters already followed; the last two are the whole string and the sink of a failed comparison.
-/

namespace SocksProxy

/-- `enum string_cmp_event_types`. -/
inductive StringCmpEvent where
  | mayeq | eq | neq
  deriving DecidableEq

/-- The value of the enumeration that an event holds. -/
def StringCmpEvent.type : StringCmpEvent → Nat
  | .mayeq => 0
  | .eq => 1
  | .neq => 2

/-- What the three actions do, each with its own type: the event holds the byte. -/
def stringCmpAction (e : StringCmpEvent) (ret : ParserEvent) (c : Byte) : ParserEvent :=
  { ret with type := e.type, n := 1, data := ret.data.set 0 c }

/-- `may_eq`. -/
def mayEq : ParserEvent → Byte → ParserEvent := stringCmpAction .mayeq

/-- `eq`. -/
def stringEq : ParserEvent → Byte → ParserEvent := stringCmpAction .eq

/-- `neq`. -/
def stringNeq : ParserEvent → Byte → ParserEvent := stringCmpAction .neq

/-- A `char` as an `int`: it is signed. -/
def charInt (b : Byte) : Int := if b.toNat < 0x80 then b.toNat else (b.toNat : Int) - 0x100

/-- `tolower`, in the C locale. -/
def tolowerInt (c : Int) : Int := if 0x41 ≤ c ∧ c ≤ 0x5A then c + 0x20 else c

/-- `toupper`, in the C locale. -/
def toupperInt (c : Int) : Int := if 0x61 ≤ c ∧ c ≤ 0x7A then c - 0x20 else c

/-- A `size_t` stored in an `unsigned`. -/
def toUnsigned (n : Nat) : Nat := n % 2 ^ 32

/-- A transition as `calloc` leaves it. -/
def ParserStateTransition.zeroed : ParserStateTransition := { when := 0, dest := 0, act1 := none, act2 := none }

/-- The three transitions of the state of the character `a` at `i`, in a string of `n`. -/
def strcmpiRow (n i : Nat) (a : Byte) : List ParserStateTransition :=
  let dest := if i + 1 == n then n else i + 1
  let act1 := if i + 1 == n then stringEq else mayEq
  [{ when := BitVec.ofInt 32 (tolowerInt (charInt a)), dest := toUnsigned dest, act1 := some act1, act2 := none },
   { when := BitVec.ofInt 32 (toupperInt (charInt a)), dest := toUnsigned dest, act1 := some act1, act2 := none },
   { when := parserAny, dest := toUnsigned (n + 1), act1 := some stringNeq, act2 := none }]

/-- The three transitions of the last two states, the first of which is used. -/
def strcmpiLastRow (n : Nat) : List ParserStateTransition :=
  [{ when := parserAny, dest := toUnsigned (n + 1), act1 := some stringNeq, act2 := none }, .zeroed, .zeroed]

/-- `parser_utils_strcmpi`, when its arrays could be allocated. The array of transitions is cut here in its blocks of three, one for
each state. -/
def parserUtilsStrcmpi (s : CString) : ParserDefinition :=
  let n := s.strlen
  { statesCount := toUnsigned (n + 2)
    states := s.bytes.mapIdx (strcmpiRow n) ++ [strcmpiLastRow n, strcmpiLastRow n]
    statesN := List.replicate n 3 ++ [1, 1]
    startState := 0 }

end SocksProxy
