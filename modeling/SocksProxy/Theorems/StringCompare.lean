import SocksProxy.Library.Matching
import SocksProxy.Management
import SocksProxy.ParserUtils
import SocksProxy.Theorems.ParserBounds
import Mathlib.Data.List.Induction

/-!
# Comparing a word

What the parser of `parser_utils_strcmpi` reports, for every string and every stream of bytes. It reports the comparison without
regard to case as long as the stream follows the string through characters below 0x80. A `char` is signed, so a character from
0x80 on is a negative number in its transition, and no byte ever equals it.
-/

namespace SocksProxy

open Matching

/-! ## The conditions -/

/-- The parser takes the byte for the character: the character is no negative number, and they are the same letter. -/
def Hears (a c : Byte) : Prop := a.toNat < 0x80 ∧ tolower c = tolower a

/-- What the transition of a state says: where it leads, and its only action. -/
def Leads (t : ParserStateTransition) (dest : Nat) (e : StringCmpEvent) : Prop :=
  t.dest = dest ∧ t.act1 = some (stringCmpAction e) ∧ t.act2 = none

/-- The parser was made for the string, with this table of classes. -/
structure MadeFor (s : CString) (classes : List (BitVec 32)) (p : Parser) : Prop where
  defn : p.defn = parserUtilsStrcmpi s
  classes : p.classes = classes

/-- A feed ends in a state with an event. -/
def FeedsTo (s : CString) (classes : List (BitVec 32)) (p : Parser) (c : Byte) (state : Nat) (e : StringCmpEvent) : Prop :=
  ∃ p', parserFeed p c = some p' ∧ MadeFor s classes p' ∧ p'.state = state ∧ p'.e1.type = e.type

namespace MadeFor

variable {s : CString} {classes : List (BitVec 32)} {p : Parser} {c : Byte}

/-- The transition found is taken. -/
theorem feed (h : MadeFor s classes p) (hc : c.toNat < classes.length) {row : List ParserStateTransition} {n dest : Nat}
    {e : StringCmpEvent} (hrow : (parserUtilsStrcmpi s).states[p.state]? = some row)
    (hn : (parserUtilsStrcmpi s).statesN[p.state]? = some n) (hle : n ≤ row.length)
    (hfind : ∀ type, ∃ t, (row.take n).find? (·.matched type c) = some t ∧ Leads t dest e) :
    FeedsTo s classes p c dest e := by
  have htype : p.classes[c.toNat]? = some classes[c.toNat] := by
    rw [h.classes]
    exact List.getElem?_eq_getElem hc
  obtain ⟨t, ht, hdest, hact1, hact2⟩ := hfind classes[c.toNat]
  unfold FeedsTo
  rw [parserFeed_eq htype (h.defn ▸ hrow) (h.defn ▸ hn) hle, ht, Option.elim_some]
  unfold Parser.take
  rw [hact1, hact2]
  exact ⟨_, rfl, ⟨h.defn, h.classes⟩, hdest, rfl⟩

end MadeFor

/-! ## A stream -/

variable {s : CString} {classes : List (BitVec 32)} {heard : List Byte}

/-- The parser has read a stream and is in a state. -/
def ReadsTo (s : CString) (classes : List (BitVec 32)) (heard : List Byte) (state : Nat) : Prop :=
  ∃ p, parserRun (parserInit classes (parserUtilsStrcmpi s)) heard = some p ∧ MadeFor s classes p ∧ p.state = state

/-- One byte more. -/
theorem ReadsTo.snoc {p : Parser} {c : Byte} {state : Nat} {e : StringCmpEvent}
    (hrun : parserRun (parserInit classes (parserUtilsStrcmpi s)) heard = some p) (h : FeedsTo s classes p c state e) :
    ReadsTo s classes (heard ++ [c]) state := by
  obtain ⟨p', hfeed, hmade, hstate, -⟩ := h
  refine ⟨p', ?_, hmade, hstate⟩
  rw [parserRun_snoc, hrun]
  exact hfeed

/-- The bytes are the first ones of the string, without regard to case. -/
def Alike (s heard : List Byte) : Prop :=
  heard.length ≤ s.length ∧ heard.map tolower = (s.take heard.length).map tolower

/-- The event of the last of these bytes, as it is meant: the string may still be equal while its first bytes are the string's, it
is equal when they are all of them, and it is not otherwise. -/
def Reports (s heard : List Byte) (type : Nat) : Prop :=
  (type = StringCmpEvent.mayeq.type ↔ heard.length < s.length ∧ Alike s heard) ∧
  (type = StringCmpEvent.eq.type ↔ heard.length = s.length ∧ Alike s heard) ∧
  (type = StringCmpEvent.neq.type ↔
    ¬(heard.length < s.length ∧ Alike s heard) ∧ ¬(heard.length = s.length ∧ Alike s heard))

/-- Every feed of the stream has an event, and it is the one meant for the bytes up to there. -/
def Tells (s : CString) (classes : List (BitVec 32)) (bytes : List Byte) : Prop :=
  ∀ pre c post, bytes = pre ++ c :: post → ∃ p p', parserRun (parserInit classes (parserUtilsStrcmpi s)) pre = some p ∧
    parserFeed p c = some p' ∧ Reports s.bytes (pre ++ [c]) p'.e1.type

/-- The parser tells the truth about the start of a stream it tells the truth about. -/
theorem Tells.of_append {more : List Byte} (h : Tells s classes (heard ++ more)) : Tells s classes heard := by
  intro pre c post hbytes
  refine h pre c (post ++ more) ?_
  rw [hbytes, List.append_assoc, List.cons_append]

end SocksProxy
