import SocksProxy.Bytes

/-!
# The parser engine

`parser.c`: a table of states, each with its transitions, fed one byte at a time. A transition has a condition on the byte, a state
to go to, and the actions that fill in the events the parser returns. A feed has no result when the source would read outside an
array or call a NULL action.
-/

namespace SocksProxy

/-- `struct parser_event`. `next` says whether it points to the parser's second event; otherwise it is NULL. -/
structure ParserEvent where
  type : Nat
  data : List Byte
  n : Byte
  next : Bool
  deriving DecidableEq

/-- `struct parser_state_transition`. `when` is an `int`; an action that is NULL is `none`. -/
structure ParserStateTransition where
  when : BitVec 32
  dest : Nat
  act1 : Option (ParserEvent → Byte → ParserEvent)
  act2 : Option (ParserEvent → Byte → ParserEvent)

/-- `ANY`: the condition of a transition that is always taken. -/
def parserAny : BitVec 32 := 1 <<< 9

/-- `struct parser_definition`: how many states there are, the transitions of each, how many of them, and where to start. -/
structure ParserDefinition where
  statesCount : Nat
  states : List (List ParserStateTransition)
  statesN : List Nat
  startState : Nat

/-- `struct parser`, with the table of classes it was given. -/
structure Parser where
  classes : List (BitVec 32)
  defn : ParserDefinition
  state : Nat
  e1 : ParserEvent
  e2 : ParserEvent

/-- An event after `memset(ret, 0, sizeof(*ret))`. -/
def ParserEvent.zeroed : ParserEvent := { type := 0, data := [0, 0, 0], n := 0, next := false }

/-- The table of `parser_no_classes`: `classes[0xFF]`, all zeros. -/
def parserNoClasses : List (BitVec 32) := List.replicate 0xFF 0

/-- `parser_init`, when its record could be allocated. -/
def parserInit (classes : List (BitVec 32)) (defn : ParserDefinition) : Parser :=
  { classes, defn, state := defn.startState, e1 := .zeroed, e2 := .zeroed }

namespace ParserStateTransition

/-- Whether `parser_feed` finds the condition to hold for a byte of the class `type`. -/
def matched (t : ParserStateTransition) (type : BitVec 32) (c : Byte) : Bool :=
  if t.when.toInt ≤ 0xFF then (c.toNat : Int) == t.when.toInt
  else if t.when == parserAny then true
  else if t.when.toInt > 0xFF then type &&& t.when != 0
  else false

end ParserStateTransition

/-- The loop of `parser_feed`, from the transition `i` on with so many turns to go: the transition it stops at, if any. -/
def feedLoop (type : BitVec 32) (c : Byte) (state : List ParserStateTransition) : Nat → Nat → Option (Option ParserStateTransition)
  | 0, _ => some none
  | turns + 1, i =>
    match state[i]? with
    | none => none
    | some t => if t.matched type c then some (some t) else feedLoop type c state turns (i + 1)

namespace Parser

/-- `p->e1.next = p->e2.next = 0`. -/
def clearNext (p : Parser) : Parser :=
  { p with e1 := { p.e1 with next := false }, e2 := { p.e2 with next := false } }

/-- Take a transition: its actions fill in the events, and the parser goes to its state. -/
def take (p : Parser) (t : ParserStateTransition) (c : Byte) : Option Parser :=
  match t.act1 with
  | none => none
  | some act1 =>
    let p := { p with e1 := act1 p.e1 c }
    let p :=
      match t.act2 with
      | none => p
      | some act2 => { p with e1 := { p.e1 with next := true }, e2 := act2 p.e2 c }
    some { p with state := t.dest }

end Parser

/-- `parser_feed`. The event it returns is the first event of the parser it leaves. -/
def parserFeed (p : Parser) (c : Byte) : Option Parser :=
  match p.classes[c.toNat]? with
  | none => none
  | some type =>
    match p.defn.states[p.state]?, p.defn.statesN[p.state]? with
    | some state, some n =>
      match feedLoop type c state n 0 with
      | none => none
      | some none => some p.clearNext
      | some (some t) => p.clearNext.take t c
    | _, _ => none

/-- Feed bytes one after another. -/
def parserRun : Parser → List Byte → Option Parser
  | p, [] => some p
  | p, c :: bytes => (parserFeed p c).bind fun p => parserRun p bytes

end SocksProxy
