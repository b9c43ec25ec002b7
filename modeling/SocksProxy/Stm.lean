import Mathlib.Data.List.Basic

/-!
# The state machine

`stm.c`: a table of states and the state a machine is in, which is none before its first event. Callbacks are run when a state is
arrived at and when it is departed from, and both are optional; a callback for each kind of event says which state is next. An
operation has no result when the source aborts, or when it would reach outside the table.
-/

namespace SocksProxy

/-- `struct state_definition`: the number of the state, and which of its callbacks are not NULL. -/
structure StateDefinition where
  state : Nat
  onArrival : Bool
  onDeparture : Bool
  onReadReady : Bool
  onWriteReady : Bool
  onBlockReady : Bool
  deriving DecidableEq

/-- `struct state_machine`. A pointer into the table is an index, and NULL is `none`. -/
structure StateMachine where
  initial : Nat
  states : List StateDefinition
  maxState : Nat
  current : Option Nat
  deriving DecidableEq

/-- A call of one of the two callbacks of a state, with the number it is passed. -/
inductive StmCall where
  | arrival (state : Nat)
  | departure (state : Nat)
  deriving DecidableEq

/-- An event for the machine. Its callback, if there is one, returns the number of the next state. -/
inductive StmEvent where
  | read (ret : Nat)
  | write (ret : Nat)
  | block (ret : Nat)

/-- What the callback of an event returns. -/
def StmEvent.ret : StmEvent → Nat
  | .read ret => ret
  | .write ret => ret
  | .block ret => ret

/-- `stm_init`: the states must be numbered from zero, in order. -/
def stmInit (stm : StateMachine) : Option StateMachine :=
  if (List.range (stm.maxState + 1)).all fun i => (stm.states[i]?).any (·.state == i) then
    if stm.initial < stm.maxState then some { stm with current := none } else none
  else none

/-- The call of `on_arrival` for a state, if it has one. -/
def StateDefinition.arrivalCalls (d : StateDefinition) : List StmCall := if d.onArrival then [.arrival d.state] else []

/-- The call of `on_departure` for a state, if it has one. -/
def StateDefinition.departureCalls (d : StateDefinition) : List StmCall := if d.onDeparture then [.departure d.state] else []

/-- `handle_first`: a machine without a state enters the initial one. -/
def handleFirst (stm : StateMachine) : Option (StateMachine × List StmCall) :=
  match stm.current with
  | none => (stm.states[stm.initial]?).map fun d => ({ stm with current := some stm.initial }, d.arrivalCalls)
  | some _ => some (stm, [])

/-- `jump`: to another state the machine goes from the present one, if there is one, and to the same state it does not go. -/
def jump (stm : StateMachine) (next : Nat) : Option (StateMachine × List StmCall) :=
  if next > stm.maxState then none
  else if stm.current ≠ some next then
    match stm.current with
    | none => (stm.states[next]?).map fun dest => ({ stm with current := some next }, dest.arrivalCalls)
    | some i =>
      match stm.states[i]?, stm.states[next]? with
      | some d, some dest => some ({ stm with current := some next }, d.departureCalls ++ dest.arrivalCalls)
      | _, _ => none
  else some (stm, [])

/-- What the three handlers do, each with its own callback: `ready` says whether the present state has it, and `ret` is what it
returns. -/
def stmHandler (ready : StateDefinition → Bool) (stm : StateMachine) (ret : Nat) : Option (StateMachine × List StmCall) :=
  match handleFirst stm with
  | none => none
  | some (stm, first) =>
    match stm.current.bind fun i => stm.states[i]? with
    | none => none
    | some d => if ready d then (jump stm ret).map fun (stm, calls) => (stm, first ++ calls) else none

/-- `stm_handler_read`. -/
def stmHandlerRead : StateMachine → Nat → Option (StateMachine × List StmCall) := stmHandler (·.onReadReady)

/-- `stm_handler_write`. -/
def stmHandlerWrite : StateMachine → Nat → Option (StateMachine × List StmCall) := stmHandler (·.onWriteReady)

/-- `stm_handler_block`. -/
def stmHandlerBlock : StateMachine → Nat → Option (StateMachine × List StmCall) := stmHandler (·.onBlockReady)

/-- `stm_handler_close`: the calls it makes. -/
def stmHandlerClose (stm : StateMachine) : Option (List StmCall) :=
  match stm.current with
  | none => some []
  | some i => (stm.states[i]?).map (·.departureCalls)

/-- `stm_state`. -/
def stmState (stm : StateMachine) : Option Nat :=
  match stm.current with
  | none => some stm.initial
  | some i => (stm.states[i]?).map (·.state)

/-- An event is handled. -/
def StateMachine.step (stm : StateMachine) : StmEvent → Option (StateMachine × List StmCall)
  | .read ret => stmHandlerRead stm ret
  | .write ret => stmHandlerWrite stm ret
  | .block ret => stmHandlerBlock stm ret

/-- Events one after another: the machine in the end, and all the calls. -/
def StateMachine.run : StateMachine → List StmEvent → Option (StateMachine × List StmCall)
  | stm, [] => some (stm, [])
  | stm, e :: es =>
    match stm.step e with
    | none => none
    | some (stm, calls) => (stm.run es).map fun (stm, calls') => (stm, calls ++ calls')

end SocksProxy
