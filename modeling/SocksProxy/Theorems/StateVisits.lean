import SocksProxy.Stm
import Mathlib.Data.List.Destutter

/-!
# The visits of a state machine

A machine visits the initial state and then every state that a callback asks for, but for those it is already in. Each visit begins
with the arrival at its state and ends with the departure from it, before the next visit begins; the last one ends when the machine is
closed. The calls that the machine makes are exactly these, without those of callbacks that a state does not have.
-/

namespace SocksProxy

/-- The states that are visited when these events are handled: the initial one, and those that are asked for, without repetitions. -/
def StateMachine.visits (stm : StateMachine) (es : List StmEvent) : List Nat :=
  if es = [] then [] else (stm.initial :: es.map StmEvent.ret).destutter (· ≠ ·)

/-- The calls of visits one after another, the last of which has not ended: each but the first begins where another has ended. -/
def bracketed : List Nat → List StmCall
  | [] => []
  | [s] => [.arrival s]
  | s :: t :: visits => .arrival s :: .departure s :: bracketed (t :: visits)

/-- The state of a call has the callback. -/
def StateMachine.defines (stm : StateMachine) : StmCall → Bool
  | .arrival s => (stm.states[s]?).any (·.onArrival)
  | .departure s => (stm.states[s]?).any (·.onDeparture)

/-- The table of a machine that `stm_init` has accepted. -/
structure StateMachine.Accepted (stm : StateMachine) : Prop where
  numbered : ∀ i ≤ stm.maxState, ∃ d, stm.states[i]? = some d ∧ d.state = i
  initial : stm.initial < stm.maxState

/-- `stm_init` accepts a table that is numbered in order, and leaves the machine without a state. -/
theorem accepted_of_stmInit {stm0 stm : StateMachine} (h : stmInit stm0 = some stm) : stm.Accepted ∧ stm.current = none := by
  unfold stmInit at h
  split at h
  · rename_i hall
    split at h
    · rename_i hlt
      cases h
      refine ⟨⟨fun i hi => ?_, hlt⟩, rfl⟩
      have hany := List.all_eq_true.mp hall i (List.mem_range.mpr (Nat.lt_succ_of_le hi))
      obtain ⟨d, hd, hs⟩ := (Option.any_eq_true _ _).mp hany
      exact ⟨d, hd, beq_iff_eq.mp hs⟩
    · cases h
  · cases h

/-- A machine is in the state that it is in. -/
theorem StateMachine.eq_withCurrent {stm : StateMachine} {i : Nat} (h : stm.current = some i) :
    stm = { stm with current := some i } := by
  rw [← h]

namespace StateMachine.Accepted

variable {stm : StateMachine} {d : StateDefinition} {i : Nat}

/-- Another present state makes no difference. -/
theorem withCurrent (h : stm.Accepted) (current : Option Nat) : Accepted { stm with current } := ⟨h.numbered, h.initial⟩

/-- The call of `on_arrival`, if the state has it. -/
theorem arrivalCalls (h : stm.Accepted) (hi : i ≤ stm.maxState) (hd : stm.states[i]? = some d) :
    d.arrivalCalls = [StmCall.arrival i].filter stm.defines := by
  obtain ⟨d', hd', hs⟩ := h.numbered i hi
  rw [hd] at hd'
  cases hd'
  have hdef : stm.defines (.arrival i) = d.onArrival := by simp [StateMachine.defines, hd]
  rw [StateDefinition.arrivalCalls, List.filter_cons, hdef, hs]
  rfl

/-- The call of `on_departure`, if the state has it. -/
theorem departureCalls (h : stm.Accepted) (hi : i ≤ stm.maxState) (hd : stm.states[i]? = some d) :
    d.departureCalls = [StmCall.departure i].filter stm.defines := by
  obtain ⟨d', hd', hs⟩ := h.numbered i hi
  rw [hd] at hd'
  cases hd'
  have hdef : stm.defines (.departure i) = d.onDeparture := by simp [StateMachine.defines, hd]
  rw [StateDefinition.departureCalls, List.filter_cons, hdef, hs]
  rfl

/-- A jump to the present state does nothing, and one to another state ends a visit and begins the next. -/
theorem jump (h : stm.Accepted) (hi : i ≤ stm.maxState) (hc : stm.current = some i) {next : Nat} {stm' : StateMachine}
    {calls : List StmCall} (hj : SocksProxy.jump stm next = some (stm', calls)) :
    next ≤ stm.maxState ∧ stm' = { stm with current := some next } ∧
      calls = if i = next then [] else [StmCall.departure i, .arrival next].filter stm.defines := by
  unfold SocksProxy.jump at hj
  split at hj
  · cases hj
  · rename_i hle
    have hle : next ≤ stm.maxState := Nat.le_of_not_lt hle
    by_cases he : i = next
    · subst he
      rw [hc, if_neg (by simp)] at hj
      obtain ⟨rfl, rfl⟩ := Prod.mk.inj (Option.some.inj hj)
      exact ⟨hle, StateMachine.eq_withCurrent hc, by rw [if_pos rfl]⟩
    · obtain ⟨d, hd, _⟩ := h.numbered i hi
      obtain ⟨dest, hdest, _⟩ := h.numbered next hle
      rw [hc, if_pos (fun hs => he (Option.some.inj hs))] at hj
      simp only [hd, hdest] at hj
      cases hj
      rw [if_neg he, h.departureCalls hi hd, h.arrivalCalls hle hdest, ← List.filter_append]
      exact ⟨hle, rfl, rfl⟩

end StateMachine.Accepted

/-- Every handler does what a jump does, in a machine that has a state. -/
theorem StateMachine.step_started {stm stm' : StateMachine} {i : Nat} (hc : stm.current = some i) {e : StmEvent}
    {calls : List StmCall} (hs : stm.step e = some (stm', calls)) : SocksProxy.jump stm e.ret = some (stm', calls) := by
  have hhandler : ∀ ready, stmHandler ready stm e.ret = some (stm', calls) → SocksProxy.jump stm e.ret = some (stm', calls) := by
    intro ready h
    rw [stmHandler, handleFirst, hc] at h
    dsimp only at h
    split at h
    · cases h
    · split at h
      · simpa using h
      · cases h
  cases e with
  | read ret => exact hhandler _ hs
  | write ret => exact hhandler _ hs
  | block ret => exact hhandler _ hs

/-- The first event finds the machine in its initial state, after the calls of `handle_first`. -/
theorem StateMachine.step_first {stm stm' : StateMachine} (h : stm.Accepted) (hc : stm.current = none) {e : StmEvent}
    {calls : List StmCall} (hs : stm.step e = some (stm', calls)) :
    ∃ calls', StateMachine.step { stm with current := some stm.initial } e = some (stm', calls') ∧
      calls = [StmCall.arrival stm.initial].filter stm.defines ++ calls' := by
  obtain ⟨d, hd, _⟩ := h.numbered stm.initial (Nat.le_of_lt h.initial)
  have hhandler : ∀ ready, stmHandler ready stm e.ret = some (stm', calls) →
      ∃ calls', stmHandler ready { stm with current := some stm.initial } e.ret = some (stm', calls') ∧
        calls = [StmCall.arrival stm.initial].filter stm.defines ++ calls' := by
    intro ready hr
    rw [stmHandler, handleFirst, hc, hd] at hr
    dsimp only at hr
    rw [Option.map_some, h.arrivalCalls (Nat.le_of_lt h.initial) hd] at hr
    simp only [Option.bind_some, hd] at hr
    split at hr
    · rename_i hready
      obtain ⟨⟨stm1, calls'⟩, hj, heq⟩ := Option.map_eq_some_iff.mp hr
      cases heq
      refine ⟨calls', ?_, rfl⟩
      rw [stmHandler, handleFirst]
      simp only [Option.bind_some, hd, hready, if_true, hj]
      rfl
    · cases hr
  cases e with
  | read ret => exact hhandler _ hs
  | write ret => exact hhandler _ hs
  | block ret => exact hhandler _ hs

/-- One more visit before others. -/
theorem bracketed_cons (s : Nat) {visits : List Nat} (h : visits ≠ []) :
    bracketed (s :: visits) = [.arrival s, .departure s] ++ bracketed visits := by
  cases visits with
  | nil => exact absurd rfl h
  | cons t visits => rfl

/-- The first visit is to the state that comes first. -/
theorem head?_visits (s : Nat) (rets : List Nat) : (rets.destutter' (· ≠ ·) s).head? = some s := by
  induction rets with
  | nil => rfl
  | cons ret rets ih =>
    by_cases he : s = ret
    · rw [List.destutter'_cons_neg _ (not_not.mpr he)]
      exact ih
    · rw [List.destutter'_cons_pos _ he]
      rfl

/-- Events in a machine that has a state: the calls are those of the visits, from within the first. -/
theorem StateMachine.run_started {stm stm' : StateMachine} (h : stm.Accepted) {i : Nat} (hi : i ≤ stm.maxState)
    (hc : stm.current = some i) (es : List StmEvent) {calls : List StmCall} (hr : stm.run es = some (stm', calls)) :
    ∃ j ≤ stm.maxState, stm' = { stm with current := some j } ∧
      ((es.map StmEvent.ret).destutter' (· ≠ ·) i).getLast? = some j ∧
      (∀ s ∈ (es.map StmEvent.ret).destutter' (· ≠ ·) i, s ≤ stm.maxState) ∧
      [StmCall.arrival i].filter stm.defines ++ calls =
        (bracketed ((es.map StmEvent.ret).destutter' (· ≠ ·) i)).filter stm.defines := by
  induction es generalizing stm i calls with
  | nil =>
    obtain ⟨rfl, rfl⟩ := Prod.mk.inj (Option.some.inj hr)
    refine ⟨i, hi, StateMachine.eq_withCurrent hc, rfl, fun s hs => ?_, List.append_nil _⟩
    rw [List.map_nil, List.destutter'_nil, List.mem_singleton] at hs
    rw [hs]
    exact hi
  | cons e es ih =>
    rw [StateMachine.run] at hr
    split at hr
    · cases hr
    · rename_i stm1 calls1 hs
      obtain ⟨⟨stm2, calls2⟩, hrest, heq⟩ := Option.map_eq_some_iff.mp hr
      cases heq
      obtain ⟨hle, rfl, rfl⟩ := h.jump hi hc (StateMachine.step_started hc hs)
      obtain ⟨j, hj, hstm, hlast, hall, hcalls⟩ := ih (h.withCurrent (some e.ret)) hle rfl hrest
      rw [List.map_cons]
      by_cases he : i = e.ret
      · rw [List.destutter'_cons_neg _ (not_not.mpr he), if_pos he, List.nil_append, he]
        exact ⟨j, hj, hstm, hlast, hall, hcalls⟩
      · have hne := List.destutter'_ne_nil (es.map StmEvent.ret) (· ≠ ·) (a := e.ret)
        rw [List.destutter'_cons_pos _ he, if_neg he]
        refine ⟨j, hj, hstm, ?_, fun s hs => ?_, ?_⟩
        · rw [List.getLast?_cons, hlast]
          rfl
        · rcases List.mem_cons.mp hs with rfl | hs
          · exact hi
          · exact hall s hs
        · rw [bracketed_cons i hne, List.filter_append]
          have hsplit : [StmCall.departure i, .arrival e.ret].filter stm.defines =
              [StmCall.departure i].filter stm.defines ++ [StmCall.arrival e.ret].filter stm.defines :=
            List.filter_append [StmCall.departure i] [StmCall.arrival e.ret]
          have hfirst : [StmCall.arrival i, .departure i].filter stm.defines =
              [StmCall.arrival i].filter stm.defines ++ [StmCall.departure i].filter stm.defines :=
            List.filter_append [StmCall.arrival i] [StmCall.departure i]
          rw [hsplit, hfirst, ← show _ = (bracketed _).filter stm.defines from hcalls]
          simp only [List.append_assoc]
          rfl

/-- Events in a machine that has no state yet: it enters the initial state, and then it is one that has. -/
theorem StateMachine.run_first {stm stm' : StateMachine} (h : stm.Accepted) (hc : stm.current = none) {e : StmEvent}
    {es : List StmEvent} {calls : List StmCall} (hr : stm.run (e :: es) = some (stm', calls)) :
    ∃ calls', StateMachine.run { stm with current := some stm.initial } (e :: es) = some (stm', calls') ∧
      calls = [StmCall.arrival stm.initial].filter stm.defines ++ calls' := by
  rw [StateMachine.run] at hr
  split at hr
  · cases hr
  · rename_i stm1 calls1 hs
    obtain ⟨⟨stm2, calls2⟩, hrest, heq⟩ := Option.map_eq_some_iff.mp hr
    cases heq
    obtain ⟨calls', hs', rfl⟩ := StateMachine.step_first h hc hs
    refine ⟨calls' ++ calls2, ?_, List.append_assoc ..⟩
    rw [StateMachine.run, hs']
    simp only [hrest]
    rfl

/-- The visits of a state machine, for every table that `stm_init` accepts and every sequence of events whose handling does not abort.
The calls of `on_arrival` and `on_departure` are those of the visits, which begin with the initial state if there was an event, and
the close of the machine ends the last visit, if there was one. Each visit is to another state than the one before it, and to the one
that the last callback asked for. `stm_state` is the state of the last visit, or the initial state before the first, and no state is
beyond the greatest. -/
theorem stm_visits {stm0 stm stm' : StateMachine} (h : stmInit stm0 = some stm) (es : List StmEvent) {calls : List StmCall}
    (hr : stm.run es = some (stm', calls)) :
    calls = (bracketed (stm.visits es)).filter stm.defines ∧
    stmHandlerClose stm' = some (((stm.visits es).getLast?.map StmCall.departure).toList.filter stm.defines) ∧
    stmState stm' = some ((stm.visits es).getLast?.getD stm.initial) ∧
    (stm.visits es).getLast?.getD stm.initial ≤ stm.maxState ∧
    (stm.visits es).IsChain (· ≠ ·) ∧ (∀ s ∈ stm.visits es, s ≤ stm.maxState) ∧
    (es ≠ [] → (stm.visits es).head? = some stm.initial) := by
  obtain ⟨ha, hc⟩ := accepted_of_stmInit h
  have hinitial := Nat.le_of_lt ha.initial
  cases es with
  | nil =>
    obtain ⟨rfl, rfl⟩ := Prod.mk.inj (Option.some.inj hr)
    refine ⟨rfl, ?_, ?_, hinitial, .nil, by simp [StateMachine.visits], fun hne => absurd rfl hne⟩
    · rw [stmHandlerClose, hc]
      rfl
    · rw [stmState, hc]
      rfl
  | cons e es =>
    have hvisits : stm.visits (e :: es) = ((e :: es).map StmEvent.ret).destutter' (· ≠ ·) stm.initial :=
      if_neg (List.cons_ne_nil e es)
    obtain ⟨calls', hr', rfl⟩ := StateMachine.run_first ha hc hr
    obtain ⟨j, hj, rfl, hlast, hall, hcalls⟩ := StateMachine.run_started (ha.withCurrent (some stm.initial)) hinitial rfl (e :: es) hr'
    obtain ⟨d, hd, hs⟩ := ha.numbered j hj
    rw [← hvisits] at hlast hall hcalls
    rw [hlast]
    refine ⟨hcalls, ?_, ?_, hj, ?_, hall, fun _ => ?_⟩
    · rw [stmHandlerClose]
      dsimp only
      rw [hd, Option.map_some, ha.departureCalls hj hd]
      rfl
    · rw [stmState]
      dsimp only
      rw [hd, Option.map_some, hs]
      rfl
    · rw [hvisits]
      exact List.isChain_destutter' _ _ _
    · rw [hvisits]
      exact head?_visits _ _

/-- The table of the machine of three states whose callbacks are all there, but for the arrival at the last. -/
def threeStates : StateMachine where
  initial := 0
  states := [⟨0, true, true, true, true, false⟩, ⟨1, true, true, true, true, false⟩, ⟨2, false, true, true, true, false⟩]
  maxState := 2
  current := none

/-- The machine of three states goes to the second, stays there, and goes to the third. -/
theorem stm_visits_three :
    stmInit threeStates = some threeStates ∧ threeStates.visits [.read 1, .write 1, .read 2] = [0, 1, 2] ∧
    ∃ stm' calls, threeStates.run [.read 1, .write 1, .read 2] = some (stm', calls) ∧
      calls = (bracketed [0, 1, 2]).filter threeStates.defines ∧ stmState stm' = some 2 := by
  have hinit : stmInit threeStates = some threeStates := by decide
  have hrun : threeStates.run [.read 1, .write 1, .read 2] = some ({ threeStates with current := some 2 },
      [.arrival 0, .departure 0, .arrival 1, .departure 1]) := by decide
  obtain ⟨hcalls, _, hstate, _⟩ := stm_visits hinit [.read 1, .write 1, .read 2] hrun
  exact ⟨hinit, by decide, _, _, hrun, hcalls, hstate⟩

end SocksProxy
