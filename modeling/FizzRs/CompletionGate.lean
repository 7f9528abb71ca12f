import Mathlib.Algebra.Ring.Nat
import FizzRs.EchoSession

namespace FizzRs

open LabelledSystem

/-!
# The handlers of one side of the benchmark

Each side of the benchmark waits for one promise.  The handlers of its sessions
run on a thread of their own each, and share an atomic flag and an atomic counter.
The first failure fulfils the promise with an exception, the success that brings
the counter to the expected number fulfils it with a value, and the flag lets one
handler through.

A step is one atomic operation of one handler.  Only the handler that wins the
exchange touches the promise, so the promise is fulfilled in the step of the
exchange.  Sessions may be started without a bound: the listening socket takes
connections of other processes too.
-/

/-- The two sides of the benchmark. -/
inductive BenchSide where
  | server
  | client
  deriving Repr, DecidableEq

/-- The word that the messages of a side start with. -/
def BenchSide.name : BenchSide → String
  | .server => "server"
  | .client => "client"

/--
How a session ends: it fulfils its promise, or an exception is caught while it is
set up, or, in the acceptor only, before its event loop runs.
-/
inductive SessionEnd where
  | completed (result : PromiseResult)
  | setupFailed (what : String)
  | acceptFailed (what : String)
  deriving Repr, DecidableEq

/-- Where the handler of a session stands: before which atomic operation. -/
inductive HandlerPc where
  | running
  | loading (result : PromiseResult)
  | counting
  | exchanging (result : PromiseResult)
  | returned (counted : Bool)
  deriving Repr, DecidableEq

namespace HandlerPc

/-- The handler has added its session to the counter. -/
def isCounted : HandlerPc → Bool
  | .exchanging .value => true
  | .returned counted => counted
  | _ => false

/-- The handler has returned. -/
def hasReturned : HandlerPc → Bool
  | .returned _ => true
  | _ => false

/-- The steps until the handler has returned, at most. -/
def stepsLeft : HandlerPc → Nat
  | .running => 4
  | .loading _ => 3
  | .counting => 2
  | .exchanging _ => 1
  | .returned _ => 0

end HandlerPc

/-- Where the handler of a session begins. -/
def SessionEnd.enter (side : BenchSide) : SessionEnd → HandlerPc
  | .completed result => .loading result
  | .setupFailed what =>
      .exchanging (.exception (side.name ++ " setup: " ++ what))
  | .acceptFailed what => .exchanging (.exception ("accept: " ++ what))

/-- What the handlers of one side share, and where each of them stands. -/
structure CompletionGate where
  fired : Bool
  completed : Nat
  allDone : List PromiseResult
  sessions : List HandlerPc
  deriving Repr, DecidableEq

namespace CompletionGate

/-- Nothing has been started. -/
def initial : CompletionGate where
  fired := false
  completed := 0
  allDone := []
  sessions := []

/-- Steps of one side. -/
inductive Action where
  | start
  | finish (session : Nat)
  | advance (session : Nat)
  | acceptError (what : String)
  deriving Repr, DecidableEq

/-- The step belongs to the handler of a session. -/
def Action.isHandlerStep : Action → Bool
  | .finish _ => true
  | .advance _ => true
  | _ => false

/-- `if (!fired.exchange(true))`: the winner fulfils the promise. -/
def exchange
    (gate : CompletionGate)
    (result : PromiseResult) :
    CompletionGate :=
  if gate.fired then
    gate
  else
    { gate with
      fired := true
      allDone := gate.allDone ++ [result] }

/-- A session is started. -/
def startSession (gate : CompletionGate) : CompletionGate :=
  { gate with sessions := gate.sessions ++ [.running] }

/-- The handler of a session goes on to another operation. -/
def moveTo
    (gate : CompletionGate)
    (session : Nat)
    (pc : HandlerPc) :
    CompletionGate :=
  { gate with sessions := gate.sessions.set session pc }

/-- `if (fired.load()) return;` and the test of the session's result. -/
def load
    (gate : CompletionGate)
    (session : Nat)
    (result : PromiseResult) :
    CompletionGate :=
  if gate.fired then
    gate.moveTo session (.returned false)
  else
    match result with
    | .value => gate.moveTo session .counting
    | .exception what =>
        gate.moveTo session (.exchanging (.exception what))

/-- `completed.fetch_add(1) + 1 == expectedConns`. -/
def fetchAdd
    (expectedConns : Nat)
    (gate : CompletionGate)
    (session : Nat) :
    CompletionGate :=
  if gate.completed + 1 = expectedConns then
    { gate with
      completed := gate.completed + 1
      sessions := gate.sessions.set session (.exchanging .value) }
  else
    { gate with
      completed := gate.completed + 1
      sessions := gate.sessions.set session (.returned true) }

/-- The next atomic operation of a handler. -/
def advance
    (expectedConns : Nat)
    (gate : CompletionGate)
    (session : Nat) :
    Option CompletionGate :=
  match gate.sessions[session]? with
  | some (.loading result) => some (gate.load session result)
  | some .counting => some (gate.fetchAdd expectedConns session)
  | some (.exchanging result) =>
      some ((gate.exchange result).moveTo session
        (.returned (result = .value)))
  | _ => none

/-- One step of one side; accept errors reach the acceptor only. -/
def step
    (side : BenchSide)
    (expectedConns : Nat)
    (ends : Nat → SessionEnd)
    (gate : CompletionGate) :
    Action → Option CompletionGate
  | .start => some gate.startSession
  | .finish session =>
      if gate.sessions[session]? = some .running then
        some (gate.moveTo session ((ends session).enter side))
      else
        none
  | .advance session => gate.advance expectedConns session
  | .acceptError what =>
      if side = .server then
        some (gate.exchange (.exception ("acceptError: " ++ what)))
      else
        none

/-- The steps until every started handler has returned, at most. -/
def stepsLeft (gate : CompletionGate) : Nat :=
  (gate.sessions.map HandlerPc.stepsLeft).sum

/-- What a step does, with the branch that it takes. -/
inductive Transition
    (side : BenchSide)
    (expectedConns : Nat)
    (ends : Nat → SessionEnd)
    (gate : CompletionGate) :
    Action → CompletionGate → Prop where
  | start :
      Transition side expectedConns ends gate .start gate.startSession
  | finish {session : Nat} :
      gate.sessions[session]? = some .running →
      Transition side expectedConns ends gate (.finish session)
        (gate.moveTo session ((ends session).enter side))
  | loadFired {session : Nat} {result : PromiseResult} :
      gate.sessions[session]? = some (.loading result) →
      gate.fired = true →
      Transition side expectedConns ends gate (.advance session)
        (gate.moveTo session (.returned false))
  | loadValue {session : Nat} :
      gate.sessions[session]? = some (.loading .value) →
      gate.fired = false →
      Transition side expectedConns ends gate (.advance session)
        (gate.moveTo session .counting)
  | loadException {session : Nat} {what : String} :
      gate.sessions[session]? = some (.loading (.exception what)) →
      gate.fired = false →
      Transition side expectedConns ends gate (.advance session)
        (gate.moveTo session (.exchanging (.exception what)))
  | countLast {session : Nat} :
      gate.sessions[session]? = some .counting →
      gate.completed + 1 = expectedConns →
      Transition side expectedConns ends gate (.advance session)
        { gate with
          completed := gate.completed + 1
          sessions := gate.sessions.set session (.exchanging .value) }
  | countOther {session : Nat} :
      gate.sessions[session]? = some .counting →
      gate.completed + 1 ≠ expectedConns →
      Transition side expectedConns ends gate (.advance session)
        { gate with
          completed := gate.completed + 1
          sessions := gate.sessions.set session (.returned true) }
  | exchangeLost {session : Nat} {result : PromiseResult} :
      gate.sessions[session]? = some (.exchanging result) →
      gate.fired = true →
      Transition side expectedConns ends gate (.advance session)
        (gate.moveTo session (.returned (result = .value)))
  | exchangeWon {session : Nat} {result : PromiseResult} :
      gate.sessions[session]? = some (.exchanging result) →
      gate.fired = false →
      Transition side expectedConns ends gate (.advance session)
        { gate with
          fired := true
          allDone := gate.allDone ++ [result]
          sessions :=
            gate.sessions.set session (.returned (result = .value)) }
  | acceptErrorLost {what : String} :
      side = .server →
      gate.fired = true →
      Transition side expectedConns ends gate (.acceptError what) gate
  | acceptErrorWon {what : String} :
      side = .server →
      gate.fired = false →
      Transition side expectedConns ends gate (.acceptError what)
        { gate with
          fired := true
          allDone :=
            gate.allDone ++ [.exception ("acceptError: " ++ what)] }

section Steps

variable
  {side : BenchSide}
  {expectedConns : Nat}
  {ends : Nat → SessionEnd}
  {gate following : CompletionGate}

theorem transition_of_advance
    {session : Nat}
    (taken : gate.advance expectedConns session = some following) :
    Transition side expectedConns ends gate (.advance session) following := by
  unfold advance at taken
  split at taken
  · next result located =>
      obtain rfl := Option.some.inj taken
      unfold load
      by_cases fired : gate.fired = true
      · rw [if_pos fired]
        exact .loadFired located fired
      · rw [if_neg fired]
        cases result with
        | value =>
            exact .loadValue located (eq_false_of_ne_true fired)
        | exception what =>
            exact .loadException located (eq_false_of_ne_true fired)
  · next located =>
      obtain rfl := Option.some.inj taken
      unfold fetchAdd
      by_cases last : gate.completed + 1 = expectedConns
      · rw [if_pos last]
        exact .countLast located last
      · rw [if_neg last]
        exact .countOther located last
  · next result located =>
      obtain rfl := Option.some.inj taken
      unfold exchange
      by_cases fired : gate.fired = true
      · rw [if_pos fired]
        exact .exchangeLost located fired
      · rw [if_neg fired]
        exact .exchangeWon located (eq_false_of_ne_true fired)
  · cases taken

theorem transition_of_step
    {action : Action}
    (taken : gate.step side expectedConns ends action = some following) :
    Transition side expectedConns ends gate action following := by
  cases action with
  | start =>
      obtain rfl := Option.some.inj taken
      exact .start
  | finish session =>
      simp only [step, Option.ite_none_right_eq_some,
        Option.some.injEq] at taken
      obtain ⟨located, rfl⟩ := taken
      exact .finish located
  | advance session =>
      exact transition_of_advance taken
  | acceptError what =>
      simp only [step, Option.ite_none_right_eq_some,
        Option.some.injEq] at taken
      obtain ⟨isServer, rfl⟩ := taken
      unfold exchange
      by_cases fired : gate.fired = true
      · rw [if_pos fired]
        exact .acceptErrorLost isServer fired
      · rw [if_neg fired]
        exact .acceptErrorWon isServer (eq_false_of_ne_true fired)

end Steps

@[simp]
theorem length_startSession
    (gate : CompletionGate) :
    gate.startSession.sessions.length = gate.sessions.length + 1 :=
  List.length_append

theorem stepsLeft_startSession
    (gate : CompletionGate) :
    gate.startSession.stepsLeft = gate.stepsLeft + 4 := by
  simp [stepsLeft, startSession, HandlerPc.stepsLeft]

section Frame

variable
  {side : BenchSide}
  {expectedConns : Nat}
  {ends : Nat → SessionEnd}
  {gate following : CompletionGate}
  {action : Action}

/-- Only `start` adds a session. -/
theorem Transition.length_sessions
    (transition : Transition side expectedConns ends gate action following)
    (notStart : action ≠ .start) :
    following.sessions.length = gate.sessions.length := by
  cases transition with
  | start => contradiction
  | acceptErrorLost _ _ => rfl
  | acceptErrorWon _ _ => rfl
  | _ => exact List.length_set

end Frame

section Progress

variable
  {side : BenchSide}
  {expectedConns : Nat}
  {ends : Nat → SessionEnd}
  {gate following : CompletionGate}

/-- A handler that has not returned has a next step. -/
theorem exists_step_of_not_returned
    (side : BenchSide)
    (expectedConns : Nat)
    (ends : Nat → SessionEnd)
    {pc : HandlerPc}
    (member : pc ∈ gate.sessions)
    (notReturned : pc.hasReturned = false) :
    ∃ action following,
      action.isHandlerStep = true ∧
        gate.step side expectedConns ends action = some following := by
  obtain ⟨session, located⟩ := List.mem_iff_getElem?.mp member
  cases pc with
  | running =>
      exact ⟨.finish session, _, rfl, if_pos located⟩
  | loading result =>
      refine ⟨.advance session, gate.load session result, rfl, ?_⟩
      simp only [step, advance, located]
  | counting =>
      refine ⟨.advance session, gate.fetchAdd expectedConns session, rfl, ?_⟩
      simp only [step, advance, located]
  | exchanging result =>
      refine ⟨.advance session, (gate.exchange result).moveTo session
        (.returned (result = .value)), rfl, ?_⟩
      simp only [step, advance, located]
  | returned counted =>
      cases notReturned

/-- Moving one handler to a place with fewer steps left lowers the sum. -/
theorem sum_stepsLeft_set_lt
    {sessions : List HandlerPc}
    {session : Nat}
    {before after : HandlerPc}
    (located : sessions[session]? = some before)
    (fewer : after.stepsLeft < before.stepsLeft) :
    ((sessions.set session after).map HandlerPc.stepsLeft).sum <
      (sessions.map HandlerPc.stepsLeft).sum := by
  induction sessions generalizing session with
  | nil =>
      simp at located
  | cons first rest inductionHypothesis =>
      cases session with
      | zero =>
          obtain rfl := Option.some.inj located
          simpa using fewer
      | succ session =>
          have tailLess := inductionHypothesis
            (List.getElem?_cons_succ.symm.trans located)
          simpa using tailLess

/-- A session's handler enters with fewer steps left than a running session. -/
theorem stepsLeft_enter_lt
    (side : BenchSide)
    (sessionEnd : SessionEnd) :
    (sessionEnd.enter side).stepsLeft < HandlerPc.running.stepsLeft := by
  cases sessionEnd <;> simp [SessionEnd.enter, HandlerPc.stepsLeft]

/-- Every step of a handler lowers the number of steps left. -/
theorem Transition.stepsLeft_lt
    {action : Action}
    (transition : Transition side expectedConns ends gate action following)
    (isHandlerStep : action.isHandlerStep = true) :
    following.stepsLeft < gate.stepsLeft := by
  cases transition with
  | finish located =>
      exact sum_stepsLeft_set_lt located (stepsLeft_enter_lt side _)
  | loadFired located _ =>
      exact sum_stepsLeft_set_lt located (by simp [HandlerPc.stepsLeft])
  | loadValue located _ =>
      exact sum_stepsLeft_set_lt located (by simp [HandlerPc.stepsLeft])
  | loadException located _ =>
      exact sum_stepsLeft_set_lt located (by simp [HandlerPc.stepsLeft])
  | countLast located _ =>
      exact sum_stepsLeft_set_lt located (by simp [HandlerPc.stepsLeft])
  | countOther located _ =>
      exact sum_stepsLeft_set_lt located (by simp [HandlerPc.stepsLeft])
  | exchangeLost located _ =>
      exact sum_stepsLeft_set_lt located (by simp [HandlerPc.stepsLeft])
  | exchangeWon located _ =>
      exact sum_stepsLeft_set_lt located (by simp [HandlerPc.stepsLeft])
  | start => cases isHandlerStep
  | acceptErrorLost _ _ => cases isHandlerStep
  | acceptErrorWon _ _ => cases isHandlerStep

end Progress

end CompletionGate

end FizzRs
