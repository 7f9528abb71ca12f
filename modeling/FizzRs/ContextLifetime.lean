import Mathlib.Tactic.ByContra
import FizzRs.ConnectionSetup

namespace FizzRs

open LabelledSystem

/-!
# The context behind the raw pointer

The closure of a call reaches its context through a raw pointer.  While the
future of the call is there the borrow keeps the context alive.  A future that
is dropped at its first await leaves its closure behind, and the borrow checker
then permits dropping the context before the closure has finished.  The closure
never sees a dropped context in the runs where a context is dropped only with no
closure left to use it.
-/

namespace SetupCall

/-- Only a closure that is queued or running uses the context. -/
theorem Transition.pending_of_usesContext
    {call following : SetupCall}
    {action : Action}
    (transition : Transition call action following)
    (uses : action.usesContext = true) :
    call.closure.isPending = true := by
  cases transition with
  | closureStarts first later waiting _ =>
      rw [waiting]
      rfl
  | closureFinishes step inside =>
      rw [inside]
      rfl
  | closureContinues step next later inside =>
      rw [inside]
      rfl
  | closureThrows step later inside _ =>
      rw [inside]
      rfl
  | _ =>
      cases uses

/-- The call will not touch its context again. -/
def doneWithContext (call : SetupCall) : Prop :=
  call.future.isOver = true ∧ call.closure.isPending = false

/-- A call that is done with its context stays so. -/
theorem Transition.done_kept
    {call following : SetupCall}
    {action : Action}
    (transition : Transition call action following)
    (done : call.doneWithContext) :
    following.doneWithContext := by
  obtain ⟨isOver, notPending⟩ := done
  have idle : action.usesContext = false := by
    by_contra uses
    have pending :=
      transition.pending_of_usesContext (by simpa using uses)
    rw [notPending] at pending
    cases pending
  cases transition with
  | handshakeReports reply closesSocket _ =>
      exact ⟨isOver, notPending⟩
  | callerDrops _ =>
      exact ⟨isOver, notPending⟩
  | poolRefuses waiting =>
      exact ⟨isOver, rfl⟩
  | closureStarts first later waiting _ =>
      cases idle
  | closureFinishes step inside =>
      cases idle
  | closureContinues step next later inside =>
      cases idle
  | closureThrows step later inside _ =>
      cases idle
  | _ =>
      simp_all [FuturePc.isOver]

/-- No step moves a call to another context. -/
theorem Transition.context_kept
    {call following : SetupCall}
    {action : Action}
    (transition : Transition call action following) :
    following.context = call.context := by
  cases transition <;> rfl

end SetupCall

namespace Setup

/-- A context is dropped only when no closure is left to use it. -/
def dropsAfterClosures (state : Setup) : Action → Bool
  | .dropContext context =>
      state.calls.all fun call =>
        call.context ≠ context || !call.closure.isPending
  | _ => true

/-- The call has its context, or is done with it. -/
def Sheltered (state : Setup) (call : SetupCall) : Prop :=
  ∃ found,
    state.contexts[call.context]? = some found ∧
      (found.alive = false → call.doneWithContext)

/-- Every call has its context or is done with it. -/
theorem sheltered_of_reachable
    {state : Setup}
    (reachable :
      ReachableWhile step
        (fun state action => state.dropsAfterClosures action = true)
        (fun start => start = initial) state) :
    ∀ call ∈ state.calls, state.Sheltered call := by
  induction reachable with
  | start isInitial =>
      rw [isInitial]
      simp [initial]
  | @next state following action _ permitted taken inductionHypothesis =>
      have transition := Transition.of_step taken
      cases transition with
      | newContext kind =>
          intro call member
          obtain ⟨found, present, done⟩ := inductionHypothesis call member
          refine ⟨found, ?_, done⟩
          rw [List.getElem?_append_left
            (List.getElem?_eq_some_iff.mp present).1]
          exact present
      | connect context found present alive =>
          intro call member
          rcases List.mem_append.mp member with isOld | isNew
          · exact inductionHypothesis call isOld
          · rw [List.mem_singleton.mp isNew]
            exact ⟨found, present, by simp [alive]⟩
      | dropContext context found present unborrowed =>
          intro call member
          obtain ⟨itsContext, itsPresent, done⟩ :=
            inductionHypothesis call member
          by_cases same : call.context = context
          · refine ⟨{ found with alive := false }, ?_, fun _ => ?_⟩
            · have inside := (List.getElem?_eq_some_iff.mp present).1
              simp [same, inside]
            · have isOver : call.future.isOver = true := by
                simpa [same] using List.all_eq_true.mp unborrowed call member
              have settled : call.closure.isPending = false := by
                simpa [same] using List.all_eq_true.mp permitted call member
              exact ⟨isOver, settled⟩
          · refine ⟨itsContext, ?_, done⟩
            simpa [List.getElem?_set, Ne.symm same] using itsPresent
      | call index action before after present moved =>
          intro call member
          rcases List.mem_or_eq_of_mem_set member with isOld | isNew
          · exact inductionHypothesis call isOld
          · subst call
            obtain ⟨found, itsPresent, done⟩ :=
              inductionHypothesis before (List.mem_of_getElem? present)
            refine ⟨found, ?_, fun dropped => moved.done_kept (done dropped)⟩
            rw [moved.context_kept]
            exact itsPresent

/--
In every run that drops a context only with no closure left to use it, each step
of a closure through the raw pointer finds the context there.
-/
theorem closure_finds_context
    {state following : Setup}
    {index : Nat}
    {call : SetupCall}
    {action : SetupCall.Action}
    (reachable :
      ReachableWhile step
        (fun state action => state.dropsAfterClosures action = true)
        (fun start => start = initial) state)
    (present : state.calls[index]? = some call)
    (uses : action.usesContext = true)
    (taken : state.step (.call index action) = some following) :
    state.contextAlive call.context = true := by
  obtain ⟨found, itsPresent, done⟩ :=
    sheltered_of_reachable reachable call (List.mem_of_getElem? present)
  simp only [step, present] at taken
  obtain ⟨after, moved, _⟩ := Option.map_eq_some_iff.mp taken
  have pending :=
    (SetupCall.Transition.of_step moved).pending_of_usesContext uses
  have alive : found.alive = true := by
    by_contra dropped
    have settled := (done (by simpa using dropped)).2
    rw [pending] at settled
    cases settled
  simpa [contextAlive, itsPresent] using alive

/-- A call of `accept_from_stream` whose closure waits for the blocking pool. -/
def acceptQueued : List Action :=
  [.newContext .server, .connect 0, .call 0 (.poll false)]

/-- The call after `acceptQueued`. -/
def queuedCall (future : FuturePc) : SetupCall :=
  { SetupCall.unpolled 0 .server with
    future := future
    closure := .queued
    resources := { fd := .raw, thread := .notStarted } }

/-- The system with that call, its context there or dropped. -/
def queuedState (future : FuturePc) (alive : Bool) : Setup where
  contexts := [{ kind := .server, alive := alive }]
  calls := [queuedCall future]

theorem closure_finds_context_sample :
    run? (restrict step dropsAfterClosures) initial acceptQueued =
        some (queuedState (.suspended .blocking) true) ∧
      (queuedState (.suspended .blocking) true).contextAlive 0 = true := by
  have performed :
      run? (restrict step dropsAfterClosures) initial acceptQueued =
        some (queuedState (.suspended .blocking) true) := by
    decide
  have present :
      (queuedState (.suspended .blocking) true).calls[0]? =
        some (queuedCall (.suspended .blocking)) := by
    rfl
  have starts :
      (queuedState (.suspended .blocking) true).step
          (.call 0 .closureStarts) =
        some { queuedState (.suspended .blocking) true with
          calls :=
            [{ queuedCall (.suspended .blocking) with
               closure :=
                 .running .makeConnection
                   [.makeEventBase, .newSocket, .newAsyncFizz,
                     .releaseTransport, .startThread] }] } := by
    decide
  exact ⟨performed,
    closure_finds_context (reachableWhile_of_run? (.start rfl) performed)
      present rfl starts⟩

/--
A future dropped at its first await and a context dropped after it leave a
closure that enters `server_accept_connection` with the context gone.
-/
theorem orphanedClosure_uses_dropped_context :
    ∃ state following : Setup,
      Reachable step (fun start => start = initial) state ∧
        state.calls[0]? = some (queuedCall (.dropped .blocking)) ∧
        state.contextAlive 0 = false ∧
        state.step (.call 0 .closureStarts) = some following := by
  have performed :
      run? step initial
        (acceptQueued ++ [.call 0 .dropFuture, .dropContext 0]) =
        some (queuedState (.dropped .blocking) false) := by
    decide
  exact ⟨_, _, reachable_of_run? (.start rfl) performed, rfl, rfl, rfl⟩

end Setup

end FizzRs
