import FizzRs.Connection

namespace FizzRs

open LabelledSystem

/-!
# Repeated closing

`close` waits on the event loop when the transport reports `good()` and joins
the loop thread when the handle is still there.  The two tests look at different
things.  After the first call has joined the thread, a transport that still
reports `good()` makes the next call wait for a loop that no longer runs.  When
it does not, every later call finds nothing to do.
-/

namespace CloserPc

/-- The owner relies on a loop thread that has not been joined. -/
def needsLoop : CloserPc → Bool
  | .posting _ => true
  | .waiting _ => true
  | .joining _ => true
  | _ => false

/-- The owner has asked the loop to stop and has yet to join its thread. -/
def isJoining : CloserPc → Bool
  | .joining _ => true
  | _ => false

end CloserPc

namespace Connection

/-- A call made after the thread was joined reads `good()` as false. -/
def repeatReadsNotGood
    (state : Connection Waker) :
    Action Waker → Bool
  | .closeCall _ good => state.evbThread || !good
  | _ => true

/-- Where the loop thread is in its life. -/
structure ThreadAccount (state : Connection Waker) : Prop where
  beforeJoin :
    state.evbThread = true →
      state.joins = 0 ∧ state.closeReturns = 0 ∧
        state.terminations = if state.closer.isJoining then 1 else 0
  afterJoin :
    state.evbThread = false →
      state.joins = 1 ∧ state.terminations = 1 ∧
        state.loopRunning = false
  joinable :
    state.closer.isJoining = true → state.evbThread = true

namespace ThreadAccount

/-- The loop thread of a fresh connection runs and nobody has stopped it. -/
theorem initially : ThreadAccount (initial : Connection Waker) := by
  constructor <;> simp [initial, CloserPc.isJoining]

/-- One atomic step keeps the account of the loop thread. -/
theorem preserved
    [TaskWaker Waker]
    {side : Side}
    {state following : Connection Waker}
    {action : Action Waker}
    (account : ThreadAccount state)
    (transition : Transition side state action following) :
    ThreadAccount following := by
  cases transition with
  | closeGood call free _ =>
      obtain ⟨_, _, _, atIdle⟩ := free
      exact { account with
        beforeJoin := by
          simpa [atIdle, CloserPc.isJoining] using account.beforeJoin
        joinable := by simp [CloserPc.isJoining] }
  | closeBad call free _ =>
      obtain ⟨_, _, _, atIdle⟩ := free
      exact { account with
        beforeJoin := by
          simpa [atIdle, CloserPc.isJoining] using account.beforeJoin
        joinable := by simp [CloserPc.isJoining] }
  | post call write here _ =>
      exact { account with
        beforeJoin := by
          simpa [here, CloserPc.isJoining] using account.beforeJoin
        joinable := by simp [CloserPc.isJoining] }
  | resume call here _ =>
      exact { account with
        beforeJoin := by
          simpa [here, CloserPc.isJoining] using account.beforeJoin
        joinable := by simp [CloserPc.isJoining] }
  | terminate call here joinable =>
      obtain ⟨noJoin, noReturn, noTermination⟩ :=
        account.beforeJoin joinable
      refine
        { beforeJoin := fun _ => ⟨noJoin, noReturn, ?_⟩
          afterJoin := by simp [joinable]
          joinable := fun _ => joinable }
      simp [here, CloserPc.isJoining] at noTermination
      simp [noTermination, CloserPc.isJoining]
  | leave call here joined =>
      exact
        { beforeJoin := by simp [joined]
          afterJoin := account.afterJoin
          joinable := by simp [CloserPc.isJoining] }
  | join call here stopped =>
      have joinable : state.evbThread = true :=
        account.joinable (by simp [here, CloserPc.isJoining])
      obtain ⟨noJoin, _, terminated⟩ := account.beforeJoin joinable
      refine
        { beforeJoin := by simp
          afterJoin := fun _ => ⟨by simp [noJoin], ?_, stopped⟩
          joinable := by simp [CloserPc.isJoining] }
      simpa [here, CloserPc.isJoining] using terminated
  | loopExit free requested =>
      exact { account with
        afterJoin := fun joined =>
          ⟨(account.afterJoin joined).1,
            (account.afterJoin joined).2.1, rfl⟩ }
  | _ =>
      exact ⟨account.beforeJoin, account.afterJoin, account.joinable⟩

/-- Every reachable connection keeps the account of its loop thread. -/
theorem of_reachable
    [TaskWaker Waker]
    {side : Side}
    {allowed : Connection Waker → Action Waker → Prop}
    {state : Connection Waker}
    (reachable :
      ReachableWhile (step side) allowed
        (fun start => start = initial) state) :
    ThreadAccount state := by
  refine reachable.invariant_from ?_ ?_
  · exact initially
  · intro before after action _ account _ taken
    exact account.preserved (.of_step taken)

end ThreadAccount

/-- With the thread joined, only the owner can take a step. -/
theorem Transition.stopped_frame
    [TaskWaker Waker]
    {side : Side}
    {state following : Connection Waker}
    {action : Action Waker}
    (transition : Transition side state action following)
    (stopped : state.loopRunning = false)
    (busy : state.closer ≠ .idle) :
    action = .closerStep := by
  cases transition with
  | read action read allowed _ =>
      by_cases byLoop : action.byLoop = true
      · simp [mayRead, byLoop, stopped] at allowed
      · simp [mayRead, byLoop, busy] at allowed
  | write action write _ _ _ atIdle _ =>
      exact (busy atIdle).elim
  | closeGood call free _ =>
      exact (busy free.2.2.2).elim
  | closeBad call free _ =>
      exact (busy free.2.2.2).elim
  | runWrite chain later write free _ _ =>
      simp [loopFree, stopped] at free
  | runClose later write free _ _ =>
      simp [loopFree, stopped] at free
  | loopExit free _ =>
      simp [loopFree, stopped] at free
  | _ =>
      simp_all

/-- A call that finds the thread joined and `good()` false changes nothing. -/
theorem repeatedClose_unchanged
    [TaskWaker Waker]
    {side : Side}
    {state called following : Connection Waker}
    {call : ClosingCall}
    {action : Action Waker}
    (joined : state.evbThread = false)
    (stopped : state.loopRunning = false)
    (calls : state.step side (.closeCall call false) = some called)
    (continues : called.step side action = some following) :
    following =
      { state with closeReturns := state.closeReturns + 1 } := by
  have calling := Transition.of_step calls
  cases calling with
  | closeBad _ free _ =>
      obtain ⟨_, _, _, atIdle⟩ := free
      have transition := Transition.of_step continues
      have isOwner :=
        transition.stopped_frame stopped (by simp)
      subst action
      cases transition with
      | leave _ _ _ =>
          simp [atIdle]
      | terminate _ _ joinable =>
          simp [joined] at joinable
      | post _ _ here _ =>
          simp at here
      | resume _ here _ =>
          simp at here
      | join _ here _ =>
          simp at here

/-- A call that waits on a loop whose thread was joined waits forever. -/
theorem waitsForever
    [TaskWaker Waker]
    {side : Side}
    {state : Connection Waker}
    {call : ClosingCall}
    (stopped : state.loopRunning = false)
    (here : state.closer = .waiting call)
    (notSignalled : state.closeSignalled = false)
    (action : Action Waker) :
    state.step side action = none := by
  cases taken : state.step side action with
  | none =>
      rfl
  | some following =>
      have transition := Transition.of_step taken
      have isOwner :=
        transition.stopped_frame stopped (by simp [here])
      subst action
      simp [step, closerStep, here, notSignalled] at taken

/-- A call that relies on the loop finds its thread not yet joined. -/
def LoopThere (state : Connection Waker) : Prop :=
  state.closer.needsLoop = true → state.evbThread = true

/-- When repeated calls read `good()` as false, none of them needs the loop. -/
theorem loopThere_of_reachable
    [TaskWaker Waker]
    {side : Side}
    {state : Connection Waker}
    (reachable :
      ReachableWhile (step side)
        (fun state action => state.repeatReadsNotGood action = true)
        (fun start => start = initial) state) :
    state.LoopThere := by
  refine reachable.invariant_from ?_ ?_
  · simp [LoopThere, initial]
  · intro before after action _ relies permitted taken
    have transition := Transition.of_step taken
    cases transition with
    | closeGood call _ _ =>
        intro _
        simpa [repeatReadsNotGood] using permitted
    | closeBad call _ _ =>
        simp [LoopThere, CloserPc.needsLoop]
    | post call write here _ =>
        intro _
        exact relies (by simp [here, CloserPc.needsLoop])
    | resume call here _ =>
        simp [LoopThere, CloserPc.needsLoop]
    | terminate call here joinable =>
        exact fun _ => joinable
    | leave call here _ =>
        simp [LoopThere, CloserPc.needsLoop]
    | join call here _ =>
        simp [LoopThere, CloserPc.needsLoop]
    | _ =>
        exact relies

/--
When `good()` is false for every call made after the thread was joined, closing
is repeatable: no call waits on a loop whose thread was joined, the loop is
stopped and its thread joined at most once and exactly once when a call has
returned, and every later call leaves the connection as it was.
-/
theorem close_repeatable
    [TaskWaker Waker]
    {side : Side}
    {state : Connection Waker}
    (reachable :
      ReachableWhile (step side)
        (fun state action => state.repeatReadsNotGood action = true)
        (fun start => start = initial) state) :
    (∀ call,
      state.closer = .posting call ∨ state.closer = .waiting call →
        state.evbThread = true) ∧
      state.terminations ≤ 1 ∧
      state.joins ≤ 1 ∧
      (0 < state.closeReturns →
        state.terminations = 1 ∧ state.joins = 1) ∧
      (0 < state.closeReturns →
        ∀ call good called action following,
          state.repeatReadsNotGood
            (.closeCall call good : Action Waker) = true →
          state.step side (.closeCall call good) = some called →
          called.step side action = some following →
          following =
            { state with closeReturns := state.closeReturns + 1 }) := by
  have account := ThreadAccount.of_reachable reachable
  have relies := loopThere_of_reachable reachable
  have joinedOnce :
      state.evbThread = false →
        state.terminations = 1 ∧ state.joins = 1 := by
    intro joined
    obtain ⟨once, terminated, _⟩ := account.afterJoin joined
    exact ⟨terminated, once⟩
  have joinedOfReturn :
      0 < state.closeReturns → state.evbThread = false := by
    intro returned
    by_contra stillThere
    obtain ⟨_, noReturn, _⟩ :=
      account.beforeJoin (by simpa using stillThere)
    omega
  refine ⟨?_, ?_, ?_, fun returned => joinedOnce (joinedOfReturn returned),
    ?_⟩
  · intro call position
    apply relies
    rcases position with here | here <;>
      simp [here, CloserPc.needsLoop]
  · by_cases joinable : state.evbThread = true
    · obtain ⟨_, _, terminated⟩ := account.beforeJoin joinable
      rw [terminated]
      split <;> simp
    · exact Nat.le_of_eq (joinedOnce (by simpa using joinable)).1
  · by_cases joinable : state.evbThread = true
    · rw [(account.beforeJoin joinable).1]
      exact Nat.zero_le 1
    · exact Nat.le_of_eq (joinedOnce (by simpa using joinable)).2
  · intro returned call good called action following permitted calls
      continues
    have joined := joinedOfReturn returned
    have notGood : good = false := by
      simpa [repeatReadsNotGood, joined] using permitted
    subst good
    exact repeatedClose_unchanged joined (account.afterJoin joined).2.2
      calls continues

/-- A graceful shutdown, run to the end. -/
def shutdownSchedule : List (Action Nat) :=
  [.read .setReadWaker, .closeCall .pollShutdown true, .closerStep,
    .runTask, .closerStep, .closerStep, .loopExit, .closerStep]

/-- The connection after `shutdownSchedule`. -/
def shutDownState : Connection Nat :=
  { (initial : Connection Nat) with
    read := { ReadSide.initial with readWaker := true }
    transport := .closing
    evbThread := false
    loopRunning := false
    terminateRequested := true
    closeSignalled := true
    terminations := 1
    joins := 1
    closeReturns := 1 }

theorem close_repeatable_sample :
    run? (restrict (step .client) repeatReadsNotGood) initial
        shutdownSchedule = some shutDownState ∧
      shutDownState.terminations = 1 ∧ shutDownState.joins = 1 := by
  have performed :
      run? (restrict (step .client) repeatReadsNotGood) initial
        shutdownSchedule = some shutDownState := by
    decide
  obtain ⟨_, _, _, exactlyOnce, _⟩ :=
    close_repeatable (reachableWhile_of_run? (.start rfl) performed)
  exact ⟨performed, exactlyOnce (by decide)⟩

/-- The connection when `Drop` has entered `close` again with `good()` true. -/
def hungState : Connection Nat :=
  { shutDownState with
    write := { WriteSide.initial with tasks := [.closeTransport] }
    closeSignalled := false
    closer := .waiting .drop }

/--
A client connection that was shut down and is then dropped while the transport
still reports `good()` waits on the joined loop, and nothing can wake it.
-/
theorem dropAfterShutdown_hangs :
    ∃ state : Connection Nat,
      Reachable (step .client) (fun start => start = initial) state ∧
        state.closer = .waiting .drop ∧
        state.evbThread = false ∧
        ∀ action, state.step .client action = none := by
  have performed :
      run? (step .client) initial
        (shutdownSchedule ++ [.closeCall .drop true, .closerStep]) =
          some hungState := by
    decide
  exact ⟨hungState, reachable_of_run? (.start rfl) performed, rfl, rfl,
    waitsForever rfl rfl rfl⟩

end Connection

end FizzRs
