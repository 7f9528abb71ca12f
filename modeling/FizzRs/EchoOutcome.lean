import FizzRs.EchoSession

namespace FizzRs

open LabelledSystem

/-!
# The outcome of an echo session

Finishing is decided once: `maybeFinish` schedules one closure, and nothing else
fulfils `done_`.  Two orders of callbacks spoil what the closure finds when it
runs.  An error that arrives after the session finished without one is still
recorded, and the closure reports it.  And a callback that the transport delivers
from inside `writeChain` or `setReadCB` may finish the session although the
interrupted function goes on to issue another write.

Without these two, the closure runs with no write outstanding and reports what
was true when the session finished.
-/

namespace EchoSession

/-- The callback reports an error. -/
def Action.reportsError : Action → Bool
  | .fizzHandshakeError _ => true
  | .fizzHandshakeAttemptFallback => true
  | .readErr _ => true
  | .writeErr _ => true
  | _ => false

/-- The interrupted function issues another write when the transport returns. -/
def willWrite
    (role : EchoRole)
    (batchSize : Nat)
    (session : EchoSession) :
    Bool :=
  match session.pc, role with
  | .installing, .client _ => 0 < session.readsRemaining
  | .echoing, .server =>
      batchSize ≤ session.readQueue.length ∧ 0 < session.readsRemaining
  | .echoing, .client _ =>
      batchSize ≤ session.readQueue.length ∧ 1 < session.readsRemaining
  | _, _ => false

/-- An error is reported to a session that finished without one. -/
def errorAfterSuccess
    (session : EchoSession)
    (action : Action) :
    Bool :=
  session.finished && session.errorMsg.isNone && action.reportsError

/-- The callback finds the session stopped with nothing left in flight. -/
def settles
    (session : EchoSession) :
    Action → Bool
  | .readEOF => session.writesInFlight = 0
  | .readErr _ => session.writesInFlight = 0
  | .writeErr _ => session.writesInFlight ≤ 1
  | .writeSuccess => session.stopped && session.writesInFlight ≤ 1
  | _ => false

/-- The callback finishes the session before the interrupted function wrote all. -/
def finishesMidway
    (role : EchoRole)
    (batchSize : Nat)
    (session : EchoSession)
    (action : Action) :
    Bool :=
  !session.finished && session.willWrite role batchSize &&
    session.settles action

/-- The two orders of callbacks that spoil an outcome do not occur here. -/
def orderly
    (role : EchoRole)
    (batchSize : Nat)
    (session : EchoSession)
    (action : Action) :
    Bool :=
  !session.errorAfterSuccess action &&
    !session.finishesMidway role batchSize action

/-- What a session that finishes in order keeps. -/
structure Decided
    (role : EchoRole)
    (batchSize : Nat)
    (session : EchoSession) :
    Prop where
  counted : session.writesInFlight = session.outstanding
  fresh : session.pc = .handshaking → session.finished = false
  reason :
    session.stopped = true →
      session.errorMsg = none → session.readsRemaining = 0
  halted : session.finished = true → session.stopped = true
  ended : session.errorMsg ≠ none → session.inputEnded = true
  quiet :
    session.finished = true →
      session.outstanding = 0 ∧ session.willWrite role batchSize = false
  scheduledOnce : session.scheduled = if session.finished then 1 else 0
  fulfilled : session.closures + session.done.length = session.scheduled
  decision :
    session.finished = true →
      ∃ reads,
        session.atFinish = some (reads, session.errorMsg) ∧
          (session.errorMsg = none → reads = 0)

namespace Decided

variable {role : EchoRole} {batchSize rounds : Nat}
variable {session following : EchoSession}

/-- A session that has been started. -/
theorem initially :
    Decided role batchSize (initial rounds) where
  counted := rfl
  fresh := fun _ => rfl
  reason := by simp [initial]
  halted := by simp [initial]
  ended := by simp [initial]
  quiet := by simp [initial]
  scheduledOnce := rfl
  fulfilled := rfl
  decision := by simp [initial]

/-- Finishing decides the outcome once. -/
theorem maybeFinish
    (decided : Decided role batchSize session)
    (started : session.pc ≠ .handshaking)
    (nothingLeft :
      session.finished = false →
      session.stopped = true →
      session.writesInFlight = 0 →
        session.willWrite role batchSize = false) :
    Decided role batchSize session.maybeFinish := by
  unfold EchoSession.maybeFinish
  split
  · exact decided
  · next unfinished =>
      split
      · exact decided
      · next isStopped =>
          split
          · exact decided
          · next noWrites =>
              have open_ : session.finished = false := by
                simpa using unfinished
              have stops : session.stopped = true := by
                simpa using isStopped
              have noneInFlight : session.writesInFlight = 0 := by
                omega
              have scheduledNone := decided.scheduledOnce
              rw [open_] at scheduledNone
              have balance := decided.fulfilled
              exact
                { counted := decided.counted
                  fresh := fun here => (started here).elim
                  reason := decided.reason
                  halted := fun _ => stops
                  ended := decided.ended
                  quiet := fun _ =>
                    ⟨decided.counted ▸ noneInFlight,
                      nothingLeft open_ stops noneInFlight⟩
                  scheduledOnce := by
                    simp only [if_true]
                    simp only [Bool.false_eq_true, if_false] at scheduledNone
                    omega
                  fulfilled := by
                    simp only
                    omega
                  decision := fun _ =>
                    ⟨session.readsRemaining, rfl, decided.reason stops⟩ }

/-- Recording an error decides the outcome unless the session had succeeded. -/
theorem setError
    (decided : Decided role batchSize session)
    (started : session.pc ≠ .handshaking)
    (notSucceeded : session.finished = true → session.errorMsg ≠ none)
    (nothingLeft :
      session.finished = false →
      session.writesInFlight = 0 →
        session.willWrite role batchSize = false)
    (message : String) :
    Decided role batchSize (session.setError message) := by
  unfold EchoSession.setError
  refine maybeFinish ?_ started (fun open_ _ => nothingLeft open_)
  exact
    { counted := decided.counted
      fresh := fun here => (started here).elim
      reason := by
        intro _ noError
        simp only at noError
        split at noError <;> cases noError
      halted := fun _ => rfl
      ended := fun _ => rfl
      quiet := decided.quiet
      scheduledOnce := decided.scheduledOnce
      fulfilled := decided.fulfilled
      decision := by
        intro isFinished
        obtain ⟨reads, noted, _⟩ := decided.decision isFinished
        obtain ⟨first, hasError⟩ :=
          Option.ne_none_iff_exists'.mp (notSucceeded isFinished)
        refine ⟨reads, ?_, ?_⟩
        · simp only [hasError] at noted ⊢
          exact noted
        · simp [hasError] }

/-- Stopping with nothing left to read. -/
theorem stop
    (decided : Decided role batchSize session)
    (readAll : session.readsRemaining = 0) :
    Decided role batchSize session.stop := by
  unfold EchoSession.stop
  refine maybeFinish ?_ (by simp) (fun _ _ _ => rfl)
  exact
    { counted := decided.counted
      fresh := by simp
      reason := fun _ _ => readAll
      halted := fun _ => rfl
      ended := decided.ended
      quiet := fun isFinished => ⟨(decided.quiet isFinished).1, rfl⟩
      scheduledOnce := decided.scheduledOnce
      fulfilled := decided.fulfilled
      decision := decided.decision }

/-- Returning from a callback. -/
theorem return_
    (decided : Decided role batchSize session) :
    Decided role batchSize { session with pc := .idle } where
  counted := decided.counted
  fresh := by simp
  reason := decided.reason
  halted := decided.halted
  ended := decided.ended
  quiet := fun isFinished => ⟨(decided.quiet isFinished).1, rfl⟩
  scheduledOnce := decided.scheduledOnce
  fulfilled := decided.fulfilled
  decision := decided.decision

/-- An unfinished session may read a batch, and write. -/
theorem splitBatch
    (decided : Decided role batchSize session)
    (somethingLeft : 0 < session.readsRemaining)
    (noMoreWrites :
      session.finished = true →
        (session.splitBatch batchSize).willWrite role batchSize = false) :
    Decided role batchSize (session.splitBatch batchSize) where
  counted := decided.counted
  fresh := decided.fresh
  reason := by
    intro isStopped noError
    have readAll := decided.reason isStopped noError
    omega
  halted := decided.halted
  ended := decided.ended
  quiet := fun isFinished =>
    ⟨(decided.quiet isFinished).1, noMoreWrites isFinished⟩
  scheduledOnce := decided.scheduledOnce
  fulfilled := decided.fulfilled
  decision := decided.decision

/-- An unfinished session may issue a write. -/
theorem issue
    (decided : Decided role batchSize session)
    (unfinished : session.finished = false)
    (bytes : List UInt8)
    {pc : SessionPc}
    (started : pc ≠ .handshaking) :
    Decided role batchSize { session.issue bytes with pc := pc } where
  counted := congrArg (fun count => count + 1) decided.counted
  fresh := fun here => (started here).elim
  reason := decided.reason
  halted := decided.halted
  ended := decided.ended
  quiet := by
    intro isFinished
    rw [show session.finished = true from isFinished] at unfinished
    cases unfinished
  scheduledOnce := decided.scheduledOnce
  fulfilled := decided.fulfilled
  decision := decided.decision

/-- The server's loop, unless it would write after the session finished. -/
theorem serverLoop
    (decided : Decided role batchSize session)
    (noMoreWrites :
      session.finished = true →
        ¬ (batchSize ≤ session.readQueue.length ∧
          0 < session.readsRemaining)) :
    Decided role batchSize (session.serverLoop batchSize) := by
  unfold EchoSession.serverLoop
  split
  · next hasBatch =>
      have unfinished : session.finished = false := by
        by_contra isFinished
        exact noMoreWrites (by simpa using isFinished) hasBatch
      refine issue (splitBatch decided hasBatch.2 ?_) unfinished _ (by simp)
      intro isFinished
      rw [unfinished] at isFinished
      cases isFinished
  · split
    · next readAll =>
        exact decided.stop readAll.1
    · exact decided.return_

/-- The client's loop, unless it would write after the session finished. -/
theorem clientLoop
    (decided : Decided role batchSize session)
    (noMoreWrites :
      session.finished = true →
        ¬ (batchSize ≤ session.readQueue.length ∧
          1 < session.readsRemaining)) :
    Decided role batchSize (session.clientLoop batchSize) := by
  unfold EchoSession.clientLoop
  split
  · next hasBatch =>
      have remaining :
          (session.splitBatch batchSize).readsRemaining =
            session.readsRemaining - 1 := by
        simp only [EchoSession.splitBatch, decrement]
        rw [if_neg (by omega)]
      split
      · next readAll =>
          refine stop (splitBatch decided hasBatch.2 ?_) readAll
          intro _
          unfold willWrite
          rw [readAll]
          split <;> simp
      · next someLeft =>
          have unfinished : session.finished = false := by
            by_contra isFinished
            apply noMoreWrites (by simpa using isFinished)
            exact ⟨hasBatch.1, by omega⟩
          refine
            issue (splitBatch decided hasBatch.2 ?_) unfinished _ (by simp)
          intro isFinished
          rw [unfinished] at isFinished
          cases isFinished
  · split
    · exact maybeFinish decided.return_ (by simp) (fun _ _ _ => rfl)
    · exact decided.return_

/-- The loop of a session that has not finished, or has nothing to write. -/
theorem loop
    (decided : Decided role batchSize session)
    (noMoreWrites :
      session.finished = true →
        { session with pc := .echoing }.willWrite role batchSize = false) :
    Decided role batchSize (session.loop role batchSize) := by
  cases role with
  | server =>
      apply decided.serverLoop
      intro isFinished hasBatch
      have none_ := noMoreWrites isFinished
      simp only [willWrite, decide_eq_false_iff_not] at none_
      exact none_ hasBatch
  | client context =>
      apply decided.clientLoop
      intro isFinished hasBatch
      have none_ := noMoreWrites isFinished
      simp only [willWrite, decide_eq_false_iff_not] at none_
      exact none_ hasBatch

/-- Arriving bytes start no write of a session that finished. -/
theorem data
    (decided : Decided role batchSize session)
    (here : session.pc = .idle)
    (notEnded : session.inputEnded = false)
    (bytes : List UInt8) :
    Decided role batchSize
      ({ session with
        readQueue := session.readQueue ++ bytes
        received := session.received ++ bytes }.loop role batchSize) := by
  have noError : session.errorMsg = none := by
    by_contra hasError
    rw [decided.ended hasError] at notEnded
    cases notEnded
  have buffered :
      Decided role batchSize { session with
        readQueue := session.readQueue ++ bytes
        received := session.received ++ bytes } :=
    { counted := decided.counted
      fresh := decided.fresh
      reason := decided.reason
      halted := decided.halted
      ended := decided.ended
      quiet := fun isFinished =>
        ⟨(decided.quiet isFinished).1, by simp [willWrite, here]⟩
      scheduledOnce := decided.scheduledOnce
      fulfilled := decided.fulfilled
      decision := decided.decision }
  apply buffered.loop
  intro isFinished
  have readAll : session.readsRemaining = 0 :=
    decided.reason (decided.halted isFinished) noError
  unfold willWrite
  cases role <;> simp [readAll]

/-- A write callback keeps the counters equal. -/
theorem settleWrite
    (decided : Decided role batchSize session)
    (issued : 0 < session.outstanding) :
    Decided role batchSize session.settleWrite where
  counted := by
    have counted := decided.counted
    simp only [EchoSession.settleWrite, decrement]
    rw [if_neg (by omega)]
    omega
  fresh := decided.fresh
  reason := decided.reason
  halted := decided.halted
  ended := decided.ended
  quiet := by
    intro isFinished
    have noWrites := (decided.quiet isFinished).1
    omega
  scheduledOnce := decided.scheduledOnce
  fulfilled := decided.fulfilled
  decision := decided.decision

/-- A read callback was installed in the handshake callback. -/
theorem installed
    (decided : Decided role batchSize session)
    (unfinished : session.finished = false) :
    Decided role batchSize
      { session with readCB := true, pc := .installing } where
  counted := decided.counted
  fresh := by simp
  reason := decided.reason
  halted := decided.halted
  ended := decided.ended
  quiet := by simp [unfinished]
  scheduledOnce := decided.scheduledOnce
  fulfilled := decided.fulfilled
  decision := decided.decision

/-- The handshake callback of a session that has not finished. -/
theorem handshakeSuccess
    (decided : Decided role batchSize session)
    (here : session.pc = .handshaking)
    (callback : SuccessCallback) :
    Decided role batchSize (session.handshakeSuccess role callback) := by
  have unfinished := decided.fresh here
  unfold EchoSession.handshakeSuccess
  split
  · exact decided.installed unfinished
  · split
    · refine setError decided.return_ (by simp) ?_ (fun _ _ => rfl) _
      intro isFinished
      rw [show session.finished = true from isFinished] at unfinished
      cases unfinished
    · exact decided.installed unfinished

/-- The rest of the handshake callback, unless it would write after finishing. -/
theorem afterReadCB
    (decided : Decided role batchSize session)
    (here : session.pc = .installing) :
    Decided role batchSize (session.afterReadCB role batchSize) := by
  unfold EchoSession.afterReadCB
  split
  · next readAll =>
      exact decided.stop readAll
  · next someLeft =>
      cases role with
      | server =>
          exact decided.return_
      | client context =>
          have unfinished : session.finished = false := by
            by_contra isFinished
            have none_ := (decided.quiet (by simpa using isFinished)).2
            simp only [willWrite, here, decide_eq_false_iff_not] at none_
            omega
          exact decided.issue unfinished _ (by simp)

/-- A session that errs in order had not succeeded before. -/
theorem notSucceeded_of_orderly
    {action : Action}
    (reports : action.reportsError = true)
    (inOrder : session.orderly role batchSize action = true)
    (isFinished : session.finished = true) :
    session.errorMsg ≠ none := by
  intro noError
  simp [orderly, errorAfterSuccess, isFinished, noError, reports] at inOrder

/-- A callback in order that settles an unfinished session leaves no write. -/
theorem nothingLeft_of_orderly
    {action : Action}
    (inOrder : session.orderly role batchSize action = true)
    (unfinished : session.finished = false)
    (isSettled : session.settles action = true) :
    session.willWrite role batchSize = false := by
  by_contra writes
  rw [Bool.not_eq_false] at writes
  simp [orderly, finishesMidway, unfinished, writes, isSettled] at inOrder

/-- Callbacks of the transport come after the handshake callback. -/
theorem started_of_accepts
    (accepts : session.pc.acceptsCallbacks = true) :
    session.pc ≠ .handshaking := by
  intro here
  rw [here] at accepts
  cases accepts

/-- Nothing is in flight after a write callback if it was the last one. -/
theorem writes_le_one_of_settleWrite
    (noWrites : session.settleWrite.writesInFlight = 0) :
    session.writesInFlight ≤ 1 := by
  simp only [EchoSession.settleWrite, decrement] at noWrites
  split at noWrites <;> omega

/-- An end of stream in order. -/
theorem endOfStream
    (decided : Decided role batchSize session)
    (accepts : session.pc.acceptsCallbacks = true)
    (inOrder : session.orderly role batchSize .readEOF = true) :
    Decided role batchSize (session.endOfStream role) := by
  have started := started_of_accepts accepts
  have nothingLeft :
      session.finished = false →
      session.writesInFlight = 0 →
        session.willWrite role batchSize = false := by
    intro unfinished noWrites
    exact nothingLeft_of_orderly inOrder unfinished
      (by simp [settles, noWrites])
  have withEnd :
      ∀ stopped,
        (session.stopped = true → stopped = true) →
        (stopped = true →
          session.errorMsg = none → session.readsRemaining = 0) →
        Decided role batchSize
          { session with stopped := stopped, inputEnded := true } := by
    intro stopped stays because
    exact
      { counted := decided.counted
        fresh := decided.fresh
        reason := because
        halted := fun isFinished => stays (decided.halted isFinished)
        ended := fun _ => rfl
        quiet := decided.quiet
        scheduledOnce := decided.scheduledOnce
        fulfilled := decided.fulfilled
        decision := decided.decision }
  unfold EchoSession.endOfStream
  split
  · next someLeft =>
      refine decided.setError started ?_ nothingLeft _
      intro isFinished noError
      have readAll := decided.reason (decided.halted isFinished) noError
      omega
  · next readAll =>
      have allRead : session.readsRemaining = 0 := by
        omega
      split
      · exact maybeFinish
          (withEnd true (fun _ => rfl) (fun _ _ => allRead)) started
          (fun open_ _ => nothingLeft open_)
      · exact withEnd session.stopped id decided.reason

/-- The closure fulfils the promise. -/
theorem closure
    (decided : Decided role batchSize session)
    (pending : 0 < session.closures) :
    Decided role batchSize session.closure where
  counted := decided.counted
  fresh := by simp [EchoSession.closure]
  reason := decided.reason
  halted := decided.halted
  ended := decided.ended
  quiet := fun isFinished => ⟨(decided.quiet isFinished).1, rfl⟩
  scheduledOnce := decided.scheduledOnce
  fulfilled := by
    have balance := decided.fulfilled
    simp only [EchoSession.closure, List.length_append, List.length_cons,
      List.length_nil]
    omega
  decision := decided.decision

/-- One step in order keeps the decision. -/
theorem preserved
    {action : Action}
    (decided : Decided role batchSize session)
    (inOrder : session.orderly role batchSize action = true)
    (transition : Transition role batchSize session action following) :
    Decided role batchSize following := by
  cases transition with
  | handshakeSuccess callback here =>
      exact decided.handshakeSuccess here callback
  | handshakeError exception here =>
      have notSucceeded : session.finished = true → session.errorMsg ≠ none :=
        notSucceeded_of_orderly rfl inOrder
      exact decided.return_.setError (by simp) notSucceeded
        (fun _ _ => rfl) _
  | handshakeFallback here =>
      have notSucceeded : session.finished = true → session.errorMsg ≠ none :=
        notSucceeded_of_orderly rfl inOrder
      exact decided.return_.setError (by simp) notSucceeded
        (fun _ _ => rfl) _
  | data bytes here _ notEnded _ =>
      exact decided.data here notEnded bytes
  | endOfStream accepts =>
      exact decided.endOfStream accepts inOrder
  | readErr what accepts =>
      refine
        decided.setError (started_of_accepts accepts)
          (notSucceeded_of_orderly rfl inOrder) ?_ _
      intro unfinished noWrites
      exact nothingLeft_of_orderly inOrder unfinished
        (by simp [settles, noWrites])
  | writeSuccess accepts issued =>
      refine maybeFinish (decided.settleWrite issued)
        (started_of_accepts accepts) ?_
      intro unfinished isStopped noWrites
      have lastOne := writes_le_one_of_settleWrite noWrites
      have stops : session.stopped = true := isStopped
      have nothingLeft : session.willWrite role batchSize = false :=
        nothingLeft_of_orderly inOrder unfinished
          (by simp [settles, stops, lastOne])
      exact nothingLeft
  | writeErr what accepts issued =>
      have notSucceeded : session.finished = true → session.errorMsg ≠ none :=
        notSucceeded_of_orderly rfl inOrder
      refine
        setError (decided.settleWrite issued)
          (started_of_accepts accepts) notSucceeded ?_ _
      intro unfinished noWrites
      have lastOne := writes_le_one_of_settleWrite noWrites
      have nothingLeft : session.willWrite role batchSize = false :=
        nothingLeft_of_orderly inOrder unfinished
          (by simp [settles, lastOne])
      exact nothingLeft
  | readCBReturns here =>
      exact decided.afterReadCB here
  | firstWriteReturns here =>
      exact decided.return_
  | writeReturns here =>
      apply decided.loop
      intro isFinished
      have none_ := (decided.quiet isFinished).2
      simpa only [willWrite, here] using none_
  | closure here pending =>
      exact decided.closure pending

/-- Every run in order keeps the decision. -/
theorem of_reachable
    (reachable :
      ReachableWhile (step role batchSize)
        (fun state action => state.orderly role batchSize action = true)
        (fun start => start = initial rounds) session) :
    Decided role batchSize session := by
  refine reachable.invariant_from ?_ ?_
  · exact initially
  · intro before after action _ decided inOrder taken
    exact decided.preserved inOrder (.of_step taken)

end Decided

section Fulfilment

variable {role : EchoRole} {batchSize rounds : Nat}
variable {session following : EchoSession}

@[simp] theorem maybeFinish_done :
    session.maybeFinish.done = session.done := by
  unfold maybeFinish
  split
  · rfl
  · split
    · rfl
    · split <;> rfl

@[simp] theorem setError_done
    {message : String} :
    (session.setError message).done = session.done := by
  simp [setError]

@[simp] theorem stop_done :
    session.stop.done = session.done := by
  simp [stop]

@[simp] theorem loop_done :
    (session.loop role batchSize).done = session.done := by
  cases role with
  | server =>
      simp only [loop, serverLoop]
      split
      · rfl
      · split <;> simp
  | client context =>
      simp only [loop, clientLoop]
      split
      · split
        · simp [splitBatch]
        · rfl
      · split <;> simp

/-- Nothing but the closure fulfils the promise. -/
theorem done_of_transition
    {action : Action}
    (transition : Transition role batchSize session action following)
    (notClosure : action ≠ .runClosure) :
    following.done = session.done := by
  cases transition with
  | handshakeSuccess callback _ =>
      unfold handshakeSuccess
      split
      · rfl
      · split <;> simp
  | handshakeError exception _ => simp
  | handshakeFallback _ => simp
  | data bytes _ _ _ _ => simp
  | endOfStream _ =>
      unfold endOfStream
      split
      · simp
      · split <;> simp
  | readErr what _ => simp
  | writeSuccess _ _ => simp [settleWrite]
  | writeErr what _ _ => simp [settleWrite]
  | readCBReturns _ =>
      unfold afterReadCB
      split
      · simp
      · cases role <;> rfl
  | firstWriteReturns _ => rfl
  | writeReturns _ => simp
  | closure _ _ => exact (notClosure rfl).elim

/-- The closure runs when it is pending and the callbacks have returned. -/
theorem of_runClosure
    (runs : session.step role batchSize .runClosure = some following) :
    0 < session.closures ∧ following = session.closure := by
  simp only [step, Option.ite_none_right_eq_some,
    Option.some.injEq] at runs
  exact ⟨runs.1.2, runs.2.symm⟩

end Fulfilment

/--
In every run in order, of either session, the closure is scheduled at most once
and runs with no write outstanding.  It alone fulfils `done_`, once, and with a
value exactly if every batch had been read and no error recorded when the session
finished.
-/
theorem outcome_decided_once
    {role : EchoRole}
    {batchSize rounds : Nat}
    {session : EchoSession}
    (reachable :
      ReachableWhile (step role batchSize)
        (fun state action => state.orderly role batchSize action = true)
        (fun start => start = initial rounds) session) :
    session.scheduled ≤ 1 ∧
    session.done.length ≤ 1 ∧
    (∀ action following,
      session.step role batchSize action = some following →
      following.done ≠ session.done →
        action = .runClosure) ∧
    (∀ following,
      session.step role batchSize .runClosure = some following →
        session.outstanding = 0 ∧
        session.done = [] ∧
        (following.done = [.value] ↔
          session.atFinish = some (0, none)) ∧
        (following.done = [.value] ∨
          ∃ what, following.done = [.exception what])) := by
  have decided := Decided.of_reachable reachable
  have atMostOnce : session.scheduled ≤ 1 := by
    rw [decided.scheduledOnce]
    split <;> omega
  have balance := decided.fulfilled
  refine ⟨atMostOnce, by omega, ?_, ?_⟩
  · intro action following taken fulfils
    by_contra notClosure
    exact fulfils (done_of_transition (.of_step taken) notClosure)
  · intro following runs
    obtain ⟨pending, rfl⟩ := of_runClosure runs
    have notYet : session.done = [] := by
      apply List.eq_nil_of_length_eq_zero
      omega
    have isFinished : session.finished = true := by
      by_contra unfinished
      have never := decided.scheduledOnce
      rw [if_neg unfinished] at never
      omega
    obtain ⟨reads, noted, noneLeft⟩ := decided.decision isFinished
    refine ⟨(decided.quiet isFinished).1, notYet, ?_, ?_⟩
    · cases hasError : session.errorMsg with
      | none =>
          rw [hasError, noneLeft hasError] at noted
          simp [closure, notYet, hasError, noted]
      | some what =>
          rw [hasError] at noted
          simp [closure, notYet, hasError, noted]
    · cases hasError : session.errorMsg with
      | none =>
          left
          simp [closure, notYet, hasError]
      | some what =>
          right
          exact ⟨what, by simp [closure, notYet, hasError]⟩

/-- A handshake callback; the server does not look at it. -/
def sampleHandshake : SuccessCallback where
  certificate := .absent
  faults := .none

/-- One round of two bytes, then the closure is pending. -/
def sampleServerSchedule : List Action :=
  [.fizzHandshakeSuccess sampleHandshake, .resume,
    .readDataAvailable [7], .readDataAvailable [8, 9],
    .writeSuccess, .resume, .readEOF]

/-- The server after `sampleServerSchedule`. -/
def sampleServer : EchoSession :=
  { initial 0 with
    pc := .idle
    readCB := true
    stopped := true
    finished := true
    readQueue := [9]
    closures := 1
    scheduled := 1
    inputEnded := true
    received := [7, 8, 9]
    batches := 1
    writes := [[7, 8]]
    atFinish := some (0, none) }

theorem outcome_decided_once_sample :
    run? (restrict (step .server 2) (orderly .server 2)) (initial 1)
        sampleServerSchedule = some sampleServer ∧
      (sampleServer.closure.done = [.value] ↔
        sampleServer.atFinish = some (0, none)) := by
  have performed :
      run? (restrict (step .server 2) (orderly .server 2)) (initial 1)
        sampleServerSchedule = some sampleServer := by
    decide
  exact ⟨performed,
    ((outcome_decided_once
      (reachableWhile_of_run? (.start rfl) performed)).2.2.2
        sampleServer.closure rfl).2.2.1⟩

/--
An error behind a finished session turns its value into an exception; and a
write error delivered inside `writeChain` lets the closure run while the second
write is outstanding.
-/
theorem outcome_spoiled :
    (∃ session,
      run? (step .server 2) (initial 1)
          [.fizzHandshakeSuccess sampleHandshake, .resume,
            .readDataAvailable [7, 8], .writeSuccess, .resume,
            .readErr "reset", .runClosure] = some session ∧
        session.atFinish = some (0, none) ∧
        session.done = [.exception ("server" ++ " read: " ++ "reset")]) ∧
    (∃ session following,
      run? (step .server 2) (initial 2)
          [.fizzHandshakeSuccess sampleHandshake, .resume,
            .readDataAvailable [1, 2, 3, 4], .writeErr "broken",
            .resume, .resume] = some session ∧
        session.outstanding = 1 ∧
        session.step .server 2 .runClosure = some following) := by
  refine ⟨⟨_, rfl, rfl, rfl⟩, ⟨_, _, rfl, rfl, rfl⟩⟩

end EchoSession

end FizzRs
