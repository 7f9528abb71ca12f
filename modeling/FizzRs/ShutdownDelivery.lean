import FizzRs.CloseRepeatable

namespace FizzRs

open LabelledSystem

/-!
# What a shutdown delivers

`poll_shutdown` says it flushes pending writes, but `poll_flush` does nothing
and `close` stops the loop right after the transport was told to close.  The
posted writes have reached the transport by then, since the event base runs
posted functions in order; what the socket has not taken is dropped with the
loop.

A shutdown delivers every accepted byte in the runs where the loop stops only
with a drained transport, no write fails, and the shutdown either waits for the
posted writes or finds none.
-/

namespace WriteSide

/-- A step of the owner writes nothing out and posts no close. -/
theorem ownerStep_frame
    {side : Side}
    {state following : WriteSide}
    {action : Action}
    (byOwner : action.byOwner = true)
    (taken : state.step side .established action = some following) :
    following.chains = state.chains ∧
      following.recorded = state.recorded ∧
      (.closeTransport ∈ following.tasks →
        .closeTransport ∈ state.tasks) := by
  have transition := Transition.of_step taken
  cases transition with
  | post call here =>
      refine ⟨rfl, rfl, ?_⟩
      intro posted
      simpa [complete] using posted
  | postClose =>
      cases byOwner
  | runWrite chain later shape =>
      cases byOwner
  | runClose later shape =>
      cases byOwner
  | writeSuccess index waiting =>
      cases byOwner
  | writeErr index text waiting =>
      cases byOwner
  | raiseError index atRecorded =>
      cases byOwner
  | _ =>
      exact ⟨rfl, rfl, id⟩

end WriteSide

/-- Posted functions that contain no write and no close are none at all. -/
theorem tasks_eq_nil
    {tasks : List LoopTask}
    (noClose : LoopTask.closeTransport ∉ tasks)
    (noWrite : queuedChains tasks = []) :
    tasks = [] := by
  rcases tasks with _ | ⟨first, later⟩
  · rfl
  · rcases first with chain | _
    · simp at noWrite
    · simp at noClose

namespace CloserPc

/-- The owner is past the wait of `poll_shutdown`. -/
def shutdownPastWait : CloserPc → Bool
  | .stopping .pollShutdown => true
  | .joining .pollShutdown => true
  | _ => false

/-- The owner waits for its posted close. -/
def isWaiting : CloserPc → Bool
  | .waiting _ => true
  | _ => false

end CloserPc

namespace Connection

/--
The steps of a run in which shutting down loses nothing: the loop stops with
nothing left in the transport, no write fails, and `poll_shutdown` finds
`good()` true or no posted write.
-/
def lossless
    (state : Connection Waker) :
    Action Waker → Bool
  | .loopExit => state.pending.isEmpty
  | .writeErr _ => false
  | .closeCall .pollShutdown good =>
      good || (queuedChains state.write.tasks).isEmpty
  | _ => true

/-- Everything `poll_write` accepted was written out to the socket. -/
def Delivered (state : Connection Waker) : Prop :=
  state.succeeded = acceptedBuffers state.write.results ∧
    state.sent = (acceptedBuffers state.write.results).flatten ∧
    state.pending = [] ∧
    state.write.recorded = []

/-- What the event base holds, by the position of the closing owner. -/
structure PostedAccount (state : Connection Waker) : Prop where
  noClose :
    state.closer.isWaiting = false →
      LoopTask.closeTransport ∉ state.write.tasks
  closeLast :
    state.closer.isWaiting = true →
      state.closeSignalled = false →
        ∃ front,
          LoopTask.closeTransport ∉ front ∧
            state.write.tasks = front ++ [.closeTransport]
  signalled :
    state.closer.isWaiting = true →
      state.closeSignalled = true → state.write.tasks = []
  pastWait :
    state.closer.shutdownPastWait = true → state.write.tasks = []

/-- Where every chain handed to the transport is. -/
structure TransportAccount (state : Connection Waker) : Prop where
  finished :
    state.succeeded ++ state.pending.map PendingWrite.chain =
      state.write.chains
  onWire :
    state.sent ++ (state.pending.map PendingWrite.remaining).flatten =
      state.write.chains.flatten
  noError :
    state.write.recorded = []
  drained :
    state.loopRunning = false → state.pending = []

namespace PostedAccount

/-- A fresh event base holds nothing. -/
theorem initially : PostedAccount (initial : Connection Waker) := by
  constructor <;>
    simp [initial, WriteSide.initial, CloserPc.isWaiting,
      CloserPc.shutdownPastWait]

/-- A step that leaves the posted functions and the owner alone. -/
theorem frame
    {state following : Connection Waker}
    (account : PostedAccount state)
    (sameTasks : following.write.tasks = state.write.tasks)
    (sameCloser : following.closer = state.closer)
    (sameSignal : following.closeSignalled = state.closeSignalled) :
    PostedAccount following := by
  constructor
  · rw [sameTasks, sameCloser]
    exact account.noClose
  · rw [sameTasks, sameCloser, sameSignal]
    exact account.closeLast
  · rw [sameTasks, sameCloser, sameSignal]
    exact account.signalled
  · rw [sameTasks, sameCloser]
    exact account.pastWait

/-- Running the oldest posted write keeps the account. -/
theorem dequeueWrite
    {state following : Connection Waker}
    (account : PostedAccount state)
    {chain : List UInt8}
    {later : List LoopTask}
    (shape : state.write.tasks = .writeChain chain :: later)
    (nextTasks : following.write.tasks = later)
    (sameCloser : following.closer = state.closer)
    (sameSignal : following.closeSignalled = state.closeSignalled) :
    PostedAccount following := by
  constructor
  · intro notWaiting posted
    rw [sameCloser] at notWaiting
    apply account.noClose notWaiting
    rw [shape, ← nextTasks]
    exact List.mem_cons_of_mem _ posted
  · intro waiting unsignalled
    rw [sameCloser] at waiting
    rw [sameSignal] at unsignalled
    obtain ⟨front, noClose, split⟩ :=
      account.closeLast waiting unsignalled
    rw [shape] at split
    rcases front with _ | ⟨first, rest⟩
    · cases split
    · simp only [List.cons_append, List.cons.injEq] at split
      refine ⟨rest, fun posted => noClose ?_, by rw [nextTasks, split.2]⟩
      exact List.mem_cons_of_mem _ posted
  · intro waiting isSignalled
    rw [sameCloser] at waiting
    rw [sameSignal] at isSignalled
    have empty := account.signalled waiting isSignalled
    rw [shape] at empty
    cases empty
  · intro pastWait
    rw [sameCloser] at pastWait
    have empty := account.pastWait pastWait
    rw [shape] at empty
    cases empty

/-- Running the posted close signals its owner and leaves nothing behind. -/
theorem dequeueClose
    {state following : Connection Waker}
    (account : PostedAccount state)
    {later : List LoopTask}
    (shape : state.write.tasks = .closeTransport :: later)
    (nextTasks : following.write.tasks = later)
    (isSignalled : following.closeSignalled = true) :
    PostedAccount following := by
  have waiting : state.closer.isWaiting = true := by
    by_contra notWaiting
    apply account.noClose (by simpa using notWaiting)
    simp [shape]
  have unsignalled : state.closeSignalled = false := by
    by_contra already
    have empty := account.signalled waiting (by simpa using already)
    rw [shape] at empty
    cases empty
  obtain ⟨front, noClose, split⟩ := account.closeLast waiting unsignalled
  have nothing : later = [] := by
    rw [shape] at split
    rcases front with _ | ⟨first, rest⟩
    · simpa using split
    · simp only [List.cons_append, List.cons.injEq] at split
      exact absurd (by simp [← split.1]) noClose
  constructor
  · simp [nextTasks, nothing]
  · simp [isSignalled]
  · simp [nextTasks, nothing]
  · simp [nextTasks, nothing]

/-- One atomic step of such a run keeps the account of posted functions. -/
theorem preserved
    [TaskWaker Waker]
    {side : Side}
    {state following : Connection Waker}
    {action : Action Waker}
    (account : PostedAccount state)
    (permitted : state.lossless action = true)
    (transition : Transition side state action following) :
    PostedAccount following := by
  cases transition with
  | read action read _ _ =>
      exact account.frame rfl rfl rfl
  | write action write byOwner _ _ atIdle stepped =>
      obtain ⟨_, _, noNewClose⟩ :=
        WriteSide.ownerStep_frame byOwner stepped
      constructor
      · intro _ posted
        exact account.noClose (by simp [atIdle, CloserPc.isWaiting])
          (noNewClose posted)
      · simp [atIdle, CloserPc.isWaiting]
      · simp [atIdle, CloserPc.isWaiting]
      · simp [atIdle, CloserPc.shutdownPastWait]
  | closeGood call free _ =>
      have noClose :=
        account.noClose (by simp [free.2.2.2, CloserPc.isWaiting])
      constructor
      · exact fun _ => noClose
      · simp [CloserPc.isWaiting]
      · simp [CloserPc.isWaiting]
      · simp [CloserPc.shutdownPastWait]
  | closeBad call free _ =>
      have noClose :=
        account.noClose (by simp [free.2.2.2, CloserPc.isWaiting])
      constructor
      · exact fun _ => noClose
      · simp [CloserPc.isWaiting]
      · simp [CloserPc.isWaiting]
      · intro pastWait
        cases call with
        | pollShutdown =>
            exact tasks_eq_nil noClose
              (by simpa [lossless] using permitted)
        | close =>
            simp [CloserPc.shutdownPastWait] at pastWait
        | drop =>
            simp [CloserPc.shutdownPastWait] at pastWait
  | post call write here stepped =>
      have noClose :=
        account.noClose (by simp [here, CloserPc.isWaiting])
      cases WriteSide.Transition.of_step stepped with
      | postClose =>
          constructor
          · simp [CloserPc.isWaiting]
          · exact fun _ _ => ⟨state.write.tasks, noClose, rfl⟩
          · simp
          · simp [CloserPc.shutdownPastWait]
  | resume call here isSignalled =>
      have empty :=
        account.signalled (by simp [here, CloserPc.isWaiting]) isSignalled
      constructor
      · simp [empty]
      · simp [CloserPc.isWaiting]
      · simp [CloserPc.isWaiting]
      · exact fun _ => empty
  | terminate call here _ =>
      constructor
      · intro _
        exact account.noClose (by simp [here, CloserPc.isWaiting])
      · simp [CloserPc.isWaiting]
      · simp [CloserPc.isWaiting]
      · intro pastWait
        apply account.pastWait
        cases call with
        | pollShutdown =>
            simp [here, CloserPc.shutdownPastWait]
        | close =>
            simp [CloserPc.shutdownPastWait] at pastWait
        | drop =>
            simp [CloserPc.shutdownPastWait] at pastWait
  | leave call here _ =>
      constructor
      · intro _
        exact account.noClose (by simp [here, CloserPc.isWaiting])
      · simp [CloserPc.isWaiting]
      · simp [CloserPc.isWaiting]
      · simp [CloserPc.shutdownPastWait]
  | join call here _ =>
      constructor
      · intro _
        exact account.noClose (by simp [here, CloserPc.isWaiting])
      · simp [CloserPc.isWaiting]
      · simp [CloserPc.isWaiting]
      · simp [CloserPc.shutdownPastWait]
  | runWrite chain later write _ shape stepped =>
      cases WriteSide.Transition.of_step stepped with
      | runClose rest otherShape =>
          simp [shape] at otherShape
      | runWrite chain rest sameShape =>
          exact account.dequeueWrite sameShape rfl rfl rfl
  | runClose later write _ shape stepped =>
      cases WriteSide.Transition.of_step stepped with
      | runWrite chain rest otherShape =>
          simp [shape] at otherShape
      | runClose rest sameShape =>
          exact account.dequeueClose sameShape rfl rfl
  | socketAccepts count head rest _ _ =>
      exact account.frame rfl rfl rfl
  | writeSuccess head rest write _ _ _ stepped =>
      cases WriteSide.Transition.of_step stepped with
      | writeSuccess index _ =>
          exact account.frame rfl rfl rfl
  | writeErr text head rest write _ _ stepped =>
      cases permitted
  | raiseWriteError index write _ stepped =>
      cases WriteSide.Transition.of_step stepped with
      | raiseError index _ =>
          exact account.frame rfl rfl rfl
  | transportCloses _ =>
      exact account.frame rfl rfl rfl
  | loopExit _ _ =>
      exact account.frame rfl rfl rfl

end PostedAccount

namespace TransportAccount

/-- Nothing was handed to a fresh transport. -/
theorem initially : TransportAccount (initial : Connection Waker) := by
  constructor <;> simp [initial, WriteSide.initial]

/-- One atomic step of such a run keeps the account of the transport. -/
theorem preserved
    [TaskWaker Waker]
    {side : Side}
    {state following : Connection Waker}
    {action : Action Waker}
    (account : TransportAccount state)
    (permitted : state.lossless action = true)
    (transition : Transition side state action following) :
    TransportAccount following := by
  cases transition with
  | write action write byOwner _ _ _ stepped =>
      obtain ⟨sameChains, sameRecorded, _⟩ :=
        WriteSide.ownerStep_frame byOwner stepped
      constructor
      · simpa [sameChains] using account.finished
      · simpa [sameChains] using account.onWire
      · simpa [sameRecorded] using account.noError
      · exact account.drained
  | post call write _ stepped =>
      cases WriteSide.Transition.of_step stepped with
      | postClose =>
          exact ⟨account.finished, account.onWire, account.noError,
            account.drained⟩
  | runWrite chain later write free shape stepped =>
      cases WriteSide.Transition.of_step stepped with
      | runClose rest otherShape =>
          simp [shape] at otherShape
      | runWrite sameChain rest sameShape =>
          rw [shape] at sameShape
          cases sameShape
          constructor
          · simp [← account.finished]
          · simp [← account.onWire]
          · exact account.noError
          · simp [free.1]
  | runClose later write _ shape stepped =>
      cases WriteSide.Transition.of_step stepped with
      | runWrite chain rest otherShape =>
          simp [shape] at otherShape
      | runClose rest sameShape =>
          exact ⟨account.finished, account.onWire, account.noError,
            account.drained⟩
  | socketAccepts count head rest shape running =>
      have finished := account.finished
      have onWire := account.onWire
      rw [shape] at finished onWire
      constructor
      · simpa using finished
      · simp only [List.map_cons, List.flatten_cons, List.append_assoc]
        rw [← List.append_assoc (head.remaining.take count),
          List.take_append_drop]
        simpa using onWire
      · exact account.noError
      · simp [running]
  | writeSuccess head rest write shape running isDone stepped =>
      have finished := account.finished
      have onWire := account.onWire
      rw [shape] at finished onWire
      cases WriteSide.Transition.of_step stepped with
      | writeSuccess index _ =>
          constructor
          · simpa using finished
          · simpa [isDone] using onWire
          · exact account.noError
          · simp [running]
  | writeErr text head rest write _ _ stepped =>
      cases permitted
  | raiseWriteError index write _ stepped =>
      cases WriteSide.Transition.of_step stepped with
      | raiseError index _ =>
          exact ⟨account.finished, account.onWire, account.noError,
            account.drained⟩
  | loopExit _ _ =>
      exact { account with
        drained := fun _ => by simpa [lossless] using permitted }
  | _ =>
      exact ⟨account.finished, account.onWire, account.noError,
        account.drained⟩

end TransportAccount

/-- A connection reached by a run that loses nothing. -/
abbrev LosslesslyReachable
    [TaskWaker Waker]
    (side : Side) :
    Connection Waker → Prop :=
  ReachableWhile (step side)
    (fun state action => state.lossless action = true)
    (fun start => start = initial)

/-- The account of posted functions holds along every such run. -/
theorem PostedAccount.of_reachable
    [TaskWaker Waker]
    {side : Side}
    {state : Connection Waker}
    (reachable : LosslesslyReachable side state) :
    PostedAccount state := by
  refine reachable.invariant_from ?_ ?_
  · exact initially
  · intro before after action _ account permitted taken
    exact account.preserved permitted (.of_step taken)

/-- The account of the transport holds along every such run. -/
theorem TransportAccount.of_reachable
    [TaskWaker Waker]
    {side : Side}
    {state : Connection Waker}
    (reachable : LosslesslyReachable side state) :
    TransportAccount state := by
  refine reachable.invariant_from ?_ ?_
  · exact initially
  · intro before after action _ account permitted taken
    exact account.preserved permitted (.of_step taken)

/-- With nothing posted or pending, everything accepted was written out. -/
theorem delivered_of_drained
    [TaskWaker Waker]
    {side : Side}
    {state : Connection Waker}
    (reachable : LosslesslyReachable side state)
    (noTasks : state.write.tasks = [])
    (noPending : state.pending = []) :
    state.Delivered := by
  have transported := TransportAccount.of_reachable reachable
  have ordered :=
    (WriteSide.WriteAccount.of_reachable (write_reachable reachable)).ordered
  have allChains :
      state.write.chains = acceptedBuffers state.write.results := by
    simpa [noTasks] using ordered
  have finished := transported.finished
  have onWire := transported.onWire
  rw [noPending, allChains] at finished onWire
  refine ⟨?_, ?_, noPending, transported.noError⟩
  · simpa using finished
  · simpa using onWire

/--
A step at which `poll_shutdown` returns `Ready(Ok(()))`: it has joined the loop
thread, or found it joined before.
-/
def shutdownReturns (state following : Connection Waker) : Prop :=
  state.closer.shutdownPastWait = true ∧ following.closer = .idle

/-- When a shutdown returns, its step is the last one and the loop is gone. -/
theorem Transition.of_shutdownReturns
    [TaskWaker Waker]
    {side : Side}
    {state following : Connection Waker}
    {action : Action Waker}
    (account : ThreadAccount state)
    (transition : Transition side state action following)
    (returns : shutdownReturns state following) :
    state.loopRunning = false ∧
      (state.Delivered → following.Delivered) := by
  obtain ⟨pastWait, atIdle⟩ := returns
  cases transition with
  | leave call _ joined =>
      exact ⟨(account.afterJoin joined).2.2, id⟩
  | join call _ stopped =>
      exact ⟨stopped, id⟩
  | write action write _ _ _ wasIdle _ =>
      rw [wasIdle] at pastWait
      cases pastWait
  | _ =>
      simp_all [CloserPc.shutdownPastWait]

/--
In every run whose loop stops only with a drained transport, whose writes do not
fail and whose `poll_shutdown` waits for the posted writes or finds none, a
`poll_shutdown` that returns leaves every accepted byte written out to the
socket.
-/
theorem shutdown_delivers
    [TaskWaker Waker]
    {side : Side}
    {state following : Connection Waker}
    {action : Action Waker}
    (reachable : LosslesslyReachable side state)
    (taken : state.step side action = some following)
    (returns : shutdownReturns state following) :
    following.Delivered := by
  have noTasks :=
    (PostedAccount.of_reachable reachable).pastWait returns.1
  obtain ⟨stopped, carried⟩ :=
    (Transition.of_step taken).of_shutdownReturns
      (ThreadAccount.of_reachable reachable) returns
  have noPending :=
    (TransportAccount.of_reachable reachable).drained stopped
  exact carried (delivered_of_drained reachable noTasks noPending)

/-- A write of two bytes, taken up by the transport during a shutdown. -/
def shutdownAfterWrite : List (Action Nat) :=
  [.read .setReadWaker, .write (.pollWrite [1, 2]), .write .writerStep,
    .write .writerStep, .closeCall .pollShutdown true, .closerStep,
    .runTask, .socketAccepts 1, .runTask, .closerStep, .closerStep]

/-- The rest of that run when the socket takes everything before the loop stops. -/
def drainThenStop : List (Action Nat) :=
  [.socketAccepts 1, .writeSuccess, .loopExit]

/-- The write side when both bytes were accepted and passed on. -/
def writtenOnce (callback : WriteCallbackPc) : WriteSide :=
  { WriteSide.initial with
    callerBuffer := [1, 2]
    chains := [[1, 2]]
    callbacks := [callback]
    results :=
      [{ buffer := [1, 2], errorAtCall := false, result := .ready 2 }] }

/-- The connection after draining, with the shutdown about to return. -/
def drainedState : Connection Nat :=
  { (initial : Connection Nat) with
    read := { ReadSide.initial with readWaker := true }
    write := writtenOnce .finished
    transport := .closing
    sent := [1, 2]
    succeeded := [[1, 2]]
    loopRunning := false
    terminateRequested := true
    closeSignalled := true
    closer := .joining .pollShutdown
    terminations := 1 }

theorem shutdown_delivers_sample :
    run? (restrict (step .client) lossless) initial
        (shutdownAfterWrite ++ drainThenStop) = some drainedState ∧
      ∃ following,
        drainedState.step .client .closerStep = some following ∧
          following.Delivered := by
  have performed :
      run? (restrict (step .client) lossless) initial
        (shutdownAfterWrite ++ drainThenStop) = some drainedState := by
    decide
  have returns :
      drainedState.step .client .closerStep =
        some { drainedState with
          evbThread := false
          joins := 1
          closer := .idle
          closeReturns := 1 } := by
    rfl
  exact ⟨performed, _, returns,
    shutdown_delivers (reachableWhile_of_run? (.start rfl) performed)
      returns ⟨rfl, rfl⟩⟩

/-- The connection after the shutdown returned with one byte left behind. -/
def truncatedState : Connection Nat :=
  { (initial : Connection Nat) with
    read := { ReadSide.initial with readWaker := true }
    write := writtenOnce .waiting
    transport := .closing
    pending := [{ index := 0, chain := [1, 2], remaining := [2] }]
    sent := [1]
    evbThread := false
    loopRunning := false
    terminateRequested := true
    closeSignalled := true
    terminations := 1
    joins := 1
    closeReturns := 1 }

/--
A `poll_write` of two bytes returns `Ok(2)`, the socket takes one of them, and
`poll_shutdown` returns `Ok` with the other still in the transport of a stopped
loop.
-/
theorem shutdown_truncates :
    ∃ state following : Connection Nat,
      Reachable (step .client) (fun start => start = initial) state ∧
        state.step .client .closerStep = some following ∧
        shutdownReturns state following ∧
        acceptedBuffers following.write.results = [[1, 2]] ∧
        following.succeeded = [] ∧
        following.sent = [1] ∧
        following.loopRunning = false ∧
        ¬ following.Delivered := by
  have performed :
      run? (step .client) initial (shutdownAfterWrite ++ [.loopExit]) =
        some { truncatedState with
          evbThread := true
          closer := .joining .pollShutdown
          joins := 0
          closeReturns := 0 } := by
    decide
  refine ⟨_, truncatedState, reachable_of_run? (.start rfl) performed,
    rfl, ⟨rfl, rfl⟩, rfl, rfl, rfl, rfl, ?_⟩
  intro delivered
  cases delivered.2.2.1

end Connection

end FizzRs
