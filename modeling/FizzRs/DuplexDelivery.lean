import FizzRs.DuplexStreams
import FizzRs.ShutdownDelivery

namespace FizzRs

open LabelledSystem FifoPipe

/-!
# What an end of stream says about the other end

A reader that is told the stream has ended wants to know that nothing is missing.
The peer's `close` is posted after its writes and the owner waits for it, so a
transport that is closing gets no further chain, and one that has written out what
it holds sends nothing more.  When the end came from the peer, everything that the
peer's socket took has been returned; when the peer shut down without losing a
write, that is everything its `poll_write` accepted.
-/

namespace CloserPc

/-- The owner has posted its close, or found that it need not. -/
def isLeaving : CloserPc → Bool
  | .waiting _ => true
  | .stopping _ => true
  | .joining _ => true
  | _ => false

end CloserPc

namespace Connection

/-- What is posted while an owner closes the connection. -/
structure ClosingAccount (state : Connection Waker) : Prop where
  awaited :
    LoopTask.closeTransport ∈ state.write.tasks →
      state.closer.isWaiting = true ∧ state.closeSignalled = false
  last :
    ∀ front later,
      state.write.tasks = front ++ .closeTransport :: later → later = []
  leaving :
    state.transport = .closing →
      state.loopRunning = true →
        state.write.tasks = [] ∧ state.closer.isLeaving = true

namespace ClosingAccount

/-- Nobody closes a fresh connection. -/
theorem initially : ClosingAccount (initial : Connection Waker) := by
  constructor <;> simp [initial, WriteSide.initial]

/-- An owner that does not wait has no close posted. -/
theorem notPosted
    {state : Connection Waker}
    (account : ClosingAccount state)
    (notWaiting : state.closer.isWaiting = false) :
    LoopTask.closeTransport ∉ state.write.tasks := by
  intro posted
  have waiting := (account.awaited posted).1
  rw [notWaiting] at waiting
  cases waiting

/-- An idle owner of a running loop has a transport that is not closing. -/
theorem not_closing
    {state : Connection Waker}
    (account : ClosingAccount state)
    (running : state.loopRunning = true)
    (notLeaving : state.closer.isLeaving = false) :
    state.transport ≠ .closing := by
  intro isClosing
  have leaving := (account.leaving isClosing running).2
  rw [notLeaving] at leaving
  cases leaving

/-- A step that leaves the posted functions, the owner and the transport alone. -/
theorem frame
    {state following : Connection Waker}
    (account : ClosingAccount state)
    (sameTasks : following.write.tasks = state.write.tasks)
    (sameCloser : following.closer = state.closer)
    (sameSignal : following.closeSignalled = state.closeSignalled)
    (stillClosing :
      following.transport = .closing → state.transport = .closing)
    (stillRunning :
      following.loopRunning = true → state.loopRunning = true) :
    ClosingAccount following := by
  constructor
  · rw [sameTasks, sameCloser, sameSignal]
    exact account.awaited
  · rw [sameTasks]
    exact account.last
  · intro isClosing running
    rw [sameTasks, sameCloser]
    exact account.leaving (stillClosing isClosing) (stillRunning running)

/-- The owner moves on without a close being posted. -/
theorem ownerMoves
    {state following : Connection Waker}
    (account : ClosingAccount state)
    (notPosted : LoopTask.closeTransport ∉ state.write.tasks)
    (sameTasks : following.write.tasks = state.write.tasks)
    (leaving :
      following.transport = .closing →
        following.loopRunning = true →
          state.write.tasks = [] ∧ following.closer.isLeaving = true) :
    ClosingAccount following := by
  constructor
  · rw [sameTasks]
    exact fun posted => (notPosted posted).elim
  · rw [sameTasks]
    exact account.last
  · rw [sameTasks]
    exact leaving

/-- Another write or nothing is posted by an owner that is not closing. -/
theorem ownerWrites
    {state following : Connection Waker}
    (account : ClosingAccount state)
    (atIdle : state.closer = .idle)
    (noNewClose :
      .closeTransport ∈ following.write.tasks →
        .closeTransport ∈ state.write.tasks)
    (sameTransport : following.transport = state.transport)
    (sameRunning : following.loopRunning = state.loopRunning) :
    ClosingAccount following := by
  have notPosted : LoopTask.closeTransport ∉ following.write.tasks :=
    fun posted =>
      account.notPosted (by simp [atIdle, CloserPc.isWaiting])
        (noNewClose posted)
  constructor
  · exact fun posted => (notPosted posted).elim
  · intro front later shape
    exact (notPosted (by simp [shape])).elim
  · intro isClosing running
    rw [sameTransport] at isClosing
    rw [sameRunning] at running
    exact (account.not_closing running
      (by simp [atIdle, CloserPc.isLeaving]) isClosing).elim

/-- The owner posts its close behind everything else. -/
theorem ownerPosts
    {state following : Connection Waker}
    (account : ClosingAccount state)
    {call : ClosingCall}
    (here : state.closer = .posting call)
    (tasks :
      following.write.tasks = state.write.tasks ++ [.closeTransport])
    (waits : following.closer = .waiting call)
    (unsignalled : following.closeSignalled = false)
    (sameTransport : following.transport = state.transport)
    (sameRunning : following.loopRunning = state.loopRunning) :
    ClosingAccount following := by
  have notPosted :=
    account.notPosted (by simp [here, CloserPc.isWaiting])
  constructor
  · intro _
    rw [waits, unsignalled]
    exact ⟨rfl, rfl⟩
  · intro front later shape
    rw [tasks] at shape
    rcases List.eq_nil_or_concat later with isNil | ⟨rest, final, isConcat⟩
    · exact isNil
    · refine (notPosted ?_).elim
      rw [isConcat, List.concat_eq_append, ← List.cons_append,
        ← List.append_assoc] at shape
      rw [(List.append_inj' shape rfl).1]
      simp
  · intro isClosing running
    rw [sameTransport] at isClosing
    rw [sameRunning] at running
    exact (account.not_closing running
      (by simp [here, CloserPc.isLeaving]) isClosing).elim

/-- The loop runs a posted write. -/
theorem runsWrite
    {state following : Connection Waker}
    (account : ClosingAccount state)
    {chain : List UInt8}
    {later : List LoopTask}
    (running : state.loopRunning = true)
    (shape : state.write.tasks = .writeChain chain :: later)
    (tasks : following.write.tasks = later)
    (sameCloser : following.closer = state.closer)
    (sameSignal : following.closeSignalled = state.closeSignalled)
    (sameTransport : following.transport = state.transport) :
    ClosingAccount following := by
  constructor
  · rw [tasks, sameCloser, sameSignal]
    intro posted
    exact account.awaited (by simp [shape, posted])
  · intro front rest split
    rw [tasks] at split
    refine account.last (.writeChain chain :: front) rest ?_
    rw [shape, split]
    rfl
  · intro isClosing _
    rw [sameTransport] at isClosing
    have empty := (account.leaving isClosing running).1
    rw [shape] at empty
    cases empty

/-- The loop runs the posted close, and nothing is behind it. -/
theorem runsClose
    {state following : Connection Waker}
    (account : ClosingAccount state)
    {later : List LoopTask}
    (shape : state.write.tasks = .closeTransport :: later)
    (tasks : following.write.tasks = later)
    (sameCloser : following.closer = state.closer) :
    ClosingAccount following := by
  have nothing : later = [] := account.last [] later shape
  have waiting := (account.awaited (by simp [shape])).1
  constructor
  · simp [tasks, nothing]
  · simp [tasks, nothing]
  · intro _ _
    refine ⟨by rw [tasks, nothing], ?_⟩
    rw [sameCloser]
    cases position : state.closer with
    | waiting call =>
        rfl
    | _ =>
        rw [position] at waiting
        cases waiting

/-- One atomic step keeps the account of the closing owner. -/
theorem preserved
    [TaskWaker Waker]
    {side : Side}
    {state following : Connection Waker}
    {action : Action Waker}
    (account : ClosingAccount state)
    (threads : ThreadAccount state)
    (transition : Transition side state action following) :
    ClosingAccount following := by
  cases transition with
  | read action read _ _ =>
      refine account.frame rfl rfl rfl (fun isClosing => ?_) id
      cases action with
      | callbackStep =>
          simp only [transportAfterRead] at isClosing
          split at isClosing
          · cases isClosing
          · exact isClosing
      | _ =>
          exact isClosing
  | write action write byOwner _ _ atIdle stepped =>
      exact account.ownerWrites atIdle
        (WriteSide.ownerStep_frame byOwner stepped).2.2 rfl rfl
  | closeGood call free _ =>
      have atIdle := free.2.2.2
      refine account.ownerMoves
        (account.notPosted (by simp [atIdle, CloserPc.isWaiting])) rfl ?_
      intro isClosing running
      exact (account.not_closing running
        (by simp [atIdle, CloserPc.isLeaving]) isClosing).elim
  | closeBad call free _ =>
      have atIdle := free.2.2.2
      refine account.ownerMoves
        (account.notPosted (by simp [atIdle, CloserPc.isWaiting])) rfl ?_
      intro isClosing running
      exact (account.not_closing running
        (by simp [atIdle, CloserPc.isLeaving]) isClosing).elim
  | post call write here stepped =>
      cases WriteSide.Transition.of_step stepped with
      | postClose =>
          exact account.ownerPosts here rfl rfl rfl rfl rfl
  | resume call here isSignalled =>
      refine account.ownerMoves ?_ rfl ?_
      · intro posted
        have unsignalled := (account.awaited posted).2
        rw [isSignalled] at unsignalled
        cases unsignalled
      · exact fun isClosing running =>
          ⟨(account.leaving isClosing running).1, rfl⟩
  | terminate call here _ =>
      refine account.ownerMoves
        (account.notPosted (by simp [here, CloserPc.isWaiting])) rfl ?_
      exact fun isClosing running =>
        ⟨(account.leaving isClosing running).1, rfl⟩
  | leave call here joined =>
      refine account.ownerMoves
        (account.notPosted (by simp [here, CloserPc.isWaiting])) rfl ?_
      intro _ running
      have stopped := (threads.afterJoin joined).2.2
      rw [running] at stopped
      cases stopped
  | join call here stopped =>
      refine account.ownerMoves
        (account.notPosted (by simp [here, CloserPc.isWaiting])) rfl ?_
      intro _ running
      rw [stopped] at running
      cases running
  | runWrite chain later write free shape stepped =>
      cases WriteSide.Transition.of_step stepped with
      | runClose rest otherShape =>
          simp [shape] at otherShape
      | runWrite chain rest sameShape =>
          exact account.runsWrite free.1 sameShape rfl rfl rfl rfl
  | runClose later write _ shape stepped =>
      cases WriteSide.Transition.of_step stepped with
      | runWrite chain rest otherShape =>
          simp [shape] at otherShape
      | runClose rest sameShape =>
          exact account.runsClose sameShape rfl rfl
  | writeSuccess head rest write _ _ _ stepped =>
      cases WriteSide.Transition.of_step stepped with
      | writeSuccess index _ =>
          exact account.frame rfl rfl rfl id id
  | writeErr text head rest write _ _ stepped =>
      cases WriteSide.Transition.of_step stepped with
      | writeErr index text _ =>
          exact account.frame rfl rfl rfl id id
  | raiseWriteError index write _ stepped =>
      cases WriteSide.Transition.of_step stepped with
      | raiseError index _ =>
          exact account.frame rfl rfl rfl (by simp) id
  | transportCloses _ =>
      exact account.frame rfl rfl rfl (by simp) id
  | loopExit _ _ =>
      exact account.frame rfl rfl rfl id (by simp)
  | socketAccepts count head rest _ _ =>
      exact account.frame rfl rfl rfl id id

/-- Every reachable connection keeps the account of its closing owner. -/
theorem of_reachable
    [TaskWaker Waker]
    {side : Side}
    {allowed : Connection Waker → Action Waker → Prop}
    {state : Connection Waker}
    (reachable :
      ReachableWhile (step side) allowed
        (fun start => start = initial) state) :
    ClosingAccount state := by
  refine reachable.invariant_from ?_ ?_
  · exact initially
  · intro before after action earlier account _ taken
    exact account.preserved (.of_reachable earlier) (.of_step taken)

end ClosingAccount

/-- A transport that is done, and one with work left, in the loop's terms. -/
theorem finishedSending_cases
    {state : Connection Waker}
    (finished : state.finishedSending = true) :
    state.transport = .closed ∨ state.loopRunning = false ∨
      (state.transport = .closing ∧ state.pending = []) := by
  unfold finishedSending at finished
  split at finished
  · next isClosed =>
      exact .inl isClosed
  · next isClosing =>
      simp only [Bool.or_eq_true, List.isEmpty_iff,
        Bool.not_eq_true'] at finished
      rcases finished with drained | stopped
      · exact .inr (.inr ⟨isClosing, drained⟩)
      · exact .inr (.inl stopped)
  · exact .inr (.inl (by simpa using finished))

theorem finishedSending_of_closed
    {state : Connection Waker}
    (isClosed : state.transport = .closed) :
    state.finishedSending = true := by
  simp [finishedSending, isClosed]

theorem finishedSending_of_stopped
    {state : Connection Waker}
    (stopped : state.loopRunning = false) :
    state.finishedSending = true := by
  unfold finishedSending
  split <;> simp [stopped]

/-- With the loop running, only a closed transport is done while it holds chains. -/
theorem closed_of_finishedSending
    {state : Connection Waker}
    (finished : state.finishedSending = true)
    (running : state.loopRunning = true)
    (busy : state.pending ≠ [] ∨ state.transport ≠ .closing) :
    state.transport = .closed := by
  rcases finishedSending_cases finished with
    isClosed | stopped | ⟨isClosing, drained⟩
  · exact isClosed
  · rw [running] at stopped
    cases stopped
  · rcases busy with holds | notClosing
    · exact absurd drained holds
    · exact absurd isClosing notClosing

/-- An end that is done sending stays so and sends nothing more. -/
theorem finishedSending_kept
    [TaskWaker Waker]
    {side : Side}
    {state following : Connection Waker}
    {action : Action Waker}
    (account : ClosingAccount state)
    (finished : state.finishedSending = true)
    (taken : state.step side action = some following) :
    following.finishedSending = true ∧ following.sent = state.sent := by
  have guards := transport_of_step taken
  cases Transition.of_step taken with
  | read action read _ _ =>
      refine ⟨?_, rfl⟩
      cases action with
      | callbackStep =>
          by_cases closes : state.read.callback.atCloseNow = true
          · exact finishedSending_of_closed
              (by simp [transportAfterRead, closes])
          · simpa [finishedSending, transportAfterRead, closes] using
              finished
      | _ =>
          exact finished
  | runWrite chain later write free shape _ =>
      have isClosed : state.transport = .closed := by
        refine closed_of_finishedSending finished free.1 (.inr ?_)
        intro isClosing
        have empty := (account.leaving isClosing free.1).1
        rw [shape] at empty
        cases empty
      exact ⟨finishedSending_of_closed isClosed, rfl⟩
  | runClose later write free shape _ =>
      refine ⟨?_, rfl⟩
      rcases finishedSending_cases finished with
        isClosed | stopped | ⟨isClosing, drained⟩
      · exact finishedSending_of_closed (by simp [isClosed])
      · exact finishedSending_of_stopped stopped
      · simp [finishedSending, isClosing, drained]
  | socketAccepts count head rest shape running =>
      refine absurd ?_ (guards.1 count rfl)
      exact closed_of_finishedSending finished running
        (.inl (by simp [shape]))
  | writeSuccess head rest write shape running _ _ =>
      have isClosed : state.transport = .closed :=
        closed_of_finishedSending finished running
          (.inl (by simp [shape]))
      exact ⟨finishedSending_of_closed isClosed, rfl⟩
  | writeErr text head rest write shape running _ =>
      have isClosed : state.transport = .closed :=
        closed_of_finishedSending finished running
          (.inl (by simp [shape]))
      exact ⟨finishedSending_of_closed isClosed, rfl⟩
  | raiseWriteError index write _ _ =>
      exact ⟨finishedSending_of_closed rfl, rfl⟩
  | transportCloses _ =>
      exact ⟨finishedSending_of_closed rfl, rfl⟩
  | loopExit _ _ =>
      exact ⟨finishedSending_of_stopped rfl, rfl⟩
  | _ =>
      exact ⟨finished, rfl⟩

end Connection

namespace Duplex

/-- An end that is done sending is so in every later session. -/
theorem finishedSending_later
    [TaskWaker Waker]
    {allowed : Duplex Waker → Side × Connection.Action Waker → Prop}
    {state later : Duplex Waker}
    {side : Side}
    (reachable : ReachableSession state)
    (finished : (state.endpoint side).finishedSending = true)
    (follows :
      ReachableWhile step allowed (fun start => start = state) later) :
    (later.endpoint side).finishedSending = true ∧
      (later.endpoint side).sent = (state.endpoint side).sent := by
  induction follows with
  | start isState =>
      rw [isState]
      exact ⟨finished, rfl⟩
  | @next middle final action earlier _ taken inductionHypothesis =>
      obtain ⟨mover, action⟩ := action
      have account :=
        Connection.ClosingAccount.of_reachable
          (endpoint_reachable
            (reachable.trans (earlier.weaken fun _ => trivial)) side)
      rcases endpoints_of_step taken side with
        ⟨_, _, moved, _⟩ | ⟨_, _, same⟩
      · obtain ⟨still, sameSent⟩ :=
          Connection.finishedSending_kept account inductionHypothesis.1
            moved
        exact ⟨still, sameSent.trans inductionHypothesis.2⟩
      · rw [same]
        exact inductionHypothesis

/--
The steps of a run in which `side` learns of the end of its stream from the other
end: the session does not break, and its own transport is not closing.
-/
def endsRemotely
    (side : Side)
    (state : Duplex Waker) :
    Side × Connection.Action Waker → Bool
  | (mover, .read (.readErr _)) => decide (mover ≠ side)
  | (mover, .read .readEOF) =>
      decide (mover ≠ side ∨ (state.endpoint side).transport = .live)
  | _ => true

/-- A session reached by a run in which `side` learns of the end so. -/
abbrev ReachableEnding
    [TaskWaker Waker]
    (side : Side) :
    Duplex Waker → Prop :=
  ReachableWhile step
    (fun state action => state.endsRemotely side action = true)
    (fun start => start = initial)

/-- An ended stream has delivered all there ever will be. -/
def EndAccount
    (side : Side)
    (state : Duplex Waker) :
    Prop :=
  (state.endpoint side).read.streamEnded = true →
    (state.endpoint side).read.committed =
        (state.endpoint side.peer).sent ∧
      (state.endpoint side.peer).finishedSending = true

/-- The account of an ended stream holds along every such run. -/
theorem endAccount_of_reachable
    [TaskWaker Waker]
    {side : Side}
    {state : Duplex Waker}
    (reachable : ReachableEnding side state) :
    state.EndAccount side := by
  refine reachable.invariant_from ?_ ?_
  · simp [EndAccount, Connection.initial, ReadSide.initial]
  · intro before after action earlier account remote taken
    obtain ⟨mover, action⟩ := action
    intro ended
    rcases endpoints_of_step taken side with
      ⟨isReader, permitted, moved, same⟩ | ⟨_, moved, same⟩
    · rw [same]
      rcases Connection.read_of_step moved with
        sameRead | ⟨readAction, isRead, change⟩
      · rw [sameRead] at ended ⊢
        exact account ended
      · subst isReader action
        rcases change.stream_cases with
          ⟨bytes, _, _, notEnded⟩ |
            ⟨sameBytes, sameEnd | isEOF | ⟨message, isErr⟩⟩
        · rw [ended] at notEnded
          cases notEnded
        · rw [sameEnd] at ended
          rw [sameBytes]
          exact account ended
        · subst readAction
          rw [sameBytes]
          have isLive :
              (before.endpoint mover).transport = .live := by
            simpa [endsRemotely] using remote
          simpa [Connection.permits, isLive] using permitted
        · subst readAction
          simp [endsRemotely] at remote
    · rw [same] at ended ⊢
      obtain ⟨allArrived, finished⟩ := account ended
      have closing :=
        Connection.ClosingAccount.of_reachable
          (endpoint_reachable earlier side.peer)
      obtain ⟨still, sameSent⟩ :=
        Connection.finishedSending_kept closing finished moved
      exact ⟨allArrived.trans sameSent.symm, still⟩

/-- A reported end was preceded by every byte the peer's socket took. -/
theorem returned_of_end
    [TaskWaker Waker]
    {side : Side}
    {state : Duplex Waker}
    {record : PollRecord Waker}
    (reachable : ReachableEnding side state)
    (member : record ∈ (state.endpoint side).read.polls)
    (isEnd : record.result = .ready []) :
    returnedBytes (state.endpoint side).read.polls =
        (state.endpoint side.peer).sent ∧
      (state.endpoint side.peer).finishedSending = true := by
  have readRun := Connection.read_reachable (endpoint_reachable reachable side)
  have discipline := ReadSide.ReadDiscipline.of_reachable readRun
  have account := ReadSide.StreamAccount.of_reachable readRun
  obtain ⟨flag, isEmpty, _⟩ := account.afterEnd record member isEnd
  obtain ⟨allArrived, finished⟩ :=
    endAccount_of_reachable reachable (discipline.flagEnds flag)
  refine ⟨?_, finished⟩
  exact (account.returned_all_of_empty discipline isEmpty).trans allArrived

/--
When a stream ends from the other side, a `poll_read` that reports the end has
been preceded by every byte the peer's socket took, the peer is done sending, and
neither changes in any later session.
-/
theorem endOfStream_complete
    [TaskWaker Waker]
    {side : Side}
    {state : Duplex Waker}
    {record : PollRecord Waker}
    (reachable : ReachableEnding side state)
    (member : record ∈ (state.endpoint side).read.polls)
    (isEnd : record.result = .ready []) :
    returnedBytes (state.endpoint side).read.polls =
        (state.endpoint side.peer).sent ∧
      (state.endpoint side.peer).finishedSending = true ∧
      ∀ later, Later step state later →
        (later.endpoint side.peer).sent =
            (state.endpoint side.peer).sent ∧
          returnedBytes (later.endpoint side).read.polls =
            returnedBytes (state.endpoint side).read.polls := by
  have anyRun : ReachableSession state := reachable.weaken fun _ => trivial
  obtain ⟨complete, finished⟩ := returned_of_end reachable member isEnd
  refine ⟨complete, finished, ?_⟩
  intro later follows
  refine ⟨(finishedSending_later anyRun finished follows).2, ?_⟩
  refine (Pipe.delivered_frozen ?_
    (stream_follows anyRun follows side)).2
  exact List.any_eq_true.mpr ⟨record, member, decide_eq_true isEnd⟩

/-- The last two bytes arrive, the stream ends, and the server reads it up. -/
def readToTheEnd : List (Side × Connection.Action Nat) :=
  [(.server, .read (.getReadBuffer 65536 true)),
    (.server, .read (.readDataAvailable [2, 3])),
    (.server, .read .callbackStep), (.server, .read .callbackStep),
    (.server, .read .callbackStep), (.server, .read .callbackStep),
    (.server, .read .callbackStep), (.server, .read .readEOF),
    (.server, .read .callbackStep), (.server, .read (.pollRead 7 8)),
    (.server, .read .readerStep), (.server, .read .readerStep),
    (.server, .read (.pollRead 7 8)), (.server, .read .readerStep),
    (.server, .read .readerStep), (.server, .read .readerStep)]

/-- The server when it has read everything. -/
def serverAtEnd : Connection Nat :=
  { (Connection.initial : Connection Nat) with
    read :=
      { (ReadSide.initial : ReadSide Nat) with
        readWaker := true
        readEof := true
        slot := some 7
        callback := .closeNow
        streamEnded := true
        committed := [1, 2, 3]
        polls :=
          [{ waker := 7, mark := 1, result := .ready [] },
            { waker := 7, mark := 1, result := .ready [2, 3] },
            { waker := 7, mark := 0, result := .ready [1] }]
        wakes := [7] } }

theorem endOfStream_complete_sample :
    run? (restrict step (endsRemotely .server)) initial
        (writeThenShutDown ++ readToTheEnd) =
          some { client := shuttingDownClient, server := serverAtEnd } ∧
      returnedBytes serverAtEnd.read.polls = shuttingDownClient.sent := by
  have performed :
      run? (restrict step (endsRemotely .server)) initial
        (writeThenShutDown ++ readToTheEnd) =
          some { client := shuttingDownClient, server := serverAtEnd } := by
    decide
  exact ⟨performed,
    (endOfStream_complete
      (reachableWhile_of_run? (.start rfl) performed)
      List.mem_cons_self rfl).1⟩

/-- What the other end does never breaks off the stream of `side`. -/
theorem endsRemotely_peer
    (side : Side)
    (state : Duplex Waker)
    (action : Connection.Action Waker) :
    state.endsRemotely side (side.peer, action) = true := by
  have other : side.peer ≠ side := side.ne_peer.symm
  unfold endsRemotely
  split
  · next shape =>
      cases shape
      simpa using other
  · next shape =>
      cases shape
      simp [other]
  · rfl

/-- The steps of a run in which `side` loses no write when it shuts down. -/
def writesLosslessly
    (side : Side)
    (state : Duplex Waker) :
    Side × Connection.Action Waker → Bool
  | (mover, action) =>
      decide (mover ≠ side) || (state.endpoint side).lossless action

/-- The writing end of such a run is a connection that loses nothing. -/
theorem endpoint_lossless
    [TaskWaker Waker]
    {side : Side}
    {allowed : Duplex Waker → Side × Connection.Action Waker → Prop}
    {state : Duplex Waker}
    (implied :
      ∀ {state action},
        allowed state action → state.writesLosslessly side action = true)
    (reachable :
      ReachableWhile step allowed (fun start => start = initial) state) :
    Connection.LosslesslyReachable side (state.endpoint side) := by
  refine reachable.projectWhile (fun state => state.endpoint side) ?_ ?_
  · intro start begins
    subst start
    exact endpoint_initial side
  · intro before after action _ permitted taken
    obtain ⟨mover, action⟩ := action
    rcases endpoints_of_step taken side with
      ⟨isSide, _, moved, _⟩ | ⟨_, _, same⟩
    · refine .inr ⟨action, ?_, moved⟩
      simpa [writesLosslessly, isSide] using implied permitted
    · exact .inl same

/--
A graceful end to end: when the peer loses no write and its `poll_shutdown`
returns, a reader that learns of the end from it has been given exactly the bytes
the peer's `poll_write` had accepted by then.
-/
theorem shutdown_reaches_reader
    [TaskWaker Waker]
    {side : Side}
    {state following later : Duplex Waker}
    {action : Connection.Action Waker}
    {record : PollRecord Waker}
    (reachable :
      ReachableWhile step
        (fun state action =>
          state.endsRemotely side action = true ∧
            state.writesLosslessly side.peer action = true)
        (fun start => start = initial) state)
    (taken : state.step (side.peer, action) = some following)
    (returns :
      Connection.shutdownReturns (state.endpoint side.peer)
        (following.endpoint side.peer))
    (follows :
      ReachableWhile step
        (fun state action => state.endsRemotely side action = true)
        (fun start => start = following) later)
    (member : record ∈ (later.endpoint side).read.polls)
    (isEnd : record.result = .ready []) :
    returnedBytes (later.endpoint side).read.polls =
      (acceptedBuffers
        (following.endpoint side.peer).write.results).flatten := by
  have ending : ReachableEnding side following :=
    (reachable.weaken fun permitted => permitted.1).next
      (endsRemotely_peer side state action) taken
  have lossless := endpoint_lossless (fun permitted => permitted.2) reachable
  -- The shutdown returned: the peer's loop is gone and everything was sent.
  obtain ⟨_, _, moved, _⟩ | ⟨isOther, _⟩ :=
    endpoints_of_step taken side.peer
  · obtain ⟨stopped, carried⟩ :=
      (Connection.Transition.of_step moved).of_shutdownReturns
        (Connection.ThreadAccount.of_reachable lossless) returns
    have noTasks :=
      (Connection.PostedAccount.of_reachable lossless).pastWait returns.1
    have noPending :=
      (Connection.TransportAccount.of_reachable lossless).drained stopped
    have delivered :=
      carried (Connection.delivered_of_drained lossless noTasks noPending)
    have closing :=
      Connection.ClosingAccount.of_reachable
        (endpoint_reachable reachable side.peer)
    have finished :=
      (Connection.finishedSending_kept closing
        (Connection.finishedSending_of_stopped stopped) moved).1
    have frozen :=
      (finishedSending_later (ending.weaken fun _ => trivial) finished
        follows).2
    have complete :=
      (returned_of_end (ending.trans follows) member isEnd).1
    rw [complete, frozen, delivered.2.1]
  · exact absurd isOther side.peer.ne_peer

/-- The client of the sample run after its shutdown has returned. -/
def shutDownClient : Connection Nat :=
  { shuttingDownClient with
    evbThread := false
    closer := .idle
    joins := 1
    closeReturns := 1 }

theorem shutdown_reaches_reader_sample :
    run? (restrict step fun state action =>
          state.endsRemotely .server action &&
            state.writesLosslessly .client action)
        initial writeThenShutDown = some shuttingDownSession ∧
      run? (restrict step (endsRemotely .server))
        { shuttingDownSession with client := shutDownClient }
        readToTheEnd =
          some { client := shutDownClient, server := serverAtEnd } ∧
      returnedBytes serverAtEnd.read.polls =
        (acceptedBuffers shutDownClient.write.results).flatten := by
  have performed :
      run? (restrict step fun state action =>
          state.endsRemotely .server action &&
            state.writesLosslessly .client action)
        initial writeThenShutDown = some shuttingDownSession := by
    decide
  have continued :
      run? (restrict step (endsRemotely .server))
        { shuttingDownSession with client := shutDownClient }
        readToTheEnd =
          some { client := shutDownClient, server := serverAtEnd } := by
    decide
  have returned :
      shuttingDownSession.step (Side.server.peer, .closerStep) =
        some { shuttingDownSession with client := shutDownClient } := by
    rfl
  refine ⟨performed, continued, ?_⟩
  have reachable :
      ReachableWhile step
        (fun state action =>
          state.endsRemotely .server action = true ∧
            state.writesLosslessly Side.server.peer action = true)
        (fun start => start = initial) shuttingDownSession := by
    refine ReachableWhile.weaken Bool.and_eq_true_iff.mp ?_
    exact reachableWhile_of_run? (.start rfl) performed
  exact shutdown_reaches_reader reachable returned ⟨rfl, rfl⟩
    (reachableWhile_of_run? (.start rfl) continued)
    List.mem_cons_self rfl

end Duplex

end FizzRs
