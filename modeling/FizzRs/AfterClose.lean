import FizzRs.CloseRepeatable

namespace FizzRs

open LabelledSystem

/-!
# Data operations after close

`close` stops the event loop and touches none of the members that `poll_read`
and `poll_write` look at.  Once the loop thread is joined only the owner takes
steps, so what those members say at that moment is what every later operation
sees.  A later write fails exactly when a write callback raised `writeError`
before the loop stopped, and a later read is never pending exactly when a read
callback raised `readEof` before that.
-/

/--
`client_connection_write` and `server_connection_write`, run without another
step in between: the reported length and the posted functions.
-/
def connectionWrite
    (side : Side)
    (header : ConnectionHeader)
    (state : WriteSide)
    (buffer : List UInt8) :
    Except String (Nat × List LoopTask) :=
  match header.rejection? "write" with
  | some message => .error message
  | none =>
      if state.writeError then
        .error ("Write failed: " ++ state.writeErrorMessage)
      else
        .ok (writeLength side buffer,
          state.tasks ++ [.writeChain (copyBuffer buffer)])

/-- How `poll_write` turns the outcome of the foreign call into its result. -/
def PollWrite.ofOutcome :
    Except String (Nat × List LoopTask) → PollWrite
  | .error message => .failed message
  | .ok (count, _) => .ready count

/-- A read that copied some bytes is ready. -/
theorem PollRead.ofOutcome_copied_ne_pending
    {copied : List UInt8}
    (copies : copied ≠ []) :
    PollRead.ofOutcome (.ok
      ({ bytesRead := copied.length, eof := false }, copied)) ≠
        .pending := by
  have counted : 0 < copied.length :=
    List.length_pos_iff.mpr copies
  simp only [ofOutcome, counted, ↓reduceIte]
  simp

namespace ReadSide

/-- A step that is not the loop's leaves its position and the flag alone. -/
theorem ownerStep_frame
    [TaskWaker Waker]
    {state following : ReadSide Waker}
    {action : Action Waker}
    (notByLoop : action.byLoop = false)
    (taken : state.step .established action = some following) :
    following.callback = state.callback ∧
      following.readEof = state.readEof := by
  have transition := Transition.of_step taken
  cases transition with
  | _ =>
      first
      | exact ⟨rfl, rfl⟩
      | cases notByLoop

/-- The end-of-stream flag is never lowered. -/
theorem readEof_kept
    [TaskWaker Waker]
    {state following : ReadSide Waker}
    {action : Action Waker}
    (raised : state.readEof = true)
    (taken : state.step .established action = some following) :
    following.readEof = true := by
  have transition := Transition.of_step taken
  cases transition with
  | _ =>
      first
      | exact raised
      | rfl

/-- With the loop outside its callbacks and no poll under way, nobody locks. -/
theorem ReadDiscipline.unlocked
    {header : ConnectionHeader}
    {state : ReadSide Waker}
    (discipline : ReadDiscipline header state)
    (loopOutside : state.callback.isIdle = true)
    (readerOutside : state.reader.isIdle = true) :
    state.readMutex = none := by
  cases holder : state.readMutex with
  | none =>
      rfl
  | some thread =>
      cases thread with
      | eventLoop =>
          have mayHold :=
            discipline.settled (discipline.loopHolds.mp holder)
          cases position : state.callback <;>
            simp_all [CallbackPc.isIdle, CallbackPc.mayHoldBuffer]
      | caller =>
          have inside := discipline.callerHolds.mp holder
          cases position : state.reader <;>
            simp_all [ReaderPc.isIdle, ReaderPc.holdsLock]

end ReadSide

namespace WriteSide

/-- The write-error flag is never lowered. -/
theorem writeError_kept
    {side : Side}
    {state following : WriteSide}
    {action : Action}
    (raised : state.writeError = true)
    (taken : state.step side .established action = some following) :
    following.writeError = true := by
  have transition := Transition.of_step taken
  cases transition with
  | raiseError index _ =>
      rfl
  | _ =>
      exact raised

end WriteSide

namespace Connection

/-- `poll_write`, run to its return without another step in between. -/
def pollWrite
    [TaskWaker Waker]
    (side : Side)
    (state : Connection Waker)
    (buffer : List UInt8) :
    Option (Connection Waker) :=
  run? (step side) state
    [.write (.pollWrite buffer), .write .writerStep, .write .writerStep]

/-- `poll_read`, run to its return without another step in between. -/
def pollRead
    [TaskWaker Waker]
    (side : Side)
    (state : Connection Waker)
    (waker : Waker)
    (capacity : Nat) :
    Option (Connection Waker) :=
  run? (step side) state
    (.read (.pollRead waker capacity) :: .read .readerStep ::
      .read .readerStep ::
        if state.read.buffer.bytesRead = 0 then [.read .readerStep] else [])

/-- The result of the newest completed `poll_write`. -/
def lastWrite? (state : Connection Waker) : Option PollWrite :=
  state.write.results.head?.map WriteRecord.result

/-- The result of the newest completed `poll_read`. -/
def lastRead? (state : Connection Waker) : Option PollRead :=
  state.read.polls.head?.map PollRecord.result

/-- Alone, `poll_write` returns what the foreign function computes. -/
theorem pollWrite_returns
    [TaskWaker Waker]
    (side : Side)
    {state : Connection Waker}
    (free : state.ownerFree)
    (buffer : List UInt8) :
    ∃ final,
      state.pollWrite side buffer = some final ∧
        final.lastWrite? =
          some (.ofOutcome
            (connectionWrite side .established state.write buffer)) := by
  obtain ⟨handedOut, readerIdle, writerIdle, closerIdle⟩ := free
  by_cases raised : state.write.writeError = true
  · simp [pollWrite, run?, step, WriteSide.step, WriteSide.writerStep,
      WriteSide.Action.byOwner, WriteSide.complete, lastWrite?,
      connectionWrite, PollWrite.ofOutcome, handedOut, readerIdle,
      writerIdle, closerIdle, raised]
  · simp [pollWrite, run?, step, WriteSide.step, WriteSide.writerStep,
      WriteSide.Action.byOwner, WriteSide.complete, lastWrite?,
      connectionWrite, PollWrite.ofOutcome, handedOut, readerIdle,
      writerIdle, closerIdle, raised]

/-- The read function that `poll_read` calls on this side. -/
def readFunction :
    Side →
      ConnectionHeader → Bool → ReadBuffer → Nat →
        Except String (ReadOutcome × List UInt8 × ReadBuffer)
  | .client => clientConnectionReadOrStatus
  | .server => serverConnectionReadOrStatus

/-- Both sides read alike. -/
@[simp] theorem readFunction_eq
    (side : Side) :
    readFunction side = readOrStatus := by
  cases side <;> rfl

/-- Alone, `poll_read` returns what the foreign function computes. -/
theorem pollRead_returns
    [TaskWaker Waker]
    (side : Side)
    {state : Connection Waker}
    (free : state.ownerFree)
    (unlocked : state.read.readMutex = none)
    (counted : state.read.buffer.Counted)
    (waker : Waker)
    (capacity : Nat) :
    ∃ final outcome copied remaining,
      readFunction side .established state.read.readEof state.read.buffer
          capacity = .ok (outcome, copied, remaining) ∧
        state.pollRead side waker capacity = some final ∧
        final.ownerFree ∧
        final.read.buffer = remaining ∧
        final.read.readEof = state.read.readEof ∧
        final.lastRead? = some (.ofOutcome (.ok (outcome, copied))) := by
  obtain ⟨handedOut, readerIdle, writerIdle, closerIdle⟩ := free
  have atIdle : state.read.reader = .idle := by
    cases position : state.read.reader <;>
      simp_all [ReaderPc.isIdle]
  by_cases noBytes : state.read.buffer.bytesRead = 0
  · simp [pollRead, run?, step, ReadSide.step, ReadSide.readerStep,
      ReadSide.complete, ReadSide.Action.byLoop, mayRead, lastRead?,
      ownerFree, readOrStatus, ReaderPc.isIdle, handedOut, atIdle,
      writerIdle, closerIdle, unlocked, noBytes]
  · obtain ⟨remaining, takes, _⟩ :=
      ReadBuffer.exists_take counted capacity
    simp [pollRead, run?, step, ReadSide.step, ReadSide.readerStep,
      ReadSide.complete, ReadSide.Action.byLoop, mayRead, lastRead?,
      ownerFree, readOrStatus, ReaderPc.isIdle, handedOut, atIdle,
      writerIdle, closerIdle, unlocked, noBytes, takes, Except.map]

/-- A stopped loop is outside every read callback. -/
def StoppedOutside (state : Connection Waker) : Prop :=
  state.loopRunning = false → state.read.callback.isIdle = true

/-- The loop stops outside its callbacks and enters none afterwards. -/
theorem stoppedOutside_of_reachable
    [TaskWaker Waker]
    {side : Side}
    {state : Connection Waker}
    (reachable :
      Reachable (step side) (fun start => start = initial) state) :
    state.StoppedOutside := by
  refine reachable.invariant_from ?_ ?_
  · simp [StoppedOutside, initial]
  · intro before after action _ outside _ taken
    have transition := Transition.of_step taken
    cases transition with
    | read action read allowed stepped =>
        intro stopped
        have notByLoop : action.byLoop = false := by
          by_contra byLoop
          simp_all [mayRead]
        rw [(ReadSide.ownerStep_frame notByLoop stepped).1]
        exact outside stopped
    | loopExit free _ =>
        exact fun _ => free.2.1
    | _ =>
        exact outside

/-- Both flags stay up along every run. -/
theorem flags_kept
    [TaskWaker Waker]
    {side : Side}
    {state later : Connection Waker}
    (raised :
      state.write.writeError = true ∧ state.read.readEof = true)
    (follows : Later (step side) state later) :
    later.write.writeError = true ∧ later.read.readEof = true := by
  induction follows with
  | start isState =>
      rw [isState]
      exact raised
  | next _ _ taken inductionHypothesis =>
      obtain ⟨writeRaised, readRaised⟩ := inductionHypothesis
      have transition := Transition.of_step taken
      cases transition with
      | read action read _ stepped =>
          exact ⟨writeRaised, ReadSide.readEof_kept readRaised stepped⟩
      | write action write _ _ _ _ stepped =>
          exact ⟨WriteSide.writeError_kept writeRaised stepped, readRaised⟩
      | post call write _ stepped =>
          exact ⟨WriteSide.writeError_kept writeRaised stepped, readRaised⟩
      | runWrite chain rest write _ _ stepped =>
          exact ⟨WriteSide.writeError_kept writeRaised stepped, readRaised⟩
      | runClose rest write _ _ stepped =>
          exact ⟨WriteSide.writeError_kept writeRaised stepped, readRaised⟩
      | writeSuccess head rest write _ _ _ stepped =>
          exact ⟨WriteSide.writeError_kept writeRaised stepped, readRaised⟩
      | writeErr text head rest write _ _ stepped =>
          exact ⟨WriteSide.writeError_kept writeRaised stepped, readRaised⟩
      | raiseWriteError index write _ stepped =>
          exact ⟨WriteSide.writeError_kept writeRaised stepped, readRaised⟩
      | _ =>
          exact ⟨writeRaised, readRaised⟩

/-- Once the thread is joined it stays joined. -/
theorem joined_kept
    [TaskWaker Waker]
    {side : Side}
    {state later : Connection Waker}
    (joined : state.evbThread = false)
    (follows : Later (step side) state later) :
    later.evbThread = false := by
  induction follows with
  | start isState =>
      rw [isState]
      exact joined
  | next _ _ taken inductionHypothesis =>
      have transition := Transition.of_step taken
      cases transition with
      | join call _ _ =>
          rfl
      | _ =>
          exact inductionHypothesis

/-- After the join nobody holds `read_mutex`, and the byte count is right. -/
theorem quiet_of_joined
    [TaskWaker Waker]
    {side : Side}
    {state : Connection Waker}
    (reachable :
      Reachable (step side) (fun start => start = initial) state)
    (joined : state.evbThread = false)
    (free : state.ownerFree) :
    state.read.readMutex = none ∧ state.read.buffer.Counted := by
  have discipline :=
    ReadSide.ReadDiscipline.of_reachable (read_reachable reachable)
  have stopped :=
    ((ThreadAccount.of_reachable reachable).afterJoin joined).2.2
  have outside := stoppedOutside_of_reachable reachable stopped
  exact ⟨discipline.unlocked outside free.2.1, discipline.counted⟩

/--
Data operations on a closed connection make progress or say that they cannot:
a `poll_write` of a non-empty buffer fails, and a `poll_read` with room in its
buffer is ready.
-/
def SpeaksUp
    [TaskWaker Waker]
    (side : Side)
    (state : Connection Waker) :
    Prop :=
  (∀ buffer, buffer ≠ [] →
    ∃ final message,
      state.pollWrite side buffer = some final ∧
        final.lastWrite? = some (.failed message)) ∧
    ∀ waker capacity, 0 < capacity →
      ∃ final,
        state.pollRead side waker capacity = some final ∧
          (∃ result,
            final.lastRead? = some result ∧ result ≠ .pending)

/-- Raised flags make a joined connection speak up. -/
theorem speaksUp_of_flags
    [TaskWaker Waker]
    {side : Side}
    {state : Connection Waker}
    (reachable :
      Reachable (step side) (fun start => start = initial) state)
    (joined : state.evbThread = false)
    (free : state.ownerFree)
    (raised :
      state.write.writeError = true ∧ state.read.readEof = true) :
    state.SpeaksUp side := by
  obtain ⟨unlocked, counted⟩ := quiet_of_joined reachable joined free
  constructor
  · intro buffer _
    obtain ⟨final, performed, result⟩ :=
      pollWrite_returns side free buffer
    refine ⟨final, "Write failed: " ++ state.write.writeErrorMessage,
      performed, ?_⟩
    simpa [connectionWrite, raised.1, PollWrite.ofOutcome] using result
  · intro waker capacity roomy
    obtain ⟨final, outcome, copied, remaining, reads, performed, _, _, _,
      result⟩ := pollRead_returns side free unlocked counted waker capacity
    refine ⟨final, performed, _, result, ?_⟩
    by_cases noBytes : state.read.buffer.bytesRead = 0
    · simp only [readFunction_eq, readOrStatus,
        ConnectionHeader.rejection?_established,
        noBytes, ↓reduceIte, Except.ok.injEq, Prod.mk.injEq] at reads
      obtain ⟨rfl, rfl, _⟩ := reads
      simp [raised.2]
    · obtain ⟨rest, takes, _⟩ := ReadBuffer.exists_take counted capacity
      have copies :=
        ReadBuffer.take_ne_nil counted noBytes roomy takes
      simp only [readFunction_eq, readOrStatus,
        ConnectionHeader.rejection?_established,
        noBytes, ↓reduceIte, takes, Except.map, Except.ok.injEq,
        Prod.mk.injEq] at reads
      obtain ⟨rfl, rfl, _⟩ := reads
      exact PollRead.ofOutcome_copied_ne_pending copies

/-- A joined connection whose buffer is empty and whose flag is down reads pending. -/
theorem pollRead_pending
    [TaskWaker Waker]
    {side : Side}
    {state : Connection Waker}
    (reachable :
      Reachable (step side) (fun start => start = initial) state)
    (joined : state.evbThread = false)
    (free : state.ownerFree)
    (noBytes : state.read.buffer.bytesRead = 0)
    (notEnded : state.read.readEof = false)
    (waker : Waker)
    (capacity : Nat) :
    ∃ final,
      state.pollRead side waker capacity = some final ∧
        final.lastRead? = some .pending := by
  obtain ⟨unlocked, counted⟩ := quiet_of_joined reachable joined free
  obtain ⟨final, outcome, copied, remaining, reads, performed, _, _, _,
    result⟩ := pollRead_returns side free unlocked counted waker capacity
  simp only [readFunction_eq, readOrStatus,
    ConnectionHeader.rejection?_established,
    noBytes, ↓reduceIte, Except.ok.injEq, Prod.mk.injEq] at reads
  obtain ⟨rfl, rfl, _⟩ := reads
  exact ⟨final, performed, by simpa [notEnded] using result⟩

/-- The owner can read a joined connection empty. -/
theorem exists_drained
    [TaskWaker Waker]
    [Inhabited Waker]
    {side : Side}
    {state : Connection Waker}
    (reachable :
      Reachable (step side) (fun start => start = initial) state)
    (joined : state.evbThread = false)
    (free : state.ownerFree) :
    ∃ later,
      Later (step side) state later ∧
        later.ownerFree ∧
        later.read.buffer.bytesRead = 0 ∧
        later.read.readEof = state.read.readEof := by
  obtain ⟨unlocked, counted⟩ := quiet_of_joined reachable joined free
  by_cases noBytes : state.read.buffer.bytesRead = 0
  · exact ⟨state, .start rfl, free, noBytes, rfl⟩
  · obtain ⟨final, outcome, copied, remaining, reads, performed, stillFree,
      nextBuffer, sameFlag, _⟩ :=
      pollRead_returns side free unlocked counted default
        state.read.buffer.bytesRead
    obtain ⟨rest, takes, restIs, restCounted⟩ :=
      ReadBuffer.exists_take counted state.read.buffer.bytesRead
    simp only [readFunction_eq, readOrStatus,
      ConnectionHeader.rejection?_established,
      noBytes, ↓reduceIte, takes, Except.map, Except.ok.injEq,
      Prod.mk.injEq] at reads
    obtain ⟨_, _, rfl⟩ := reads
    have nothingLeft : rest.bytesRead = 0 := by
      have count :
          state.read.buffer.bytesRead =
            state.read.buffer.readBufQueue.flatten.length := counted
      have restCount :
          rest.bytesRead = rest.readBufQueue.flatten.length := restCounted
      rw [restCount, restIs, count, List.drop_length, List.length_nil]
    exact ⟨final, reachable_of_run? (.start rfl) performed, stillFree,
      by rw [nextBuffer, nothingLeft], sameFlag⟩

/--
After `close` returned and the loop thread was joined, no data operation makes
silent non-progress exactly when `writeError` and `readEof` were both raised
before the loop stopped.
-/
theorem afterClose_speaksUp_iff
    [TaskWaker Waker]
    [Inhabited Waker]
    {side : Side}
    {state : Connection Waker}
    (reachable :
      Reachable (step side) (fun start => start = initial) state)
    (joined : state.evbThread = false)
    (free : state.ownerFree) :
    (∀ later,
      Later (step side) state later →
        later.ownerFree → later.SpeaksUp side) ↔
      state.write.writeError = true ∧ state.read.readEof = true := by
  constructor
  · intro speaksUp
    constructor
    · by_contra notRaised
      obtain ⟨final, message, performed, failed⟩ :=
        (speaksUp state (.start rfl) free).1 [0] (by simp)
      obtain ⟨sameFinal, samePerformed, result⟩ :=
        pollWrite_returns side free [0]
      rw [samePerformed] at performed
      cases performed
      rw [failed] at result
      simp [connectionWrite, notRaised, PollWrite.ofOutcome] at result
    · by_contra notRaised
      obtain ⟨later, follows, laterFree, noBytes, sameFlag⟩ :=
        exists_drained reachable joined free
      obtain ⟨final, performed, isPending⟩ :=
        pollRead_pending (reachable.trans follows)
          (joined_kept joined follows) laterFree noBytes
          (by simpa [sameFlag] using notRaised) default 1
      obtain ⟨sameFinal, samePerformed, result, shown, notPending⟩ :=
        (speaksUp later follows laterFree).2 default 1 Nat.one_pos
      rw [performed] at samePerformed
      cases samePerformed
      rw [isPending] at shown
      cases shown
      exact notPending rfl
  · intro raised later follows laterFree
    exact speaksUp_of_flags (reachable.trans follows)
      (joined_kept joined follows) laterFree (flags_kept raised follows)

/-- A write fails, the peer ends the stream, and the owner closes. -/
def failedThenClosed : List (Action Nat) :=
  [.read .setReadWaker, .write (.pollWrite [1]), .write .writerStep,
    .write .writerStep, .runTask, .read .readEOF, .read .callbackStep,
    .read .callbackStep, .read .callbackStep, .read .callbackStep,
    .read .callbackStep, .read .callbackStep, .writeErr "reset",
    .raiseWriteError 0, .closeCall .close false, .closerStep, .loopExit,
    .closerStep]

/-- The connection after `failedThenClosed`. -/
def failedThenClosedState : Connection Nat :=
  { (initial : Connection Nat) with
    read :=
      { ReadSide.initial with
        readEof := true
        readWaker := true
        streamEnded := true }
    write :=
      { WriteSide.initial with
        callerBuffer := [1]
        writeError := true
        writeErrorMessage := "reset"
        chains := [[1]]
        callbacks := [.finished]
        recorded := ["reset"]
        results :=
          [{ buffer := [1], errorAtCall := false, result := .ready 1 }] }
    transport := .closed
    evbThread := false
    loopRunning := false
    terminateRequested := true
    terminations := 1
    joins := 1
    closeReturns := 1 }

theorem afterClose_speaksUp_iff_sample :
    run? (step .server) initial failedThenClosed =
        some failedThenClosedState ∧
      ∀ later,
        Later (step .server) failedThenClosedState later →
          later.ownerFree → later.SpeaksUp .server := by
  have performed :
      run? (step .server) initial failedThenClosed =
        some failedThenClosedState := by
    decide
  exact ⟨performed,
    (afterClose_speaksUp_iff (reachable_of_run? (.start rfl) performed)
      rfl (by decide)).mpr ⟨rfl, rfl⟩⟩

/--
After a graceful shutdown has joined the loop, a `poll_write` of one byte
returns `Ok(1)` and a `poll_read` returns `Pending`.
-/
theorem shutdown_then_silent :
    Reachable (step .client) (fun start => start = initial)
        shutDownState ∧
      shutDownState.evbThread = false ∧
      shutDownState.ownerFree ∧
      (shutDownState.pollWrite .client [1]).bind lastWrite? =
        some (.ready 1) ∧
      (shutDownState.pollRead .client 0 1).bind lastRead? =
        some .pending ∧
      ¬ shutDownState.SpeaksUp .client := by
  have performed :
      run? (step .client) initial shutdownSchedule =
        some shutDownState := by
    decide
  refine ⟨reachable_of_run? (.start rfl) performed, rfl, by decide,
    by decide, by decide, ?_⟩
  intro speaksUp
  obtain ⟨final, message, writes, failed⟩ := speaksUp.1 [1] (by simp)
  have accepted :
      (shutDownState.pollWrite .client [1]).bind lastWrite? =
        some (.ready 1) := by
    decide
  rw [writes, Option.bind_some, failed] at accepted
  cases accepted

end Connection

end FizzRs
