import FizzRs.ReadSide

namespace FizzRs

open LabelledSystem

/-!
# Integrity of the read stream

Whatever the interleaving of callbacks and polls, the bytes returned so far
followed by the bytes still queued are the bytes committed so far.  The argument
has two parts.  The lock discipline says who holds `read_mutex` at every program
counter and that the byte count agrees with the queue.  The stream account says
where each committed byte is and what an end of stream rules out afterwards.
-/

/-- The reader is inside the critical section of `read_mutex`. -/
def ReaderPc.holdsLock : ReaderPc Waker → Bool
  | .locked _ => true
  | .sawEmpty _ => true
  | _ => false

namespace CallbackPc

/-- A `getReadBuffer` is outstanding or its bytes are being committed. -/
def holdsBuffer : CallbackPc Waker → Bool
  | .bufferHanded _ _ => true
  | .dataCommitted => true
  | _ => false

/-- The loop thread may still have to release `read_mutex`. -/
def mayHoldBuffer : CallbackPc Waker → Bool
  | .bufferHanded _ _ => true
  | .dataCommitted => true
  | .eofStored => true
  | .errRecorded => true
  | _ => false

/-- `readErr` has started and has yet to raise the end-of-stream flag. -/
def reportsError : CallbackPc Waker → Bool
  | .errRecorded => true
  | .errReleased => true
  | _ => false

end CallbackPc

namespace ReadSide

/--
Who holds `read_mutex`, what its holder may rely on, and what the end-of-stream
flag records.
-/
structure ReadDiscipline
    (header : ConnectionHeader)
    (state : ReadSide Waker) :
    Prop where
  loopHolds :
    state.readMutex = some .eventLoop ↔ state.pendingRead = true
  callerHolds :
    state.readMutex = some .caller ↔ state.reader.holdsLock = true
  outstanding :
    state.callback.holdsBuffer = true → state.pendingRead = true
  settled :
    state.pendingRead = true → state.callback.mayHoldBuffer = true
  counted :
    state.buffer.Counted
  emptySeen :
    ∀ call, state.reader = .sawEmpty call → state.buffer.bytesRead = 0
  accepted :
    state.reader.holdsLock = true → header.rejection? "read" = none
  flagEnds :
    state.readEof = true → state.streamEnded = true
  errorEnds :
    state.callback.reportsError = true → state.streamEnded = true

namespace ReadDiscipline

/-- Outside the reader's critical section, releasing keeps the reader's side. -/
theorem reader_outside_of_pending
    {header : ConnectionHeader}
    {state : ReadSide Waker}
    (discipline : ReadDiscipline header state)
    (pending : state.pendingRead = true) :
    state.reader.holdsLock = false := by
  have owner := discipline.loopHolds.mpr pending
  cases inside : state.reader.holdsLock with
  | false =>
      rfl
  | true =>
      have callerOwner := discipline.callerHolds.mpr inside
      rw [owner] at callerOwner
      cases callerOwner

/-- While the reader is inside its critical section, no buffer is outstanding. -/
theorem not_pending_of_inside
    {header : ConnectionHeader}
    {state : ReadSide Waker}
    (discipline : ReadDiscipline header state)
    (inside : state.reader.holdsLock = true) :
    state.pendingRead = false := by
  by_contra pending
  have outside :=
    discipline.reader_outside_of_pending (by simpa using pending)
  rw [inside] at outside
  cases outside

/-- A read of a disciplined state that found bytes does not underflow. -/
theorem take_ne_error
    {header : ConnectionHeader}
    {state : ReadSide Waker}
    (discipline : ReadDiscipline header state)
    (capacity : Nat)
    (message : String) :
    state.buffer.take capacity ≠ .error message := by
  obtain ⟨remaining, succeeds, _⟩ :=
    ReadBuffer.exists_take discipline.counted capacity
  rw [succeeds]
  simp

/-- The discipline holds when the read callback is installed. -/
theorem initially
    (header : ConnectionHeader) :
    ReadDiscipline header (initial : ReadSide Waker) where
  loopHolds := by simp [initial]
  callerHolds := by simp [initial, ReaderPc.holdsLock]
  outstanding := by simp [initial, CallbackPc.holdsBuffer]
  settled := by simp [initial]
  counted := by simp [initial, ReadBuffer.Counted, ReadBuffer.empty]
  emptySeen := by simp [initial]
  accepted := by simp [initial, ReaderPc.holdsLock]
  flagEnds := by simp [initial]
  errorEnds := by simp [initial, CallbackPc.reportsError]

/-- Releasing an outstanding buffer keeps the discipline's lock facts. -/
theorem releasePending_mutex
    {header : ConnectionHeader}
    {state : ReadSide Waker}
    (discipline : ReadDiscipline header state) :
    state.releasePending.pendingRead = false ∧
      state.releasePending.readMutex ≠ some .eventLoop ∧
      (state.releasePending.readMutex = some .caller ↔
        state.reader.holdsLock = true) := by
  by_cases pending : state.pendingRead = true
  · have outside := discipline.reader_outside_of_pending pending
    simp [releasePending, pending, outside]
  · have notLoop : state.readMutex ≠ some .eventLoop := by
      intro owner
      exact pending (discipline.loopHolds.mp owner)
    simpa [releasePending, pending] using
      ⟨notLoop, discipline.callerHolds⟩

/-- Ending a callback's hold on the buffer keeps the discipline. -/
theorem releasePending_preserved
    {header : ConnectionHeader}
    {state : ReadSide Waker}
    (discipline : ReadDiscipline header state)
    {next : CallbackPc Waker}
    (released : next.holdsBuffer = false)
    (stillEnded : next.reportsError = true → state.streamEnded = true) :
    ReadDiscipline header
      { state.releasePending with callback := next } := by
  obtain ⟨notPending, notLoop, callerHolds⟩ :=
    discipline.releasePending_mutex
  exact
    { loopHolds := by simp [notPending, notLoop]
      callerHolds := callerHolds
      outstanding := by simp [released]
      settled := by simp [notPending]
      counted := discipline.counted
      emptySeen := discipline.emptySeen
      accepted := discipline.accepted
      flagEnds := discipline.flagEnds
      errorEnds := stillEnded }

/-- A reader that leaves its critical section keeps the discipline. -/
theorem leave_preserved
    {header : ConnectionHeader}
    {state : ReadSide Waker}
    (discipline : ReadDiscipline header state)
    (inside : state.reader.holdsLock = true)
    {buffer : ReadBuffer}
    (counted : buffer.Counted)
    (call : ReadCall Waker)
    (result : PollRead) :
    ReadDiscipline header
      (({ state with readMutex := none, buffer := buffer }).complete
        call result) where
  loopHolds := by
    simp [complete, discipline.not_pending_of_inside inside]
  callerHolds := by simp [complete, ReaderPc.holdsLock]
  outstanding := discipline.outstanding
  settled := discipline.settled
  counted := counted
  emptySeen := by simp [complete]
  accepted := by simp [complete, ReaderPc.holdsLock]
  flagEnds := discipline.flagEnds
  errorEnds := discipline.errorEnds

/-- A reader that moves outside its critical section keeps the discipline. -/
theorem outside_preserved
    {header : ConnectionHeader}
    {state : ReadSide Waker}
    (discipline : ReadDiscipline header state)
    (outside : state.reader.holdsLock = false)
    {next : ReaderPc Waker}
    (nextOutside : next.holdsLock = false)
    {slot : Option Waker}
    {polls : List (PollRecord Waker)} :
    ReadDiscipline header
      { state with reader := next, slot := slot, polls := polls } where
  loopHolds := discipline.loopHolds
  callerHolds := by
    rw [discipline.callerHolds, outside, nextOutside]
  outstanding := discipline.outstanding
  settled := discipline.settled
  counted := discipline.counted
  emptySeen := by
    intro call atEmpty
    simp only at atEmpty
    simp [atEmpty, ReaderPc.holdsLock] at nextOutside
  accepted := by
    intro inside
    rw [nextOutside] at inside
    cases inside
  flagEnds := discipline.flagEnds
  errorEnds := discipline.errorEnds

/-- A callback that is past the buffer and moves on keeps the discipline. -/
theorem callback_preserved
    {header : ConnectionHeader}
    {state : ReadSide Waker}
    (discipline : ReadDiscipline header state)
    (past : state.callback.mayHoldBuffer = false)
    {next : CallbackPc Waker}
    (nextPast : next.holdsBuffer = false)
    (nextReports : next.reportsError = false)
    {readEof : Bool}
    (ends : readEof = true → state.streamEnded = true)
    {mutex : Option Thread}
    {slot : Option Waker}
    {wakes : List Waker} :
    ReadDiscipline header { state with
      readEof := readEof
      callback := next
      wakerMutex := mutex
      slot := slot
      wakes := wakes } where
  loopHolds := discipline.loopHolds
  callerHolds := discipline.callerHolds
  outstanding := by simp [nextPast]
  settled := by
    intro pending
    have holds := discipline.settled pending
    rw [past] at holds
    cases holds
  counted := discipline.counted
  emptySeen := discipline.emptySeen
  accepted := discipline.accepted
  flagEnds := ends
  errorEnds := by simp [nextReports]

/-- The start of `readEOF` or `readErr` keeps the discipline. -/
theorem end_preserved
    {header : ConnectionHeader}
    {state : ReadSide Waker}
    (discipline : ReadDiscipline header state)
    {next : CallbackPc Waker}
    (released : next.holdsBuffer = false)
    (mayHold : next.mayHoldBuffer = true)
    {readEof : Bool}
    {message : String} :
    ReadDiscipline header { state with
      readEof := readEof
      errorMessage := message
      streamEnded := true
      callback := next } where
  loopHolds := discipline.loopHolds
  callerHolds := discipline.callerHolds
  outstanding := by simp [released]
  settled := fun _ => mayHold
  counted := discipline.counted
  emptySeen := discipline.emptySeen
  accepted := discipline.accepted
  flagEnds := fun _ => rfl
  errorEnds := fun _ => rfl

/-- Committing the bytes of an outstanding buffer keeps the discipline. -/
theorem data_preserved
    {header : ConnectionHeader}
    {state : ReadSide Waker}
    (discipline : ReadDiscipline header state)
    {length : Nat}
    {fresh : Bool}
    (handed : state.callback = .bufferHanded length fresh)
    (bytes : List UInt8) :
    ReadDiscipline header { state with
      buffer := state.buffer.postallocate fresh bytes
      committed := state.committed ++ bytes
      callback := .dataCommitted } := by
  have pending : state.pendingRead = true :=
    discipline.outstanding (by rw [handed]; rfl)
  have outside := discipline.reader_outside_of_pending pending
  refine
    { loopHolds := discipline.loopHolds
      callerHolds := discipline.callerHolds
      outstanding := fun _ => pending
      settled := fun _ => rfl
      counted :=
        ReadBuffer.counted_postallocate discipline.counted fresh bytes
      emptySeen := ?_
      accepted := discipline.accepted
      flagEnds := discipline.flagEnds
      errorEnds := by simp [CallbackPc.reportsError] }
  intro call atEmpty
  simp only at atEmpty
  simp [atEmpty, ReaderPc.holdsLock] at outside

/-- One atomic step keeps the discipline. -/
theorem preserved
    [TaskWaker Waker]
    {header : ConnectionHeader}
    {state following : ReadSide Waker}
    {action : Action Waker}
    (discipline : ReadDiscipline header state)
    (transition : Transition header state action following) :
    ReadDiscipline header following := by
  cases transition with
  | setReadWaker _ =>
      exact
        { loopHolds := discipline.loopHolds
          callerHolds := discipline.callerHolds
          outstanding := discipline.outstanding
          settled := discipline.settled
          counted := discipline.counted
          emptySeen := discipline.emptySeen
          accepted := discipline.accepted
          flagEnds := discipline.flagEnds
          errorEnds := discipline.errorEnds }
  | register waker capacity atIdle _ =>
      exact discipline.outside_preserved (by rw [atIdle]; rfl) rfl
  | refuse call message atRegistered _ =>
      exact discipline.outside_preserved (by rw [atRegistered]; rfl) rfl
  | lockRead call atRegistered isAccepted free =>
      have notPending : state.pendingRead = false := by
        by_contra pending
        have owner := discipline.loopHolds.mpr (by simpa using pending)
        rw [free] at owner
        cases owner
      exact
        { loopHolds := by simp [notPending]
          callerHolds := by simp [ReaderPc.holdsLock]
          outstanding := discipline.outstanding
          settled := discipline.settled
          counted := discipline.counted
          emptySeen := by simp
          accepted := fun _ => isAccepted
          flagEnds := discipline.flagEnds
          errorEnds := discipline.errorEnds }
  | inspectEmpty call atLocked isEmpty =>
      have inside : state.reader.holdsLock = true := by
        rw [atLocked]
        rfl
      exact
        { loopHolds := discipline.loopHolds
          callerHolds := by
            simpa [ReaderPc.holdsLock] using
              discipline.callerHolds.mpr inside
          outstanding := discipline.outstanding
          settled := discipline.settled
          counted := discipline.counted
          emptySeen := fun _ _ => isEmpty
          accepted := fun _ => discipline.accepted inside
          flagEnds := discipline.flagEnds
          errorEnds := discipline.errorEnds }
  | takeFails call message atLocked _ _ =>
      exact discipline.leave_preserved (by rw [atLocked]; rfl)
        discipline.counted call _
  | takeBytes call copied remaining atLocked _ succeeds =>
      obtain ⟨rest, takes, _, restCounted⟩ :=
        ReadBuffer.exists_take discipline.counted call.capacity
      rw [succeeds] at takes
      cases takes
      exact discipline.leave_preserved (by rw [atLocked]; rfl)
        restCounted call _
  | loadEof call atEmpty =>
      exact discipline.leave_preserved (by rw [atEmpty]; rfl)
        discipline.counted call _
  | getReadBuffer length fresh atIdle free =>
      have outside : state.reader.holdsLock = false := by
        by_contra inside
        have owner := discipline.callerHolds.mpr (by simpa using inside)
        rw [free] at owner
        cases owner
      exact
        { loopHolds := by simp
          callerHolds := by simp [outside]
          outstanding := fun _ => rfl
          settled := fun _ => rfl
          counted := discipline.counted
          emptySeen := discipline.emptySeen
          accepted := discipline.accepted
          flagEnds := discipline.flagEnds
          errorEnds := by simp [CallbackPc.reportsError] }
  | readDataAvailable length fresh bytes handed _ _ =>
      exact discipline.data_preserved handed bytes
  | releaseData atCommitted =>
      have pending : state.pendingRead = true :=
        discipline.outstanding (by rw [atCommitted]; rfl)
      have outside := discipline.reader_outside_of_pending pending
      exact
        { loopHolds := by simp
          callerHolds := by simp [outside]
          outstanding := by simp [CallbackPc.holdsBuffer]
          settled := by simp
          counted := discipline.counted
          emptySeen := discipline.emptySeen
          accepted := discipline.accepted
          flagEnds := discipline.flagEnds
          errorEnds := by simp [CallbackPc.reportsError] }
  | readEOF _ =>
      exact discipline.end_preserved rfl rfl
  | readErr message _ =>
      exact discipline.end_preserved rfl rfl
  | releaseEof _ =>
      exact discipline.releasePending_preserved rfl
        (by simp [CallbackPc.reportsError])
  | releaseErr atErr =>
      exact discipline.releasePending_preserved rfl
        (fun _ => discipline.errorEnds (by rw [atErr]; rfl))
  | storeEof atReleased =>
      exact discipline.callback_preserved (by rw [atReleased]; rfl) rfl rfl
        (fun _ => discipline.errorEnds (by rw [atReleased]; rfl))
  | closeNow here =>
      exact discipline.callback_preserved (by rw [here]; rfl) rfl rfl
        discipline.flagEnds
  | lockWaker here _ =>
      exact discipline.callback_preserved (by rw [here]; rfl) rfl rfl
        discipline.flagEnds
  | takeWaker here _ =>
      exact discipline.callback_preserved (by rw [here]; rfl) rfl rfl
        discipline.flagEnds
  | skipWaker here _ =>
      exact discipline.callback_preserved (by rw [here]; rfl) rfl rfl
        discipline.flagEnds
  | fireNothing here =>
      exact discipline.callback_preserved (by rw [here]; rfl) rfl rfl
        discipline.flagEnds
  | fireWaker waker here =>
      exact discipline.callback_preserved (by rw [here]; rfl) rfl rfl
        discipline.flagEnds
  | unlockWaker here =>
      exact discipline.callback_preserved (by rw [here]; rfl) rfl rfl
        discipline.flagEnds

/-- Every reachable read side keeps the discipline. -/
theorem of_reachable
    [TaskWaker Waker]
    {header : ConnectionHeader}
    {state : ReadSide Waker}
    (reachable :
      Reachable (step header) (fun start => start = initial) state) :
    ReadDiscipline header state := by
  refine reachable.invariant_from ?_ ?_
  · exact initially header
  · intro before after action _ discipline _ taken
    exact discipline.preserved (.of_step taken)

end ReadDiscipline

/-- Where every committed byte is, and what an end of stream rules out. -/
structure StreamAccount
    (header : ConnectionHeader)
    (state : ReadSide Waker) :
    Prop where
  conserved :
    returnedBytes state.polls ++ state.buffer.readBufQueue.flatten =
      state.committed
  afterEnd :
    ∀ record ∈ state.polls,
      record.result = .ready [] →
        state.readEof = true ∧
          state.buffer.bytesRead = 0 ∧
          header.rejection? "read" = none
  sticky :
    state.polls.Pairwise fun later earlier =>
      earlier.result = .ready [] → later.result = .ready []

namespace StreamAccount

/-- The account is empty when the read callback is installed. -/
theorem initially
    (header : ConnectionHeader) :
    StreamAccount header (initial : ReadSide Waker) where
  conserved := by simp [initial, returnedBytes, ReadBuffer.empty]
  afterEnd := by simp [initial]
  sticky := by simp [initial]

/-- No end of stream was signalled while bytes are buffered or reads are refused. -/
theorem no_end_signalled
    {header : ConnectionHeader}
    {state : ReadSide Waker}
    (account : StreamAccount header state)
    (cause :
      state.buffer.bytesRead ≠ 0 ∨
        header.rejection? "read" ≠ none) :
    ∀ record ∈ state.polls, record.result ≠ .ready [] := by
  intro record member isEnd
  obtain ⟨_, isEmpty, accepted⟩ := account.afterEnd record member isEnd
  rcases cause with hasBytes | refused
  · exact hasBytes isEmpty
  · exact refused accepted

/-- Completing a poll with a result other than end of stream. -/
theorem complete_other
    {header : ConnectionHeader}
    {state : ReadSide Waker}
    (account : StreamAccount header state)
    {buffer : ReadBuffer}
    {mutex : Option Thread}
    {call : ReadCall Waker}
    {result : PollRead}
    (notEnd : result ≠ .ready [])
    (noEarlierEnd : ∀ record ∈ state.polls, record.result ≠ .ready [])
    (filled :
      result.filled ++ buffer.readBufQueue.flatten =
        state.buffer.readBufQueue.flatten) :
    StreamAccount header
      (({ state with readMutex := mutex, buffer := buffer }).complete
        call result) where
  conserved := by
    simp only [complete, returnedBytes, List.append_assoc]
    rw [filled]
    exact account.conserved
  afterEnd := by
    intro record member isEnd
    simp only [complete, List.mem_cons] at member
    rcases member with isNew | isOld
    · subst record
      exact (notEnd isEnd).elim
    · exact (noEarlierEnd record isOld isEnd).elim
  sticky := by
    simp only [complete, List.pairwise_cons]
    refine ⟨?_, account.sticky⟩
    intro record member isEnd
    exact (noEarlierEnd record member isEnd).elim

/-- A poll that saw an empty queue reports the flag and keeps the account. -/
theorem loadEof_preserved
    {header : ConnectionHeader}
    {state : ReadSide Waker}
    (account : StreamAccount header state)
    (accepted : header.rejection? "read" = none)
    (isEmpty : state.buffer.bytesRead = 0)
    (call : ReadCall Waker) :
    StreamAccount header
      (({ state with readMutex := none }).complete call
        (PollRead.ofOutcome (.ok
          ({ bytesRead := 0, eof := state.readEof }, [])))) := by
  by_cases flag : state.readEof = true
  · refine
      { conserved := ?_
        afterEnd := fun _ _ _ => ⟨flag, isEmpty, accepted⟩
        sticky := ?_ }
    · simpa [complete, returnedBytes, PollRead.filled, flag] using
        account.conserved
    · simp only [complete, List.pairwise_cons]
      exact ⟨fun _ _ _ => by simp [flag], account.sticky⟩
  · have noEarlierEnd :
        ∀ record ∈ state.polls, record.result ≠ .ready [] := by
      intro record member isEnd
      exact flag (account.afterEnd record member isEnd).1
    rw [PollRead.ofOutcome_empty, if_neg flag]
    exact account.complete_other (by simp) noEarlierEnd rfl

/-- Raising the end-of-stream flag keeps the account. -/
theorem raiseFlag
    {header : ConnectionHeader}
    {state : ReadSide Waker}
    (account : StreamAccount header state)
    {ended : Bool}
    {next : CallbackPc Waker} :
    StreamAccount header { state with
      readEof := true
      streamEnded := ended
      callback := next } :=
  ⟨account.conserved,
    fun record member isEnd =>
      ⟨rfl, (account.afterEnd record member isEnd).2⟩,
    account.sticky⟩

/-- One atomic step of a disciplined read side keeps the account. -/
theorem preserved
    [TaskWaker Waker]
    {header : ConnectionHeader}
    {state following : ReadSide Waker}
    {action : Action Waker}
    (account : StreamAccount header state)
    (discipline : ReadDiscipline header state)
    (transition : Transition header state action following) :
    StreamAccount header following := by
  cases transition with
  | refuse call message _ rejected =>
      exact account.complete_other (by simp)
        (account.no_end_signalled (.inr (by simp [rejected]))) rfl
  | takeFails call message _ _ failed =>
      exact (discipline.take_ne_error _ _ failed).elim
  | takeBytes call copied remaining _ notEmpty succeeds =>
      obtain ⟨rest, takes, restIs, _⟩ :=
        ReadBuffer.exists_take discipline.counted call.capacity
      rw [succeeds] at takes
      cases takes
      refine account.complete_other
        (PollRead.ofOutcome_copied_ne_end _)
        (account.no_end_signalled (.inl notEmpty)) ?_
      rw [PollRead.filled_ofOutcome_copied, restIs,
        List.take_append_drop]
  | loadEof call atEmpty =>
      have inside : state.reader.holdsLock = true := by
        simp [atEmpty, ReaderPc.holdsLock]
      exact account.loadEof_preserved (discipline.accepted inside)
        (discipline.emptySeen call atEmpty) call
  | readDataAvailable length fresh bytes handed _ notEnded =>
      have noEnd :
          ∀ record ∈ state.polls, record.result ≠ .ready [] := by
        intro record member isEnd
        have ended :=
          discipline.flagEnds (account.afterEnd record member isEnd).1
        rw [notEnded] at ended
        cases ended
      refine
        { conserved := ?_
          afterEnd := fun record member isEnd =>
            (noEnd record member isEnd).elim
          sticky := account.sticky }
      simp only [ReadBuffer.postallocate, ByteChain.flatten_commit]
      rw [← List.append_assoc, account.conserved]
  | readEOF _ =>
      exact account.raiseFlag
  | storeEof _ =>
      exact account.raiseFlag
  | _ =>
      exact ⟨account.conserved, account.afterEnd, account.sticky⟩

/-- Every reachable read side keeps the account. -/
theorem of_reachable
    [TaskWaker Waker]
    {header : ConnectionHeader}
    {state : ReadSide Waker}
    (reachable :
      Reachable (step header) (fun start => start = initial) state) :
    StreamAccount header state := by
  refine reachable.invariant_from ?_ ?_
  · exact initially header
  · intro before after action earlier account _ taken
    exact account.preserved (.of_reachable earlier) (.of_step taken)

/-- A queue whose count is zero holds nothing that was not returned. -/
theorem returned_all_of_empty
    {header : ConnectionHeader}
    {state : ReadSide Waker}
    (account : StreamAccount header state)
    (discipline : ReadDiscipline header state)
    (isEmpty : state.buffer.bytesRead = 0) :
    returnedBytes state.polls = state.committed := by
  have count :
      state.buffer.bytesRead =
        state.buffer.readBufQueue.flatten.length := discipline.counted
  have nothingQueued : state.buffer.readBufQueue.flatten = [] := by
    rw [← List.length_eq_zero_iff, ← count]
    exact isEmpty
  simpa [nothingQueued] using account.conserved

end StreamAccount

/-- A step that completes a poll with end of stream found the queue empty. -/
theorem Transition.empty_of_end
    [TaskWaker Waker]
    {header : ConnectionHeader}
    {state following : ReadSide Waker}
    {action : Action Waker}
    {record : PollRecord Waker}
    (discipline : ReadDiscipline header state)
    (transition : Transition header state action following)
    (completes : following.polls = record :: state.polls)
    (isEnd : record.result = .ready []) :
    state.buffer.bytesRead = 0 := by
  cases transition with
  | refuse call message _ _ =>
      simp only [complete, List.cons.injEq, and_true] at completes
      subst record
      cases isEnd
  | takeFails call message _ _ _ =>
      simp only [complete, List.cons.injEq, and_true] at completes
      subst record
      cases isEnd
  | takeBytes call copied remaining _ _ _ =>
      simp only [complete, List.cons.injEq, and_true] at completes
      subst record
      exact (PollRead.ofOutcome_copied_ne_end copied isEnd).elim
  | loadEof call atEmpty =>
      exact discipline.emptySeen call atEmpty
  | _ =>
      simp [releasePending] at completes

/--
Nothing is lost, duplicated or reordered between the loop thread and the
callers of `poll_read`; end of stream is signalled only when every committed
byte has been returned, and from then on by every poll.
-/
theorem readStream_integrity
    [TaskWaker Waker]
    {header : ConnectionHeader}
    {state : ReadSide Waker}
    (reachable :
      Reachable (step header) (fun start => start = initial) state) :
    returnedBytes state.polls ++ state.buffer.readBufQueue.flatten =
        state.committed ∧
      (∀ action following record,
        state.step header action = some following →
        following.polls = record :: state.polls →
        record.result = .ready [] →
        returnedBytes state.polls = state.committed) ∧
      state.polls.Pairwise fun later earlier =>
        earlier.result = .ready [] → later.result = .ready [] := by
  have discipline := ReadDiscipline.of_reachable reachable
  have account := StreamAccount.of_reachable reachable
  refine ⟨account.conserved, ?_, account.sticky⟩
  intro action following record taken completes isEnd
  exact account.returned_all_of_empty discipline
    ((Transition.of_step taken).empty_of_end discipline completes isEnd)

/-- Three bytes arrive, a poll takes two, the peer closes, a poll takes the last. -/
def sampleReadSchedule : List (Action Nat) :=
  [.getReadBuffer 65536 true, .readDataAvailable [10, 20, 30],
    .callbackStep, .callbackStep, .callbackStep, .callbackStep,
    .setReadWaker, .pollRead 1 2, .readerStep, .readerStep,
    .readEOF, .callbackStep, .pollRead 1 8, .readerStep, .readerStep,
    .pollRead 1 8, .readerStep, .readerStep, .readerStep]

/-- The read side after `sampleReadSchedule`. -/
def sampleReadState : ReadSide Nat :=
  { (initial : ReadSide Nat) with
    buffer := { readBufQueue := [], bytesRead := 0 }
    readEof := true
    readWaker := true
    slot := some 1
    callback := .closeNow
    streamEnded := true
    committed := [10, 20, 30]
    polls :=
      [{ waker := 1, mark := 0, result := .ready [] },
        { waker := 1, mark := 0, result := .ready [30] },
        { waker := 1, mark := 0, result := .ready [10, 20] }] }

theorem readStream_integrity_sample :
    run? (step .established) initial sampleReadSchedule =
        some sampleReadState ∧
      returnedBytes sampleReadState.polls ++
          sampleReadState.buffer.readBufQueue.flatten =
        sampleReadState.committed := by
  have performed :
      run? (step .established) initial sampleReadSchedule =
        some sampleReadState := by
    decide
  exact ⟨performed,
    (readStream_integrity
      (reachable_of_run? (.start rfl) performed)).1⟩

end ReadSide

end FizzRs
