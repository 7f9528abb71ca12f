import FizzRs.ReadStreamIntegrity

namespace FizzRs

open LabelledSystem

/-!
# Lock discipline of the read buffer

`read_mutex` is locked in `getReadBuffer` and unlocked in whichever of
`readDataAvailable`, `readEOF` and `readErr` comes next, depending on a plain
flag.  The byte count is kept apart from the queue.  This module states what
that relies on: which thread performs each `lock` and `unlock`, and that the
count bounds every `split`, every copy and every subtraction of a read.

The only contract assumed here is the pairing of the callbacks.  Data may also
follow an end of stream, so the results are about `stepPaired`, which has more
runs than `step`.
-/

/-- The statements of the source that lock or unlock `read_mutex`. -/
inductive MutexStatement where
  | lock (thread : Thread)
  | unlock (thread : Thread)
  deriving Repr, DecidableEq

/-- What a statement makes of the holder of the mutex. -/
def MutexStatement.effect :
    Option MutexStatement → Option Thread → Option Thread
  | some (.lock thread), _ => some thread
  | some (.unlock _), _ => none
  | none, holder => holder

/-- No read callback is executing; a buffer may be outstanding. -/
def CallbackPc.betweenCallbacks : CallbackPc Waker → Bool
  | .idle => true
  | .bufferHanded _ _ => true
  | _ => false

namespace ReadBuffer

/--
What a read of a counted buffer does inside its critical section: the split
succeeds, no iteration of the copy loop passes the end of the caller's buffer,
and exactly the bytes split off are copied.
-/
theorem split_and_copy
    {buffer : ReadBuffer}
    (counted : buffer.Counted)
    (capacity : Nat) :
    ∃ data remaining,
      ByteChain.split buffer.readBufQueue (min buffer.bytesRead capacity) =
          some (data, remaining) ∧
        (∀ visited,
          (ByteChain.copyNodes capacity (data.take visited) []).length ≤
            capacity) ∧
        ByteChain.copyNodes capacity data [] = data.flatten ∧
        data.flatten =
          buffer.readBufQueue.flatten.take (min buffer.bytesRead capacity) ∧
        data.flatten.length = min buffer.bytesRead capacity := by
  have count :
      buffer.bytesRead = buffer.readBufQueue.flatten.length := counted
  have enough :
      min buffer.bytesRead capacity ≤
        buffer.readBufQueue.flatten.length := by
    omega
  obtain ⟨data, remaining, splits, dataIs, _⟩ :=
    ByteChain.exists_split enough
  have dataLength : data.flatten.length = min buffer.bytesRead capacity := by
    rw [dataIs, List.length_take]
    omega
  refine ⟨data, remaining, splits, ?_, ?_, dataIs, dataLength⟩
  · intro visited
    exact ByteChain.length_copyNodes_le _ (Nat.zero_le capacity)
  · apply ByteChain.copyNodes_of_fits
    rw [dataLength, List.length_nil]
    omega

end ReadBuffer

namespace ReadSide

/--
One atomic step under the pairing of the callbacks alone: a `getReadBuffer` is
followed by one of the other three before the next one.
-/
def stepPaired
    [TaskWaker Waker]
    (header : ConnectionHeader)
    (state : ReadSide Waker) :
    Action Waker → Option (ReadSide Waker)
  | .readDataAvailable bytes =>
      match state.callback with
      | .bufferHanded length fresh =>
          if bytes.length ≤ length then
            some { state with
              buffer := state.buffer.postallocate fresh bytes
              committed := state.committed ++ bytes
              callback := .dataCommitted }
          else
            none
      | _ => none
  | action => state.step header action

/--
The `lock` or `unlock` of `read_mutex` that the next step of a thread begins
with or ends with.  A `lock` is attempted whether or not the mutex is free.
-/
def mutexStatement?
    (header : ConnectionHeader)
    (state : ReadSide Waker) :
    Action Waker → Option MutexStatement
  | .readerStep =>
      match state.reader with
      | .idle => none
      | .registered _ =>
          if header.rejection? "read" = none then
            some (.lock .caller)
          else
            none
      | .locked _ =>
          if state.buffer.bytesRead = 0 then
            none
          else
            some (.unlock .caller)
      | .sawEmpty _ => some (.unlock .caller)
  | .getReadBuffer _ _ =>
      match state.callback with
      | .idle => some (.lock .eventLoop)
      | _ => none
  | .callbackStep =>
      match state.callback with
      | .dataCommitted => some (.unlock .eventLoop)
      | .eofStored =>
          if state.pendingRead then some (.unlock .eventLoop) else none
      | .errRecorded =>
          if state.pendingRead then some (.unlock .eventLoop) else none
      | _ => none
  | _ => none

/-- A step under the pairing contract commits data or is an ordinary step. -/
theorem stepPaired_cases
    [TaskWaker Waker]
    {header : ConnectionHeader}
    {state following : ReadSide Waker}
    {action : Action Waker}
    (taken : state.stepPaired header action = some following) :
    (∃ length fresh bytes,
      action = .readDataAvailable bytes ∧
        state.callback = .bufferHanded length fresh ∧
        following = { state with
          buffer := state.buffer.postallocate fresh bytes
          committed := state.committed ++ bytes
          callback := .dataCommitted }) ∨
      Transition header state action following := by
  cases action with
  | readDataAvailable bytes =>
      left
      simp only [stepPaired] at taken
      split at taken
      · next length fresh handed =>
          split at taken
          · cases taken
            exact ⟨length, fresh, bytes, rfl, handed, rfl⟩
          · cases taken
      · cases taken
  | setReadWaker =>
      exact .inr (.of_step taken)
  | pollRead waker capacity =>
      exact .inr (.of_step taken)
  | readerStep =>
      exact .inr (.of_step taken)
  | getReadBuffer length fresh =>
      exact .inr (.of_step taken)
  | readEOF =>
      exact .inr (.of_step taken)
  | readErr message =>
      exact .inr (.of_step taken)
  | callbackStep =>
      exact .inr (.of_step taken)

/-- The mutex changes hands exactly as the listed statements say. -/
theorem readMutex_of_stepPaired
    [TaskWaker Waker]
    {header : ConnectionHeader}
    {state following : ReadSide Waker}
    {action : Action Waker}
    (taken : state.stepPaired header action = some following) :
    following.readMutex =
      MutexStatement.effect
        (state.mutexStatement? header action) state.readMutex := by
  rcases stepPaired_cases taken with
    ⟨length, fresh, bytes, rfl, _, rfl⟩ | transition
  · rfl
  · cases transition with
    | setReadWaker _ => rfl
    | register _ _ _ _ => rfl
    | refuse _ _ here refused =>
        simp [complete, mutexStatement?, here, refused,
          MutexStatement.effect]
    | lockRead _ here accepted _ =>
        simp [mutexStatement?, here, accepted, MutexStatement.effect]
    | inspectEmpty _ here isEmpty =>
        simp [mutexStatement?, here, isEmpty, MutexStatement.effect]
    | takeFails _ _ here notEmpty _ =>
        simp [complete, mutexStatement?, here, notEmpty,
          MutexStatement.effect]
    | takeBytes _ _ _ here notEmpty _ =>
        simp [complete, mutexStatement?, here, notEmpty,
          MutexStatement.effect]
    | loadEof _ here =>
        simp [complete, mutexStatement?, here, MutexStatement.effect]
    | getReadBuffer _ _ here _ =>
        simp [mutexStatement?, here, MutexStatement.effect]
    | readDataAvailable _ _ _ _ _ _ => rfl
    | releaseData here =>
        simp [mutexStatement?, here, MutexStatement.effect]
    | readEOF _ => rfl
    | readErr _ _ => rfl
    | releaseEof here =>
        by_cases pending : state.pendingRead = true <;>
          simp [releasePending, mutexStatement?, here, pending,
            MutexStatement.effect]
    | releaseErr here =>
        by_cases pending : state.pendingRead = true <;>
          simp [releasePending, mutexStatement?, here, pending,
            MutexStatement.effect]
    | storeEof here =>
        simp [mutexStatement?, here, MutexStatement.effect]
    | closeNow here =>
        simp [mutexStatement?, here, MutexStatement.effect]
    | lockWaker here _ =>
        simp [mutexStatement?, here, MutexStatement.effect]
    | takeWaker here _ =>
        simp [mutexStatement?, here, MutexStatement.effect]
    | skipWaker here _ =>
        simp [mutexStatement?, here, MutexStatement.effect]
    | fireNothing here =>
        simp [mutexStatement?, here, MutexStatement.effect]
    | fireWaker _ here =>
        simp [mutexStatement?, here, MutexStatement.effect]
    | unlockWaker here =>
        simp [mutexStatement?, here, MutexStatement.effect]

namespace ReadDiscipline

/-- The discipline holds under the pairing contract alone. -/
theorem of_paired
    [TaskWaker Waker]
    {header : ConnectionHeader}
    {state : ReadSide Waker}
    (reachable :
      Reachable (stepPaired header) (fun start => start = initial) state) :
    ReadDiscipline header state := by
  refine reachable.invariant_from ?_ ?_
  · exact initially header
  · intro before after action _ discipline _ taken
    rcases stepPaired_cases taken with
      ⟨length, fresh, bytes, _, handed, rfl⟩ | transition
    · exact discipline.data_preserved handed bytes
    · exact discipline.preserved transition

/-- Every `unlock` is performed by the holder. -/
theorem unlock_by_holder
    {header : ConnectionHeader}
    {state : ReadSide Waker}
    (discipline : ReadDiscipline header state)
    {action : Action Waker}
    {thread : Thread}
    (unlocks :
      state.mutexStatement? header action = some (.unlock thread)) :
    state.readMutex = some thread := by
  unfold mutexStatement? at unlocks
  split at unlocks
  · split at unlocks
    · cases unlocks
    · split at unlocks <;> cases unlocks
    · next here =>
        split at unlocks
        · cases unlocks
        · cases unlocks
          exact discipline.callerHolds.mpr (by rw [here]; rfl)
    · next here =>
        cases unlocks
        exact discipline.callerHolds.mpr (by rw [here]; rfl)
  · split at unlocks <;> cases unlocks
  · split at unlocks
    · next here =>
        cases unlocks
        exact discipline.loopHolds.mpr
          (discipline.outstanding (by rw [here]; rfl))
    · split at unlocks
      · next pending =>
          cases unlocks
          exact discipline.loopHolds.mpr pending
      · cases unlocks
    · split at unlocks
      · next pending =>
          cases unlocks
          exact discipline.loopHolds.mpr pending
      · cases unlocks
    · cases unlocks
  · cases unlocks

/-- No `lock` is attempted by the holder. -/
theorem lock_by_other
    {header : ConnectionHeader}
    {state : ReadSide Waker}
    (discipline : ReadDiscipline header state)
    {action : Action Waker}
    {thread : Thread}
    (locks :
      state.mutexStatement? header action = some (.lock thread)) :
    state.readMutex ≠ some thread := by
  intro holds
  unfold mutexStatement? at locks
  split at locks
  · split at locks
    · cases locks
    · next here =>
        split at locks
        · cases locks
          have inside := discipline.callerHolds.mp holds
          rw [here] at inside
          cases inside
        · cases locks
    · split at locks <;> cases locks
    · cases locks
  · split at locks
    · next here =>
        cases locks
        have mayHold := discipline.settled (discipline.loopHolds.mp holds)
        rw [here] at mayHold
        cases mayHold
    · cases locks
  · split at locks
    · cases locks
    · split at locks <;> cases locks
    · split at locks <;> cases locks
    · cases locks
  · cases locks

end ReadDiscipline

/--
The read buffer's representation invariant and the discipline of `read_mutex`,
in every reachable state.  `toRead` of a read that found bytes is
`min bytesRead capacity`.
-/
theorem readBuffer_discipline
    [TaskWaker Waker]
    {header : ConnectionHeader}
    {state : ReadSide Waker}
    (reachable :
      Reachable (stepPaired header) (fun start => start = initial) state) :
    (state.callback.betweenCallbacks = true →
      (state.pendingRead = true ↔ state.readMutex = some .eventLoop)) ∧
    (∀ action thread,
      state.mutexStatement? header action = some (.unlock thread) →
        state.readMutex = some thread) ∧
    (∀ action thread,
      state.mutexStatement? header action = some (.lock thread) →
        state.readMutex ≠ some thread) ∧
    (∀ action following,
      state.stepPaired header action = some following →
        following.readMutex =
          MutexStatement.effect
            (state.mutexStatement? header action) state.readMutex) ∧
    (state.readMutex = none →
      state.buffer.bytesRead =
        state.buffer.readBufQueue.flatten.length) ∧
    (∀ call,
      state.reader = .locked call →
      state.buffer.bytesRead ≠ 0 →
      ∃ data remaining,
        ByteChain.split state.buffer.readBufQueue
            (min state.buffer.bytesRead call.capacity) =
          some (data, remaining) ∧
        (∀ visited,
          (ByteChain.copyNodes call.capacity
            (data.take visited) []).length ≤ call.capacity) ∧
        ByteChain.copyNodes call.capacity data [] =
          state.buffer.readBufQueue.flatten.take
            (min state.buffer.bytesRead call.capacity) ∧
        (ByteChain.copyNodes call.capacity data []).length =
          min state.buffer.bytesRead call.capacity ∧
        min state.buffer.bytesRead call.capacity ≤ state.buffer.bytesRead ∧
        state.buffer.take call.capacity =
          .ok (ByteChain.copyNodes call.capacity data [],
            { readBufQueue := remaining
              bytesRead :=
                state.buffer.bytesRead -
                  min state.buffer.bytesRead call.capacity })) := by
  have discipline := ReadDiscipline.of_paired reachable
  refine ⟨fun _ => discipline.loopHolds.symm,
    fun _ _ => discipline.unlock_by_holder,
    fun _ _ => discipline.lock_by_other,
    fun _ _ => readMutex_of_stepPaired,
    fun _ => discipline.counted, ?_⟩
  intro call _ _
  obtain ⟨data, remaining, splits, within, copies, dataIs, dataLength⟩ :=
    ReadBuffer.split_and_copy discipline.counted call.capacity
  refine ⟨data, remaining, splits, within, ?_, ?_, Nat.min_le_left _ _, ?_⟩
  · rw [copies, dataIs]
  · rw [copies, dataLength]
  · simp only [ReadBuffer.take, splits]

/-- An end of stream, then data all the same, then a read of the first byte. -/
def samplePairedSchedule : List (Action Nat) :=
  [.setReadWaker, .readEOF, .callbackStep, .callbackStep, .callbackStep,
    .callbackStep, .callbackStep, .callbackStep,
    .getReadBuffer 65536 true, .readDataAvailable [10, 20],
    .callbackStep, .pollRead 1 1, .readerStep]

/-- The read side after `samplePairedSchedule`. -/
def samplePairedState : ReadSide Nat :=
  { (initial : ReadSide Nat) with
    readMutex := some .caller
    buffer := { readBufQueue := [[10, 20]], bytesRead := 2 }
    readEof := true
    readWaker := true
    slot := some 1
    callback := .wakeReader
    reader := .locked { waker := 1, mark := 0, capacity := 1 }
    streamEnded := true
    committed := [10, 20] }

theorem readBuffer_discipline_sample :
    run? (stepPaired .established) initial samplePairedSchedule =
        some samplePairedState ∧
      samplePairedState.mutexStatement? .established .readerStep =
        some (.unlock .caller) ∧
      samplePairedState.readMutex = some .caller := by
  have performed :
      run? (stepPaired .established) initial samplePairedSchedule =
        some samplePairedState := by
    decide
  have unlocks :
      samplePairedState.mutexStatement? .established .readerStep =
        some (.unlock .caller) := by
    decide
  exact ⟨performed, unlocks,
    (readBuffer_discipline
      (reachable_of_run? (.start rfl) performed)).2.1 _ _ unlocks⟩

end ReadSide

end FizzRs
