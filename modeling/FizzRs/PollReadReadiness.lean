import FizzRs.ReadStreamIntegrity
import FizzRs.ReadWakeUp

namespace FizzRs

open LabelledSystem

/-!
# What a poll of the read side reports

No bytes read means three different things: nothing has arrived, the stream has
ended, or the caller's buffer is full.  `poll_read` tells the first two apart by
the flag that the foreign call returns with the count; it has no test for the
third.  With room in the caller's buffer a poll is pending exactly when there is
nothing to report, and it moves the next bytes of the stream, as many as there
are or as fit.  Without room it is pending unless the stream has ended.
-/

namespace ReadSide

/-- The committed bytes that no poll has returned yet. -/
def buffered (state : ReadSide Waker) : List UInt8 :=
  state.buffer.readBufQueue.flatten

/--
What the result of a poll should say about the state it found: it is pending
exactly when there is nothing to report and there is room, and a poll that is
ready has advanced the caller's buffer by the next bytes of the stream.
-/
structure ReportsState
    (state : ReadSide Waker)
    (capacity : Nat)
    (result : PollRead) :
    Prop where
  pendingIff :
    result = .pending ↔
      state.buffered = [] ∧ state.readEof = false ∧ 0 < capacity
  advances :
    ∀ filled, result = .ready filled →
      filled.length = min state.buffered.length capacity ∧
        returnedBytes state.polls ++ filled <+: state.committed

/-- The bytes that a poll takes are the next ones of the stream. -/
theorem StreamAccount.next_bytes
    {header : ConnectionHeader}
    {state : ReadSide Waker}
    (account : StreamAccount header state)
    (capacity : Nat) :
    returnedBytes state.polls ++ state.buffered.take capacity <+:
      state.committed := by
  rw [← account.conserved]
  exact (List.prefix_append_right_inj _).mpr (List.take_prefix _ _)

/-- A poll that found bytes reports the state exactly when there is room. -/
theorem reportsState_copied_iff
    {header : ConnectionHeader}
    {state : ReadSide Waker}
    (account : StreamAccount header state)
    (hasBytes : state.buffered ≠ [])
    (capacity : Nat) :
    state.ReportsState capacity
        (PollRead.ofOutcome (.ok
          ({ bytesRead := (state.buffered.take capacity).length
             eof := false },
            state.buffered.take capacity))) ↔
      0 < capacity := by
  constructor
  · intro reports
    by_contra noRoom
    have isFull : capacity = 0 := by
      omega
    have isPending :=
      reports.pendingIff.mp (by simp [isFull, PollRead.ofOutcome])
    exact hasBytes isPending.1
  · intro hasRoom
    have copies : state.buffered.take capacity ≠ [] := by
      intro nothing
      rcases List.take_eq_nil_iff.mp nothing with noRoom | noBytes
      · omega
      · exact hasBytes noBytes
    have isReady :
        PollRead.ofOutcome (.ok
            ({ bytesRead := (state.buffered.take capacity).length
               eof := false },
              state.buffered.take capacity)) =
          .ready (state.buffered.take capacity) := by
      simp only [PollRead.ofOutcome,
        List.length_pos_iff.mpr copies, ↓reduceIte, List.take_length]
    rw [isReady]
    refine ⟨?_, ?_⟩
    · simp [hasBytes]
    · intro filled sameFilled
      cases sameFilled
      refine ⟨?_, account.next_bytes capacity⟩
      rw [List.length_take, Nat.min_comm]

/-- A poll that found no bytes reports the state when there is room or an end. -/
theorem reportsState_empty_iff
    {header : ConnectionHeader}
    {state : ReadSide Waker}
    (account : StreamAccount header state)
    (noBytes : state.buffered = [])
    (capacity : Nat) :
    state.ReportsState capacity
        (PollRead.ofOutcome (.ok
          ({ bytesRead := 0, eof := state.readEof }, []))) ↔
      0 < capacity ∨ state.readEof = true := by
  rw [PollRead.ofOutcome_empty]
  by_cases ended : state.readEof = true
  · rw [if_pos ended]
    refine ⟨fun _ => .inr ended, fun _ => ⟨?_, ?_⟩⟩
    · simp [ended]
    · intro filled sameFilled
      cases sameFilled
      refine ⟨by simp [noBytes], ?_⟩
      simpa using account.next_bytes 0
  · rw [if_neg ended]
    constructor
    · intro reports
      exact .inl (reports.pendingIff.mp rfl).2.2
    · intro cause
      have hasRoom : 0 < capacity := by
        rcases cause with hasRoom | isEnded
        · exact hasRoom
        · exact (ended isEnded).elim
      exact ⟨by simp [noBytes, ended, hasRoom], by simp⟩

/--
The poll that completes reports the state it found exactly when its buffer has
room, or nothing is buffered and the stream has ended.
-/
theorem pollRead_reportsState_iff
    [TaskWaker Waker]
    {state following : ReadSide Waker}
    {action : Action Waker}
    {call : ReadCall Waker}
    {record : PollRecord Waker}
    (reachable :
      Reachable (step .established) (fun start => start = initial) state)
    (inProgress : state.reader.call? = some call)
    (taken : state.step .established action = some following)
    (completes : following.polls = record :: state.polls) :
    state.ReportsState call.capacity record.result ↔
      0 < call.capacity ∨ state.buffered = [] ∧ state.readEof = true := by
  have discipline := ReadDiscipline.of_reachable reachable
  have account := StreamAccount.of_reachable reachable
  have count :
      state.buffer.bytesRead = state.buffered.length := discipline.counted
  have transition := Transition.of_step taken
  cases transition with
  | refuse call message _ rejected =>
      cases rejected
  | takeFails call message _ _ failed =>
      exact (discipline.take_ne_error _ _ failed).elim
  | takeBytes itsCall copied remaining atLocked notEmpty succeeds =>
      simp only [complete, List.cons.injEq, and_true] at completes
      subst record
      rw [atLocked] at inProgress
      cases inProgress
      obtain ⟨rest, takes, _⟩ :=
        ReadBuffer.exists_take discipline.counted call.capacity
      rw [succeeds] at takes
      cases takes
      have hasBytes : state.buffered ≠ [] := by
        intro noBytes
        rw [noBytes] at count
        exact notEmpty count
      have onlyRoom :
          (0 < call.capacity ∨
              state.buffered = [] ∧ state.readEof = true) ↔
            0 < call.capacity := by
        simp [hasBytes]
      rw [onlyRoom]
      exact reportsState_copied_iff account hasBytes call.capacity
  | loadEof itsCall atEmpty =>
      simp only [complete, List.cons.injEq, and_true] at completes
      subst record
      rw [atEmpty] at inProgress
      cases inProgress
      have noBytes : state.buffered = [] := by
        rw [← List.length_eq_zero_iff, ← count]
        exact discipline.emptySeen call atEmpty
      have emptyIff := reportsState_empty_iff account noBytes call.capacity
      simpa [noBytes] using emptyIff
  | _ =>
      simp [releasePending] at completes

/-- One byte arrives and a poll with a buffer of this size holds the lock. -/
def lockedPollSchedule (capacity : Nat) : List (Action Nat) :=
  [.getReadBuffer 65536 true, .readDataAvailable [10],
    .callbackStep, .callbackStep, .callbackStep, .callbackStep,
    .setReadWaker, .pollRead 1 capacity, .readerStep]

/-- The read side after `lockedPollSchedule`. -/
def lockedPollState (capacity : Nat) : ReadSide Nat :=
  { (initial : ReadSide Nat) with
    readMutex := some .caller
    buffer := { readBufQueue := [[10]], bytesRead := 1 }
    readWaker := true
    slot := some 1
    reader := .locked { waker := 1, mark := 0, capacity := capacity }
    committed := [10] }

/-- The schedule leads there, whatever the size of the buffer. -/
theorem lockedPollState_reachable
    (capacity : Nat) :
    Reachable (step .established) (fun start => start = initial)
      (lockedPollState capacity) := by
  have performed :
      run? (step .established) initial (lockedPollSchedule capacity) =
        some (lockedPollState capacity) :=
    rfl
  exact reachable_of_run? (.start rfl) performed

/-- The read side when that poll has returned the byte. -/
def returnedPollState : ReadSide Nat :=
  { (lockedPollState 4) with
    readMutex := none
    buffer := .empty
    reader := .idle
    polls := [{ waker := 1, mark := 0, result := .ready [10] }] }

theorem pollRead_reportsState_iff_sample :
    (lockedPollState 4).step .established .readerStep =
        some returnedPollState ∧
      (lockedPollState 4).ReportsState 4 (.ready [10]) := by
  have returns :
      (lockedPollState 4).step .established .readerStep =
        some returnedPollState := by
    decide
  refine ⟨returns, ?_⟩
  exact
    (pollRead_reportsState_iff (lockedPollState_reachable 4) rfl returns
      rfl).mpr (.inl (by decide))

/-- A poll without room is pending although a byte is buffered. -/
theorem fullBuffer_pending :
    ∃ following record,
      Reachable (step .established) (fun start => start = initial)
          (lockedPollState 0) ∧
        (lockedPollState 0).step .established .readerStep =
          some following ∧
        following.polls = record :: (lockedPollState 0).polls ∧
        (lockedPollState 0).buffered = [10] ∧
        record.result = .pending ∧
        ¬ (lockedPollState 0).ReportsState 0 record.result := by
  refine ⟨_, _, lockedPollState_reachable 0, rfl, rfl, rfl, rfl, ?_⟩
  intro reports
  cases (reports.pendingIff.mp rfl).1

end ReadSide

end FizzRs
