import FizzRs.ReadStreamIntegrity

namespace FizzRs

open LabelledSystem

/-!
# No lost wake-up

A poll registers its `Waker` before it inspects the connection, and a callback
commits its update before it takes the slot.  So whenever a poll returned
`Pending` and there is something to report, the registered waker has fired, or
some callback is still on its way to take it.

The invariant follows the waker of the latest poll through the three places it
can be: the slot, the hand of the callback that took it, and the list of wakers
fired since the registration.
-/

/-- Waking `fired` wakes the task of `waker`. -/
def Wakes
    [TaskWaker Waker]
    (fired waker : Waker) :
    Prop :=
  fired = waker ∨ TaskWaker.willWake fired waker = true

/-- After registration the slot wakes the registering task. -/
theorem registerWaker_wakes
    [TaskWaker Waker]
    (slot : Option Waker)
    (waker : Waker) :
    ∃ stored, registerWaker slot waker = some stored ∧ Wakes stored waker := by
  cases slot with
  | none =>
      exact ⟨waker, rfl, .inl rfl⟩
  | some existing =>
      by_cases same : TaskWaker.willWake existing waker = true
      · exact ⟨existing, by simp [registerWaker, same], .inr same⟩
      · exact ⟨waker, by simp [registerWaker, same], .inl rfl⟩

namespace CallbackPc

/-- The callback has updated the state and has yet to take the slot. -/
def willTake : CallbackPc Waker → Bool
  | .dataCommitted => true
  | .eofStored => true
  | .closeNow => true
  | .wakeReader => true
  | .wakerLocked => true
  | _ => false

/-- A callback that will take the slot owes a wake. -/
theorem owesWake_of_willTake
    {callback : CallbackPc Waker}
    (takes : callback.willTake = true) :
    callback.owesWake = true := by
  cases callback <;> simp_all [willTake, owesWake]

/-- An end-of-stream callback starts from a position that owes nothing. -/
theorem willTake_of_acceptsEnd
    {callback : CallbackPc Waker}
    (accepts : callback.acceptsEnd = true) :
    callback.willTake = false := by
  cases callback <;> simp_all [willTake, acceptsEnd]

end CallbackPc

/-- The poll in progress, if there is one. -/
def ReaderPc.call? : ReaderPc Waker → Option (ReadCall Waker)
  | .idle => none
  | .registered call => some call
  | .locked call => some call
  | .sawEmpty call => some call

namespace ReadSide

/-- A poll is given a buffer with room. -/
def Action.roomy : Action Waker → Bool
  | .pollRead _ capacity => decide (0 < capacity)
  | _ => true

/-- The condition that every poll of a run is given a buffer with room. -/
abbrev RoomyPolls
    (_ : ReadSide Waker)
    (action : Action Waker) :
    Prop :=
  action.roomy = true

/-- There are bytes to return or an end of stream to signal. -/
def Reportable (state : ReadSide Waker) : Prop :=
  0 < state.buffer.bytesRead ∨ state.readEof = true

/-- Once there is something to report, a callback is on its way to the slot. -/
def Promised (state : ReadSide Waker) : Prop :=
  state.Reportable → state.callback.willTake = true

/-- A promise made where nothing is owed says that nothing is reportable. -/
theorem Promised.of_quiet
    {state following : ReadSide Waker}
    (promised : state.Promised)
    (quiet : state.callback.willTake = false)
    (sameReport : following.Reportable → state.Reportable) :
    following.Promised := by
  intro reportable
  have takes := promised (sameReport reportable)
  rw [quiet] at takes
  cases takes

section

variable [TaskWaker Waker]

/-- The task of `waker` was woken after the first `mark` wakes. -/
def WokenSince
    (state : ReadSide Waker)
    (waker : Waker)
    (mark : Nat) :
    Prop :=
  ∃ fired ∈ state.wakes.drop mark, Wakes fired waker

/-- A callback holds a waker of this task in its hand. -/
def Taken
    (state : ReadSide Waker)
    (waker : Waker) :
    Prop :=
  ∃ taken, state.callback = .wakerTaken (some taken) ∧ Wakes taken waker

/-- The slot holds a waker of this task. -/
def Slotted
    (state : ReadSide Waker)
    (waker : Waker) :
    Prop :=
  ∃ stored, state.slot = some stored ∧ Wakes stored waker

/--
Where the waker of a poll can be.  A waker of a completed poll may stay in the
slot only under the promise; a poll in progress will still inspect the state.
-/
def Tracked
    (state : ReadSide Waker)
    (waker : Waker)
    (mark : Nat)
    (completed : Bool) :
    Prop :=
  state.WokenSince waker mark ∨ state.Taken waker ∨
    (state.Slotted waker ∧ (completed = true → state.Promised))

/-- Firing appends to the wakers fired since any registration. -/
theorem WokenSince.append
    {state : ReadSide Waker}
    {waker : Waker}
    {mark : Nat}
    (woken : state.WokenSince waker mark)
    (later : List Waker) :
    ∃ fired ∈ (state.wakes ++ later).drop mark, Wakes fired waker := by
  obtain ⟨fired, member, wakes⟩ := woken
  refine ⟨fired, ?_, wakes⟩
  rw [List.drop_append]
  exact List.mem_append_left _ member

/-- A step that leaves slot, fired wakers and taken waker alone keeps the track. -/
theorem Tracked.of_unchanged
    {state following : ReadSide Waker}
    {waker : Waker}
    {mark : Nat}
    {completed : Bool}
    (tracked : state.Tracked waker mark completed)
    (sameWakes : following.wakes = state.wakes)
    (sameSlot : following.slot = state.slot)
    (keepTaken :
      ∀ taken,
        state.callback = .wakerTaken (some taken) →
        following.callback = .wakerTaken (some taken))
    (keepPromise : state.Promised → following.Promised) :
    following.Tracked waker mark completed := by
  rcases tracked with woken | ⟨taken, inHand, wakes⟩ | ⟨slotted, promised⟩
  · left
    simpa [WokenSince, sameWakes] using woken
  · right
    left
    exact ⟨taken, keepTaken taken inHand, wakes⟩
  · right
    right
    refine ⟨?_, fun isCompleted => keepPromise (promised isCompleted)⟩
    simpa [Slotted, sameSlot] using slotted

/-- Every step of the loop thread keeps track of a registered waker. -/
theorem Transition.tracked
    {header : ConnectionHeader}
    {state following : ReadSide Waker}
    {action : Action Waker}
    (transition : Transition header state action following)
    (sameReader : following.reader = state.reader)
    (installed : state.readWaker = true)
    {waker : Waker}
    {mark : Nat}
    {completed : Bool}
    (bounded : mark ≤ state.wakes.length)
    (tracked : state.Tracked waker mark completed) :
    following.Tracked waker mark completed := by
  cases transition with
  | setReadWaker missing =>
      rw [installed] at missing
      cases missing
  | register _ _ atIdle _ =>
      rw [atIdle] at sameReader
      cases sameReader
  | refuse _ _ here _ =>
      rw [here] at sameReader
      cases sameReader
  | lockRead _ here _ _ =>
      rw [here] at sameReader
      cases sameReader
  | inspectEmpty _ here _ =>
      rw [here] at sameReader
      cases sameReader
  | takeFails _ _ here _ _ =>
      rw [here] at sameReader
      cases sameReader
  | takeBytes _ _ _ here _ _ =>
      rw [here] at sameReader
      cases sameReader
  | loadEof _ here =>
      rw [here] at sameReader
      cases sameReader
  | getReadBuffer length fresh here _ =>
      exact tracked.of_unchanged rfl rfl (by simp [here])
        (fun promised => promised.of_quiet (by simp [here,
          CallbackPc.willTake]) id)
  | readDataAvailable length fresh bytes here _ _ =>
      exact tracked.of_unchanged rfl rfl (by simp [here])
        (fun _ _ => rfl)
  | releaseData here =>
      exact tracked.of_unchanged rfl rfl (by simp [here])
        (fun _ _ => rfl)
  | readEOF accepts =>
      refine tracked.of_unchanged rfl rfl ?_ (fun _ _ => rfl)
      intro taken inHand
      simp [inHand, CallbackPc.acceptsEnd] at accepts
  | readErr message accepts =>
      refine tracked.of_unchanged rfl rfl ?_
        (fun promised => promised.of_quiet
          (CallbackPc.willTake_of_acceptsEnd accepts) id)
      intro taken inHand
      simp [inHand, CallbackPc.acceptsEnd] at accepts
  | releaseEof here =>
      exact tracked.of_unchanged rfl rfl (by simp [here])
        (fun _ _ => rfl)
  | releaseErr here =>
      exact tracked.of_unchanged rfl rfl (by simp [here])
        (fun promised => promised.of_quiet (by simp [here,
          CallbackPc.willTake]) id)
  | storeEof here =>
      exact tracked.of_unchanged rfl rfl (by simp [here])
        (fun _ _ => rfl)
  | closeNow here =>
      exact tracked.of_unchanged rfl rfl (by simp [here])
        (fun _ _ => rfl)
  | lockWaker here _ =>
      exact tracked.of_unchanged rfl rfl (by simp [here])
        (fun _ _ => rfl)
  | takeWaker here _ =>
      rcases tracked with woken | ⟨taken, inHand, _⟩ |
        ⟨⟨stored, inSlot, wakes⟩, _⟩
      · exact .inl woken
      · rw [here] at inHand
        cases inHand
      · exact .inr (.inl ⟨stored, by simp [inSlot], wakes⟩)
  | skipWaker _ missing =>
      rw [installed] at missing
      cases missing
  | fireNothing here =>
      exact tracked.of_unchanged rfl rfl (by simp [here])
        (fun promised => promised.of_quiet (by simp [here,
          CallbackPc.willTake]) id)
  | fireWaker fired here =>
      rcases tracked with woken | ⟨taken, inHand, wakes⟩ |
        ⟨slotted, promised⟩
      · exact .inl (woken.append [fired])
      · rw [here] at inHand
        cases inHand
        refine .inl ⟨fired, ?_, wakes⟩
        rw [List.drop_append_of_le_length bounded]
        simp
      · refine .inr (.inr ⟨slotted, fun isCompleted => ?_⟩)
        exact (promised isCompleted).of_quiet (by simp [here,
          CallbackPc.willTake]) id
  | unlockWaker here =>
      exact tracked.of_unchanged rfl rfl (by simp [here])
        (fun promised => promised.of_quiet (by simp [here,
          CallbackPc.willTake]) id)

/-- A step of the loop thread leaves the polls alone and only adds wakes. -/
theorem Transition.loop_frame
    {header : ConnectionHeader}
    {state following : ReadSide Waker}
    {action : Action Waker}
    (transition : Transition header state action following)
    (sameReader : following.reader = state.reader) :
    following.polls = state.polls ∧
      (state.readWaker = true → following.readWaker = true) ∧
      state.wakes.length ≤ following.wakes.length := by
  cases transition with
  | fireWaker fired here =>
      simp
  | _ =>
      simp_all [complete, releasePending]

/-- The waker of the latest poll is accounted for. -/
structure WakeAccount (state : ReadSide Waker) : Prop where
  installed :
    state.reader ≠ .idle ∨ state.polls ≠ [] → state.readWaker = true
  inFlight :
    ∀ call,
      state.reader.call? = some call →
      0 < call.capacity ∧
        call.mark ≤ state.wakes.length ∧
        state.Tracked call.waker call.mark false
  settled :
    ∀ record earlier,
      state.reader = .idle →
      state.polls = record :: earlier →
      record.result = .pending →
      record.mark ≤ state.wakes.length ∧
        state.Tracked record.waker record.mark true

namespace WakeAccount

/-- No poll has been made when the read callback is installed. -/
theorem initially :
    WakeAccount (initial : ReadSide Waker) where
  installed := by simp [initial]
  inFlight := by simp [initial, ReaderPc.call?]
  settled := by simp [initial]

/-- A step of the loop thread keeps the account. -/
theorem loop_preserved
    {header : ConnectionHeader}
    {state following : ReadSide Waker}
    {action : Action Waker}
    (account : WakeAccount state)
    (transition : Transition header state action following)
    (sameReader : following.reader = state.reader) :
    WakeAccount following := by
  obtain ⟨samePolls, keepsWaker, moreWakes⟩ :=
    transition.loop_frame sameReader
  refine
    { installed := ?_
      inFlight := ?_
      settled := ?_ }
  · rw [sameReader, samePolls]
    exact fun started => keepsWaker (account.installed started)
  · intro call inProgress
    rw [sameReader] at inProgress
    obtain ⟨roomy, bounded, tracked⟩ := account.inFlight call inProgress
    have notIdle : state.reader ≠ .idle := by
      intro atIdle
      simp [atIdle, ReaderPc.call?] at inProgress
    exact ⟨roomy, Nat.le_trans bounded moreWakes,
      transition.tracked sameReader
        (account.installed (.inl notIdle)) bounded tracked⟩
  · intro record earlier atIdle latest isPending
    rw [sameReader] at atIdle
    rw [samePolls] at latest
    obtain ⟨bounded, tracked⟩ :=
      account.settled record earlier atIdle latest isPending
    exact ⟨Nat.le_trans bounded moreWakes,
      transition.tracked sameReader
        (account.installed (.inr (by simp [latest]))) bounded tracked⟩

/-- Completing a poll with a result other than `Pending` keeps the account. -/
theorem complete_other
    {state : ReadSide Waker}
    {call : ReadCall Waker}
    {result : PollRead}
    (installed : state.readWaker = true)
    (notPending : result ≠ .pending) :
    WakeAccount (state.complete call result) where
  installed := fun _ => installed
  inFlight := by simp [complete, ReaderPc.call?]
  settled := by
    intro record earlier _ latest isPending
    simp only [complete, List.cons.injEq] at latest
    rw [← latest.1] at isPending
    exact (notPending isPending).elim

/-- Moving on inside a poll keeps the account. -/
theorem advance
    {state : ReadSide Waker}
    (account : WakeAccount state)
    {call : ReadCall Waker}
    {next : ReaderPc Waker}
    {mutex : Option Thread}
    (inProgress : state.reader.call? = some call)
    (sameCall : next.call? = some call) :
    WakeAccount { state with readMutex := mutex, reader := next } where
  installed := by
    intro _
    refine account.installed (.inl ?_)
    intro atIdle
    simp [atIdle, ReaderPc.call?] at inProgress
  inFlight := by
    intro later atLater
    simp only at atLater
    rw [sameCall] at atLater
    cases atLater
    exact account.inFlight call inProgress
  settled := by
    intro record earlier atIdle
    simp only at atIdle
    simp [atIdle, ReaderPc.call?] at sameCall

/-- One atomic step keeps the account, provided polls come with room. -/
theorem preserved
    {header : ConnectionHeader}
    {state following : ReadSide Waker}
    {action : Action Waker}
    (account : WakeAccount state)
    (discipline : ReadDiscipline header state)
    (roomy : RoomyPolls state action)
    (transition : Transition header state action following) :
    WakeAccount following := by
  by_cases sameReader : following.reader = state.reader
  · exact account.loop_preserved transition sameReader
  have installedAt :
      ∀ call,
        state.reader.call? = some call → state.readWaker = true := by
    intro call inProgress
    refine account.installed (.inl ?_)
    intro atIdle
    simp [atIdle, ReaderPc.call?] at inProgress
  cases transition with
  | register waker capacity _ installed =>
      obtain ⟨stored, inSlot, wakes⟩ :=
        registerWaker_wakes state.slot waker
      refine
        { installed := fun _ => installed
          inFlight := ?_
          settled := by simp }
      intro call isNew
      simp only [ReaderPc.call?, Option.some.injEq] at isNew
      subst call
      exact ⟨by simpa [RoomyPolls, Action.roomy] using roomy,
        Nat.le_refl _,
        .inr (.inr ⟨⟨stored, inSlot, wakes⟩, by simp⟩)⟩
  | refuse call message here _ =>
      exact complete_other
        (installedAt call (by simp [here, ReaderPc.call?])) (by simp)
  | lockRead call here _ _ =>
      exact account.advance (by simp [here, ReaderPc.call?]) rfl
  | inspectEmpty call here _ =>
      exact account.advance (by simp [here, ReaderPc.call?]) rfl
  | takeFails call message here _ _ =>
      exact complete_other
        (installedAt call (by simp [here, ReaderPc.call?])) (by simp)
  | takeBytes call copied remaining here notEmpty succeeds =>
      have inProgress : state.reader.call? = some call := by
        simp [here, ReaderPc.call?]
      obtain ⟨hasRoom, _⟩ := account.inFlight call inProgress
      refine complete_other (installedAt call inProgress) ?_
      have someCopied : copied ≠ [] :=
        ReadBuffer.take_ne_nil discipline.counted notEmpty hasRoom succeeds
      obtain ⟨byte, rest, rfl⟩ := List.exists_cons_of_ne_nil someCopied
      simp [PollRead.ofOutcome]
  | loadEof call here =>
      have inProgress : state.reader.call? = some call := by
        simp [here, ReaderPc.call?]
      obtain ⟨_, bounded, tracked⟩ := account.inFlight call inProgress
      refine
        { installed := fun _ => installedAt call inProgress
          inFlight := by simp [complete, ReaderPc.call?]
          settled := ?_ }
      intro record earlier _ latest isPending
      simp only [complete, List.cons.injEq] at latest
      obtain ⟨isLatest, _⟩ := latest
      subst record
      have flagDown : state.readEof = false := by
        by_contra raised
        simp [raised] at isPending
      have nothing : ¬ state.Reportable := by
        simp [Reportable, flagDown, discipline.emptySeen call here]
      refine ⟨bounded, ?_⟩
      rcases tracked with woken | taken | ⟨slotted, _⟩
      · exact .inl woken
      · exact .inr (.inl taken)
      · exact .inr (.inr ⟨slotted, fun _ reportable =>
          (nothing reportable).elim⟩)
  | _ =>
      exact (sameReader rfl).elim

/-- Every state reached by polls with room keeps the account. -/
theorem of_reachable
    {header : ConnectionHeader}
    {state : ReadSide Waker}
    (reachable :
      ReachableWhile (step header) RoomyPolls
        (fun start => start = initial) state) :
    WakeAccount state := by
  refine reachable.invariant_from ?_ ?_
  · exact initially
  · intro before after action earlier account roomy taken
    exact account.preserved
      (.of_reachable (earlier.weaken (fun _ => trivial)))
      roomy (.of_step taken)

end WakeAccount

/--
When no poll is under way, the latest poll returned `Pending`, there is
something to report, and no callback still owes its wake, then the waker of that
poll has been woken since it was registered.
-/
theorem pendingPoll_woken
    {header : ConnectionHeader}
    {state : ReadSide Waker}
    (reachable :
      ReachableWhile (step header) RoomyPolls
        (fun start => start = initial) state)
    {record : PollRecord Waker}
    (latest : state.polls.head? = some record)
    (noLaterPoll : state.reader = .idle)
    (isPending : record.result = .pending)
    (reportable : state.Reportable)
    (nothingOwed : state.callback.owesWake = false) :
    state.WokenSince record.waker record.mark := by
  obtain ⟨earlier, shape⟩ := List.head?_eq_some_iff.mp latest
  obtain ⟨_, tracked⟩ :=
    (WakeAccount.of_reachable reachable).settled
      record earlier noLaterPoll shape isPending
  rcases tracked with woken | ⟨taken, inHand, _⟩ | ⟨_, promised⟩
  · exact woken
  · simp [inHand, CallbackPc.owesWake] at nothingOwed
  · have owes :=
      CallbackPc.owesWake_of_willTake (promised rfl reportable)
    rw [nothingOwed] at owes
    cases owes

end

/-- A poll by task 1 is told to wait; data then arrives and wakes task 1. -/
def sampleWakeSchedule : List (Action Nat) :=
  [.setReadWaker, .pollRead 1 8, .readerStep, .readerStep, .readerStep,
    .getReadBuffer 65536 true, .readDataAvailable [7], .callbackStep,
    .callbackStep, .callbackStep, .callbackStep, .callbackStep]

/-- The read side after `sampleWakeSchedule`. -/
def sampleWakeState : ReadSide Nat :=
  { (initial : ReadSide Nat) with
    buffer := { readBufQueue := [[7]], bytesRead := 1 }
    readWaker := true
    committed := [7]
    polls := [{ waker := 1, mark := 0, result := .pending }]
    wakes := [1] }

theorem sampleWakeState_reachable :
    ReachableWhile (step .established) RoomyPolls
      (fun start => start = initial) sampleWakeState := by
  have performed :
      run? (restrict (step .established) fun _ action => action.roomy)
        initial sampleWakeSchedule = some sampleWakeState := by
    decide
  exact reachableWhile_of_run? (.start rfl) performed

theorem pendingPoll_woken_sample :
    sampleWakeState.Reportable ∧
      sampleWakeState.WokenSince 1 0 :=
  ⟨.inl (by decide),
    pendingPoll_woken sampleWakeState_reachable rfl rfl rfl
      (.inl (by decide)) rfl⟩

/--
A poll by task 1 is told to wait, a poll by task 2 registers and so replaces the
waker of task 1, and data arrives before the second poll inspects the queue.
-/
def replacedWakerSchedule : List (Action Nat) :=
  [.setReadWaker, .pollRead 1 8, .readerStep, .readerStep, .readerStep,
    .pollRead 2 8, .getReadBuffer 65536 true, .readDataAvailable [7],
    .callbackStep, .callbackStep, .callbackStep, .callbackStep,
    .callbackStep]

/-- The read side after `replacedWakerSchedule`: only task 2 was woken. -/
def replacedWakerState : ReadSide Nat :=
  { sampleWakeState with
    reader := .registered { waker := 2, mark := 0, capacity := 8 }
    wakes := [2] }

/--
While a later poll is under way, the waker of the latest completed poll may have
been replaced, and then it is not woken.
-/
theorem replacedWaker_not_woken :
    ¬ ∀ (state : ReadSide Nat) (record : PollRecord Nat),
        ReachableWhile (step .established) RoomyPolls
          (fun start => start = initial) state →
        state.polls.head? = some record →
        record.result = .pending →
        state.Reportable →
        state.callback.owesWake = false →
        state.WokenSince record.waker record.mark := by
  intro everyPollWoken
  have performed :
      run? (restrict (step .established) fun _ action => action.roomy)
        initial replacedWakerSchedule = some replacedWakerState := by
    decide
  obtain ⟨fired, member, wakes⟩ :=
    everyPollWoken replacedWakerState
      { waker := 1, mark := 0, result := .pending }
      (reachableWhile_of_run? (.start rfl) performed) rfl rfl
      (.inl (by decide)) rfl
  simp only [replacedWakerState, List.drop_zero,
    List.mem_singleton] at member
  subst fired
  simp [Wakes, TaskWaker.willWake] at wakes

end ReadSide

end FizzRs
