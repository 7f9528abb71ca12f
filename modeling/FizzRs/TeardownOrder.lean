import FizzRs.ConnectionTeardown

namespace FizzRs

open LabelledSystem

/-!
# The order of a tear-down

Callbacks and posted functions run only while somebody runs the event loop: the
loop thread until it has been joined, and then the destructor while it destroys
the event base.  Both are over before the waker slot is released and before the
first member is destroyed, so a callback finds every member it uses, and a wake
that finds the slot set finds the `ReadWaker` behind it.
-/

/-- The loop thread is inside `ReadWaker::wake` of the box that C++ holds. -/
def CallbackPc.insideWake : CallbackPc Waker → Bool
  | .wakerTaken _ => true
  | _ => false

/-- The members are being destroyed, or are gone. -/
def DropPc.destroysMembers : DropPc → Bool
  | .destroying _ => true
  | .gone => true
  | _ => false

/-- The event loop is run by its own thread, if by anybody. -/
def DropPc.beforeDrain : DropPc → Bool
  | .draining => false
  | pc => !pc.evbReleased

namespace Connection

section

variable [TaskWaker Waker]
variable {side : Side}
variable {state following : Connection Waker}
variable {action : Action Waker}

/-- Callbacks and posted functions take steps only while the loop is run. -/
theorem Transition.running_of_onLoop
    (transition : Transition side state action following)
    (onLoop : action.onLoop = true) :
    state.loopRunning = true := by
  cases transition with
  | read action read allowed _ =>
      have byLoop : action.byLoop = true := onLoop
      simpa [mayRead, byLoop] using allowed
  | runWrite _ _ _ free _ _ =>
      exact free.1
  | runClose _ _ free _ _ =>
      exact free.1
  | loopExit free _ =>
      exact free.1
  | socketAccepts _ _ _ _ running =>
      exact running
  | writeSuccess _ _ _ _ running _ _ =>
      exact running
  | writeErr _ _ _ _ _ running _ =>
      exact running
  | raiseWriteError _ _ running _ =>
      exact running
  | transportCloses running =>
      exact running
  | _ =>
      cases onLoop

/-- No step of a connection starts the loop again. -/
theorem Transition.stopped_kept
    (transition : Transition side state action following)
    (stopped : state.loopRunning = false) :
    following.loopRunning = false := by
  cases transition with
  | loopExit _ _ =>
      rfl
  | _ =>
      exact stopped

/-- The loop stops at `loopExit` and at no other step. -/
theorem Transition.running_kept
    (transition : Transition side state action following)
    (running : state.loopRunning = true)
    (other : action ≠ .loopExit) :
    following.loopRunning = true := by
  cases transition with
  | loopExit _ _ =>
      exact (other rfl).elim
  | _ =>
      exact running

/-- The loop of a joined thread has stopped, after a step as before it. -/
theorem Transition.joined_kept
    (transition : Transition side state action following)
    (joined : state.evbThread = false → state.loopRunning = false) :
    following.evbThread = false → following.loopRunning = false := by
  cases transition with
  | join call _ stopped =>
      exact fun _ => stopped
  | loopExit _ _ =>
      exact fun _ => rfl
  | _ =>
      exact joined

/-- The loop stops outside its read callbacks, after a step as before it. -/
theorem Transition.outside_kept
    (transition : Transition side state action following)
    (outside :
      state.loopRunning = false → state.read.callback.isIdle = true) :
    following.loopRunning = false →
      following.read.callback.isIdle = true := by
  cases transition with
  | read action read allowed stepped =>
      intro stopped
      have atIdle := outside stopped
      have notByLoop : action.byLoop = false := by
        by_contra byLoop
        simp_all [mayRead]
      have readTransition := ReadSide.Transition.of_step stepped
      cases readTransition with
      | _ =>
          first
          | exact atIdle
          | cases notByLoop
  | loopExit free _ =>
      exact fun _ => free.2.1
  | _ =>
      exact outside

/-- Firing a wake means that the slot was found set; no step unsets it. -/
theorem Transition.firing_kept
    (transition : Transition side state action following)
    (firing :
      state.read.callback.insideWake = true → state.read.readWaker = true) :
    following.read.callback.insideWake = true →
      following.read.readWaker = true := by
  cases transition with
  | read action read allowed stepped =>
      have readTransition := ReadSide.Transition.of_step stepped
      cases readTransition with
      | setReadWaker _ =>
          exact fun _ => rfl
      | takeWaker _ installed =>
          exact fun _ => installed
      | refuse call message _ _ =>
          exact firing
      | takeFails call message _ _ _ =>
          exact firing
      | takeBytes call copied remaining _ _ _ =>
          exact firing
      | loadEof call _ =>
          exact firing
      | register waker capacity _ _ =>
          exact firing
      | lockRead call _ _ _ =>
          exact firing
      | inspectEmpty call _ _ =>
          exact firing
      | _ =>
          exact fun inside => nomatch inside
  | _ =>
      exact firing

/-- The slot is set by `set_*_read_waker` and by no other step. -/
theorem Transition.readWaker_eq
    (transition : Transition side state action following)
    (other : action ≠ .read .setReadWaker) :
    following.read.readWaker = state.read.readWaker := by
  cases transition with
  | read action read allowed stepped =>
      have readTransition := ReadSide.Transition.of_step stepped
      cases readTransition with
      | setReadWaker _ =>
          exact (other rfl).elim
      | _ =>
          rfl
  | _ =>
      rfl

end

end Connection

namespace ConnectionObject

/--
What holds at every point of a connection's life.  While the loop is not run its
thread is outside every callback; a joined thread runs no loop, and neither does
anybody once the event base is gone.  Members are intact until the destructor
body is over.  A set waker slot holds a live box, also while a wake goes through
it.
-/
structure TeardownAccount
    (state : ConnectionObject Waker) :
    Prop where
  outside :
    state.conn.loopRunning = false →
      state.conn.read.callback.isIdle = true
  settled :
    state.conn.loopRunning = false → state.phase.isSettled = true
  joined :
    state.pc.beforeDrain = true →
      state.conn.evbThread = false → state.conn.loopRunning = false
  released :
    state.pc.evbReleased = true → state.conn.loopRunning = false
  intact : state.pc.destroysMembers = false → state.destroyed = []
  boxed :
    state.conn.read.readWaker = true → state.wakerBox = .live
  firing :
    state.conn.read.callback.insideWake = true →
      state.conn.read.readWaker = true

namespace TeardownAccount

/-- A fresh connection is in order. -/
theorem initial :
    (ConnectionObject.initial : ConnectionObject Waker).TeardownAccount where
  outside := fun _ => rfl
  settled := fun _ => rfl
  joined := fun _ joined => nomatch joined
  released := fun released => nomatch released
  intact := fun _ => rfl
  boxed := fun installed => nomatch installed
  firing := fun inside => nomatch inside

section

variable [TaskWaker Waker]
variable {side : Side}
variable {state following : ConnectionObject Waker}

/-- A step of the connection keeps the account. -/
theorem conn
    (account : state.TeardownAccount)
    {action : Connection.Action Waker}
    {conn : Connection Waker}
    (allowed : state.mayStep action = true)
    (stepped : state.conn.step side action = some conn) :
    { state with
      conn := conn
      wakerBox := state.boxAfter action
      closeExecuted :=
        state.closeExecuted ||
          state.conn.closesTransport action }.TeardownAccount := by
  have transition := Connection.Transition.of_step stepped
  refine
    { outside := transition.outside_kept account.outside
      settled := ?_
      joined := fun before =>
        transition.joined_kept (account.joined before)
      released := fun released =>
        transition.stopped_kept (account.released released)
      intact := account.intact
      boxed := ?_
      firing := transition.firing_kept account.firing }
  · intro stopped
    by_cases exits : action = .loopExit
    · subst action
      have guard :
          state.pc ≠ .draining ∧ state.phase.isSettled = true := by
        simpa [mayStep] using allowed
      exact guard.2
    · apply account.settled
      by_contra running
      have stillRuns :=
        transition.running_kept (by simpa using running) exits
      simp_all
  · intro installed
    by_cases sets : action = .read .setReadWaker
    · subst action
      rfl
    · have sameBox : state.boxAfter action = state.wakerBox := by
        unfold boxAfter
        split
        · exact (sets rfl).elim
        · rfl
      rw [transition.readWaker_eq sets] at installed
      exact sameBox.trans (account.boxed installed)

/-- Beginning to drop a connection keeps the account. -/
theorem dropClient
    (account : state.TeardownAccount)
    {good : Bool}
    {conn : Connection Waker}
    (atHeld : state.pc = .held)
    (stepped : state.conn.step side (.closeCall .drop good) = some conn) :
    { state with
      conn := conn
      pc := .closing
      goodAtDrop := some good }.TeardownAccount := by
  have transition := Connection.Transition.of_step stepped
  have sameWaker := transition.readWaker_eq (by simp)
  exact
    { outside := transition.outside_kept account.outside
      settled := fun stopped => account.settled (by
        by_contra running
        have stillRuns :=
          transition.running_kept (by simpa using running) (by simp)
        simp_all)
      joined := fun _ =>
        transition.joined_kept (account.joined (by rw [atHeld]; rfl))
      released := fun released => nomatch released
      intact := fun _ => account.intact (by rw [atHeld]; rfl)
      boxed := fun installed => account.boxed (sameWaker ▸ installed)
      firing := transition.firing_kept account.firing }

/-- Every step keeps the account. -/
theorem preserved
    (account : state.TeardownAccount)
    {action : Action Waker}
    (taken : state.step side action = some following) :
    following.TeardownAccount := by
  have transition := Transition.of_step taken
  cases transition with
  | conn action conn allowed stepped =>
      exact account.conn allowed stepped
  | handshake event phase running moves =>
      exact { account with
        settled := fun stopped => by simp_all }
  | dropClient good conn isClient atHeld stepped =>
      exact account.dropClient atHeld stepped
  | dropServer good isServer atHeld free reported =>
      exact { account with
        joined := fun _ => account.joined (by rw [atHeld]; rfl)
        released := fun released => nomatch released
        intact := fun _ => account.intact (by rw [atHeld]; rfl) }
  | destroy atHeld missing =>
      exact { account with
        joined := fun _ => account.joined (by rw [atHeld]; rfl)
        released := fun released => nomatch released
        intact := fun _ => account.intact (by rw [atHeld]; rfl) }
  | leaveClose here returned =>
      exact { account with
        joined := fun _ => account.joined (by rw [here]; rfl)
        released := fun released => nomatch released
        intact := fun _ => account.intact (by rw [here]; rfl) }
  | terminate here joinable =>
      exact { account with
        joined := fun _ => account.joined (by rw [here]; rfl)
        released := fun released => nomatch released
        intact := fun _ => account.intact (by rw [here]; rfl) }
  | skipJoin here joined =>
      exact { account with
        joined := fun _ => account.joined (by rw [here]; rfl)
        released := fun released => nomatch released
        intact := fun _ => account.intact (by rw [here]; rfl) }
  | join here stopped =>
      exact { account with
        joined := fun _ _ => stopped
        released := fun released => nomatch released
        intact := fun _ => account.intact (by rw [here]; rfl) }
  | drain here =>
      exact { account with
        outside := fun stopped => nomatch stopped
        settled := fun stopped => nomatch stopped
        joined := fun before => nomatch before
        released := fun released => nomatch released
        intact := fun _ => account.intact (by rw [here]; rfl) }
  | drained here free settled noTasks =>
      exact { account with
        outside := fun _ => free.2.1
        settled := fun _ => settled
        joined := fun before => nomatch before
        released := fun _ => rfl
        intact := fun _ => account.intact (by rw [here]; rfl) }
  | lockWaker here free =>
      exact { account with
        joined := fun before => nomatch before
        released := fun _ => account.released (by rw [here]; rfl)
        intact := fun _ => account.intact (by rw [here]; rfl) }
  | resetWaker here =>
      have stopped := account.released (by rw [here]; rfl)
      have atIdle := account.outside stopped
      exact { account with
        joined := fun before => nomatch before
        released := fun _ => stopped
        intact := fun _ => account.intact (by rw [here]; rfl)
        boxed := fun installed => nomatch installed
        firing := fun inside => by
          cases atCallback : state.conn.read.callback <;>
            simp_all [CallbackPc.isIdle, CallbackPc.insideWake] }
  | unlockWaker here =>
      exact { account with
        joined := fun before => nomatch before
        released := fun _ => account.released (by rw [here]; rfl)
        intact := fun unstarted => nomatch unstarted }
  | destroyMember member remaining here =>
      exact { account with
        joined := fun before => nomatch before
        released := fun _ => account.released (by rw [here]; rfl)
        intact := fun unstarted => nomatch unstarted }
  | finish here =>
      exact { account with
        joined := fun before => nomatch before
        released := fun _ => account.released (by rw [here]; rfl)
        intact := fun unstarted => nomatch unstarted }

/-- Every reachable state is in order. -/
theorem of_reachable
    (reachable :
      Reachable (step side)
        (fun start => start = ConnectionObject.initial) state) :
    state.TeardownAccount :=
  reachable.invariant_from initial
    (fun _ account _ taken => account.preserved taken)

end

end TeardownAccount

section

variable [TaskWaker Waker]
variable {side : Side}
variable {state following : ConnectionObject Waker}
variable {action : Action Waker}

/-- A step of a callback or of a posted function needs a running loop. -/
theorem running_of_runsCallback
    (taken : state.step side action = some following)
    (runs : action.runsCallback = true) :
    state.conn.loopRunning = true := by
  have transition := Transition.of_step taken
  cases transition with
  | conn action conn _ stepped =>
      have onLoop : action.onLoop = true := by
        cases action with
        | loopExit =>
            rfl
        | _ =>
            exact runs
      exact (Connection.Transition.of_step stepped).running_of_onLoop onLoop
  | handshake event phase running _ =>
      exact running
  | _ =>
      cases runs

/--
What a step of `wakeReader` does to the `ReadWaker`: a slot that is set holds a
live box, which lives through the call of `wake`, and an empty slot makes it a
step of the program counter alone.
-/
structure ReachesLiveWaker
    (state following : ConnectionObject Waker) :
    Prop where
  found :
    state.conn.read.callback = .wakerLocked →
      state.conn.read.readWaker = true →
      state.wakerBox = .live ∧
        following.conn.read.callback = .wakerTaken state.conn.read.slot
  fires :
    state.conn.read.callback.insideWake = true → state.wakerBox = .live
  skips :
    state.conn.read.callback = .wakerLocked →
      state.conn.read.readWaker = false →
      following = { state with
        conn := { state.conn with
          read := { state.conn.read with callback := .wakerFired } } }

/-- Every step of a read callback that wakes the reader finds it alive. -/
theorem TeardownAccount.reachesLiveWaker
    (account : state.TeardownAccount)
    (taken :
      state.step side (.conn (.read .callbackStep)) = some following) :
    state.ReachesLiveWaker following := by
  have transition := Transition.of_step taken
  cases transition with
  | conn _ conn _ stepped =>
      have connTransition := Connection.Transition.of_step stepped
      cases connTransition with
      | read _ read _ readStepped =>
          refine
            { found := fun atLocked installed =>
                ⟨account.boxed installed, ?_⟩
              fires := fun inside => account.boxed (account.firing inside)
              skips := fun atLocked missing => ?_ }
          · simp only [ReadSide.step, ReadSide.callbackStep, atLocked,
              installed, if_true, Option.some.injEq] at readStepped
            rw [← readStepped]
          · simp only [ReadSide.step, ReadSide.callbackStep, atLocked,
              missing, Bool.false_eq_true, if_false,
              Option.some.injEq] at readStepped
            rw [← readStepped]
            simp [boxAfter, Connection.closesTransport,
              Connection.transportAfterRead, atLocked, missing,
              CallbackPc.atCloseNow]

/--
In every reachable state, a step of a callback or of a posted function comes
before the destructor has released the waker slot, finds the members it uses,
and if it wakes the reader goes to a live `ReadWaker`.
-/
theorem callbacks_before_release
    (reachable :
      Reachable (step side)
        (fun start => start = ConnectionObject.initial) state)
    (taken : state.step side action = some following)
    (runs : action.runsCallback = true) :
    state.pc.wakerReleased = false ∧
      (∀ member ∈ state.stepMembers side action,
        member ∉ state.destroyed) ∧
      (action = .conn (.read .callbackStep) →
        state.ReachesLiveWaker following) := by
  have account := TeardownAccount.of_reachable reachable
  have running := running_of_runsCallback taken runs
  have evbKept : state.pc.evbReleased = false := by
    by_contra gone
    have stopped := account.released (by simpa using gone)
    simp_all
  have slotKept : state.pc.wakerReleased = false := by
    cases here : state.pc <;>
      simp_all [DropPc.evbReleased, DropPc.wakerReleased]
  have bodyRuns : state.pc.destroysMembers = false := by
    cases here : state.pc <;>
      simp_all [DropPc.wakerReleased, DropPc.destroysMembers]
  refine ⟨slotKept, ?_, ?_⟩
  · intro member _
    rw [account.intact bodyRuns]
    exact List.not_mem_nil
  · intro isCallback
    subst action
    exact account.reachesLiveWaker taken

end

/-- A server connection is dropped and the drain delivers an end of stream. -/
def drainWakeSchedule : List (Action Nat) :=
  [.handshake .success, .handshake .accept, .handshake .finish,
    .conn (.read .setReadWaker), .drop true, .dropStep, .conn .loopExit,
    .dropStep, .dropStep, .conn (.read .readEOF),
    .conn (.read .callbackStep), .conn (.read .callbackStep),
    .conn (.read .callbackStep)]

/-- The connection after `drainWakeSchedule`, about to wake its reader. -/
def drainWakeState : ConnectionObject Nat where
  conn := { (Connection.initial : Connection Nat) with
    read := { (ReadSide.initial : ReadSide Nat) with
      readEof := true
      wakerMutex := some .eventLoop
      readWaker := true
      callback := .wakerLocked
      streamEnded := true }
    transport := .closed
    evbThread := false
    terminateRequested := true }
  phase := .established
  pc := .draining
  evb := true
  wakerBox := .live
  destroyed := []
  closeExecuted := true
  goodAtDrop := some true

/-- The connection one step later. -/
def drainWokenState : ConnectionObject Nat :=
  { drainWakeState with
    conn := { drainWakeState.conn with
      read := { drainWakeState.conn.read with
        callback := .wakerTaken none } } }

theorem callbacks_before_release_sample :
    drainWakeState.pc = .draining ∧
      drainWakeState.pc.wakerReleased = false ∧
      drainWakeState.ReachesLiveWaker drainWokenState := by
  have performed :
      run? (step .server) initial drainWakeSchedule = some drainWakeState :=
    rfl
  have reachable :
      Reachable (step .server)
        (fun start => start = ConnectionObject.initial) drainWakeState :=
    reachable_of_run? (.start rfl) performed
  have taken :
      drainWakeState.step .server (.conn (.read .callbackStep)) =
        some drainWokenState :=
    rfl
  have ordered := callbacks_before_release reachable taken rfl
  exact ⟨rfl, ordered.1, ordered.2.2 rfl⟩

end ConnectionObject

end FizzRs
