import FizzRs.ReadWakeUp
import FizzRs.WriteOrder

namespace FizzRs

open LabelledSystem

/-!
# A connection with its event loop, transport and close

This module puts the read side and the write side of one established connection
together with the parts that `close` touches: the transport, the thread that
runs the event loop, and the queue of posted functions they share.

The owner of a connection holds it by `&mut`, so at most one of `poll_read`,
`poll_write` and `close` is under way.  The loop thread interleaves with it
freely until it leaves `loopForever`.  The transport is modelled by what the code
relies on: chains are written in order, each writable event takes any number of
bytes, a closed transport fails what is left, and `close` lets queued writes
finish in later iterations.
-/

/-- What the transport is doing. -/
inductive TransportState where
  | live
  | closing
  | closed
  deriving Repr, DecidableEq

/--
The values `good()` may return.  After a graceful close it may stay true until
the peer's `close_notify` has been processed.
-/
def TransportState.mayReport : TransportState → Bool → Bool
  | .live, good => good
  | .closing, _ => true
  | .closed, good => !good

/-- A chain the transport has not finished, with the bytes still to be sent. -/
structure PendingWrite where
  index : Nat
  chain : List UInt8
  remaining : List UInt8
  deriving Repr, DecidableEq

/-- The calls that end in `*_connection_close`. -/
inductive ClosingCall where
  | close
  | pollShutdown
  | drop
  deriving Repr, DecidableEq

/-- Only the client connection closes in its destructor. -/
def ClosingCall.availableOn : ClosingCall → Side → Bool
  | .drop, .server => false
  | _, _ => true

/-- Where the owner stands inside `*_connection_close`. -/
inductive CloserPc where
  | idle
  | posting (call : ClosingCall)
  | waiting (call : ClosingCall)
  | stopping (call : ClosingCall)
  | joining (call : ClosingCall)
  deriving Repr, DecidableEq

/-- One established connection. -/
structure Connection (Waker : Type) where
  read : ReadSide Waker
  write : WriteSide
  transport : TransportState
  pending : List PendingWrite
  sent : List UInt8
  succeeded : List (List UInt8)
  evbThread : Bool
  loopRunning : Bool
  terminateRequested : Bool
  closeSignalled : Bool
  closer : CloserPc
  terminations : Nat
  joins : Nat
  closeReturns : Nat
  deriving Repr, DecidableEq

/-- Read-side steps taken by the loop thread. -/
def ReadSide.Action.byLoop : ReadSide.Action Waker → Bool
  | .getReadBuffer _ _ => true
  | .readDataAvailable _ => true
  | .readEOF => true
  | .readErr _ => true
  | .callbackStep => true
  | _ => false

/-- Write-side steps taken by the owner. -/
def WriteSide.Action.byOwner : WriteSide.Action → Bool
  | .pollWrite _ => true
  | .reuseBuffer _ => true
  | .writerStep => true
  | _ => false

/-- The reader is between two polls. -/
def ReaderPc.isIdle : ReaderPc Waker → Bool
  | .idle => true
  | _ => false

/-- The loop thread is inside no read callback. -/
def CallbackPc.isIdle : CallbackPc Waker → Bool
  | .idle => true
  | _ => false

/-- The read callback is about to call `transport->closeNow()`. -/
def CallbackPc.atCloseNow : CallbackPc Waker → Bool
  | .closeNow => true
  | _ => false

namespace Connection

/-- A connection whose handshake has just succeeded. -/
def initial : Connection Waker where
  read := .initial
  write := .initial
  transport := .live
  pending := []
  sent := []
  succeeded := []
  evbThread := true
  loopRunning := true
  terminateRequested := false
  closeSignalled := false
  closer := .idle
  terminations := 0
  joins := 0
  closeReturns := 0

/-- Events of the owner, of the loop thread and of the socket. -/
inductive Action (Waker : Type) where
  | read (action : ReadSide.Action Waker)
  | write (action : WriteSide.Action)
  | closeCall (call : ClosingCall) (good : Bool)
  | closerStep
  | runTask
  | socketAccepts (count : Nat)
  | writeSuccess
  | writeErr (text : String)
  | raiseWriteError (index : Nat)
  | transportCloses
  | loopExit
  deriving Repr, DecidableEq

/--
The owner has the connection, whose waker slot is installed before it is handed
out, and is inside no operation of it.
-/
def ownerFree (state : Connection Waker) : Prop :=
  state.read.readWaker = true ∧ state.read.reader.isIdle = true ∧
    state.write.writer = .idle ∧ state.closer = .idle

instance (state : Connection Waker) : Decidable state.ownerFree :=
  inferInstanceAs (Decidable (_ ∧ _ ∧ _ ∧ _))

/-- The loop thread is running and inside no callback. -/
def loopFree (state : Connection Waker) : Prop :=
  state.loopRunning = true ∧ state.read.callback.isIdle = true ∧
    WriteCallbackPc.recorded ∉ state.write.callbacks

instance (state : Connection Waker) : Decidable state.loopFree :=
  inferInstanceAs (Decidable (_ ∧ _ ∧ _))

/-- The thread of a read-side step can take it now. -/
def mayRead
    (state : Connection Waker)
    (action : ReadSide.Action Waker) :
    Bool :=
  if action.byLoop then
    state.loopRunning
  else
    decide (state.write.writer = .idle ∧ state.closer = .idle)

/-- The transport after a read-side step: `readEOF` and `readErr` close it. -/
def transportAfterRead
    (state : Connection Waker) :
    ReadSide.Action Waker → TransportState
  | .callbackStep =>
      if state.read.callback.atCloseNow then .closed else state.transport
  | _ => state.transport

/-- The next atomic step of `*_connection_close`. -/
def closerStep
    (side : Side)
    (state : Connection Waker) :
    Option (Connection Waker) :=
  match state.closer with
  | .idle => none
  | .posting call =>
      (state.write.step side .established .postClose).map fun write =>
        { state with
          write := write
          closeSignalled := false
          closer := .waiting call }
  | .waiting call =>
      if state.closeSignalled then
        some { state with closer := .stopping call }
      else
        none
  | .stopping call =>
      if state.evbThread then
        some { state with
          terminateRequested := true
          terminations := state.terminations + 1
          closer := .joining call }
      else
        some { state with
          closer := .idle
          closeReturns := state.closeReturns + 1 }
  | .joining _ =>
      if state.loopRunning = false then
        some { state with
          evbThread := false
          joins := state.joins + 1
          closer := .idle
          closeReturns := state.closeReturns + 1 }
      else
        none

/-- Run the oldest posted function on the loop thread. -/
def runTask
    (side : Side)
    (state : Connection Waker) :
    Option (Connection Waker) :=
  match state.write.tasks with
  | [] => none
  | .writeChain chain :: _ =>
      (state.write.step side .established .runTask).map fun write =>
        { state with
          write := write
          pending :=
            state.pending ++
              [{ index := state.write.chains.length
                 chain := chain
                 remaining := chain }] }
  | .closeTransport :: _ =>
      (state.write.step side .established .runTask).map fun write =>
        { state with
          write := write
          transport :=
            if state.transport = .live then .closing else state.transport
          closeSignalled := true }

/-- One atomic step. -/
def step
    [TaskWaker Waker]
    (side : Side)
    (state : Connection Waker) :
    Action Waker → Option (Connection Waker)
  | .read action =>
      if state.mayRead action = true then
        (state.read.step .established action).map fun read =>
          { state with
            read := read
            transport := state.transportAfterRead action }
      else
        none
  | .write action =>
      if action.byOwner = true ∧ state.read.readWaker = true ∧
          state.read.reader.isIdle = true ∧ state.closer = .idle then
        (state.write.step side .established action).map fun write =>
          { state with write := write }
      else
        none
  | .closeCall call good =>
      if state.ownerFree ∧ call.availableOn side = true ∧
          state.transport.mayReport good = true then
        some { state with
          closer := if good then .posting call else .stopping call }
      else
        none
  | .closerStep => state.closerStep side
  | .runTask =>
      if state.loopFree then state.runTask side else none
  | .socketAccepts count =>
      match state.pending with
      | head :: rest =>
          if state.loopRunning = true ∧ state.transport ≠ .closed then
            some { state with
              pending :=
                { head with remaining := head.remaining.drop count } :: rest
              sent := state.sent ++ head.remaining.take count }
          else
            none
      | [] => none
  | .writeSuccess =>
      match state.pending with
      | head :: rest =>
          if state.loopRunning = true ∧ head.remaining = [] then
            (state.write.step side .established
              (.writeSuccess head.index)).map fun write =>
                { state with
                  write := write
                  pending := rest
                  succeeded := state.succeeded ++ [head.chain] }
          else
            none
      | [] => none
  | .writeErr text =>
      match state.pending with
      | head :: rest =>
          if state.loopRunning = true ∧ state.transport = .closed then
            (state.write.step side .established
              (.writeErr head.index text)).map fun write =>
                { state with write := write, pending := rest }
          else
            none
      | [] => none
  | .raiseWriteError index =>
      if state.loopRunning = true then
        (state.write.step side .established
          (.writeErrStep index)).map fun write =>
            { state with write := write, transport := .closed }
      else
        none
  | .transportCloses =>
      if state.loopRunning = true then
        some { state with transport := .closed }
      else
        none
  | .loopExit =>
      if state.loopFree ∧ state.terminateRequested = true then
        some { state with loopRunning := false }
      else
        none

/-- Everything one atomic step can do, with the guards it was taken under. -/
inductive Transition
    [TaskWaker Waker]
    (side : Side)
    (state : Connection Waker) :
    Action Waker → Connection Waker → Prop where
  | read (action : ReadSide.Action Waker) (read : ReadSide Waker) :
      state.mayRead action = true →
      state.read.step .established action = some read →
      Transition side state (.read action) { state with
        read := read
        transport := state.transportAfterRead action }
  | write (action : WriteSide.Action) (write : WriteSide) :
      action.byOwner = true →
      state.read.readWaker = true →
      state.read.reader.isIdle = true →
      state.closer = .idle →
      state.write.step side .established action = some write →
      Transition side state (.write action) { state with write := write }
  | closeGood (call : ClosingCall) :
      state.ownerFree →
      state.transport ≠ .closed →
      Transition side state (.closeCall call true)
        { state with closer := .posting call }
  | closeBad (call : ClosingCall) :
      state.ownerFree →
      state.transport ≠ .live →
      Transition side state (.closeCall call false)
        { state with closer := .stopping call }
  | post (call : ClosingCall) (write : WriteSide) :
      state.closer = .posting call →
      state.write.step side .established .postClose = some write →
      Transition side state .closerStep { state with
        write := write
        closeSignalled := false
        closer := .waiting call }
  | resume (call : ClosingCall) :
      state.closer = .waiting call →
      state.closeSignalled = true →
      Transition side state .closerStep
        { state with closer := .stopping call }
  | terminate (call : ClosingCall) :
      state.closer = .stopping call →
      state.evbThread = true →
      Transition side state .closerStep { state with
        terminateRequested := true
        terminations := state.terminations + 1
        closer := .joining call }
  | leave (call : ClosingCall) :
      state.closer = .stopping call →
      state.evbThread = false →
      Transition side state .closerStep { state with
        closer := .idle
        closeReturns := state.closeReturns + 1 }
  | join (call : ClosingCall) :
      state.closer = .joining call →
      state.loopRunning = false →
      Transition side state .closerStep { state with
        evbThread := false
        joins := state.joins + 1
        closer := .idle
        closeReturns := state.closeReturns + 1 }
  | runWrite
      (chain : List UInt8)
      (later : List LoopTask)
      (write : WriteSide) :
      state.loopFree →
      state.write.tasks = .writeChain chain :: later →
      state.write.step side .established .runTask = some write →
      Transition side state .runTask { state with
        write := write
        pending :=
          state.pending ++
            [{ index := state.write.chains.length
               chain := chain
               remaining := chain }] }
  | runClose (later : List LoopTask) (write : WriteSide) :
      state.loopFree →
      state.write.tasks = .closeTransport :: later →
      state.write.step side .established .runTask = some write →
      Transition side state .runTask { state with
        write := write
        transport :=
          if state.transport = .live then .closing else state.transport
        closeSignalled := true }
  | socketAccepts
      (count : Nat)
      (head : PendingWrite)
      (rest : List PendingWrite) :
      state.pending = head :: rest →
      state.loopRunning = true →
      Transition side state (.socketAccepts count) { state with
        pending :=
          { head with remaining := head.remaining.drop count } :: rest
        sent := state.sent ++ head.remaining.take count }
  | writeSuccess
      (head : PendingWrite)
      (rest : List PendingWrite)
      (write : WriteSide) :
      state.pending = head :: rest →
      state.loopRunning = true →
      head.remaining = [] →
      state.write.step side .established (.writeSuccess head.index) =
        some write →
      Transition side state .writeSuccess { state with
        write := write
        pending := rest
        succeeded := state.succeeded ++ [head.chain] }
  | writeErr
      (text : String)
      (head : PendingWrite)
      (rest : List PendingWrite)
      (write : WriteSide) :
      state.pending = head :: rest →
      state.loopRunning = true →
      state.write.step side .established (.writeErr head.index text) =
        some write →
      Transition side state (.writeErr text)
        { state with write := write, pending := rest }
  | raiseWriteError (index : Nat) (write : WriteSide) :
      state.loopRunning = true →
      state.write.step side .established (.writeErrStep index) =
        some write →
      Transition side state (.raiseWriteError index)
        { state with write := write, transport := .closed }
  | transportCloses :
      state.loopRunning = true →
      Transition side state .transportCloses
        { state with transport := .closed }
  | loopExit :
      state.loopFree →
      state.terminateRequested = true →
      Transition side state .loopExit { state with loopRunning := false }

/-- A step of the closing owner is one of its transitions. -/
theorem Transition.of_closerStep
    [TaskWaker Waker]
    {side : Side}
    {state following : Connection Waker}
    (taken : state.closerStep side = some following) :
    Transition side state .closerStep following := by
  unfold closerStep at taken
  split at taken
  · cases taken
  · next call here =>
      obtain ⟨write, stepped, shape⟩ := Option.map_eq_some_iff.mp taken
      subst following
      exact .post call write here stepped
  · next call here =>
      split at taken
      · next signalled =>
          cases taken
          exact .resume call here signalled
      · cases taken
  · next call here =>
      split at taken
      · next joinable =>
          cases taken
          exact .terminate call here joinable
      · next joined =>
          cases taken
          exact .leave call here (by simpa using joined)
  · next call here =>
      split at taken
      · next stopped =>
          cases taken
          exact .join call here stopped
      · cases taken

/-- Running a posted function is one of the loop's transitions. -/
theorem Transition.of_runTask
    [TaskWaker Waker]
    {side : Side}
    {state following : Connection Waker}
    (free : state.loopFree)
    (taken : state.runTask side = some following) :
    Transition side state .runTask following := by
  unfold runTask at taken
  split at taken
  · cases taken
  · next chain later shape =>
      obtain ⟨write, stepped, result⟩ := Option.map_eq_some_iff.mp taken
      subst following
      exact .runWrite chain later write free shape stepped
  · next later shape =>
      obtain ⟨write, stepped, result⟩ := Option.map_eq_some_iff.mp taken
      subst following
      exact .runClose later write free shape stepped

/-- Every enabled action performs one of the listed transitions. -/
theorem Transition.of_step
    [TaskWaker Waker]
    {side : Side}
    {state following : Connection Waker}
    {action : Action Waker}
    (taken : state.step side action = some following) :
    Transition side state action following := by
  cases action with
  | read action =>
      simp only [step] at taken
      split at taken
      · next allowed =>
          obtain ⟨read, stepped, shape⟩ := Option.map_eq_some_iff.mp taken
          subst following
          exact .read action read allowed stepped
      · cases taken
  | write action =>
      simp only [step] at taken
      split at taken
      · next guard =>
          obtain ⟨write, stepped, shape⟩ := Option.map_eq_some_iff.mp taken
          subst following
          obtain ⟨byOwner, handedOut, atIdle, notClosing⟩ := guard
          exact .write action write byOwner handedOut atIdle notClosing
            stepped
      · cases taken
  | closeCall call good =>
      simp only [step] at taken
      split at taken
      · next guard =>
          obtain ⟨free, _, reported⟩ := guard
          cases taken
          cases good with
          | true =>
              refine .closeGood call free ?_
              intro isClosed
              simp [isClosed, TransportState.mayReport] at reported
          | false =>
              refine .closeBad call free ?_
              intro isLive
              simp [isLive, TransportState.mayReport] at reported
      · cases taken
  | closerStep =>
      exact .of_closerStep taken
  | runTask =>
      simp only [step] at taken
      split at taken
      · next free =>
          exact .of_runTask free taken
      · cases taken
  | socketAccepts count =>
      simp only [step] at taken
      split at taken
      · next head rest shape =>
          split at taken
          · next guard =>
              cases taken
              exact .socketAccepts count head rest shape guard.1
          · cases taken
      · cases taken
  | writeSuccess =>
      simp only [step] at taken
      split at taken
      · next head rest shape =>
          split at taken
          · next guard =>
              obtain ⟨write, stepped, result⟩ :=
                Option.map_eq_some_iff.mp taken
              subst following
              exact .writeSuccess head rest write shape
                guard.1 guard.2 stepped
          · cases taken
      · cases taken
  | writeErr text =>
      simp only [step] at taken
      split at taken
      · next head rest shape =>
          split at taken
          · next guard =>
              obtain ⟨write, stepped, result⟩ :=
                Option.map_eq_some_iff.mp taken
              subst following
              exact .writeErr text head rest write shape guard.1 stepped
          · cases taken
      · cases taken
  | raiseWriteError index =>
      simp only [step] at taken
      split at taken
      · next running =>
          obtain ⟨write, stepped, result⟩ := Option.map_eq_some_iff.mp taken
          subst following
          exact .raiseWriteError index write running stepped
      · cases taken
  | transportCloses =>
      simp only [step] at taken
      split at taken
      · next running =>
          cases taken
          exact .transportCloses running
      · cases taken
  | loopExit =>
      simp only [step] at taken
      split at taken
      · next guard =>
          cases taken
          exact .loopExit guard.1 guard.2
      · cases taken

/-- Reachable connections have reachable read sides. -/
theorem read_reachable
    [TaskWaker Waker]
    {side : Side}
    {allowed : Connection Waker → Action Waker → Prop}
    {state : Connection Waker}
    (reachable :
      ReachableWhile (step side) allowed
        (fun start => start = initial) state) :
    Reachable (ReadSide.step .established)
      (fun start => start = .initial) state.read := by
  refine reachable.project Connection.read ?_ ?_
  · intro start begins
    subst start
    rfl
  · intro before after action _ taken
    have transition := Transition.of_step taken
    cases transition with
    | read action read _ stepped =>
        exact .inr ⟨action, stepped⟩
    | _ =>
        exact .inl rfl

/-- Reachable connections have reachable write sides. -/
theorem write_reachable
    [TaskWaker Waker]
    {side : Side}
    {allowed : Connection Waker → Action Waker → Prop}
    {state : Connection Waker}
    (reachable :
      ReachableWhile (step side) allowed
        (fun start => start = initial) state) :
    Reachable (WriteSide.step side .established)
      (fun start => start = .initial) state.write := by
  refine reachable.project Connection.write ?_ ?_
  · intro start begins
    subst start
    rfl
  · intro before after action _ taken
    have transition := Transition.of_step taken
    cases transition with
    | write action write _ _ _ _ stepped =>
        exact .inr ⟨action, stepped⟩
    | post call write _ stepped =>
        exact .inr ⟨_, stepped⟩
    | runWrite chain later write _ _ stepped =>
        exact .inr ⟨_, stepped⟩
    | runClose later write _ _ stepped =>
        exact .inr ⟨_, stepped⟩
    | writeSuccess head rest write _ _ _ stepped =>
        exact .inr ⟨_, stepped⟩
    | writeErr text head rest write _ _ stepped =>
        exact .inr ⟨_, stepped⟩
    | raiseWriteError index write _ stepped =>
        exact .inr ⟨_, stepped⟩
    | _ =>
        exact .inl rfl

end Connection

end FizzRs
