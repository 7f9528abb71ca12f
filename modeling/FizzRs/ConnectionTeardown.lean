import FizzRs.CloseRepeatable

namespace FizzRs

open LabelledSystem

/-!
# Tearing a connection object down

A connection object is a set of members that callbacks of the event loop use, an
event base, and the thread that runs it.  `ClientConnection` calls `close` in its
`Drop` before the C++ destructor runs; `ServerConnection` has no `Drop` of its
own.  The destructor stops and joins the loop thread if that is still to be done,
releases the event base, releases the waker slot under `waker_mutex`, and leaves
the members to be destroyed in reverse order of their declaration.

Destroying the event base runs the posted functions once more, on the thread of
the destructor, and that iteration may deliver read and write callbacks.  After
it nothing runs on this event base.
-/

/-- The members of a connection object. -/
inductive Member where
  | evb
  | evbThread
  | transport
  | handshakeComplete
  | errorMessage
  | fd
  | peerCertPem
  | verifier
  | dcExtension
  | caCertPath
  | expectedServiceName
  | expectedValidTime
  | expectedVerifyScheme
  | expectedPublicKeyDerHex
  | expectedExpiresAt
  | dcEnabled
  | pendingReadData
  | readMutex
  | pendingRead
  | readBufQueue
  | bytesRead
  | readEof
  | wakerMutex
  | readWaker
  | writeError
  | writeErrorMutex
  | writeErrorMessage
  deriving Repr, DecidableEq

/-- The members that both kinds of connection declare last. -/
def dataMembers : List Member :=
  [.pendingReadData, .readMutex, .pendingRead, .readBufQueue, .bytesRead,
    .readEof, .wakerMutex, .readWaker, .writeError, .writeErrorMutex,
    .writeErrorMessage]

/-- The members in order of declaration. -/
def Side.members : Side → List Member
  | .client =>
      [.evb, .evbThread, .transport, .handshakeComplete, .errorMessage, .fd,
        .peerCertPem, .verifier, .dcExtension, .caCertPath,
        .expectedServiceName, .expectedValidTime, .expectedVerifyScheme,
        .expectedPublicKeyDerHex, .expectedExpiresAt, .dcEnabled] ++
        dataMembers
  | .server =>
      [.evb, .evbThread, .transport, .handshakeComplete, .errorMessage,
        .fd] ++ dataMembers

/-- How far the handshake of the connection has come. -/
inductive HandshakePhase where
  | waiting
  | checking
  | finishing
  | established
  | failed
  deriving Repr, DecidableEq

/-- Steps of the handshake callback. -/
inductive HandshakeEvent where
  | success
  | accept
  | reject
  | finish
  | error
  deriving Repr, DecidableEq

namespace HandshakePhase

/-- The next phase, when the handshake callback takes this step. -/
def next? : HandshakePhase → HandshakeEvent → Option HandshakePhase
  | .waiting, .success => some .checking
  | .checking, .accept => some .finishing
  | .checking, .reject => some .failed
  | .finishing, .finish => some .established
  | .waiting, .error => some .failed
  | _, _ => none

/-- The loop thread is inside no handshake callback. -/
def isSettled : HandshakePhase → Bool
  | .checking => false
  | .finishing => false
  | _ => true

end HandshakePhase

/-- The members that a step of the handshake callback uses. -/
def HandshakeEvent.members : HandshakeEvent → Side → List Member
  | .success, .client => [.dcEnabled]
  | .accept, .client =>
      [.expectedPublicKeyDerHex, .expectedValidTime, .expectedVerifyScheme,
        .expectedExpiresAt, .peerCertPem]
  | .reject, .client =>
      [.expectedPublicKeyDerHex, .expectedValidTime, .expectedVerifyScheme,
        .expectedExpiresAt]
  | .success, .server => []
  | .accept, .server => []
  | .reject, .server => []
  | .finish, _ => [.handshakeComplete]
  | .error, _ => [.errorMessage]

/-- The members that the next step of a read callback uses. -/
def CallbackPc.members : CallbackPc Waker → List Member
  | .idle => []
  | .bufferHanded _ _ => []
  | .dataCommitted => [.pendingRead, .readMutex]
  | .eofStored => [.pendingRead, .readMutex]
  | .errRecorded => [.pendingRead, .readMutex]
  | .errReleased => [.readEof]
  | .closeNow => [.transport]
  | .wakeReader => [.wakerMutex]
  | .wakerLocked => [.readWaker]
  | .wakerTaken _ => [.readWaker]
  | .wakerFired => [.wakerMutex]

/-- The members that a step of the loop thread uses. -/
def Connection.stepMembers
    (conn : Connection Waker) :
    Connection.Action Waker → List Member
  | .read (.getReadBuffer _ _) => [.readMutex, .pendingRead, .readBufQueue]
  | .read (.readDataAvailable _) => [.readBufQueue, .bytesRead]
  | .read .readEOF => [.readEof]
  | .read (.readErr _) => [.errorMessage]
  | .read .callbackStep => conn.read.callback.members
  | .writeErr _ => [.writeErrorMutex, .writeErrorMessage]
  | .raiseWriteError _ => [.writeError, .transport]
  | _ => []

/-- Steps of callbacks, of posted functions and of the loop itself. -/
def Connection.Action.onLoop : Connection.Action Waker → Bool
  | .read action => action.byLoop
  | .runTask => true
  | .socketAccepts _ => true
  | .writeSuccess => true
  | .writeErr _ => true
  | .raiseWriteError _ => true
  | .transportCloses => true
  | .loopExit => true
  | _ => false

/-- The step calls `transport->close()` or `transport->closeNow()`. -/
def Connection.closesTransport
    (conn : Connection Waker) :
    Connection.Action Waker → Bool
  | .read .callbackStep => conn.read.callback.atCloseNow
  | .runTask => conn.write.tasks.head? == some .closeTransport
  | .raiseWriteError _ => true
  | _ => false

/-- What became of the boxed `ReadWaker` that C++ was given. -/
inductive WakerBox where
  | absent
  | live
  | freed
  deriving Repr, DecidableEq

/-- Where the owner stands in dropping the connection. -/
inductive DropPc where
  | held
  | closing
  | testThread
  | joining
  | resetEvb
  | draining
  | lockWaker
  | resetWaker
  | unlockWaker
  | destroying (remaining : List Member)
  | gone
  deriving Repr, DecidableEq

namespace DropPc

/-- The waker slot has been released. -/
def wakerReleased : DropPc → Bool
  | .unlockWaker => true
  | .destroying _ => true
  | .gone => true
  | _ => false

/-- The event base has been destroyed. -/
def evbReleased : DropPc → Bool
  | .lockWaker => true
  | .resetWaker => true
  | pc => pc.wakerReleased

end DropPc

/--
A connection object from the start of its handshake to its end.  `closeExecuted`
records whether the transport was told to close, and `goodAtDrop` what it
reported when the owner began to drop the connection.
-/
structure ConnectionObject (Waker : Type) where
  conn : Connection Waker
  phase : HandshakePhase
  pc : DropPc
  evb : Bool
  wakerBox : WakerBox
  destroyed : List Member
  closeExecuted : Bool
  goodAtDrop : Option Bool
  deriving Repr, DecidableEq

namespace ConnectionObject

/-- A connection whose handshake has been started. -/
def initial : ConnectionObject Waker where
  conn := .initial
  phase := .waiting
  pc := .held
  evb := true
  wakerBox := .absent
  destroyed := []
  closeExecuted := false
  goodAtDrop := none

/-- Events of the owner and of whoever runs the event loop. -/
inductive Action (Waker : Type) where
  | conn (action : Connection.Action Waker)
  | handshake (event : HandshakeEvent)
  | drop (good : Bool)
  | destroy
  | dropStep
  deriving Repr, DecidableEq

/-- A callback or a posted function of the connection takes a step. -/
def Action.runsCallback : Action Waker → Bool
  | .conn .loopExit => false
  | .conn action => action.onLoop
  | .handshake _ => true
  | _ => false

/-- The members that a step of a callback or posted function uses. -/
def stepMembers
    (side : Side)
    (state : ConnectionObject Waker) :
    Action Waker → List Member
  | .conn action => state.conn.stepMembers action
  | .handshake event => event.members side
  | _ => []

/--
The thread of a step can take it at this point of the connection's life.  The
transport may deliver what it has buffered from inside `setReadCB`, before the
handshake callback is finished.
-/
def mayStep
    (state : ConnectionObject Waker) :
    Connection.Action Waker → Bool
  | .loopExit => state.pc ≠ .draining ∧ state.phase.isSettled = true
  | .transportCloses => true
  | .closeCall .drop _ => false
  | .closerStep =>
      state.phase = .established ∧
        (state.pc = .held ∨ state.pc = .closing)
  | .read action =>
      (state.phase = .established ∧
        (action.byLoop = true ∨ state.pc = .held)) ∨
        (state.phase = .finishing ∧ action.byLoop = true)
  | action =>
      state.phase = .established ∧
        (action.onLoop = true ∨ state.pc = .held)

/-- The box after a step: `set_*_read_waker` moves it in. -/
def boxAfter
    (state : ConnectionObject Waker) :
    Connection.Action Waker → WakerBox
  | .read .setReadWaker => .live
  | _ => state.wakerBox

/-- A step of the connection. -/
def connStep
    [TaskWaker Waker]
    (side : Side)
    (state : ConnectionObject Waker)
    (action : Connection.Action Waker) :
    Option (ConnectionObject Waker) :=
  if state.mayStep action = true then
    (state.conn.step side action).map fun conn =>
      { state with
        conn := conn
        wakerBox := state.boxAfter action
        closeExecuted :=
          state.closeExecuted || state.conn.closesTransport action }
  else
    none

/-- A step of the handshake callback. -/
def handshakeStep
    (state : ConnectionObject Waker)
    (event : HandshakeEvent) :
    Option (ConnectionObject Waker) :=
  if state.conn.loopRunning = true ∧
      state.conn.read.callback.isIdle = true then
    (state.phase.next? event).map fun phase => { state with phase := phase }
  else
    none

/--
The owner drops a connection it was handed: the client's `Drop` calls `close`
first, the server goes straight to the destructor.
-/
def drop
    [TaskWaker Waker]
    (side : Side)
    (state : ConnectionObject Waker)
    (good : Bool) :
    Option (ConnectionObject Waker) :=
  if state.pc = .held ∧ state.conn.ownerFree ∧
      state.conn.transport.mayReport good = true then
    match side with
    | .client =>
        (state.conn.step .client (.closeCall .drop good)).map fun conn =>
          { state with
            conn := conn
            pc := .closing
            goodAtDrop := some good }
    | .server =>
        some { state with pc := .testThread, goodAtDrop := some good }
  else
    none

/-- The next step of the owner inside `Drop` and the destructor. -/
def dropStep
    (side : Side)
    (state : ConnectionObject Waker) :
    Option (ConnectionObject Waker) :=
  match state.pc with
  | .closing =>
      if state.conn.closer = .idle then
        some { state with pc := .testThread }
      else
        none
  | .testThread =>
      if state.conn.evbThread then
        some { state with
          conn := { state.conn with terminateRequested := true }
          pc := .joining }
      else
        some { state with pc := .resetEvb }
  | .joining =>
      if state.conn.loopRunning = false then
        some { state with
          conn := { state.conn with evbThread := false }
          pc := .resetEvb }
      else
        none
  | .resetEvb =>
      some { state with
        conn := { state.conn with loopRunning := true }
        pc := .draining }
  | .draining =>
      if state.conn.loopFree ∧ state.phase.isSettled = true ∧
          state.conn.write.tasks = [] then
        some { state with
          conn := { state.conn with loopRunning := false }
          evb := false
          pc := .lockWaker }
      else
        none
  | .lockWaker =>
      if state.conn.read.wakerMutex = none then
        some { state with
          conn := { state.conn with
            read := { state.conn.read with wakerMutex := some .caller } }
          pc := .resetWaker }
      else
        none
  | .resetWaker =>
      some { state with
        conn := { state.conn with
          read := { state.conn.read with readWaker := false } }
        wakerBox :=
          if state.wakerBox = .live then .freed else state.wakerBox
        pc := .unlockWaker }
  | .unlockWaker =>
      some { state with
        conn := { state.conn with
          read := { state.conn.read with wakerMutex := none } }
        pc := .destroying side.members.reverse }
  | .destroying (member :: remaining) =>
      some { state with
        destroyed := member :: state.destroyed
        pc := .destroying remaining }
  | .destroying [] => some { state with pc := .gone }
  | _ => none

/--
One step.  A connection that was not handed out yet is destroyed without `Drop`,
when the box around it goes.
-/
def step
    [TaskWaker Waker]
    (side : Side)
    (state : ConnectionObject Waker) :
    Action Waker → Option (ConnectionObject Waker)
  | .conn action => state.connStep side action
  | .handshake event => state.handshakeStep event
  | .drop good => state.drop side good
  | .destroy =>
      if state.pc = .held ∧ state.conn.read.readWaker = false then
        some { state with pc := .testThread }
      else
        none
  | .dropStep => state.dropStep side

/-- Everything one step can do, with the guards it was taken under. -/
inductive Transition
    [TaskWaker Waker]
    (side : Side)
    (state : ConnectionObject Waker) :
    Action Waker → ConnectionObject Waker → Prop where
  | conn (action : Connection.Action Waker) (conn : Connection Waker) :
      state.mayStep action = true →
      state.conn.step side action = some conn →
      Transition side state (.conn action) { state with
        conn := conn
        wakerBox := state.boxAfter action
        closeExecuted :=
          state.closeExecuted || state.conn.closesTransport action }
  | handshake (event : HandshakeEvent) (phase : HandshakePhase) :
      state.conn.loopRunning = true →
      state.phase.next? event = some phase →
      Transition side state (.handshake event) { state with phase := phase }
  | dropClient (good : Bool) (conn : Connection Waker) :
      side = .client →
      state.pc = .held →
      state.conn.step .client (.closeCall .drop good) = some conn →
      Transition side state (.drop good) { state with
        conn := conn
        pc := .closing
        goodAtDrop := some good }
  | dropServer (good : Bool) :
      side = .server →
      state.pc = .held →
      state.conn.ownerFree →
      state.conn.transport.mayReport good = true →
      Transition side state (.drop good)
        { state with pc := .testThread, goodAtDrop := some good }
  | destroy :
      state.pc = .held →
      state.conn.read.readWaker = false →
      Transition side state .destroy { state with pc := .testThread }
  | leaveClose :
      state.pc = .closing →
      state.conn.closer = .idle →
      Transition side state .dropStep { state with pc := .testThread }
  | terminate :
      state.pc = .testThread →
      state.conn.evbThread = true →
      Transition side state .dropStep { state with
        conn := { state.conn with terminateRequested := true }
        pc := .joining }
  | skipJoin :
      state.pc = .testThread →
      state.conn.evbThread = false →
      Transition side state .dropStep { state with pc := .resetEvb }
  | join :
      state.pc = .joining →
      state.conn.loopRunning = false →
      Transition side state .dropStep { state with
        conn := { state.conn with evbThread := false }
        pc := .resetEvb }
  | drain :
      state.pc = .resetEvb →
      Transition side state .dropStep { state with
        conn := { state.conn with loopRunning := true }
        pc := .draining }
  | drained :
      state.pc = .draining →
      state.conn.loopFree →
      state.phase.isSettled = true →
      state.conn.write.tasks = [] →
      Transition side state .dropStep { state with
        conn := { state.conn with loopRunning := false }
        evb := false
        pc := .lockWaker }
  | lockWaker :
      state.pc = .lockWaker →
      state.conn.read.wakerMutex = none →
      Transition side state .dropStep { state with
        conn := { state.conn with
          read := { state.conn.read with wakerMutex := some .caller } }
        pc := .resetWaker }
  | resetWaker :
      state.pc = .resetWaker →
      Transition side state .dropStep { state with
        conn := { state.conn with
          read := { state.conn.read with readWaker := false } }
        wakerBox :=
          if state.wakerBox = .live then .freed else state.wakerBox
        pc := .unlockWaker }
  | unlockWaker :
      state.pc = .unlockWaker →
      Transition side state .dropStep { state with
        conn := { state.conn with
          read := { state.conn.read with wakerMutex := none } }
        pc := .destroying side.members.reverse }
  | destroyMember (member : Member) (remaining : List Member) :
      state.pc = .destroying (member :: remaining) →
      Transition side state .dropStep { state with
        destroyed := member :: state.destroyed
        pc := .destroying remaining }
  | finish :
      state.pc = .destroying [] →
      Transition side state .dropStep { state with pc := .gone }

/-- Beginning to drop is one of the two transitions that do so. -/
theorem Transition.of_drop
    [TaskWaker Waker]
    {side : Side}
    {state following : ConnectionObject Waker}
    {good : Bool}
    (taken : state.drop side good = some following) :
    Transition side state (.drop good) following := by
  unfold drop at taken
  split at taken
  · next guard =>
      obtain ⟨atHeld, free, reported⟩ := guard
      cases side with
      | client =>
          obtain ⟨conn, stepped, shape⟩ := Option.map_eq_some_iff.mp taken
          subst following
          exact .dropClient good conn rfl atHeld stepped
      | server =>
          cases taken
          exact .dropServer good rfl atHeld free reported
  · cases taken

/-- A step of the owner inside `Drop` is one of its transitions. -/
theorem Transition.of_dropStep
    [TaskWaker Waker]
    {side : Side}
    {state following : ConnectionObject Waker}
    (taken : state.dropStep side = some following) :
    Transition side state .dropStep following := by
  unfold dropStep at taken
  split at taken
  · next here =>
      split at taken
      · next returned =>
          cases taken
          exact .leaveClose here returned
      · cases taken
  · next here =>
      split at taken
      · next joinable =>
          cases taken
          exact .terminate here joinable
      · next joined =>
          cases taken
          exact .skipJoin here (by simpa using joined)
  · next here =>
      split at taken
      · next stopped =>
          cases taken
          exact .join here stopped
      · cases taken
  · next here =>
      cases taken
      exact .drain here
  · next here =>
      split at taken
      · next guard =>
          cases taken
          exact .drained here guard.1 guard.2.1 guard.2.2
      · cases taken
  · next here =>
      split at taken
      · next free =>
          cases taken
          exact .lockWaker here free
      · cases taken
  · next here =>
      cases taken
      exact .resetWaker here
  · next here =>
      cases taken
      exact .unlockWaker here
  · next member remaining here =>
      cases taken
      exact .destroyMember member remaining here
  · next here =>
      cases taken
      exact .finish here
  · cases taken

/-- Every enabled action performs one of the listed transitions. -/
theorem Transition.of_step
    [TaskWaker Waker]
    {side : Side}
    {state following : ConnectionObject Waker}
    {action : Action Waker}
    (taken : state.step side action = some following) :
    Transition side state action following := by
  cases action with
  | conn action =>
      simp only [step, connStep] at taken
      split at taken
      · next allowed =>
          obtain ⟨conn, stepped, shape⟩ := Option.map_eq_some_iff.mp taken
          subst following
          exact .conn action conn allowed stepped
      · cases taken
  | handshake event =>
      simp only [step, handshakeStep] at taken
      split at taken
      · next guard =>
          obtain ⟨phase, moves, shape⟩ := Option.map_eq_some_iff.mp taken
          subst following
          exact .handshake event phase guard.1 moves
      · cases taken
  | drop good =>
      exact .of_drop taken
  | destroy =>
      simp only [step] at taken
      split at taken
      · next guard =>
          cases taken
          exact .destroy guard.1 guard.2
      · cases taken
  | dropStep =>
      exact .of_dropStep taken

end ConnectionObject

end FizzRs
