import FizzRs.LabelledSystem

namespace FizzRs

open LabelledSystem

/-!
# Setting connections up

`ClientTlsContext::connect` and `ServerTlsContext::accept_from_stream` take the
descriptor out of its `TcpStream`, build the connection object in a
`spawn_blocking` closure, start the handshake, and wait for its result on a
channel.  Ownership travels from the stream to a bare integer, to the socket, to
the transport, to the connection object, and through a raw pointer back to the
caller.

The model keeps, for each call, the positions of its future and of its closure,
who owns the descriptor, what became of the loop thread, and who owns the
connection object.  A future may be dropped at every suspension point; the
closure it spawned is not cancelled by that.  A future borrows its context, so
the context is dropped only when every call on it has returned or was dropped.
-/

/-- The kinds of context a call may be made on. -/
inductive ContextKind where
  | client (dcEnabled : Bool)
  | server
  deriving Repr, DecidableEq

/--
The steps of `client_connect` and `server_accept_connection` that may throw or
that move a resource, in program order within each function.
-/
inductive SetupStep where
  | makeConnection
  | makeEventBase
  | createCertificateVerifier
  | makeDelegatedCredentialExtension
  | newSocket
  | newAsyncFizz
  | copySniHostname
  | releaseTransport
  | storeSniHostname
  | startThread
  deriving Repr, DecidableEq

/-- The body of `client_connect`. -/
def clientConnectSteps (dcEnabled : Bool) : List SetupStep :=
  [.makeConnection, .makeEventBase, .createCertificateVerifier] ++
    (if dcEnabled then [.makeDelegatedCredentialExtension] else []) ++
    [.newSocket, .newAsyncFizz, .copySniHostname, .releaseTransport,
      .storeSniHostname, .startThread]

/-- The body of `server_accept_connection`. -/
def serverAcceptConnectionSteps : List SetupStep :=
  [.makeConnection, .makeEventBase, .newSocket, .newAsyncFizz,
    .releaseTransport, .startThread]

/-- The function that the closure of a call runs. -/
def ContextKind.setupSteps : ContextKind → List SetupStep
  | .client dcEnabled => clientConnectSteps dcEnabled
  | .server => serverAcceptConnectionSteps

/-- Who is responsible for the descriptor. -/
inductive FdOwner where
  | stream
  | raw
  | socket
  | transport
  | connection
  | closed
  deriving Repr, DecidableEq

/-- What became of the event-loop thread of a call. -/
inductive LoopThread where
  | notStarted
  | running
  | joined
  deriving Repr, DecidableEq

/-- The descriptor and the loop thread of one call. -/
structure Resources where
  fd : FdOwner
  thread : LoopThread
  deriving Repr, DecidableEq

/-- `fizzClient.release()` is the only step here that cannot throw. -/
def SetupStep.mayThrow : SetupStep → Bool
  | .releaseTransport => false
  | _ => true

namespace Resources

/-- The resources after one step of the connecting function. -/
def perform : SetupStep → Resources → Resources
  | .newSocket, resources => { resources with fd := .socket }
  | .newAsyncFizz, resources => { resources with fd := .transport }
  | .releaseTransport, resources => { resources with fd := .connection }
  | .startThread, resources => { resources with thread := .running }
  | _, resources => resources

/--
An exception leaves the connecting function: the locals that own the descriptor
close it, a bare integer or a released transport does not.
-/
def unwind (resources : Resources) : Resources :=
  match resources.fd with
  | .socket => { resources with fd := .closed }
  | .transport => { resources with fd := .closed }
  | _ => resources

/--
The destructor of a connection object stops the loop and joins its thread, and
never touches the transport.
-/
def destroyConnection (resources : Resources) : Resources :=
  match resources.thread with
  | .running => { resources with thread := .joined }
  | _ => resources

end Resources

/-- Where a future may be suspended, or not started. -/
inductive Suspension where
  | unpolled
  | blocking
  | handshake
  deriving Repr, DecidableEq

/-- Why a call returned `Err`. -/
inductive SetupError where
  | joinError
  | connectError
  | handshakeAsyncError
  | channelClosed
  | callbackError
  deriving Repr, DecidableEq

/-- Where the future of a call stands. -/
inductive FuturePc where
  | suspended (point : Suspension)
  | dropped (point : Suspension)
  | returnedOk
  | returnedErr (error : SetupError)
  deriving Repr, DecidableEq

/-- The future no longer borrows its context. -/
def FuturePc.isOver : FuturePc → Bool
  | .suspended _ => false
  | _ => true

/-- Where the `spawn_blocking` closure of a call stands. -/
inductive ClosurePc where
  | notSpawned
  | queued
  | running (step : SetupStep) (later : List SetupStep)
  | succeeded
  | threw (step : SetupStep)
  | refused
  deriving Repr, DecidableEq

/-- The closure will use the context again. -/
def ClosurePc.isPending : ClosurePc → Bool
  | .queued => true
  | .running _ _ => true
  | _ => false

/-- Who is responsible for the connection object. -/
inductive ConnectionOwner where
  | nobody
  | rawPointer
  | caller
  | droppedByCaller
  | destroyed
  deriving Repr, DecidableEq

/-- What the result channel of a handshake delivers. -/
inductive HandshakeReply where
  | success
  | error
  | closed
  deriving Repr, DecidableEq

/-- One call of `connect` or `accept_from_stream`. -/
structure SetupCall where
  context : Nat
  kind : ContextKind
  future : FuturePc
  closure : ClosurePc
  resources : Resources
  connection : ConnectionOwner
  reply : Option HandshakeReply
  deriving Repr, DecidableEq

namespace SetupCall

/-- A call whose future has not been polled. -/
def unpolled (context : Nat) (kind : ContextKind) : SetupCall where
  context := context
  kind := kind
  future := .suspended .unpolled
  closure := .notSpawned
  resources := { fd := .stream, thread := .notStarted }
  connection := .nobody
  reply := none

/-- Events of one call. -/
inductive Action where
  | poll (handshakeThrows : Bool)
  | dropFuture
  | poolRefuses
  | closureStarts
  | closureStep
  | closureThrows
  | handshakeReports (reply : HandshakeReply) (closesSocket : Bool)
  | callerDrops
  deriving Repr, DecidableEq

/-- The closure starts, continues or leaves its call through the context. -/
def Action.usesContext : Action → Bool
  | .closureStarts => true
  | .closureStep => true
  | .closureThrows => true
  | _ => false

/--
The poll that finds the closure finished: `?` on its result, then
`*_handshake_async` on the re-boxed connection, whose error drops the box.
-/
def pollBlocking
    (call : SetupCall)
    (handshakeThrows : Bool) :
    Option SetupCall :=
  match call.closure with
  | .refused => some { call with future := .returnedErr .joinError }
  | .threw _ => some { call with future := .returnedErr .connectError }
  | .succeeded =>
      if handshakeThrows then
        some { call with
          future := .returnedErr .handshakeAsyncError
          connection := .destroyed
          resources := call.resources.destroyConnection }
      else
        some { call with future := .suspended .handshake }
  | _ => none

/-- The poll that finds a result, or its sender gone, on the channel. -/
def pollHandshake
    (call : SetupCall) :
    Option SetupCall :=
  match call.reply with
  | none => none
  | some .success =>
      some { call with future := .returnedOk, connection := .caller }
  | some .error =>
      some { call with future := .returnedErr .callbackError }
  | some .closed =>
      some { call with future := .returnedErr .channelClosed }

/--
Poll the future.  The first poll takes the descriptor and spawns the closure.  A
poll that would return `Pending` changes nothing and is left out.
-/
def poll
    (call : SetupCall)
    (handshakeThrows : Bool) :
    Option SetupCall :=
  match call.future with
  | .suspended .unpolled =>
      some { call with
        future := .suspended .blocking
        closure := .queued
        resources := { call.resources with fd := .raw } }
  | .suspended .blocking => call.pollBlocking handshakeThrows
  | .suspended .handshake => call.pollHandshake
  | _ => none

/-- Drop the future: before its first poll it still owns the `TcpStream`. -/
def dropFuture
    (call : SetupCall) :
    Option SetupCall :=
  match call.future with
  | .suspended .unpolled =>
      some { call with
        future := .dropped .unpolled
        resources := { call.resources with fd := .closed } }
  | .suspended point => some { call with future := .dropped point }
  | _ => none

/-- Perform the next step of the connecting function. -/
def closureStep
    (call : SetupCall) :
    Option SetupCall :=
  match call.closure with
  | .running step [] =>
      some { call with
        closure := .succeeded
        resources := call.resources.perform step
        connection := .rawPointer }
  | .running step (next :: later) =>
      some { call with
        closure := .running next later
        resources := call.resources.perform step }
  | _ => none

/-- The handshake callback has been installed and has not reported. -/
def awaitsReply (call : SetupCall) : Prop :=
  (call.future = .suspended .handshake ∨
      call.future = .dropped .handshake) ∧
    call.reply = none

instance (call : SetupCall) : Decidable call.awaitsReply :=
  inferInstanceAs (Decidable ((_ ∨ _) ∧ _))

/-- One step of a call. -/
def step
    (call : SetupCall) :
    Action → Option SetupCall
  | .poll handshakeThrows => call.poll handshakeThrows
  | .dropFuture => call.dropFuture
  | .poolRefuses =>
      if call.closure = .queued then
        some { call with closure := .refused }
      else
        none
  | .closureStarts =>
      match call.closure, call.kind.setupSteps with
      | .queued, first :: later =>
          some { call with closure := .running first later }
      | _, _ => none
  | .closureStep => call.closureStep
  | .closureThrows =>
      match call.closure with
      | .running step _ =>
          if step.mayThrow then
            some { call with
              closure := .threw step
              resources := call.resources.unwind }
          else
            none
      | _ => none
  | .handshakeReports reply closesSocket =>
      if call.awaitsReply then
        some { call with
          reply := some reply
          resources :=
            if reply ≠ .success ∧ closesSocket = true then
              { call.resources with fd := .closed }
            else
              call.resources }
      else
        none
  | .callerDrops =>
      if call.connection = .caller then
        some { call with
          connection := .droppedByCaller
          resources := call.resources.destroyConnection }
      else
        none

/-- Everything one step of a call can do, with the guards it was taken under. -/
inductive Transition (call : SetupCall) : Action → SetupCall → Prop where
  | firstPoll (handshakeThrows : Bool) :
      call.future = .suspended .unpolled →
      Transition call (.poll handshakeThrows) { call with
        future := .suspended .blocking
        closure := .queued
        resources := { call.resources with fd := .raw } }
  | pollRefused (handshakeThrows : Bool) :
      call.future = .suspended .blocking →
      call.closure = .refused →
      Transition call (.poll handshakeThrows)
        { call with future := .returnedErr .joinError }
  | pollThrew (handshakeThrows : Bool) (step : SetupStep) :
      call.future = .suspended .blocking →
      call.closure = .threw step →
      Transition call (.poll handshakeThrows)
        { call with future := .returnedErr .connectError }
  | pollHandshakeThrows :
      call.future = .suspended .blocking →
      call.closure = .succeeded →
      Transition call (.poll true) { call with
        future := .returnedErr .handshakeAsyncError
        connection := .destroyed
        resources := call.resources.destroyConnection }
  | pollConnected :
      call.future = .suspended .blocking →
      call.closure = .succeeded →
      Transition call (.poll false)
        { call with future := .suspended .handshake }
  | pollSuccess (handshakeThrows : Bool) :
      call.future = .suspended .handshake →
      call.reply = some .success →
      Transition call (.poll handshakeThrows)
        { call with future := .returnedOk, connection := .caller }
  | pollError (handshakeThrows : Bool) :
      call.future = .suspended .handshake →
      call.reply = some .error →
      Transition call (.poll handshakeThrows)
        { call with future := .returnedErr .callbackError }
  | pollClosed (handshakeThrows : Bool) :
      call.future = .suspended .handshake →
      call.reply = some .closed →
      Transition call (.poll handshakeThrows)
        { call with future := .returnedErr .channelClosed }
  | dropUnpolled :
      call.future = .suspended .unpolled →
      Transition call .dropFuture { call with
        future := .dropped .unpolled
        resources := { call.resources with fd := .closed } }
  | dropSuspended (point : Suspension) :
      call.future = .suspended point →
      point ≠ .unpolled →
      Transition call .dropFuture { call with future := .dropped point }
  | poolRefuses :
      call.closure = .queued →
      Transition call .poolRefuses { call with closure := .refused }
  | closureStarts (first : SetupStep) (later : List SetupStep) :
      call.closure = .queued →
      call.kind.setupSteps = first :: later →
      Transition call .closureStarts
        { call with closure := .running first later }
  | closureFinishes (step : SetupStep) :
      call.closure = .running step [] →
      Transition call .closureStep { call with
        closure := .succeeded
        resources := call.resources.perform step
        connection := .rawPointer }
  | closureContinues
      (step next : SetupStep)
      (later : List SetupStep) :
      call.closure = .running step (next :: later) →
      Transition call .closureStep { call with
        closure := .running next later
        resources := call.resources.perform step }
  | closureThrows (step : SetupStep) (later : List SetupStep) :
      call.closure = .running step later →
      step.mayThrow = true →
      Transition call .closureThrows { call with
        closure := .threw step
        resources := call.resources.unwind }
  | handshakeReports (reply : HandshakeReply) (closesSocket : Bool) :
      call.awaitsReply →
      Transition call (.handshakeReports reply closesSocket) { call with
        reply := some reply
        resources :=
          if reply ≠ .success ∧ closesSocket = true then
            { call.resources with fd := .closed }
          else
            call.resources }
  | callerDrops :
      call.connection = .caller →
      Transition call .callerDrops { call with
        connection := .droppedByCaller
        resources := call.resources.destroyConnection }

/-- A poll is one of the future's transitions. -/
theorem Transition.of_poll
    {call following : SetupCall}
    {handshakeThrows : Bool}
    (taken : call.poll handshakeThrows = some following) :
    Transition call (.poll handshakeThrows) following := by
  unfold poll at taken
  split at taken
  · next here =>
      cases taken
      exact .firstPoll handshakeThrows here
  · next here =>
      unfold pollBlocking at taken
      split at taken
      · next refused =>
          cases taken
          exact .pollRefused handshakeThrows here refused
      · next step threw =>
          cases taken
          exact .pollThrew handshakeThrows step here threw
      · next succeeded =>
          split at taken
          · next throws =>
              cases taken
              subst throws
              exact .pollHandshakeThrows here succeeded
          · next returns =>
              cases taken
              simp only [Bool.not_eq_true] at returns
              subst returns
              exact .pollConnected here succeeded
      · cases taken
  · next here =>
      unfold pollHandshake at taken
      split at taken
      · cases taken
      · next reported =>
          cases taken
          exact .pollSuccess handshakeThrows here reported
      · next reported =>
          cases taken
          exact .pollError handshakeThrows here reported
      · next reported =>
          cases taken
          exact .pollClosed handshakeThrows here reported
  · cases taken

/-- Dropping the future is one of its transitions. -/
theorem Transition.of_dropFuture
    {call following : SetupCall}
    (taken : call.dropFuture = some following) :
    Transition call .dropFuture following := by
  unfold dropFuture at taken
  split at taken
  · next here =>
      cases taken
      exact .dropUnpolled here
  · next point notUnpolled here =>
      cases taken
      exact .dropSuspended point here notUnpolled
  · cases taken

/-- Every enabled action performs one of the listed transitions. -/
theorem Transition.of_step
    {call following : SetupCall}
    {action : Action}
    (taken : call.step action = some following) :
    Transition call action following := by
  cases action with
  | poll handshakeThrows =>
      exact .of_poll taken
  | dropFuture =>
      exact .of_dropFuture taken
  | poolRefuses =>
      simp only [step] at taken
      split at taken
      · next waiting =>
          cases taken
          exact .poolRefuses waiting
      · cases taken
  | closureStarts =>
      simp only [step] at taken
      split at taken
      · next first later waiting body =>
          cases taken
          exact .closureStarts first later waiting body
      · cases taken
  | closureStep =>
      simp only [step, closureStep] at taken
      split at taken
      · next step inside =>
          cases taken
          exact .closureFinishes step inside
      · next step next later inside =>
          cases taken
          exact .closureContinues step next later inside
      · cases taken
  | closureThrows =>
      simp only [step] at taken
      split at taken
      · next step later inside =>
          split at taken
          · next throwing =>
              cases taken
              exact .closureThrows step later inside throwing
          · cases taken
      · cases taken
  | handshakeReports reply closesSocket =>
      simp only [step] at taken
      split at taken
      · next awaiting =>
          cases taken
          exact .handshakeReports reply closesSocket awaiting
      · cases taken
  | callerDrops =>
      simp only [step] at taken
      split at taken
      · next held =>
          cases taken
          exact .callerDrops held
      · cases taken

end SetupCall

/-- One context and whether it has been dropped. -/
structure TlsContext where
  kind : ContextKind
  alive : Bool
  deriving Repr, DecidableEq

/-- All contexts and all calls made on them. -/
structure Setup where
  contexts : List TlsContext
  calls : List SetupCall
  deriving Repr, DecidableEq

namespace Setup

/-- Nothing has been created. -/
def initial : Setup where
  contexts := []
  calls := []

/-- Events of the whole system. -/
inductive Action where
  | newContext (kind : ContextKind)
  | connect (context : Nat)
  | dropContext (context : Nat)
  | call (index : Nat) (action : SetupCall.Action)
  deriving Repr, DecidableEq

/-- The context is there and has not been dropped. -/
def contextAlive (state : Setup) (context : Nat) : Bool :=
  match state.contexts[context]? with
  | some found => found.alive
  | none => false

/-- No future borrows the context. -/
def unborrowed (state : Setup) (context : Nat) : Bool :=
  state.calls.all fun call =>
    call.context ≠ context || call.future.isOver

/-- One step of the system. -/
def step
    (state : Setup) :
    Action → Option Setup
  | .newContext kind =>
      some { state with
        contexts := state.contexts ++ [{ kind := kind, alive := true }] }
  | .connect context =>
      match state.contexts[context]? with
      | some found =>
          if found.alive then
            some { state with
              calls := state.calls ++ [.unpolled context found.kind] }
          else
            none
      | none => none
  | .dropContext context =>
      match state.contexts[context]? with
      | some found =>
          if found.alive = true ∧ state.unborrowed context = true then
            some { state with
              contexts :=
                state.contexts.set context { found with alive := false } }
          else
            none
      | none => none
  | .call index action =>
      match state.calls[index]? with
      | some call =>
          (call.step action).map fun following =>
            { state with calls := state.calls.set index following }
      | none => none

/-- Everything one step of the system can do. -/
inductive Transition (state : Setup) : Action → Setup → Prop where
  | newContext (kind : ContextKind) :
      Transition state (.newContext kind) { state with
        contexts := state.contexts ++ [{ kind := kind, alive := true }] }
  | connect (context : Nat) (found : TlsContext) :
      state.contexts[context]? = some found →
      found.alive = true →
      Transition state (.connect context) { state with
        calls := state.calls ++ [.unpolled context found.kind] }
  | dropContext (context : Nat) (found : TlsContext) :
      state.contexts[context]? = some found →
      state.unborrowed context = true →
      Transition state (.dropContext context) { state with
        contexts :=
          state.contexts.set context { found with alive := false } }
  | call
      (index : Nat)
      (action : SetupCall.Action)
      (call following : SetupCall) :
      state.calls[index]? = some call →
      SetupCall.Transition call action following →
      Transition state (.call index action)
        { state with calls := state.calls.set index following }

/-- Every enabled action of the system performs one of the listed transitions. -/
theorem Transition.of_step
    {state following : Setup}
    {action : Action}
    (taken : state.step action = some following) :
    Transition state action following := by
  cases action with
  | newContext kind =>
      cases taken
      exact .newContext kind
  | connect context =>
      simp only [step] at taken
      split at taken
      · next found present =>
          split at taken
          · next alive =>
              cases taken
              exact .connect context found present alive
          · cases taken
      · cases taken
  | dropContext context =>
      simp only [step] at taken
      split at taken
      · next found present =>
          split at taken
          · next guard =>
              cases taken
              exact .dropContext context found present guard.2
          · cases taken
      · cases taken
  | call index action =>
      simp only [step] at taken
      split at taken
      · next call present =>
          obtain ⟨next, stepped, shape⟩ := Option.map_eq_some_iff.mp taken
          subst following
          exact .call index action call next present (.of_step stepped)
      · cases taken

end Setup

end FizzRs
