import FizzRs.LabelledSystem
import FizzRs.HexAgreement

namespace FizzRs

open LabelledSystem

/-!
# Sessions of the echo benchmark

`EchoServerSession` and `EchoClientSession` are driven by callbacks on one event
loop.  They count the batches still to be read and the writes in flight, and
finish once they are stopped and no write is in flight.  Finishing schedules a
closure that runs after the current callbacks have returned, fulfils `done_` and
destroys the session.

A session calls the transport from inside its callbacks, and the transport may
deliver write callbacks, errors and an end of stream before such a call returns.
The program counter says which call that is.  The history of a session (bytes
received, writes issued, what was true when it finished) is recorded in fields of
its own.
-/

/-- How a promise is fulfilled. -/
inductive PromiseResult where
  | value
  | exception (what : String)
  deriving Repr, DecidableEq

/-- Which of the two sessions; the client checks the peer with its context. -/
inductive EchoRole where
  | server
  | client (context : FizzClientContext)
  deriving Repr, DecidableEq

/-- The word that the messages of a session start with. -/
def EchoRole.name : EchoRole → String
  | .server => "server"
  | .client _ => "client"

/--
Where a session stands: before its handshake callback, inside a call of the
transport, between callbacks, or destroyed.
-/
inductive SessionPc where
  | handshaking
  | installing
  | sendingFirst
  | echoing
  | idle
  | closed
  deriving Repr, DecidableEq

/-- Callbacks of the transport may be delivered here. -/
def SessionPc.acceptsCallbacks : SessionPc → Bool
  | .installing => true
  | .sendingFirst => true
  | .echoing => true
  | .idle => true
  | _ => false

/-- `--counter` of a `size_t`. -/
def decrement (counter : Nat) : Nat :=
  if counter = 0 then 18446744073709551615 else counter - 1

/-- A session, its scheduled closures, and its history. -/
structure EchoSession where
  pc : SessionPc
  readCB : Bool
  readsRemaining : Nat
  writesInFlight : Nat
  stopped : Bool
  finished : Bool
  errorMsg : Option String
  done : List PromiseResult
  readQueue : List UInt8
  closures : Nat
  scheduled : Nat
  outstanding : Nat
  inputEnded : Bool
  received : List UInt8
  batches : Nat
  writes : List (List UInt8)
  atFinish : Option (Nat × Option String)
  deriving Repr, DecidableEq

/-- The checks of the client's `fizzHandshakeSuccess`: the error, if any. -/
def checkPeer
    (context : FizzClientContext)
    (callback : SuccessCallback) :
    Option String :=
  match callback.faults.getState with
  | some what => some ("client verify: " ++ what)
  | none =>
      match callback.certificate with
      | .delegated credential expiresTime =>
          match verifyPeerDc callback.faults context credential
              expiresTime with
          | .error what => some ("client verify: " ++ what)
          | .ok err => if err = "" then none else some err
      | _ => some "server did not present a delegated credential"

namespace EchoSession

/-- A session that has been started. -/
def initial (rounds : Nat) : EchoSession where
  pc := .handshaking
  readCB := false
  readsRemaining := rounds
  writesInFlight := 0
  stopped := false
  finished := false
  errorMsg := none
  done := []
  readQueue := []
  closures := 0
  scheduled := 0
  outstanding := 0
  inputEnded := false
  received := []
  batches := 0
  writes := []
  atFinish := none

/-- Callbacks of a session, returns of its transport calls, its closure. -/
inductive Action where
  | fizzHandshakeSuccess (callback : SuccessCallback)
  | fizzHandshakeError (exception : ExceptionWrapper)
  | fizzHandshakeAttemptFallback
  | readDataAvailable (bytes : List UInt8)
  | readEOF
  | readErr (what : String)
  | writeSuccess
  | writeErr (what : String)
  | resume
  | runClosure
  deriving Repr, DecidableEq

/-- `maybeFinish`, which notes what is true at that moment. -/
def maybeFinish (session : EchoSession) : EchoSession :=
  if session.finished then
    session
  else if session.stopped = false then
    session
  else if 0 < session.writesInFlight then
    session
  else
    { session with
      finished := true
      closures := session.closures + 1
      scheduled := session.scheduled + 1
      atFinish := some (session.readsRemaining, session.errorMsg) }

/-- `setError`: the first message is kept, and no data follows an error. -/
def setError
    (message : String)
    (session : EchoSession) :
    EchoSession :=
  maybeFinish
    { session with
      errorMsg :=
        match session.errorMsg with
        | some first => some first
        | none => some message
      stopped := true
      inputEnded := true }

/-- `++writes_in_flight_` and the start of `writeChain`. -/
def issue
    (bytes : List UInt8)
    (session : EchoSession) :
    EchoSession :=
  { session with
    writesInFlight := session.writesInFlight + 1
    outstanding := session.outstanding + 1
    writes := session.writes ++ [bytes] }

/-- Split a batch off the queue and count it. -/
def splitBatch
    (batchSize : Nat)
    (session : EchoSession) :
    EchoSession :=
  { session with
    readQueue := session.readQueue.drop batchSize
    readsRemaining := decrement session.readsRemaining
    batches := session.batches + 1 }

/-- Stop, and finish if nothing is in flight. -/
def stop (session : EchoSession) : EchoSession :=
  maybeFinish { session with stopped := true, pc := .idle }

/-- The bytes of one batch of the client. -/
def sendBuf (batchSize : Nat) : List UInt8 :=
  List.replicate batchSize 0x5A

/-- The loop of the server's `readDataAvailable`, up to its next `writeChain`. -/
def serverLoop
    (batchSize : Nat)
    (session : EchoSession) :
    EchoSession :=
  if batchSize ≤ session.readQueue.length ∧ 0 < session.readsRemaining then
    { (session.splitBatch batchSize).issue
        (session.readQueue.take batchSize) with
      pc := .echoing }
  else if session.readsRemaining = 0 ∧ session.stopped = false then
    session.stop
  else
    { session with pc := .idle }

/-- The loop of the client's `readDataAvailable`, up to its next `writeChain`. -/
def clientLoop
    (batchSize : Nat)
    (session : EchoSession) :
    EchoSession :=
  if batchSize ≤ session.readQueue.length ∧ 0 < session.readsRemaining then
    if (session.splitBatch batchSize).readsRemaining = 0 then
      (session.splitBatch batchSize).stop
    else
      { (session.splitBatch batchSize).issue (sendBuf batchSize) with
        pc := .echoing }
  else if session.stopped then
    maybeFinish { session with pc := .idle }
  else
    { session with pc := .idle }

/-- The loop of `readDataAvailable`. -/
def loop
    (role : EchoRole)
    (batchSize : Nat)
    (session : EchoSession) :
    EchoSession :=
  match role with
  | .server => session.serverLoop batchSize
  | .client _ => session.clientLoop batchSize

/-- The rest of `fizzHandshakeSuccess` behind `setReadCB`. -/
def afterReadCB
    (role : EchoRole)
    (batchSize : Nat)
    (session : EchoSession) :
    EchoSession :=
  if session.readsRemaining = 0 then
    session.stop
  else
    match role with
    | .server => { session with pc := .idle }
    | .client _ =>
        { session.issue (sendBuf batchSize) with pc := .sendingFirst }

/-- `fizzHandshakeSuccess` up to `setReadCB`. -/
def handshakeSuccess
    (role : EchoRole)
    (callback : SuccessCallback)
    (session : EchoSession) :
    EchoSession :=
  match role with
  | .server => { session with readCB := true, pc := .installing }
  | .client context =>
      match checkPeer context callback with
      | some message => { session with pc := .idle }.setError message
      | none => { session with readCB := true, pc := .installing }

/-- `readEOF`. -/
def endOfStream
    (role : EchoRole)
    (session : EchoSession) :
    EchoSession :=
  if 0 < session.readsRemaining then
    session.setError (role.name ++ ": peer closed mid-stream")
  else if session.stopped = false then
    maybeFinish { session with stopped := true, inputEnded := true }
  else
    { session with inputEnded := true }

/-- `--writes_in_flight_` of the two write callbacks. -/
def settleWrite (session : EchoSession) : EchoSession :=
  { session with
    writesInFlight := decrement session.writesInFlight
    outstanding := session.outstanding - 1 }

/-- The closure: detach, fulfil `done_`, destroy. -/
def closure (session : EchoSession) : EchoSession :=
  { session with
    readCB := false
    closures := session.closures - 1
    done :=
      session.done ++
        [match session.errorMsg with
          | some what => .exception what
          | none => .value]
    pc := .closed }

/-- The transport call in progress returns. -/
def resume
    (role : EchoRole)
    (batchSize : Nat)
    (session : EchoSession) :
    Option EchoSession :=
  match session.pc with
  | .installing => some (session.afterReadCB role batchSize)
  | .sendingFirst => some { session with pc := .idle }
  | .echoing => some (session.loop role batchSize)
  | _ => none

/--
One callback, one return of a transport call, or the closure.  The guards are
the contract of the transport: one handshake callback, one callback for each
write, no data after an error or an end of stream.

Data comes between callbacks only.  `setReadCB` delivers what Fizz has decrypted
for a connection without a read callback, but the session calls it from the report
of the handshake, before Fizz decrypts any application data; and `writeChain` reads
nothing.
-/
def step
    (role : EchoRole)
    (batchSize : Nat)
    (session : EchoSession) :
    Action → Option EchoSession
  | .fizzHandshakeSuccess callback =>
      if session.pc = .handshaking then
        some (session.handshakeSuccess role callback)
      else
        none
  | .fizzHandshakeError exception =>
      if session.pc = .handshaking then
        some ({ session with pc := .idle }.setError
          (role.name ++ " handshake: " ++ exception.what))
      else
        none
  | .fizzHandshakeAttemptFallback =>
      if session.pc = .handshaking ∧ role = .server then
        some ({ session with pc := .idle }.setError
          "server handshake: fallback requested")
      else
        none
  | .readDataAvailable bytes =>
      if session.pc = .idle ∧ session.readCB = true ∧
          session.inputEnded = false ∧ bytes ≠ [] then
        some ({ session with
          readQueue := session.readQueue ++ bytes
          received := session.received ++ bytes }.loop role batchSize)
      else
        none
  | .readEOF =>
      if session.pc.acceptsCallbacks = true ∧ session.readCB = true then
        some (session.endOfStream role)
      else
        none
  | .readErr what =>
      if session.pc.acceptsCallbacks = true ∧ session.readCB = true then
        some (session.setError (role.name ++ " read: " ++ what))
      else
        none
  | .writeSuccess =>
      if session.pc.acceptsCallbacks = true ∧ 0 < session.outstanding then
        some session.settleWrite.maybeFinish
      else
        none
  | .writeErr what =>
      if session.pc.acceptsCallbacks = true ∧ 0 < session.outstanding then
        some (session.settleWrite.setError
          (role.name ++ " write: " ++ what))
      else
        none
  | .resume => session.resume role batchSize
  | .runClosure =>
      if session.pc = .idle ∧ 0 < session.closures then
        some session.closure
      else
        none

/-- Everything one step can do, with the guards it was taken under. -/
inductive Transition
    (role : EchoRole)
    (batchSize : Nat)
    (session : EchoSession) :
    Action → EchoSession → Prop where
  | handshakeSuccess (callback : SuccessCallback) :
      session.pc = .handshaking →
      Transition role batchSize session (.fizzHandshakeSuccess callback)
        (session.handshakeSuccess role callback)
  | handshakeError (exception : ExceptionWrapper) :
      session.pc = .handshaking →
      Transition role batchSize session (.fizzHandshakeError exception)
        ({ session with pc := .idle }.setError
          (role.name ++ " handshake: " ++ exception.what))
  | handshakeFallback :
      session.pc = .handshaking →
      Transition role batchSize session .fizzHandshakeAttemptFallback
        ({ session with pc := .idle }.setError
          "server handshake: fallback requested")
  | data (bytes : List UInt8) :
      session.pc = .idle →
      session.readCB = true →
      session.inputEnded = false →
      bytes ≠ [] →
      Transition role batchSize session (.readDataAvailable bytes)
        ({ session with
          readQueue := session.readQueue ++ bytes
          received := session.received ++ bytes }.loop role batchSize)
  | endOfStream :
      session.pc.acceptsCallbacks = true →
      Transition role batchSize session .readEOF (session.endOfStream role)
  | readErr (what : String) :
      session.pc.acceptsCallbacks = true →
      Transition role batchSize session (.readErr what)
        (session.setError (role.name ++ " read: " ++ what))
  | writeSuccess :
      session.pc.acceptsCallbacks = true →
      0 < session.outstanding →
      Transition role batchSize session .writeSuccess
        session.settleWrite.maybeFinish
  | writeErr (what : String) :
      session.pc.acceptsCallbacks = true →
      0 < session.outstanding →
      Transition role batchSize session (.writeErr what)
        (session.settleWrite.setError (role.name ++ " write: " ++ what))
  | readCBReturns :
      session.pc = .installing →
      Transition role batchSize session .resume
        (session.afterReadCB role batchSize)
  | firstWriteReturns :
      session.pc = .sendingFirst →
      Transition role batchSize session .resume { session with pc := .idle }
  | writeReturns :
      session.pc = .echoing →
      Transition role batchSize session .resume (session.loop role batchSize)
  | closure :
      session.pc = .idle →
      0 < session.closures →
      Transition role batchSize session .runClosure session.closure

/-- A return of a transport call is one of three transitions. -/
theorem Transition.of_resume
    {role : EchoRole}
    {batchSize : Nat}
    {session following : EchoSession}
    (taken : session.resume role batchSize = some following) :
    Transition role batchSize session .resume following := by
  unfold resume at taken
  split at taken
  · next here =>
      cases taken
      exact .readCBReturns here
  · next here =>
      cases taken
      exact .firstWriteReturns here
  · next here =>
      cases taken
      exact .writeReturns here
  · cases taken

/-- Every enabled action performs one of the listed transitions. -/
theorem Transition.of_step
    {role : EchoRole}
    {batchSize : Nat}
    {session following : EchoSession}
    {action : Action}
    (taken : session.step role batchSize action = some following) :
    Transition role batchSize session action following := by
  cases action with
  | fizzHandshakeSuccess callback =>
      simp only [step, Option.ite_none_right_eq_some,
        Option.some.injEq] at taken
      obtain ⟨here, rfl⟩ := taken
      exact .handshakeSuccess callback here
  | fizzHandshakeError exception =>
      simp only [step, Option.ite_none_right_eq_some,
        Option.some.injEq] at taken
      obtain ⟨here, rfl⟩ := taken
      exact .handshakeError exception here
  | fizzHandshakeAttemptFallback =>
      simp only [step, Option.ite_none_right_eq_some,
        Option.some.injEq] at taken
      obtain ⟨here, rfl⟩ := taken
      exact .handshakeFallback here.1
  | readDataAvailable bytes =>
      simp only [step, Option.ite_none_right_eq_some,
        Option.some.injEq] at taken
      obtain ⟨⟨here, installed, notEnded, someBytes⟩, rfl⟩ := taken
      exact .data bytes here installed notEnded someBytes
  | readEOF =>
      simp only [step, Option.ite_none_right_eq_some,
        Option.some.injEq] at taken
      obtain ⟨here, rfl⟩ := taken
      exact .endOfStream here.1
  | readErr what =>
      simp only [step, Option.ite_none_right_eq_some,
        Option.some.injEq] at taken
      obtain ⟨here, rfl⟩ := taken
      exact .readErr what here.1
  | writeSuccess =>
      simp only [step, Option.ite_none_right_eq_some,
        Option.some.injEq] at taken
      obtain ⟨here, rfl⟩ := taken
      exact .writeSuccess here.1 here.2
  | writeErr what =>
      simp only [step, Option.ite_none_right_eq_some,
        Option.some.injEq] at taken
      obtain ⟨here, rfl⟩ := taken
      exact .writeErr what here.1 here.2
  | resume =>
      exact .of_resume taken
  | runClosure =>
      simp only [step, Option.ite_none_right_eq_some,
        Option.some.injEq] at taken
      obtain ⟨here, rfl⟩ := taken
      exact .closure here.1 here.2

end EchoSession

end FizzRs
