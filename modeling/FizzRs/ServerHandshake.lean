import FizzRs.ClientAuthentication

namespace FizzRs

open LabelledSystem

/-!
# The server handshake

The server has the same two entry points as the client.  Its callbacks check
nothing, but they are written as several statements, and the thread that waits in
`server_connection_handshake` polls the connection's members without a lock while
the loop thread runs them.  The machine therefore advances one statement of a
callback at a time.

The order of the statements matters.  The success callback stores
`handshakeComplete` before it installs the read callback, and the fallback
callback stores its error before it stores `handshakeComplete`.

Once the read callback is installed, the transport may end the stream at any time,
and `readErr` writes the `errorMessage` that the waiting call tests.  The other
read callbacks, `getReadBuffer` and `readDataAvailable`, touch none of the members
that a handshake looks at.  What its owner does with a connection later is not part
of the machine.
-/

/-- `FizzServerConnection`, as far as accepting and the handshake use it. -/
structure FizzServerConnection where
  fd : Int
  transport : Bool
  handshakeComplete : Bool
  errorMessage : String
  readCallback : Bool
  deriving Repr, DecidableEq

/--
`server_accept_connection`.  `fault` is the text of an exception thrown by one of
the allocations, by the socket or by the start of the thread.
-/
def serverAcceptConnection
    (fault : Option String)
    (fd : Int) :
    Except String FizzServerConnection :=
  match fault with
  | some what => .error ("Failed to accept connection: " ++ what)
  | none =>
      .ok
        { fd := fd
          transport := true
          handshakeComplete := false
          errorMessage := ""
          readCallback := false }

/-- The first await of `accept_from_stream`. -/
def acceptBlocking :
    Except String (Except String FizzServerConnection) →
      Except FizzError FizzServerConnection
  | .error joinError =>
      .error (.ioError ("Failed to spawn blocking task: " ++ joinError))
  | .ok (.error what) => .error (.ofException what)
  | .ok (.ok conn) => .ok conn

/-- What Fizz reports to the callback of `transport->accept`, at most once. -/
inductive ServerReport where
  | success
  | error (exception : ExceptionWrapper)
  | fallback
  deriving Repr, DecidableEq

/-- The text of a version fallback, which is treated as an error. -/
def versionFallback : String :=
  "Version fallback attempted"

/-- The error text that a report leaves behind. -/
def ServerReport.text : ServerReport → String
  | .success => ""
  | .error exception => exception.what
  | .fallback => versionFallback

/-- Only a success has no error text. -/
theorem ServerReport.text_eq_empty_iff
    (report : ServerReport) :
    report.text = "" ↔ report = .success := by
  cases report with
  | success =>
      simp [text]
  | error exception =>
      simp [text, exception.what_ne_empty]
  | fallback =>
      simp [text, versionFallback]

/-- Where the loop thread stands inside a handshake callback. -/
inductive ReportPc where
  | idle
  | completed (entry : EntryPoint)
  | installed
  | recorded
  | fallingBack (entry : EntryPoint)
  deriving Repr, DecidableEq

/--
A server connection being handshaken, its channel, what was reported, and what the
read callback was told.  `closedNow` notes that a read callback called `closeNow`,
and `ending` that one is about to.
-/
structure ServerHandshake where
  conn : FizzServerConnection
  caller : CallerPc
  callback : Option EntryPoint
  pc : ReportPc
  reply : Option IoResult
  senderDropped : Bool
  report : Option ServerReport
  fault : Option String
  closedNow : Bool
  ends : List ReadEnd
  ending : Bool
  deriving Repr, DecidableEq

namespace ServerHandshake

/-- The connection that `server_accept_connection` returned. -/
def fresh (conn : FizzServerConnection) : ServerHandshake where
  conn := conn
  caller := .ready
  callback := none
  pc := .idle
  reply := none
  senderDropped := false
  report := none
  fault := none
  closedNow := false
  ends := []
  ending := false

/-- Events of the caller, of Fizz and of the channel. -/
inductive Action where
  | handshake (fault : Option String)
  | handshakeAsync (fault : Option String)
  | waiterStep
  | timeout
  | poll
  | dropFuture
  | report (report : ServerReport)
  | callbackStep
  | callbackDestroyed
  | readEnd (told : ReadEnd)
  | closeNow
  deriving Repr, DecidableEq

/-- Enter `server_connection_handshake`, up to its wait. -/
def handshake
    (state : ServerHandshake)
    (fault : Option String) :
    ServerHandshake :=
  if state.conn.transport = false then
    { state with caller := .failing "No transport available" }
  else
    match fault with
    | some what =>
        { state with caller := .failing what, fault := some what }
    | none =>
        { state with
          caller := .waiting
          callback := some .blocking }

/--
`server_connection_handshake_async` and the `map_err` on it.  When it throws, the
callback is deleted with the sender it owns.
-/
def handshakeAsync
    (state : ServerHandshake)
    (fault : Option String) :
    ServerHandshake :=
  if state.conn.transport = false then
    { state with
      caller :=
        .returnedErr (.tlsHandshakeError "No transport available")
      senderDropped := true }
  else
    match fault with
    | some what =>
        { state with
          caller := .returnedErr (.tlsHandshakeError what)
          senderDropped := true
          fault := some what }
    | none =>
        { state with
          caller := .awaiting
          callback := some .async }

/-- The next step of a caller inside `server_connection_handshake`. -/
def waiterStep
    (state : ServerHandshake) :
    Option ServerHandshake :=
  match state.caller with
  | .waiting =>
      if state.conn.handshakeComplete = true ∨
          state.conn.errorMessage ≠ "" then
        some { state with caller := .leftLoop }
      else
        none
  | .leftLoop =>
      if state.conn.errorMessage ≠ "" then
        some { state with
          caller :=
            .failing ("Handshake failed: " ++ state.conn.errorMessage) }
      else if state.conn.handshakeComplete = false then
        some { state with caller := .failing "Handshake did not complete" }
      else
        some { state with caller := .completed }
  | .failing text =>
      some { state with
        conn := { state.conn with handshakeComplete := false }
        caller := .failed ("Server handshake failed: " ++ text) }
  | _ => none

/-- Poll `accept_from_stream` at its second await. -/
def poll
    (state : ServerHandshake) :
    Option ServerHandshake :=
  match state.caller, state.reply with
  | .awaiting, some (.ok _) => some { state with caller := .returnedOk }
  | .awaiting, some (.err error) =>
      some { state with
        caller := .returnedErr (.tlsHandshakeError error) }
  | .awaiting, none =>
      if state.senderDropped then
        some { state with
          caller :=
            .returnedErr (.tlsHandshakeError
              "Handshake channel closed unexpectedly") }
      else
        none
  | _, _ => none

/-- The first statement of the callback that Fizz calls. -/
def enter
    (state : ServerHandshake)
    (entry : EntryPoint) :
    ServerReport → ServerHandshake
  | .success =>
      { state with
        conn := { state.conn with handshakeComplete := true }
        callback := none
        pc := .completed entry
        report := some .success }
  | .error exception =>
      { state with
        conn := { state.conn with errorMessage := exception.what }
        callback := none
        pc := if entry = .async then .recorded else .idle
        report := some (.error exception) }
  | .fallback =>
      { state with
        conn := { state.conn with errorMessage := versionFallback }
        callback := none
        pc := .fallingBack entry
        report := some .fallback }

/-- The next statement of a handshake callback. -/
def callbackStep
    (state : ServerHandshake) :
    Option ServerHandshake :=
  match state.pc with
  | .idle => none
  | .completed .blocking =>
      some { state with
        conn := { state.conn with readCallback := true }
        pc := .idle }
  | .completed .async =>
      some { state with
        conn := { state.conn with readCallback := true }
        pc := .installed }
  | .installed =>
      some { state with
        reply := some (handleIoResult 0 "")
        pc := .idle }
  | .recorded =>
      some { state with
        reply := some (handleIoResult 0 state.conn.errorMessage)
        pc := .idle }
  | .fallingBack .blocking =>
      some { state with
        conn := { state.conn with handshakeComplete := true }
        pc := .idle }
  | .fallingBack .async =>
      some { state with
        reply := some (handleIoResult 0 state.conn.errorMessage)
        pc := .idle }

/-- `readEOF` or `readErr`, up to `closeNow`. -/
def readEnd
    (state : ServerHandshake)
    (told : ReadEnd) :
    Option ServerHandshake :=
  if state.conn.readCallback = true then
    some { state with
      conn :=
        { state.conn with
          errorMessage := told.record state.conn.errorMessage }
      ends := told :: state.ends
      ending := true }
  else
    none

/-- The `closeNow` of a read callback. -/
def closeNow
    (state : ServerHandshake) :
    Option ServerHandshake :=
  if state.ending = true then
    some { state with closedNow := true, ending := false }
  else
    none

/-- One step. -/
def step
    (state : ServerHandshake) :
    Action → Option ServerHandshake
  | .handshake fault =>
      if state.caller = .ready then some (state.handshake fault) else none
  | .handshakeAsync fault =>
      if state.caller = .ready then
        some (state.handshakeAsync fault)
      else
        none
  | .waiterStep => state.waiterStep
  | .timeout =>
      if state.caller = .waiting ∧
          state.conn.handshakeComplete = false ∧
          state.conn.errorMessage = "" then
        some { state with
          caller := .failing "Handshake timed out after 120 seconds" }
      else
        none
  | .poll => state.poll
  | .dropFuture =>
      if state.caller = .awaiting then
        some { state with caller := .dropped }
      else
        none
  | .report report =>
      match state.callback with
      | none => none
      | some entry => some (state.enter entry report)
  | .callbackStep => state.callbackStep
  | .callbackDestroyed =>
      match state.callback with
      | none => none
      | some .blocking => some { state with callback := none }
      | some .async =>
          some { state with callback := none, senderDropped := true }
  | .readEnd told => state.readEnd told
  | .closeNow => state.closeNow

/-- Everything one step can do, with the guards it was taken under. -/
inductive Transition
    (state : ServerHandshake) :
    Action → ServerHandshake → Prop where
  | handshake (fault : Option String) :
      state.caller = .ready →
      Transition state (.handshake fault) (state.handshake fault)
  | handshakeAsync (fault : Option String) :
      state.caller = .ready →
      Transition state (.handshakeAsync fault) (state.handshakeAsync fault)
  | leaveLoop :
      state.caller = .waiting →
      state.conn.handshakeComplete = true ∨
        state.conn.errorMessage ≠ "" →
      Transition state .waiterStep { state with caller := .leftLoop }
  | findError :
      state.caller = .leftLoop →
      state.conn.errorMessage ≠ "" →
      Transition state .waiterStep { state with
        caller :=
          .failing ("Handshake failed: " ++ state.conn.errorMessage) }
  | findIncomplete :
      state.caller = .leftLoop →
      state.conn.errorMessage = "" →
      state.conn.handshakeComplete = false →
      Transition state .waiterStep
        { state with caller := .failing "Handshake did not complete" }
  | complete :
      state.caller = .leftLoop →
      state.conn.errorMessage = "" →
      state.conn.handshakeComplete = true →
      Transition state .waiterStep { state with caller := .completed }
  | giveUp (text : String) :
      state.caller = .failing text →
      Transition state .waiterStep { state with
        conn := { state.conn with handshakeComplete := false }
        caller := .failed ("Server handshake failed: " ++ text) }
  | timeout :
      state.caller = .waiting →
      state.conn.errorMessage = "" →
      Transition state .timeout { state with
        caller := .failing "Handshake timed out after 120 seconds" }
  | pollOk (bytes : Nat) :
      state.caller = .awaiting →
      state.reply = some (.ok bytes) →
      Transition state .poll { state with caller := .returnedOk }
  | pollErr (error : String) :
      state.caller = .awaiting →
      state.reply = some (.err error) →
      Transition state .poll { state with
        caller := .returnedErr (.tlsHandshakeError error) }
  | pollClosed :
      state.caller = .awaiting →
      state.reply = none →
      state.senderDropped = true →
      Transition state .poll { state with
        caller :=
          .returnedErr (.tlsHandshakeError
            "Handshake channel closed unexpectedly") }
  | dropFuture :
      state.caller = .awaiting →
      Transition state .dropFuture { state with caller := .dropped }
  | report (entry : EntryPoint) (report : ServerReport) :
      state.callback = some entry →
      Transition state (.report report) (state.enter entry report)
  | install :
      state.pc = .completed .blocking →
      Transition state .callbackStep { state with
        conn := { state.conn with readCallback := true }
        pc := .idle }
  | installAsync :
      state.pc = .completed .async →
      Transition state .callbackStep { state with
        conn := { state.conn with readCallback := true }
        pc := .installed }
  | sendOk :
      state.pc = .installed →
      Transition state .callbackStep { state with
        reply := some (handleIoResult 0 "")
        pc := .idle }
  | sendError :
      state.pc = .recorded ∨ state.pc = .fallingBack .async →
      Transition state .callbackStep { state with
        reply := some (handleIoResult 0 state.conn.errorMessage)
        pc := .idle }
  | fallBack :
      state.pc = .fallingBack .blocking →
      Transition state .callbackStep { state with
        conn := { state.conn with handshakeComplete := true }
        pc := .idle }
  | destroyed :
      state.callback = some .blocking →
      Transition state .callbackDestroyed { state with callback := none }
  | destroyedAsync :
      state.callback = some .async →
      Transition state .callbackDestroyed
        { state with callback := none, senderDropped := true }
  | readEnd (told : ReadEnd) :
      state.conn.readCallback = true →
      Transition state (.readEnd told) { state with
        conn :=
          { state.conn with
            errorMessage := told.record state.conn.errorMessage }
        ends := told :: state.ends
        ending := true }
  | closeNow :
      state.ending = true →
      Transition state .closeNow
        { state with closedNow := true, ending := false }

/-- A step of the waiting caller is one of its transitions. -/
theorem Transition.of_waiterStep
    {state following : ServerHandshake}
    (taken : state.waiterStep = some following) :
    Transition state .waiterStep following := by
  unfold waiterStep at taken
  split at taken
  · next here =>
      split at taken
      · next settled =>
          cases taken
          exact .leaveLoop here settled
      · cases taken
  · next here =>
      split at taken
      · next hasError =>
          cases taken
          exact .findError here hasError
      · next noError =>
          split at taken
          · next incomplete =>
              cases taken
              exact .findIncomplete here (by simpa using noError)
                incomplete
          · next isComplete =>
              cases taken
              exact .complete here (by simpa using noError)
                (by simpa using isComplete)
  · next text here =>
      cases taken
      exact .giveUp text here
  · cases taken

/-- A poll is one of the transitions of `accept_from_stream`. -/
theorem Transition.of_poll
    {state following : ServerHandshake}
    (taken : state.poll = some following) :
    Transition state .poll following := by
  unfold poll at taken
  split at taken
  · next bytes here delivered =>
      cases taken
      exact .pollOk bytes here delivered
  · next error here delivered =>
      cases taken
      exact .pollErr error here delivered
  · next here noReply =>
      split at taken
      · next closed =>
          cases taken
          exact .pollClosed here noReply closed
      · cases taken
  · cases taken

/-- A statement of a callback is one of the loop's transitions. -/
theorem Transition.of_callbackStep
    {state following : ServerHandshake}
    (taken : state.callbackStep = some following) :
    Transition state .callbackStep following := by
  unfold callbackStep at taken
  split at taken
  · cases taken
  · next here =>
      cases taken
      exact .install here
  · next here =>
      cases taken
      exact .installAsync here
  · next here =>
      cases taken
      exact .sendOk here
  · next here =>
      cases taken
      exact .sendError (.inl here)
  · next here =>
      cases taken
      exact .fallBack here
  · next here =>
      cases taken
      exact .sendError (.inr here)

/-- Every enabled action performs one of the listed transitions. -/
theorem Transition.of_step
    {state following : ServerHandshake}
    {action : Action}
    (taken : state.step action = some following) :
    Transition state action following := by
  cases action with
  | handshake fault =>
      simp only [step] at taken
      split at taken
      · next here =>
          cases taken
          exact .handshake fault here
      · cases taken
  | handshakeAsync fault =>
      simp only [step] at taken
      split at taken
      · next here =>
          cases taken
          exact .handshakeAsync fault here
      · cases taken
  | waiterStep =>
      exact .of_waiterStep taken
  | timeout =>
      simp only [step] at taken
      split at taken
      · next guard =>
          cases taken
          exact .timeout guard.1 guard.2.2
      · cases taken
  | poll =>
      exact .of_poll taken
  | dropFuture =>
      simp only [step] at taken
      split at taken
      · next here =>
          cases taken
          exact .dropFuture here
      · cases taken
  | report report =>
      simp only [step] at taken
      split at taken
      · cases taken
      · next entry installed =>
          cases taken
          exact .report entry report installed
  | callbackStep =>
      exact .of_callbackStep taken
  | callbackDestroyed =>
      simp only [step] at taken
      split at taken
      · cases taken
      · next installed =>
          cases taken
          exact .destroyed installed
      · next installed =>
          cases taken
          exact .destroyedAsync installed
  | readEnd told =>
      simp only [step, ServerHandshake.readEnd] at taken
      split at taken
      · next isReading =>
          cases taken
          exact .readEnd told isReading
      · cases taken
  | closeNow =>
      simp only [step, ServerHandshake.closeNow] at taken
      split at taken
      · next isEnding =>
          cases taken
          exact .closeNow isEnding
      · cases taken

end ServerHandshake

end FizzRs
