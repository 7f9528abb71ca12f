import FizzRs.LabelledSystem
import FizzRs.DelegatedCredential

namespace FizzRs

open LabelledSystem

/-!
# The client handshake

A context copies the verification information, `client_connect` copies it again
into the connection, and the handshake callback compares it with the credential
the server presented.  There are two entry points.  The blocking one waits on
`handshakeComplete` and `errorMessage`.  The asynchronous one, driven by
`ClientTlsContext::connect`, sends the verdict as a string through a oneshot
channel, where the empty string means success.

Fizz reports the result of one `transport->connect` to its callback at most
once.  Every member function called while the callback checks the certificate
may throw.

An accepting callback installs the connection as the read callback and then marks
the handshake as complete.  From `setReadCB` on, also before it returns, the
transport may tell the connection that the stream is over, and `readErr` writes
the very `errorMessage` that the waiting caller looks at.  What its owner does with
a connection later is not part of the machine.
-/

/-- `FizzClientContext`. -/
structure FizzClientContext where
  dcEnabled : Bool
  serviceName : String
  validTime : UInt32
  expectedVerifyScheme : UInt16
  publicKeyDer : String
  expiresAt : UInt64
  caCertPath : String
  alpnProtocols : List String
  supportedAlpns : List String
  sniHostname : String
  deriving Repr, DecidableEq

/-- `new_client_tls_context`. -/
def newClientTlsContext
    (info : VerificationInfo)
    (caCertPath : String) :
    FizzClientContext where
  dcEnabled := true
  serviceName := info.serviceName
  validTime := info.validTime
  expectedVerifyScheme := info.expectedVerifyScheme
  publicKeyDer := info.publicKeyDer
  expiresAt := info.expiresAt
  caCertPath := caCertPath
  alpnProtocols := []
  supportedAlpns := []
  sniHostname := ""

/-- `new_client_tls_context_no_dc`. -/
def newClientTlsContextNoDc
    (caCertPath : String) :
    FizzClientContext where
  dcEnabled := false
  serviceName := ""
  validTime := 0
  expectedVerifyScheme := 0
  publicKeyDer := ""
  expiresAt := 0
  caCertPath := caCertPath
  alpnProtocols := []
  supportedAlpns := []
  sniHostname := ""

/-- The setters of a client context. -/
inductive ContextSetter where
  | alpnProtocols (protocols : List String)
  | sni (hostname : String)
  deriving Repr, DecidableEq

/-- `client_context_set_alpn_protocols`. -/
def clientContextSetAlpnProtocols
    (context : FizzClientContext)
    (protocols : List String) :
    FizzClientContext :=
  { context with
    alpnProtocols := protocols
    supportedAlpns :=
      if protocols = [] then context.supportedAlpns else protocols }

/-- `client_context_set_sni`. -/
def clientContextSetSni
    (context : FizzClientContext)
    (hostname : String) :
    FizzClientContext :=
  { context with sniHostname := hostname }

/-- Apply one setter. -/
def ContextSetter.apply
    (context : FizzClientContext) :
    ContextSetter → FizzClientContext
  | .alpnProtocols protocols =>
      clientContextSetAlpnProtocols context protocols
  | .sni hostname => clientContextSetSni context hostname

/-- `FizzClientConnection`, as far as connecting and the handshake use it. -/
structure FizzClientConnection where
  fd : Int
  transport : Bool
  handshakeComplete : Bool
  errorMessage : String
  peerCertPem : String
  caCertPath : String
  dcExtension : Option (List UInt16)
  expectedServiceName : String
  expectedValidTime : UInt32
  expectedVerifyScheme : UInt16
  expectedPublicKeyDerHex : String
  expectedExpiresAt : UInt64
  dcEnabled : Bool
  readCallback : Bool
  deriving Repr, DecidableEq

/-- What OpenSSL makes of a CA certificate path. -/
inductive CaStore where
  | notCreated
  | notLoaded
  | loaded
  deriving Repr, DecidableEq

/-- `createCertificateVerifier`. -/
def createCertificateVerifier
    (caStore : String → CaStore)
    (caCertPath : String) :
    Except String Unit :=
  match caStore caCertPath with
  | .notCreated =>
      .error ("Failed to create certificate verifier: " ++
        "Failed to create X509_STORE")
  | .notLoaded =>
      .error ("Failed to create certificate verifier: " ++
        ("Failed to load CA certificate from: " ++ caCertPath))
  | .loaded => .ok ()

/-- The hostname for SNI: the argument, or else the one set on the context. -/
def sniFor
    (context : FizzClientContext)
    (hostname : String) :
    String :=
  if hostname = "" ∧ context.sniHostname ≠ "" then
    context.sniHostname
  else
    hostname

/-- The signature schemes advertised for delegated credentials. -/
def dcSigSchemes : List UInt16 :=
  [0x0403, 0x0503, 0x0603, 0x0804]

/--
`client_connect`.  `fault` is the text of an exception thrown by one of the
allocations, by the socket or by the start of the thread.
-/
def clientConnect
    (caStore : String → CaStore)
    (fault : Option String)
    (context : FizzClientContext)
    (fd : Int)
    (hostname : String) :
    Except String FizzClientConnection :=
  match createCertificateVerifier caStore context.caCertPath, fault with
  | .error what, _ => .error ("Failed to connect: " ++ what)
  | .ok (), some what => .error ("Failed to connect: " ++ what)
  | .ok (), none =>
      .ok
        { fd := fd
          transport := true
          handshakeComplete := false
          errorMessage := ""
          peerCertPem := sniFor context hostname
          caCertPath := context.caCertPath
          dcExtension :=
            if context.dcEnabled then some dcSigSchemes else none
          expectedServiceName :=
            if context.dcEnabled then context.serviceName else ""
          expectedValidTime :=
            if context.dcEnabled then context.validTime else 0
          expectedVerifyScheme :=
            if context.dcEnabled then context.expectedVerifyScheme else 0
          expectedPublicKeyDerHex :=
            if context.dcEnabled then context.publicKeyDer else ""
          expectedExpiresAt :=
            if context.dcEnabled then context.expiresAt else 0
          dcEnabled := context.dcEnabled
          readCallback := false }

/-- Calls that may throw while the success callback checks the certificate. -/
structure CheckFaults where
  getState : Option String
  encodeKey : Option String
  readExpiry : Option String
  setReadCB : Option String
  deriving Repr, DecidableEq

/-- Nothing throws. -/
def CheckFaults.none : CheckFaults where
  getState := Option.none
  encodeKey := Option.none
  readExpiry := Option.none
  setReadCB := Option.none

/--
`verifyVerificationInfoAgainstPeerDelegatedCredential`: the empty string on
success, otherwise a human-readable error, unless a call of it throws.
-/
def verifyVerificationInfoAgainstPeerDelegatedCredential
    (faults : CheckFaults)
    (conn : FizzClientConnection)
    (credential : FizzDelegatedCredential)
    (expiresTime : Int) :
    Except String String :=
  match faults.encodeKey with
  | some what => .error what
  | none =>
      if bytesToHexLower credential.publicKey ≠
          conn.expectedPublicKeyDerHex then
        .ok "delegated credential public key does not match VerificationInfo"
      else if credential.validTime ≠ conn.expectedValidTime then
        .ok "delegated credential valid_time does not match VerificationInfo"
      else if credential.expectedVerifyScheme ≠
          conn.expectedVerifyScheme then
        .ok "delegated credential verify scheme does not match VerificationInfo"
      else
        match faults.readExpiry with
        | some what => .error what
        | none =>
            if unixTimestamp expiresTime ≠ conn.expectedExpiresAt then
              .ok "delegated credential expiry does not match VerificationInfo"
            else
              .ok ""

/-- What `state.serverCert()` is after a handshake. -/
inductive ServerCertificate where
  | absent
  | plain
  | delegated (credential : FizzDelegatedCredential) (expiresTime : Int)
  deriving Repr, DecidableEq

/-- One run of `fizzHandshakeSuccess`. -/
structure SuccessCallback where
  certificate : ServerCertificate
  faults : CheckFaults
  deriving Repr, DecidableEq

/--
How a run of `fizzHandshakeSuccess` ends.  A mismatch also closes the transport;
an exception may come after `peerCertPem` was written.
-/
inductive Verdict where
  | rejected (text : String) (closesNow : Bool)
  | raised (what : String) (certificateNoted : Bool)
  | accepted
  deriving Repr, DecidableEq

/-- The text of an exception caught by a success callback. -/
def verifyFailure (what : String) : String :=
  "Failed to verify peer certificate: " ++ what

/-- The text of a refusal. -/
def Verdict.text : Verdict → String
  | .rejected text _ => text
  | .raised what _ => verifyFailure what
  | .accepted => ""

/-- The callback called `client->closeNow()`. -/
def Verdict.closesNow : Verdict → Bool
  | .rejected _ closesNow => closesNow
  | _ => false

/-- Note the certificate and install the read callback. -/
def noteCertificate (callback : SuccessCallback) : Verdict :=
  match callback.faults.setReadCB with
  | some what => .raised what true
  | none => .accepted

/-- The checks that both success callbacks make. -/
def checkServerCertificate
    (conn : FizzClientConnection)
    (callback : SuccessCallback) :
    Verdict :=
  match callback.faults.getState with
  | some what => .raised what false
  | none =>
      match callback.certificate with
      | .absent => .rejected "No server certificate after handshake" false
      | .plain =>
          if conn.dcEnabled then
            .rejected
              "Server did not present a delegated credential certificate"
              false
          else
            noteCertificate callback
      | .delegated credential expiresTime =>
          if conn.dcEnabled then
            match verifyVerificationInfoAgainstPeerDelegatedCredential
                callback.faults conn credential expiresTime with
            | .error what => .raised what false
            | .ok mismatch =>
                if mismatch = "" then
                  noteCertificate callback
                else
                  .rejected mismatch true
          else
            noteCertificate callback

/-- What a success callback leaves in `peerCertPem`. -/
def certificateExtracted : String :=
  "[Certificate extracted successfully]"

/--
`ClientHandshakeCallback::fizzHandshakeSuccess`, up to `setReadCB` if it accepts.
-/
def clientHandshakeSuccess
    (conn : FizzClientConnection) :
    Verdict → FizzClientConnection
  | .rejected text _ => { conn with errorMessage := text }
  | .raised what certificateNoted =>
      { conn with
        errorMessage := verifyFailure what
        peerCertPem :=
          if certificateNoted then certificateExtracted
          else conn.peerCertPem }
  | .accepted =>
      { conn with
        peerCertPem := certificateExtracted
        readCallback := true }

/-- The message sent through a oneshot channel. -/
inductive IoResult where
  | ok (bytes : Nat)
  | err (error : String)
  deriving Repr, DecidableEq

/-- `handle_io_result`: an empty error means success. -/
def handleIoResult (bytes : Nat) (error : String) : IoResult :=
  if error = "" then .ok bytes else .err error

/--
`ClientHandshakeCallbackAsync::fizzHandshakeSuccess`, up to `setReadCB` if it
accepts, and the text it has sent otherwise.
-/
def clientHandshakeSuccessAsync
    (conn : FizzClientConnection) :
    Verdict → FizzClientConnection × Option IoResult
  | .rejected text _ => (conn, some (handleIoResult 0 text))
  | .raised what certificateNoted =>
      ({ conn with
          peerCertPem :=
            if certificateNoted then certificateExtracted
            else conn.peerCertPem },
        some (handleIoResult 0 (verifyFailure what)))
  | .accepted =>
      ({ conn with
          peerCertPem := certificateExtracted
          readCallback := true },
        none)

/-- What a read callback is told when nothing more will come. -/
inductive ReadEnd where
  | eof
  | err (message : String)
  deriving Repr, DecidableEq

/-- What `readEOF` and `readErr` leave in `errorMessage`. -/
def ReadEnd.record (errorMessage : String) : ReadEnd → String
  | .eof => errorMessage
  | .err message => message

/-- The error text after these ends, of which the last stands first. -/
def errorAfter : List ReadEnd → String
  | [] => ""
  | last :: earlier => last.record (errorAfter earlier)

/--
`folly::exception_wrapper`: the name of the exception's class, which is never
empty, and its message when it is a `std::exception`.
-/
structure ExceptionWrapper where
  className : String
  message : Option String
  named : className ≠ ""
  deriving Repr, DecidableEq

/-- `exception_wrapper::what()`. -/
def ExceptionWrapper.what (exception : ExceptionWrapper) : String :=
  match exception.message with
  | some message => exception.className ++ (": " ++ message)
  | none => exception.className

/-- The text of an exception is never empty. -/
theorem ExceptionWrapper.what_ne_empty
    (exception : ExceptionWrapper) :
    exception.what ≠ "" := by
  unfold what
  split
  · intro isEmpty
    exact exception.named (String.append_eq_empty_iff.mp isEmpty).1
  · exact exception.named

/-- The errors that connecting may return. -/
inductive FizzError where
  | tlsHandshakeError (message : String)
  | tlsAlertReceived (message : String) (code : UInt8)
  | certificateVerificationFailed (message : String)
  | delegatedCredentialVerificationFailed (message : String)
  | connectionClosed (message : String)
  | ioError (message : String)
  | cxxException (message : String)
  | invalidArgument (message : String)
  deriving Repr, DecidableEq

/-- The pattern starts at some position of the text. -/
def occursIn (pattern : List Char) : List Char → Bool
  | [] => pattern.isEmpty
  | first :: rest =>
      pattern.isPrefixOf (first :: rest) || occursIn pattern rest

/-- `str::contains`. -/
def containsText (message pattern : String) : Bool :=
  occursIn pattern.toList message.toList

/-- `FizzError::from`: sort a C++ exception by its text. -/
def FizzError.ofException (message : String) : FizzError :=
  if containsText message "Handshake failed" ||
      containsText message "handshake" then
    if containsText message "certificate" &&
        containsText message "verif" then
      .certificateVerificationFailed message
    else if containsText message "delegated credential" ||
        containsText message "DC" then
      .delegatedCredentialVerificationFailed message
    else if containsText message "timeout" ||
        containsText message "timed out" then
      .tlsHandshakeError message
    else if containsText message "alert" then
      .tlsAlertReceived message 0
    else
      .tlsHandshakeError message
  else if containsText message "connection closed" ||
      containsText message "EOF" then
    .connectionClosed message
  else if containsText message "invalid" ||
      containsText message "bad" then
    .invalidArgument message
  else
    .cxxException message

/-- The first await of `connect`: the join error, then the closure's result. -/
def awaitBlocking :
    Except String (Except String FizzClientConnection) →
      Except FizzError FizzClientConnection
  | .error joinError =>
      .error (.ioError ("Failed to spawn blocking task: " ++ joinError))
  | .ok (.error what) => .error (.ofException what)
  | .ok (.ok conn) => .ok conn

/-- The two ways to run a handshake. -/
inductive EntryPoint where
  | blocking
  | async
  deriving Repr, DecidableEq

/--
Where the caller of a handshake stands: inside `client_connection_handshake`, or
inside `connect` after its first await.
-/
inductive CallerPc where
  | ready
  | waiting
  | leftLoop
  | failing (text : String)
  | completed
  | failed (text : String)
  | awaiting
  | returnedOk
  | returnedErr (error : FizzError)
  | dropped
  deriving Repr, DecidableEq

/--
A connection being handshaken, its channel, the accepting callback that is inside
`setReadCB`, the success callbacks that ran to their end, and what the read
callback was told.  `closedNow` notes that the code called `closeNow`, and `ending`
that a read callback is about to.
-/
structure ClientHandshake where
  conn : FizzClientConnection
  caller : CallerPc
  callback : Option EntryPoint
  installing : Option (EntryPoint × SuccessCallback)
  reply : Option IoResult
  senderDropped : Bool
  sni : Option String
  closedNow : Bool
  successes : List SuccessCallback
  ends : List ReadEnd
  ending : Bool
  deriving Repr, DecidableEq

namespace ClientHandshake

/-- The connection that `client_connect` returned. -/
def fresh (conn : FizzClientConnection) : ClientHandshake where
  conn := conn
  caller := .ready
  callback := none
  installing := none
  reply := none
  senderDropped := false
  sni := none
  closedNow := false
  successes := []
  ends := []
  ending := false

/-- Events of the caller, of Fizz and of the channel. -/
inductive Action where
  | handshake (fault : Option String)
  | handshakeAsync (fault : Option String)
  | waiterStep
  | timeout
  | poll
  | dropFuture
  | fizzHandshakeSuccess (callback : SuccessCallback)
  | readCBInstalled
  | fizzHandshakeError (exception : ExceptionWrapper)
  | callbackDestroyed
  | readEnd (told : ReadEnd)
  | closeNow
  deriving Repr, DecidableEq

/-- Take the SNI hostname out of `peerCertPem`, where `client_connect` left it. -/
def takeSni (state : ClientHandshake) : ClientHandshake :=
  { state with
    sni :=
      if state.conn.peerCertPem = "" then none
      else some state.conn.peerCertPem
    conn := { state.conn with peerCertPem := "" } }

/-- Enter `client_connection_handshake`, up to its wait. -/
def handshake
    (state : ClientHandshake)
    (fault : Option String) :
    ClientHandshake :=
  if state.conn.transport = false then
    { state with caller := .failing "No transport available" }
  else
    match fault with
    | some what => { state.takeSni with caller := .failing what }
    | none =>
        { state.takeSni with
          caller := .waiting
          callback := some .blocking }

/--
`client_connection_handshake_async` and the `map_err` on it.  When it throws,
the callback is deleted with the sender it owns.
-/
def handshakeAsync
    (state : ClientHandshake)
    (fault : Option String) :
    ClientHandshake :=
  if state.conn.transport = false then
    { state with
      caller :=
        .returnedErr (.tlsHandshakeError "No transport available")
      senderDropped := true }
  else
    match fault with
    | some what =>
        { state.takeSni with
          caller := .returnedErr (.tlsHandshakeError what)
          senderDropped := true }
    | none =>
        { state.takeSni with
          caller := .awaiting
          callback := some .async }

/-- The next step of a caller inside `client_connection_handshake`. -/
def waiterStep
    (state : ClientHandshake) :
    Option ClientHandshake :=
  match state.caller with
  | .waiting =>
      if state.conn.handshakeComplete = true ∨
          state.conn.errorMessage ≠ "" then
        some { state with caller := .leftLoop }
      else
        none
  | .leftLoop =>
      if state.conn.errorMessage ≠ "" then
        some { state with
          caller :=
            .failing ("Handshake failed: " ++ state.conn.errorMessage) }
      else if state.conn.handshakeComplete = false then
        some { state with caller := .failing "Handshake did not complete" }
      else
        some { state with caller := .completed }
  | .failing text =>
      some { state with
        conn := { state.conn with handshakeComplete := false }
        caller := .failed ("Client handshake failed: " ++ text) }
  | _ => none

/-- Poll `connect` at its second await. -/
def poll
    (state : ClientHandshake) :
    Option ClientHandshake :=
  match state.caller, state.reply with
  | .awaiting, some (.ok _) => some { state with caller := .returnedOk }
  | .awaiting, some (.err error) =>
      some { state with
        caller := .returnedErr (.tlsHandshakeError error) }
  | .awaiting, none =>
      if state.senderDropped then
        some { state with
          caller :=
            .returnedErr (.tlsHandshakeError
              "Handshake channel closed unexpectedly") }
      else
        none
  | _, _ => none

/--
A success callback of the blocking handshake runs: it refuses, or it is inside
`setReadCB`.
-/
def afterSuccess
    (state : ClientHandshake)
    (callback : SuccessCallback) :
    ClientHandshake :=
  match checkServerCertificate state.conn callback with
  | .accepted =>
      { state with
        conn := clientHandshakeSuccess state.conn .accepted
        callback := none
        installing := some (.blocking, callback) }
  | verdict =>
      { state with
        conn := clientHandshakeSuccess state.conn verdict
        callback := none
        closedNow := state.closedNow || verdict.closesNow
        successes := callback :: state.successes }

/-- A success callback of the asynchronous handshake runs. -/
def afterSuccessAsync
    (state : ClientHandshake)
    (callback : SuccessCallback) :
    ClientHandshake :=
  let verdict := checkServerCertificate state.conn callback
  match clientHandshakeSuccessAsync state.conn verdict with
  | (conn, none) =>
      { state with
        conn := conn
        callback := none
        installing := some (.async, callback) }
  | (conn, some reply) =>
      { state with
        conn := conn
        callback := none
        reply := some reply
        closedNow := state.closedNow || verdict.closesNow
        successes := callback :: state.successes }

/-- `setReadCB` returns, and the accepting callback runs to its end. -/
def readCBInstalled
    (state : ClientHandshake) :
    Option ClientHandshake :=
  match state.installing with
  | none => none
  | some (entry, callback) =>
      some { state with
        conn := { state.conn with handshakeComplete := true }
        installing := none
        reply :=
          match entry with
          | .blocking => state.reply
          | .async => some (handleIoResult 0 "")
        successes := callback :: state.successes }

/-- `readEOF` or `readErr`, up to `closeNow`. -/
def readEnd
    (state : ClientHandshake)
    (told : ReadEnd) :
    Option ClientHandshake :=
  if state.conn.readCallback = true then
    some { state with
      conn :=
        { state.conn with
          errorMessage := told.record state.conn.errorMessage }
      ends := told :: state.ends
      ending := true }
  else
    none

/-- The `closeNow` of a read callback. -/
def closeNow
    (state : ClientHandshake) :
    Option ClientHandshake :=
  if state.ending = true then
    some { state with closedNow := true, ending := false }
  else
    none

/-- Fizz reports success to the installed callback. -/
def succeed
    (state : ClientHandshake)
    (callback : SuccessCallback) :
    Option ClientHandshake :=
  match state.callback with
  | none => none
  | some .blocking => some (state.afterSuccess callback)
  | some .async => some (state.afterSuccessAsync callback)

/-- Fizz reports an error to the installed callback. -/
def fail
    (state : ClientHandshake)
    (exception : ExceptionWrapper) :
    Option ClientHandshake :=
  match state.callback with
  | none => none
  | some .blocking =>
      some { state with
        conn := { state.conn with errorMessage := exception.what }
        callback := none }
  | some .async =>
      some { state with
        conn := { state.conn with errorMessage := exception.what }
        callback := none
        reply := some (handleIoResult 0 exception.what) }

/-- One step. -/
def step
    (state : ClientHandshake) :
    Action → Option ClientHandshake
  | .handshake fault =>
      if state.caller = .ready then some (state.handshake fault) else none
  | .handshakeAsync fault =>
      if state.caller = .ready then
        some (state.handshakeAsync fault)
      else
        none
  | .waiterStep => state.waiterStep
  | .timeout =>
      if state.caller = .waiting ∧
          state.conn.handshakeComplete = false ∧
          state.conn.errorMessage = "" then
        some { state with
          caller := .failing "Handshake timed out after 120 seconds" }
      else
        none
  | .poll => state.poll
  | .dropFuture =>
      if state.caller = .awaiting then
        some { state with caller := .dropped }
      else
        none
  | .fizzHandshakeSuccess callback => state.succeed callback
  | .readCBInstalled => state.readCBInstalled
  | .fizzHandshakeError exception => state.fail exception
  | .callbackDestroyed =>
      match state.callback with
      | none => none
      | some .blocking => some { state with callback := none }
      | some .async =>
          some { state with callback := none, senderDropped := true }
  | .readEnd told => state.readEnd told
  | .closeNow => state.closeNow

/-- Everything one step can do, with the guards it was taken under. -/
inductive Transition
    (state : ClientHandshake) :
    Action → ClientHandshake → Prop where
  | handshake (fault : Option String) :
      state.caller = .ready →
      Transition state (.handshake fault) (state.handshake fault)
  | handshakeAsync (fault : Option String) :
      state.caller = .ready →
      Transition state (.handshakeAsync fault) (state.handshakeAsync fault)
  | leaveLoop :
      state.caller = .waiting →
      state.conn.handshakeComplete = true ∨
        state.conn.errorMessage ≠ "" →
      Transition state .waiterStep { state with caller := .leftLoop }
  | findError :
      state.caller = .leftLoop →
      state.conn.errorMessage ≠ "" →
      Transition state .waiterStep { state with
        caller :=
          .failing ("Handshake failed: " ++ state.conn.errorMessage) }
  | findIncomplete :
      state.caller = .leftLoop →
      state.conn.errorMessage = "" →
      state.conn.handshakeComplete = false →
      Transition state .waiterStep
        { state with caller := .failing "Handshake did not complete" }
  | complete :
      state.caller = .leftLoop →
      state.conn.errorMessage = "" →
      state.conn.handshakeComplete = true →
      Transition state .waiterStep { state with caller := .completed }
  | giveUp (text : String) :
      state.caller = .failing text →
      Transition state .waiterStep { state with
        conn := { state.conn with handshakeComplete := false }
        caller := .failed ("Client handshake failed: " ++ text) }
  | timeout :
      state.caller = .waiting →
      state.conn.handshakeComplete = false →
      state.conn.errorMessage = "" →
      Transition state .timeout { state with
        caller := .failing "Handshake timed out after 120 seconds" }
  | pollOk (bytes : Nat) :
      state.caller = .awaiting →
      state.reply = some (.ok bytes) →
      Transition state .poll { state with caller := .returnedOk }
  | pollErr (error : String) :
      state.caller = .awaiting →
      state.reply = some (.err error) →
      Transition state .poll { state with
        caller := .returnedErr (.tlsHandshakeError error) }
  | pollClosed :
      state.caller = .awaiting →
      state.reply = none →
      state.senderDropped = true →
      Transition state .poll { state with
        caller :=
          .returnedErr (.tlsHandshakeError
            "Handshake channel closed unexpectedly") }
  | dropFuture :
      state.caller = .awaiting →
      Transition state .dropFuture { state with caller := .dropped }
  | accept (entry : EntryPoint) (callback : SuccessCallback) :
      state.callback = some entry →
      checkServerCertificate state.conn callback = .accepted →
      Transition state (.fizzHandshakeSuccess callback) { state with
        conn := clientHandshakeSuccess state.conn .accepted
        callback := none
        installing := some (entry, callback) }
  | refuse (callback : SuccessCallback) (verdict : Verdict) :
      state.callback = some .blocking →
      checkServerCertificate state.conn callback = verdict →
      verdict ≠ .accepted →
      Transition state (.fizzHandshakeSuccess callback) { state with
        conn := clientHandshakeSuccess state.conn verdict
        callback := none
        closedNow := state.closedNow || verdict.closesNow
        successes := callback :: state.successes }
  | refuseAsync (callback : SuccessCallback) (verdict : Verdict) :
      state.callback = some .async →
      checkServerCertificate state.conn callback = verdict →
      verdict ≠ .accepted →
      Transition state (.fizzHandshakeSuccess callback) { state with
        conn := (clientHandshakeSuccessAsync state.conn verdict).1
        callback := none
        reply := some (handleIoResult 0 verdict.text)
        closedNow := state.closedNow || verdict.closesNow
        successes := callback :: state.successes }
  | readCBInstalled (callback : SuccessCallback) :
      state.installing = some (.blocking, callback) →
      Transition state .readCBInstalled { state with
        conn := { state.conn with handshakeComplete := true }
        installing := none
        successes := callback :: state.successes }
  | readCBInstalledAsync (callback : SuccessCallback) :
      state.installing = some (.async, callback) →
      Transition state .readCBInstalled { state with
        conn := { state.conn with handshakeComplete := true }
        installing := none
        reply := some (handleIoResult 0 "")
        successes := callback :: state.successes }
  | error (exception : ExceptionWrapper) :
      state.callback = some .blocking →
      Transition state (.fizzHandshakeError exception) { state with
        conn := { state.conn with errorMessage := exception.what }
        callback := none }
  | errorAsync (exception : ExceptionWrapper) :
      state.callback = some .async →
      Transition state (.fizzHandshakeError exception) { state with
        conn := { state.conn with errorMessage := exception.what }
        callback := none
        reply := some (handleIoResult 0 exception.what) }
  | destroyed :
      state.callback = some .blocking →
      Transition state .callbackDestroyed { state with callback := none }
  | destroyedAsync :
      state.callback = some .async →
      Transition state .callbackDestroyed
        { state with callback := none, senderDropped := true }
  | readEnd (told : ReadEnd) :
      state.conn.readCallback = true →
      Transition state (.readEnd told) { state with
        conn :=
          { state.conn with
            errorMessage := told.record state.conn.errorMessage }
        ends := told :: state.ends
        ending := true }
  | closeNow :
      state.ending = true →
      Transition state .closeNow
        { state with closedNow := true, ending := false }

/-- A step of the waiting caller is one of its transitions. -/
theorem Transition.of_waiterStep
    {state following : ClientHandshake}
    (taken : state.waiterStep = some following) :
    Transition state .waiterStep following := by
  unfold waiterStep at taken
  split at taken
  · next here =>
      split at taken
      · next settled =>
          cases taken
          exact .leaveLoop here settled
      · cases taken
  · next here =>
      split at taken
      · next hasError =>
          cases taken
          exact .findError here hasError
      · next noError =>
          split at taken
          · next incomplete =>
              cases taken
              exact .findIncomplete here (by simpa using noError)
                incomplete
          · next isComplete =>
              cases taken
              exact .complete here (by simpa using noError)
                (by simpa using isComplete)
  · next text here =>
      cases taken
      exact .giveUp text here
  · cases taken

/-- A poll is one of the transitions of `connect`. -/
theorem Transition.of_poll
    {state following : ClientHandshake}
    (taken : state.poll = some following) :
    Transition state .poll following := by
  unfold poll at taken
  split at taken
  · next bytes here delivered =>
      cases taken
      exact .pollOk bytes here delivered
  · next error here delivered =>
      cases taken
      exact .pollErr error here delivered
  · next here noReply =>
      split at taken
      · next closed =>
          cases taken
          exact .pollClosed here noReply closed
      · cases taken
  · cases taken

/-- A success callback of the blocking handshake accepts or refuses. -/
theorem Transition.of_afterSuccess
    {state : ClientHandshake}
    (callback : SuccessCallback)
    (installed : state.callback = some .blocking) :
    Transition state (.fizzHandshakeSuccess callback)
      (state.afterSuccess callback) := by
  unfold afterSuccess
  split
  · next accepted =>
      exact .accept .blocking callback installed accepted
  · next refused =>
      exact .refuse callback _ installed rfl refused

/-- A success callback of the asynchronous handshake accepts or refuses. -/
theorem Transition.of_afterSuccessAsync
    {state : ClientHandshake}
    (callback : SuccessCallback)
    (installed : state.callback = some .async) :
    Transition state (.fizzHandshakeSuccess callback)
      (state.afterSuccessAsync callback) := by
  unfold afterSuccessAsync
  cases isVerdict : checkServerCertificate state.conn callback with
  | rejected text closesNow =>
      exact .refuseAsync callback _ installed isVerdict (by simp)
  | raised what certificateNoted =>
      exact .refuseAsync callback _ installed isVerdict (by simp)
  | accepted =>
      exact .accept .async callback installed isVerdict

/-- Every enabled action performs one of the listed transitions. -/
theorem Transition.of_step
    {state following : ClientHandshake}
    {action : Action}
    (taken : state.step action = some following) :
    Transition state action following := by
  cases action with
  | handshake fault =>
      simp only [step] at taken
      split at taken
      · next here =>
          cases taken
          exact .handshake fault here
      · cases taken
  | handshakeAsync fault =>
      simp only [step] at taken
      split at taken
      · next here =>
          cases taken
          exact .handshakeAsync fault here
      · cases taken
  | waiterStep =>
      exact .of_waiterStep taken
  | timeout =>
      simp only [step] at taken
      split at taken
      · next guard =>
          cases taken
          exact .timeout guard.1 guard.2.1 guard.2.2
      · cases taken
  | poll =>
      exact .of_poll taken
  | dropFuture =>
      simp only [step] at taken
      split at taken
      · next here =>
          cases taken
          exact .dropFuture here
      · cases taken
  | fizzHandshakeSuccess callback =>
      simp only [step, succeed] at taken
      split at taken
      · cases taken
      · next installed =>
          cases taken
          exact .of_afterSuccess callback installed
      · next installed =>
          cases taken
          exact .of_afterSuccessAsync callback installed
  | readCBInstalled =>
      simp only [step, ClientHandshake.readCBInstalled] at taken
      split at taken
      · cases taken
      · next entry callback isInstalling =>
          cases taken
          cases entry with
          | blocking =>
              exact .readCBInstalled callback isInstalling
          | async =>
              exact .readCBInstalledAsync callback isInstalling
  | fizzHandshakeError exception =>
      simp only [step, fail] at taken
      split at taken
      · cases taken
      · next installed =>
          cases taken
          exact .error exception installed
      · next installed =>
          cases taken
          exact .errorAsync exception installed
  | callbackDestroyed =>
      simp only [step] at taken
      split at taken
      · cases taken
      · next installed =>
          cases taken
          exact .destroyed installed
      · next installed =>
          cases taken
          exact .destroyedAsync installed
  | readEnd told =>
      simp only [step, ClientHandshake.readEnd] at taken
      split at taken
      · next isReading =>
          cases taken
          exact .readEnd told isReading
      · cases taken
  | closeNow =>
      simp only [step, ClientHandshake.closeNow] at taken
      split at taken
      · next isEnding =>
          cases taken
          exact .closeNow isEnding
      · cases taken

end ClientHandshake

end FizzRs
