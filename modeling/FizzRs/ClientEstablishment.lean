import FizzRs.ClientAuthentication

namespace FizzRs

open LabelledSystem

/-!
# What a returned client handshake means

`connect` hears of the handshake through the channel only.  What it hears is the
verdict of the one callback that ran, or the text of the one error, and it tells
the state of the connection: a connection that is handed out reads, and one that
is not never will.

A connection that reads may be told that the stream is over before `connect` hears
that it reads.  So `connect` may hand out a connection with an error text and a
closed transport, but only with what its own read callback put there.

`client_connect` leaves the hostname for SNI in `peerCertPem`, and the handshake
takes it from there.  So the member holds two different things in turn, and
`peer_certificate` must not show the first one.
-/

/-- `client_connection_peer_cert`. -/
def clientConnectionPeerCert
    (conn : FizzClientConnection) :
    Except String String :=
  if conn.handshakeComplete = false then
    .error ("Failed to get peer certificate: " ++ "Handshake not complete")
  else if conn.peerCertPem = "" then
    .error ("Failed to get peer certificate: " ++
      "No peer certificate available")
  else
    .ok conn.peerCertPem

/-- `ClientConnection::peer_certificate`. -/
def peerCertificate
    (conn : FizzClientConnection) :
    Except FizzError String :=
  match clientConnectionPeerCert conn with
  | .ok pem => .ok pem
  | .error what => .error (.tlsHandshakeError what)

/-- What the handshake is given for SNI. -/
def sniOption (hostname : String) : Option String :=
  if hostname = "" then none else some hostname

/-- What `client_connect` makes, whatever the context. -/
structure FizzClientConnection.Untried
    (conn : FizzClientConnection) :
    Prop where
  transport : conn.transport = true
  incomplete : conn.handshakeComplete = false
  unread : conn.readCallback = false
  noError : conn.errorMessage = ""

theorem FizzClientConnection.Untried.of_clientConnect
    {caStore : String → CaStore}
    {fault : Option String}
    {context : FizzClientContext}
    {fd : Int}
    {hostname : String}
    {conn : FizzClientConnection}
    (connected :
      clientConnect caStore fault context fd hostname = .ok conn) :
    conn.Untried ∧ conn.peerCertPem = sniFor context hostname := by
  unfold clientConnect at connected
  split at connected
  · cases connected
  · cases connected
  · cases connected
    exact ⟨⟨rfl, rfl, rfl, rfl⟩, rfl⟩

/-- What `connect` returns for what it heard. -/
def CallerPc.afterReply : IoResult → CallerPc
  | .ok _ => .returnedOk
  | .err error => .returnedErr (.tlsHandshakeError error)

/-- `connect` has not heard yet, has returned this, or was dropped. -/
def CallerPc.Hears
    (caller returned : CallerPc) :
    Prop :=
  caller = .awaiting ∨ caller = .dropped ∨ caller = returned

/-- Who still waits, or was dropped, has not heard otherwise. -/
theorem CallerPc.Hears.of_waits
    {caller : CallerPc}
    (waits : caller = .awaiting ∨ caller = .dropped)
    (returned : CallerPc) :
    caller.Hears returned := by
  rcases waits with here | here
  · exact .inl here
  · exact .inr (.inl here)

namespace ClientHandshake

/-- Neither callback has touched the connection. -/
structure Untouched (state : ClientHandshake) : Prop where
  successes : state.successes = []
  installing : state.installing = none
  reply : state.reply = none
  open_ : state.closedNow = false
  unended : state.ends = []
  unclosing : state.ending = false
  conn : state.conn.Untried

/--
The connection is the read callback.  Its error text and the state of its
transport are what the read callback was told since.
-/
structure Reads (state : ClientHandshake) : Prop where
  reading : state.conn.readCallback = true
  recorded : state.conn.errorMessage = errorAfter state.ends
  closed :
    state.closedNow = true ∨ state.ending = true ↔ state.ends ≠ []

/--
The callback gave the connection up: it neither reads nor is it complete.
-/
structure Abandoned (state : ClientHandshake) : Prop where
  inactive : state.activePoint? = none
  incomplete : state.conn.handshakeComplete = false
  unread : state.conn.readCallback = false
  unclosing : state.ending = false

/--
How far the handshake of `connect` is: the callback waits for Fizz; it went
without a word; Fizz reported an error; the callback refused the server; it
accepts the server and is inside `setReadCB`; or it has said so.
-/
inductive ConnectPhase
    (start : FizzClientConnection)
    (state : ClientHandshake) :
    Prop where
  | unreported :
      state.Untouched →
      state.callback = some .async →
      state.senderDropped = false →
      state.caller = .awaiting ∨ state.caller = .dropped →
      ConnectPhase start state
  | unheard (text : String) :
      state.Untouched →
      state.callback = none →
      state.senderDropped = true →
      state.caller.Hears (.returnedErr (.tlsHandshakeError text)) →
      ConnectPhase start state
  | failed (exception : ExceptionWrapper) :
      state.Abandoned →
      state.successes = [] →
      state.reply = some (.err exception.what) →
      state.conn.errorMessage = exception.what →
      state.closedNow = false →
      state.caller.Hears
        (.returnedErr (.tlsHandshakeError exception.what)) →
      ConnectPhase start state
  | refused (callback : SuccessCallback) :
      state.Abandoned →
      checkServerCertificate start callback ≠ .accepted →
      state.successes = [callback] →
      state.reply =
        some (.err (checkServerCertificate start callback).text) →
      state.closedNow = (checkServerCertificate start callback).closesNow →
      state.caller.Hears
        (.returnedErr (.tlsHandshakeError
          (checkServerCertificate start callback).text)) →
      ConnectPhase start state
  | accepting (callback : SuccessCallback) :
      state.Reads →
      checkServerCertificate start callback = .accepted →
      state.callback = none →
      state.installing = some (.async, callback) →
      state.successes = [] →
      state.reply = none →
      state.senderDropped = false →
      state.caller = .awaiting ∨ state.caller = .dropped →
      ConnectPhase start state
  | accepted (callback : SuccessCallback) :
      state.Reads →
      checkServerCertificate start callback = .accepted →
      state.activePoint? = none →
      state.conn.handshakeComplete = true →
      state.successes = [callback] →
      state.reply = some (.ok 0) →
      state.caller.Hears .returnedOk →
      ConnectPhase start state

/-- What is known of a handshake on a connection from `client_connect`. -/
structure ConnectAccount
    (start : FizzClientConnection)
    (state : ClientHandshake) :
    Prop where
  expects :
    ∀ callback,
      checkServerCertificate state.conn callback =
        checkServerCertificate start callback
  ready : state.caller = .ready → state = .fresh start
  sni : state.caller ≠ .ready → state.sni = sniOption start.peerCertPem
  shown :
    state.conn.handshakeComplete = true →
      state.conn.peerCertPem = certificateExtracted
  noted :
    state.installing ≠ none →
      state.callback = none ∧
        state.conn.peerCertPem = certificateExtracted
  connect : state.caller.viaConnect = true → ConnectPhase start state
  blocking :
    state.caller.viaConnect = false → state.activePoint? ≠ some .async

/-- The next step of `connect` leaves the connection alone. -/
theorem ConnectPhase.poll
    {start : FizzClientConnection}
    {state : ClientHandshake}
    (phase : ConnectPhase start state)
    {next : CallerPc}
    (heard :
      next = .dropped ∨
        (∃ reply, state.reply = some reply ∧ next = .afterReply reply) ∨
        (state.reply = none ∧ state.senderDropped = true ∧
          ∃ text, next = .returnedErr (.tlsHandshakeError text))) :
    ConnectPhase start { state with caller := next } := by
  -- once a reply was sent, `connect` is dropped or hears this very reply
  have hears :
      ∀ reply, state.reply = some reply →
        next.Hears (.afterReply reply) := by
    intro reply sent
    rcases heard with isDropped | ⟨other, isReply, isNext⟩ | ⟨unsent, _⟩
    · exact .inr (.inl isDropped)
    · rw [sent] at isReply
      cases isReply
      exact .inr (.inr isNext)
    · rw [sent] at unsent
      cases unsent
  cases phase with
  | unreported untouched installed notDropped _ =>
      rcases heard with rfl | ⟨reply, sent, _⟩ | ⟨_, isDropped, _⟩
      · exact .unreported { untouched with } installed notDropped (.inr rfl)
      · rw [untouched.reply] at sent
        cases sent
      · rw [notDropped] at isDropped
        cases isDropped
  | unheard text untouched gone isDropped _ =>
      rcases heard with rfl | ⟨reply, sent, _⟩ | ⟨_, _, text, rfl⟩
      · exact .unheard text { untouched with } gone isDropped (.inr (.inl rfl))
      · rw [untouched.reply] at sent
        cases sent
      · exact .unheard text { untouched with } gone isDropped (.inr (.inr rfl))
  | failed exception abandoned none sent recorded open_ _ =>
      exact
        .failed exception { abandoned with } none sent recorded open_
          (hears _ sent)
  | refused callback abandoned refuses one sent closes _ =>
      exact
        .refused callback { abandoned with } refuses one sent closes
          (hears _ sent)
  | accepting callback reads accepts gone installing none unsent notDropped
      _ =>
      rcases heard with rfl | ⟨reply, sent, _⟩ | ⟨_, isDropped, _⟩
      · exact
          .accepting callback { reads with } accepts gone installing none
            unsent notDropped (.inr rfl)
      · rw [unsent] at sent
        cases sent
      · rw [notDropped] at isDropped
        cases isDropped
  | accepted callback reads accepts inactive isComplete one sent _ =>
      exact
        .accepted callback { reads with } accepts inactive isComplete one sent
          (hears _ sent)

/-- Inside `connect`, the blocking callback is never at work. -/
theorem ConnectPhase.activePoint_ne_blocking
    {start : FizzClientConnection}
    {state : ClientHandshake}
    (phase : ConnectPhase start state) :
    state.activePoint? ≠ some .blocking := by
  cases phase with
  | unreported _ installed _ _ =>
      simp [activePoint?, installed]
  | unheard _ untouched gone _ _ =>
      simp [activePoint?, gone, untouched.installing]
  | failed _ abandoned _ _ _ _ _ =>
      simp [abandoned.inactive]
  | refused _ abandoned _ _ _ _ _ =>
      simp [abandoned.inactive]
  | accepting _ _ _ gone installing _ _ _ _ =>
      simp [activePoint?, gone, installing]
  | accepted _ _ _ inactive _ _ _ _ =>
      simp [inactive]

/-- The read callback is told that the stream is over. -/
theorem Reads.readEnd
    {state : ClientHandshake}
    (reads : state.Reads)
    (told : ReadEnd) :
    Reads { state with
      conn :=
        { state.conn with
          errorMessage := told.record state.conn.errorMessage }
      ends := told :: state.ends
      ending := true } where
  reading := reads.reading
  recorded := by
    rw [reads.recorded]
    rfl
  closed := by simp

/-- Being told so changes nothing else. -/
theorem ConnectPhase.readEnd
    {start : FizzClientConnection}
    {state : ClientHandshake}
    (phase : ConnectPhase start state)
    (isReading : state.conn.readCallback = true)
    (told : ReadEnd) :
    ConnectPhase start { state with
      conn :=
        { state.conn with
          errorMessage := told.record state.conn.errorMessage }
      ends := told :: state.ends
      ending := true } := by
  cases phase with
  | unreported untouched _ _ _ =>
      rw [untouched.conn.unread] at isReading
      cases isReading
  | unheard _ untouched _ _ _ =>
      rw [untouched.conn.unread] at isReading
      cases isReading
  | failed _ abandoned _ _ _ _ _ =>
      rw [abandoned.unread] at isReading
      cases isReading
  | refused _ abandoned _ _ _ _ _ =>
      rw [abandoned.unread] at isReading
      cases isReading
  | accepting callback reads accepts gone installing none unsent notDropped
      waits =>
      exact
        .accepting callback (reads.readEnd told) accepts gone installing none
          unsent notDropped waits
  | accepted callback reads accepts inactive isComplete one sent heard =>
      exact
        .accepted callback (reads.readEnd told) accepts inactive isComplete
          one sent heard

/-- The read callback closes the transport. -/
theorem Reads.closeNow
    {state : ClientHandshake}
    (reads : state.Reads)
    (isEnding : state.ending = true) :
    Reads { state with closedNow := true, ending := false } where
  reading := reads.reading
  recorded := reads.recorded
  closed := by
    have told := reads.closed.mp (.inr isEnding)
    simp [told]

/-- So it does only when it was told of an end. -/
theorem ConnectPhase.closeNow
    {start : FizzClientConnection}
    {state : ClientHandshake}
    (phase : ConnectPhase start state)
    (isEnding : state.ending = true) :
    ConnectPhase start
      { state with closedNow := true, ending := false } := by
  cases phase with
  | unreported untouched _ _ _ =>
      rw [untouched.unclosing] at isEnding
      cases isEnding
  | unheard _ untouched _ _ _ =>
      rw [untouched.unclosing] at isEnding
      cases isEnding
  | failed _ abandoned _ _ _ _ _ =>
      rw [abandoned.unclosing] at isEnding
      cases isEnding
  | refused _ abandoned _ _ _ _ _ =>
      rw [abandoned.unclosing] at isEnding
      cases isEnding
  | accepting callback reads accepts gone installing none unsent notDropped
      waits =>
      exact
        .accepting callback (reads.closeNow isEnding) accepts gone installing
          none unsent notDropped waits
  | accepted callback reads accepts inactive isComplete one sent heard =>
      exact
        .accepted callback (reads.closeNow isEnding) accepts inactive
          isComplete one sent heard

namespace ConnectAccount

variable {start : FizzClientConnection}
variable {state following : ClientHandshake}

theorem initially
    (untried : start.Untried) :
    ConnectAccount start (.fresh start) where
  expects := fun _ => rfl
  ready := fun _ => rfl
  sni := fun moved => (moved rfl).elim
  shown := by
    intro isComplete
    rw [fresh, untried.incomplete] at isComplete
    cases isComplete
  noted := fun isInstalling => (isInstalling rfl).elim
  connect := nofun
  blocking := fun _ => nofun

/-- The caller of the blocking handshake goes on. -/
theorem waiterMoves
    (account : ConnectAccount start state)
    (outside : state.caller.viaConnect = false)
    (started : state.caller ≠ .ready)
    {next : CallerPc}
    (nextOutside : next.viaConnect = false)
    (nextStarted : next ≠ .ready) :
    ConnectAccount start { state with caller := next } where
  expects := account.expects
  ready := fun isReady => (nextStarted isReady).elim
  sni := fun _ => account.sni started
  shown := account.shown
  noted := account.noted
  connect := by
    intro via
    replace via : next.viaConnect = true := via
    rw [nextOutside] at via
    cases via
  blocking := fun _ => account.blocking outside

/-- It gives up. -/
theorem giveUp
    (account : ConnectAccount start state)
    {text : String}
    (here : state.caller = .failing text) :
    ConnectAccount start { state with
      conn := { state.conn with handshakeComplete := false }
      caller := .failed ("Client handshake failed: " ++ text) } where
  expects := account.expects
  ready := nofun
  sni := fun _ => account.sni (by simp [here])
  shown := nofun
  noted := account.noted
  connect := nofun
  blocking := fun _ => account.blocking (by simp [here, CallerPc.viaConnect])

/-- `connect` goes on. -/
theorem connectMoves
    (account : ConnectAccount start state)
    (here : state.caller = .awaiting)
    {next : CallerPc}
    (inside : next.viaConnect = true)
    (heard :
      next = .dropped ∨
        (∃ reply, state.reply = some reply ∧ next = .afterReply reply) ∨
        (state.reply = none ∧ state.senderDropped = true ∧
          ∃ text, next = .returnedErr (.tlsHandshakeError text))) :
    ConnectAccount start { state with caller := next } where
  expects := account.expects
  ready := by
    intro isReady
    replace isReady : next = .ready := isReady
    rw [isReady] at inside
    cases inside
  sni := fun _ => account.sni (by simp [here])
  shown := account.shown
  noted := account.noted
  connect := fun _ =>
    (account.connect (by simp [here, CallerPc.viaConnect])).poll heard
  blocking := by
    intro outside
    replace outside : next.viaConnect = false := outside
    rw [inside] at outside
    cases outside

/-- A handshake has begun, which takes the hostname out of `peerCertPem`. -/
theorem begins
    (untried : start.Untried)
    (taken : following.conn = { start with peerCertPem := "" })
    (sni : following.sni = sniOption start.peerCertPem)
    (started : following.caller ≠ .ready)
    (notInstalling : following.installing = none)
    (connect :
      following.caller.viaConnect = true → ConnectPhase start following)
    (blocking :
      following.caller.viaConnect = false →
        following.callback ≠ some .async) :
    ConnectAccount start following where
  expects := by
    rw [taken]
    exact fun _ => rfl
  ready := fun isReady => (started isReady).elim
  sni := fun _ => sni
  shown := by
    rw [taken]
    intro isComplete
    rw [untried.incomplete] at isComplete
    cases isComplete
  noted := fun isInstalling => (isInstalling notInstalling).elim
  connect := connect
  blocking := by
    intro outside
    have notAsync := blocking outside
    unfold activePoint?
    split
    · next entry installed =>
        rwa [← installed]
    · simp [notInstalling]

/-- The blocking handshake begins. -/
theorem handshake
    (account : ConnectAccount start state)
    (untried : start.Untried)
    (here : state.caller = .ready)
    (fault : Option String) :
    ConnectAccount start (state.handshake fault) := by
  have isFresh := account.ready here
  subst isFresh
  have hasTransport : (fresh start).conn.transport = true :=
    untried.transport
  cases fault with
  | none =>
      simp only [ClientHandshake.handshake, hasTransport, Bool.true_eq_false,
        if_false]
      exact
        begins untried rfl rfl (by simp) rfl (by simp [CallerPc.viaConnect])
          (by simp)
  | some what =>
      simp only [ClientHandshake.handshake, hasTransport, Bool.true_eq_false,
        if_false]
      exact
        begins untried rfl rfl (by simp) rfl (by simp [CallerPc.viaConnect])
          (by simp [takeSni, fresh])

/-- The asynchronous handshake begins, or its first call throws. -/
theorem handshakeAsync
    (account : ConnectAccount start state)
    (untried : start.Untried)
    (here : state.caller = .ready)
    (fault : Option String) :
    ConnectAccount start (state.handshakeAsync fault) := by
  have isFresh := account.ready here
  subst isFresh
  have hasTransport : (fresh start).conn.transport = true :=
    untried.transport
  have taken :
      FizzClientConnection.Untried { start with peerCertPem := "" } :=
    ⟨untried.transport, untried.incomplete, untried.unread, untried.noError⟩
  cases fault with
  | none =>
      simp only [ClientHandshake.handshakeAsync, hasTransport,
        Bool.true_eq_false, if_false]
      refine
        begins untried rfl rfl (by simp) rfl ?_
          (by simp [CallerPc.viaConnect])
      intro _
      exact .unreported ⟨rfl, rfl, rfl, rfl, rfl, rfl, taken⟩ rfl rfl (.inl rfl)
  | some what =>
      simp only [ClientHandshake.handshakeAsync, hasTransport,
        Bool.true_eq_false, if_false]
      refine
        begins untried rfl rfl (by simp) rfl ?_
          (by simp [CallerPc.viaConnect])
      intro _
      exact .unheard what ⟨rfl, rfl, rfl, rfl, rfl, rfl, taken⟩ rfl rfl (.inr (.inr rfl))

/-- While the blocking callback is at work, nobody is inside `connect`. -/
theorem outside_of_blocking
    (account : ConnectAccount start state)
    (isBlocking : state.activePoint? = some .blocking) :
    state.caller.viaConnect = false := by
  cases via : state.caller.viaConnect with
  | false =>
      rfl
  | true =>
      exact
        ((account.connect via).activePoint_ne_blocking isBlocking).elim

/-- While the other one is installed, nothing has been reported. -/
theorem unreported_of_async
    (account : ConnectAccount start state)
    (installed : state.callback = some .async) :
    state.Untouched ∧ state.senderDropped = false ∧
      (state.caller = .awaiting ∨ state.caller = .dropped) := by
  have isAsync : state.activePoint? = some .async := by
    simp [activePoint?, installed]
  cases via : state.caller.viaConnect with
  | false =>
      exact (account.blocking via isAsync).elim
  | true =>
      cases account.connect via with
      | unreported untouched _ notDropped waits =>
          exact ⟨untouched, notDropped, waits⟩
      | unheard _ _ gone _ _ =>
          rw [installed] at gone
          cases gone
      | failed _ abandoned _ _ _ _ _ =>
          cases isAsync.symm.trans abandoned.inactive
      | refused _ abandoned _ _ _ _ _ =>
          cases isAsync.symm.trans abandoned.inactive
      | accepting _ _ _ gone _ _ _ _ _ =>
          rw [installed] at gone
          cases gone
      | accepted _ _ _ inactive _ _ _ _ =>
          cases isAsync.symm.trans inactive

/-- While it is inside `setReadCB`, it accepts the server. -/
theorem accepting_of_async
    (account : ConnectAccount start state)
    {callback : SuccessCallback}
    (installing : state.installing = some (.async, callback)) :
    state.Reads ∧
      checkServerCertificate start callback = .accepted ∧
      state.successes = [] ∧
      (state.caller = .awaiting ∨ state.caller = .dropped) := by
  have isAsync : state.activePoint? = some .async := by
    simp [activePoint?, (account.noted (by simp [installing])).1, installing]
  cases via : state.caller.viaConnect with
  | false =>
      exact (account.blocking via isAsync).elim
  | true =>
      cases account.connect via with
      | unreported untouched _ _ _ =>
          cases installing.symm.trans untouched.installing
      | unheard _ untouched _ _ _ =>
          cases installing.symm.trans untouched.installing
      | failed _ abandoned _ _ _ _ _ =>
          cases isAsync.symm.trans abandoned.inactive
      | refused _ abandoned _ _ _ _ _ =>
          cases isAsync.symm.trans abandoned.inactive
      | accepting other reads accepts _ otherInstalling none _ _ waits =>
          cases installing.symm.trans otherInstalling
          exact ⟨reads, accepts, none, waits⟩
      | accepted _ _ _ inactive _ _ _ _ =>
          cases isAsync.symm.trans inactive

/-- No callback is at work before a handshake begins. -/
theorem started
    (account : ConnectAccount start state)
    (isActive : state.activePoint? ≠ none) :
    state.caller ≠ .ready := by
  intro isReady
  rw [account.ready isReady] at isActive
  exact isActive rfl

/-- A step of the loop thread, which leaves the caller alone. -/
theorem loopRuns
    (account : ConnectAccount start state)
    (started : state.caller ≠ .ready)
    (sameCaller : following.caller = state.caller)
    (sameSni : following.sni = state.sni)
    (expects :
      ∀ callback,
        checkServerCertificate following.conn callback =
          checkServerCertificate state.conn callback)
    (shown :
      following.conn.handshakeComplete = true →
        following.conn.peerCertPem = certificateExtracted)
    (noted :
      following.installing ≠ none →
        following.callback = none ∧
          following.conn.peerCertPem = certificateExtracted)
    (phase :
      state.caller.viaConnect = true → ConnectPhase start following)
    (outside :
      state.caller.viaConnect = false →
        following.activePoint? ≠ some .async) :
    ConnectAccount start following where
  expects := fun callback =>
    (expects callback).trans (account.expects callback)
  ready := by
    rw [sameCaller]
    exact fun isReady => (started isReady).elim
  sni := by
    rw [sameSni]
    exact fun _ => account.sni started
  shown := shown
  noted := noted
  connect := by
    rw [sameCaller]
    exact phase
  blocking := by
    rw [sameCaller]
    exact outside

/-- The blocking callback goes on, which does not concern `connect`. -/
theorem blockingRuns
    (account : ConnectAccount start state)
    (isBlocking : state.activePoint? = some .blocking)
    (sameCaller : following.caller = state.caller)
    (sameSni : following.sni = state.sni)
    (expects :
      ∀ callback,
        checkServerCertificate following.conn callback =
          checkServerCertificate state.conn callback)
    (shown :
      following.conn.handshakeComplete = true →
        following.conn.peerCertPem = certificateExtracted)
    (noted :
      following.installing ≠ none →
        following.callback = none ∧
          following.conn.peerCertPem = certificateExtracted)
    (notAsync : following.activePoint? ≠ some .async) :
    ConnectAccount start following := by
  have outside := account.outside_of_blocking isBlocking
  refine
    account.loopRuns (account.started (by simp [isBlocking])) sameCaller
      sameSni expects shown noted ?_ (fun _ => notAsync)
  rw [outside]
  exact nofun

/-- While a callback is installed, none is inside `setReadCB`. -/
theorem installing_eq_none
    (account : ConnectAccount start state)
    {entry : EntryPoint}
    (installed : state.callback = some entry) :
    state.installing = none := by
  by_contra isInstalling
  rw [(account.noted isInstalling).1] at installed
  cases installed

/-- A success callback accepts the server. -/
theorem accept
    (account : ConnectAccount start state)
    {entry : EntryPoint}
    {callback : SuccessCallback}
    (installed : state.callback = some entry)
    (accepts : checkServerCertificate state.conn callback = .accepted) :
    ConnectAccount start { state with
      conn := clientHandshakeSuccess state.conn .accepted
      callback := none
      installing := some (entry, callback) } := by
  have isActive : state.activePoint? = some entry := by
    simp [activePoint?, installed]
  cases entry with
  | blocking =>
      exact
        account.blockingRuns isActive rfl rfl (fun _ => rfl) (fun _ => rfl)
          (fun _ => ⟨rfl, rfl⟩) (by simp [activePoint?])
  | async =>
      obtain ⟨untouched, notDropped, waits⟩ :=
        account.unreported_of_async installed
      refine
        account.loopRuns (account.started (by simp [isActive])) rfl rfl
          (fun _ => rfl) (fun _ => rfl) (fun _ => ⟨rfl, rfl⟩) ?_ ?_
      · intro _
        refine
          .accepting callback ⟨rfl, ?_, ?_⟩
            ((account.expects callback).symm.trans accepts) rfl rfl
            untouched.successes untouched.reply notDropped waits
        · simp [clientHandshakeSuccess, untouched.conn.noError,
            untouched.unended, errorAfter]
        · simp [untouched.open_, untouched.unended, untouched.unclosing]
      · intro outside
        exact (account.blocking outside isActive).elim

/-- A success callback of the blocking handshake refuses the server. -/
theorem refuse
    (account : ConnectAccount start state)
    (installed : state.callback = some .blocking)
    (callback : SuccessCallback)
    {verdict : Verdict}
    (refuses : verdict ≠ .accepted) :
    ConnectAccount start { state with
      conn := clientHandshakeSuccess state.conn verdict
      callback := none
      closedNow := state.closedNow || verdict.closesNow
      successes := callback :: state.successes } := by
  have isActive : state.activePoint? = some .blocking := by
    simp [activePoint?, installed]
  have notInstalling := account.installing_eq_none installed
  have shown := account.shown
  refine
    account.blockingRuns isActive rfl rfl ?_ ?_
      (fun isInstalling => (isInstalling notInstalling).elim)
      (by simp [activePoint?, notInstalling])
  · intro other
    cases verdict <;> rfl
  · cases verdict with
    | rejected text closesNow =>
        exact shown
    | raised what certificateNoted =>
        intro isComplete
        simp only [clientHandshakeSuccess] at isComplete ⊢
        split
        · rfl
        · exact shown isComplete
    | accepted =>
        exact (refuses rfl).elim

/-- One of the asynchronous handshake does, and sends its text. -/
theorem refuseAsync
    (account : ConnectAccount start state)
    (installed : state.callback = some .async)
    {callback : SuccessCallback}
    {verdict : Verdict}
    (isVerdict : checkServerCertificate state.conn callback = verdict)
    (refuses : verdict ≠ .accepted) :
    ConnectAccount start { state with
      conn := (clientHandshakeSuccessAsync state.conn verdict).1
      callback := none
      reply := some (handleIoResult 0 verdict.text)
      closedNow := state.closedNow || verdict.closesNow
      successes := callback :: state.successes } := by
  obtain ⟨untouched, _, waits⟩ := account.unreported_of_async installed
  have isActive : state.activePoint? = some .async := by
    simp [activePoint?, installed]
  have incomplete := untouched.conn.incomplete
  have unread := untouched.conn.unread
  have isStartVerdict :
      checkServerCertificate start callback = verdict := by
    rw [← account.expects, isVerdict]
  have hasText : verdict.text ≠ "" := by
    subst isStartVerdict
    rwa [ne_eq, checkServerCertificate_text_eq_empty_iff]
  refine
    account.loopRuns (account.started (by simp [isActive])) rfl rfl ?_ ?_
      (fun isInstalling => (isInstalling untouched.installing).elim) ?_ ?_
  · intro other
    cases verdict <;> rfl
  · simp [incomplete]
  · intro _
    subst isStartVerdict
    refine
      .refused callback ⟨?_, ?_, ?_, untouched.unclosing⟩ refuses ?_ ?_ ?_
        (.of_waits waits _)
    · simp [activePoint?, untouched.installing]
    · simp [incomplete]
    · generalize checkServerCertificate start callback = verdict at refuses
      cases verdict with
      | rejected text closesNow =>
          exact unread
      | raised what certificateNoted =>
          exact unread
      | accepted =>
          exact (refuses rfl).elim
    · simp [untouched.successes]
    · simp [handleIoResult, hasText]
    · simp [untouched.open_]
  · simp [activePoint?, untouched.installing]

/-- `setReadCB` returns to the accepting callback. -/
theorem readCBInstalled
    (account : ConnectAccount start state)
    {callback : SuccessCallback}
    (installing : state.installing = some (.blocking, callback)) :
    ConnectAccount start { state with
      conn := { state.conn with handshakeComplete := true }
      installing := none
      successes := callback :: state.successes } := by
  obtain ⟨gone, isNoted⟩ := account.noted (by simp [installing])
  exact
    account.blockingRuns (by simp [activePoint?, gone, installing]) rfl rfl
      (fun _ => rfl) (fun _ => isNoted)
      (fun isInstalling => (isInstalling rfl).elim)
      (by simp [activePoint?, gone])

/-- So it does to the one of the asynchronous handshake. -/
theorem readCBInstalledAsync
    (account : ConnectAccount start state)
    {callback : SuccessCallback}
    (installing : state.installing = some (.async, callback)) :
    ConnectAccount start { state with
      conn := { state.conn with handshakeComplete := true }
      installing := none
      reply := some (handleIoResult 0 "")
      successes := callback :: state.successes } := by
  obtain ⟨gone, isNoted⟩ := account.noted (by simp [installing])
  obtain ⟨reads, accepts, none, waits⟩ :=
    account.accepting_of_async installing
  refine
    account.loopRuns
      (account.started (by simp [activePoint?, gone, installing])) rfl rfl
      (fun _ => rfl) (fun _ => isNoted)
      (fun isInstalling => (isInstalling rfl).elim) ?_
      (by simp [activePoint?, gone])
  intro _
  exact
    .accepted callback ⟨reads.reading, reads.recorded, reads.closed⟩ accepts
      (by simp [activePoint?, gone]) rfl (by simp [none]) rfl
      (.of_waits waits _)

/-- The blocking callback ends without a report of success. -/
theorem blockingEnds
    (account : ConnectAccount start state)
    (installed : state.callback = some .blocking)
    (errorMessage : String) :
    ConnectAccount start { state with
      conn := { state.conn with errorMessage := errorMessage }
      callback := none } := by
  have notInstalling := account.installing_eq_none installed
  exact
    account.blockingRuns (by simp [activePoint?, installed]) rfl rfl
      (fun _ => rfl) account.shown
      (fun isInstalling => (isInstalling notInstalling).elim)
      (by simp [activePoint?, notInstalling])

/-- Fizz reports an error to the asynchronous callback. -/
theorem errorAsync
    (account : ConnectAccount start state)
    (installed : state.callback = some .async)
    (exception : ExceptionWrapper) :
    ConnectAccount start { state with
      conn := { state.conn with errorMessage := exception.what }
      callback := none
      reply := some (handleIoResult 0 exception.what) } := by
  obtain ⟨untouched, _, waits⟩ := account.unreported_of_async installed
  have inactive :
      (Option.map Prod.fst state.installing : Option EntryPoint) = none := by
    simp [untouched.installing]
  refine
    account.loopRuns (account.started (by simp [activePoint?, installed])) rfl
      rfl (fun _ => rfl) account.shown
      (fun isInstalling => (isInstalling untouched.installing).elim) ?_
      (by simp [activePoint?, untouched.installing])
  intro _
  refine
    .failed exception
      ⟨inactive, untouched.conn.incomplete, untouched.conn.unread,
        untouched.unclosing⟩
      untouched.successes ?_ rfl untouched.open_
      (.of_waits waits _)
  simp [handleIoResult, exception.what_ne_empty]

/-- The asynchronous callback goes without a word. -/
theorem destroyedAsync
    (account : ConnectAccount start state)
    (installed : state.callback = some .async) :
    ConnectAccount start
      { state with callback := none, senderDropped := true } := by
  obtain ⟨untouched, _, waits⟩ := account.unreported_of_async installed
  refine
    account.loopRuns (account.started (by simp [activePoint?, installed])) rfl
      rfl (fun _ => rfl) account.shown
      (fun isInstalling => (isInstalling untouched.installing).elim) ?_
      (by simp [activePoint?, untouched.installing])
  intro _
  exact
    .unheard "" { untouched with } rfl rfl
      (.of_waits waits _)

/-- The read callback is told that the stream is over. -/
theorem readEnd
    (account : ConnectAccount start state)
    (untried : start.Untried)
    (isReading : state.conn.readCallback = true)
    (told : ReadEnd) :
    ConnectAccount start { state with
      conn :=
        { state.conn with
          errorMessage := told.record state.conn.errorMessage }
      ends := told :: state.ends
      ending := true } := by
  have started : state.caller ≠ .ready := by
    intro isReady
    rw [account.ready isReady, fresh, untried.unread] at isReading
    cases isReading
  exact
    account.loopRuns started rfl rfl (fun _ => rfl) account.shown
      account.noted (fun via => (account.connect via).readEnd isReading told)
      account.blocking

/-- Its `closeNow` changes nothing else. -/
theorem closeNow
    (account : ConnectAccount start state)
    (isEnding : state.ending = true) :
    ConnectAccount start
      { state with closedNow := true, ending := false } := by
  have started : state.caller ≠ .ready := by
    intro isReady
    rw [account.ready isReady, fresh] at isEnding
    cases isEnding
  exact
    account.loopRuns started rfl rfl (fun _ => rfl) account.shown
      account.noted (fun via => (account.connect via).closeNow isEnding)
      account.blocking

theorem preserved
    {action : Action}
    (account : ConnectAccount start state)
    (untried : start.Untried)
    (transition : Transition state action following) :
    ConnectAccount start following := by
  cases transition with
  | handshake fault here =>
      exact account.handshake untried here fault
  | handshakeAsync fault here =>
      exact account.handshakeAsync untried here fault
  | leaveLoop here _ =>
      exact
        account.waiterMoves (by rw [here]; rfl) (by simp [here]) rfl nofun
  | findError here _ =>
      exact
        account.waiterMoves (by rw [here]; rfl) (by simp [here]) rfl nofun
  | findIncomplete here _ _ =>
      exact
        account.waiterMoves (by rw [here]; rfl) (by simp [here]) rfl nofun
  | complete here _ _ =>
      exact
        account.waiterMoves (by rw [here]; rfl) (by simp [here]) rfl nofun
  | giveUp text here =>
      exact account.giveUp here
  | timeout here _ _ =>
      exact
        account.waiterMoves (by rw [here]; rfl) (by simp [here]) rfl nofun
  | pollOk bytes here sent =>
      exact account.connectMoves here rfl (.inr (.inl ⟨_, sent, rfl⟩))
  | pollErr error here sent =>
      exact account.connectMoves here rfl (.inr (.inl ⟨_, sent, rfl⟩))
  | pollClosed here unsent isDropped =>
      exact
        account.connectMoves here rfl
          (.inr (.inr ⟨unsent, isDropped, _, rfl⟩))
  | dropFuture here =>
      exact account.connectMoves here rfl (.inl rfl)
  | accept entry callback installed accepts =>
      exact account.accept installed accepts
  | refuse callback verdict installed _ refuses =>
      exact account.refuse installed callback refuses
  | refuseAsync callback verdict installed isVerdict refuses =>
      exact account.refuseAsync installed isVerdict refuses
  | readCBInstalled callback installing =>
      exact account.readCBInstalled installing
  | readCBInstalledAsync callback installing =>
      exact account.readCBInstalledAsync installing
  | error exception installed =>
      exact account.blockingEnds installed exception.what
  | errorAsync exception installed =>
      exact account.errorAsync installed exception
  | destroyed installed =>
      exact account.blockingEnds installed state.conn.errorMessage
  | destroyedAsync installed =>
      exact account.destroyedAsync installed
  | readEnd told isReading =>
      exact account.readEnd untried isReading told
  | closeNow isEnding =>
      exact account.closeNow isEnding

theorem of_reachable
    (untried : start.Untried)
    (reachable :
      Reachable step (fun state => state = .fresh start) state) :
    ConnectAccount start state := by
  refine reachable.invariant_from (initially untried) ?_
  intro before after action _ account _ taken
  exact account.preserved untried (.of_step taken)

end ConnectAccount

/--
Why `connect` failed: the callback refused the server, and closed the transport
if a value of the credential differs; Fizz reported an error; or nothing was
reported.
-/
def ConnectCause
    (start : FizzClientConnection)
    (state : ClientHandshake)
    (text : String) :
    Prop :=
  (∃ callback,
      state.successes = [callback] ∧
        checkServerCertificate start callback ≠ .accepted ∧
        text = (checkServerCertificate start callback).text ∧
        state.closedNow =
          (checkServerCertificate start callback).closesNow) ∨
    (state.successes = [] ∧ state.closedNow = false ∧
      ((∃ exception : ExceptionWrapper,
          text = exception.what ∧ state.conn.errorMessage = text) ∨
        (state.reply = none ∧ state.senderDropped = true)))

namespace ConnectAccount

variable {start : FizzClientConnection}
variable {state : ClientHandshake}

/-- `peer_certificate` shows nothing but the text for a certificate. -/
theorem peerCertificate_eq
    (account : ConnectAccount start state)
    {pem : String}
    (given : peerCertificate state.conn = .ok pem) :
    pem = certificateExtracted := by
  unfold peerCertificate clientConnectionPeerCert at given
  by_cases isComplete : state.conn.handshakeComplete = true
  · have isShown := account.shown isComplete
    have notEmpty : certificateExtracted ≠ "" := by
      decide
    simp only [isComplete, Bool.true_eq_false, if_false, isShown, notEmpty]
      at given
    exact (Except.ok.inj given).symm
  · simp [isComplete] at given

/-- What `connect` has returned is what the callback said. -/
theorem of_returnedOk
    (account : ConnectAccount start state)
    (here : state.caller = .returnedOk) :
    (∃ callback,
        state.successes = [callback] ∧
          checkServerCertificate start callback = .accepted) ∧
      peerCertificate state.conn = .ok certificateExtracted ∧
      state.conn.readCallback = true ∧
      state.conn.errorMessage = errorAfter state.ends ∧
      (state.closedNow = true ∨ state.ending = true ↔
        state.ends ≠ []) := by
  cases account.connect (by rw [here]; rfl) with
  | unreported _ _ _ waits =>
      simp [here] at waits
  | unheard _ _ _ _ heard =>
      simp [CallerPc.Hears, here] at heard
  | failed _ _ _ _ _ _ heard =>
      simp [CallerPc.Hears, here] at heard
  | refused _ _ _ _ _ _ heard =>
      simp [CallerPc.Hears, here] at heard
  | accepting _ _ _ _ _ _ _ _ waits =>
      simp [here] at waits
  | accepted callback reads accepts _ isComplete one _ _ =>
      refine
        ⟨⟨callback, one, accepts⟩, ?_, reads.reading, reads.recorded,
          reads.closed⟩
      have isShown := account.shown isComplete
      have notEmpty : certificateExtracted ≠ "" := by
        decide
      simp [peerCertificate, clientConnectionPeerCert, isComplete, isShown,
        notEmpty]

/-- An error that `connect` has returned left the connection unusable. -/
theorem of_returnedErr
    (account : ConnectAccount start state)
    {error : FizzError}
    (here : state.caller = .returnedErr error) :
    state.conn.handshakeComplete = false ∧
      state.conn.readCallback = false ∧
      ∃ text, error = .tlsHandshakeError text ∧
        state.ConnectCause start text := by
  cases account.connect (by rw [here]; rfl) with
  | unreported _ _ _ waits =>
      simp [here] at waits
  | unheard text untouched _ isDropped heard =>
      have isError : error = .tlsHandshakeError text := by
        simpa [CallerPc.Hears, here] using heard
      exact
        ⟨untouched.conn.incomplete, untouched.conn.unread, text, isError,
          .inr ⟨untouched.successes, untouched.open_,
            .inr ⟨untouched.reply, isDropped⟩⟩⟩
  | failed exception abandoned none _ recorded open_ heard =>
      have isError : error = .tlsHandshakeError exception.what := by
        simpa [CallerPc.Hears, here] using heard
      exact
        ⟨abandoned.incomplete, abandoned.unread, exception.what, isError,
          .inr ⟨none, open_, .inl ⟨exception, rfl, recorded⟩⟩⟩
  | refused callback abandoned refuses one _ closes heard =>
      have isError :
          error =
            .tlsHandshakeError
              (checkServerCertificate start callback).text := by
        simpa [CallerPc.Hears, here] using heard
      exact
        ⟨abandoned.incomplete, abandoned.unread, _, isError,
          .inl ⟨callback, one, refuses, rfl, closes⟩⟩
  | accepting _ _ _ _ _ _ _ _ waits =>
      simp [here] at waits
  | accepted _ _ _ _ _ _ _ heard =>
      simp [CallerPc.Hears, here] at heard

/-- Once the callback has gone, whatever it did, `connect` returns. -/
theorem poll_returns
    (account : ConnectAccount start state)
    (here : state.caller = .awaiting)
    (gone : state.activePoint? = none) :
    ∃ following,
      state.step .poll = some following ∧
        following.caller.connectReturned = true := by
  cases isReply : state.reply with
  | some reply =>
      cases reply with
      | ok bytes =>
          exact ⟨{ state with caller := .returnedOk },
            by simp [step, poll, here, isReply], rfl⟩
      | err error =>
          exact ⟨{ state with
              caller := .returnedErr (.tlsHandshakeError error) },
            by simp [step, poll, here, isReply], rfl⟩
  | none =>
      have isDropped : state.senderDropped = true := by
        cases account.connect (by rw [here]; rfl) with
        | unreported _ installed _ _ =>
            simp [activePoint?, installed] at gone
        | unheard _ _ _ isDropped _ =>
            exact isDropped
        | failed _ _ _ sent _ _ _ =>
            cases isReply.symm.trans sent
        | refused _ _ _ _ sent _ _ =>
            cases isReply.symm.trans sent
        | accepting _ _ _ noCallback installing _ _ _ _ =>
            simp [activePoint?, noCallback, installing] at gone
        | accepted _ _ _ _ _ _ sent _ =>
            cases isReply.symm.trans sent
      exact ⟨{ state with
          caller :=
            .returnedErr (.tlsHandshakeError
              "Handshake channel closed unexpectedly") },
        by simp [step, poll, here, isReply, isDropped], rfl⟩

end ConnectAccount

/--
On a connection made by `client_connect` from any context, in every order of
events: the handshake is given the hostname for SNI, and `peer_certificate` never
shows it; `connect` returns `Ok` only when the one callback that ran accepted the
server, and the connection then reads and shows a certificate, with the error text
that its read callback was told since, and with its transport closed, or about to
be, exactly if it was told of an end; it returns an error only for a refusal, with
the transport closed if a value of the credential differs, for a reported error or
for nothing reported, and the connection never reads; and once the callback has
gone, it returns.
-/
theorem connect_settles
    {caStore : String → CaStore}
    {fault : Option String}
    {context : FizzClientContext}
    {fd : Int}
    {hostname : String}
    {start : FizzClientConnection}
    {state : ClientHandshake}
    (connected :
      clientConnect caStore fault context fd hostname = .ok start)
    (reachable :
      Reachable step (fun state => state = .fresh start) state) :
    (state.caller ≠ .ready →
      state.sni = sniOption (sniFor context hostname)) ∧
    (∀ pem, peerCertificate state.conn = .ok pem →
      pem = certificateExtracted) ∧
    (state.caller = .returnedOk →
      (∃ callback,
          state.successes = [callback] ∧
            checkServerCertificate start callback = .accepted) ∧
        peerCertificate state.conn = .ok certificateExtracted ∧
        state.conn.readCallback = true ∧
        state.conn.errorMessage = errorAfter state.ends ∧
        (state.closedNow = true ∨ state.ending = true ↔
          state.ends ≠ [])) ∧
    (∀ error, state.caller = .returnedErr error →
      state.conn.handshakeComplete = false ∧
        state.conn.readCallback = false ∧
        ∃ text, error = .tlsHandshakeError text ∧
          state.ConnectCause start text) ∧
    (state.caller = .awaiting → state.activePoint? = none →
      ∃ following,
        state.step .poll = some following ∧
          following.caller.connectReturned = true) := by
  obtain ⟨untried, stored⟩ :=
    FizzClientConnection.Untried.of_clientConnect connected
  have account := ConnectAccount.of_reachable untried reachable
  refine ⟨?_, ?_, account.of_returnedOk, ?_, account.poll_returns⟩
  · intro moved
    rw [← stored]
    exact account.sni moved
  · intro pem given
    exact account.peerCertificate_eq given
  · intro error here
    exact account.of_returnedErr here

/-- A context without delegated credentials, whose CA file OpenSSL loads. -/
def plainContext : FizzClientContext :=
  newClientTlsContextNoDc "ca.pem"

/-- What `client_connect` makes of it. -/
def plainConnection : FizzClientConnection where
  fd := 5
  transport := true
  handshakeComplete := false
  errorMessage := ""
  peerCertPem := "localhost"
  caCertPath := "ca.pem"
  dcExtension := none
  expectedServiceName := ""
  expectedValidTime := 0
  expectedVerifyScheme := 0
  expectedPublicKeyDerHex := ""
  expectedExpiresAt := 0
  dcEnabled := false
  readCallback := false

/-- The server presents a certificate and resets before `connect` is polled. -/
def plainConnect : List Action :=
  [.handshakeAsync none,
    .fizzHandshakeSuccess { certificate := .plain, faults := .none },
    .readCBInstalled,
    .readEnd (.err "reset"),
    .closeNow,
    .poll]

/-- `connect` has returned. -/
def plainConnected : ClientHandshake where
  conn :=
    { plainConnection with
      handshakeComplete := true
      errorMessage := "reset"
      peerCertPem := certificateExtracted
      readCallback := true }
  caller := .returnedOk
  callback := none
  installing := none
  reply := some (.ok 0)
  senderDropped := false
  sni := some "localhost"
  closedNow := true
  successes := [{ certificate := .plain, faults := .none }]
  ends := [.err "reset"]
  ending := false

theorem connect_settles_sample :
    run? step (.fresh plainConnection) plainConnect = some plainConnected ∧
      plainConnected.sni = sniOption (sniFor plainContext "localhost") ∧
      peerCertificate plainConnected.conn = .ok certificateExtracted ∧
      plainConnected.conn.errorMessage = errorAfter [.err "reset"] := by
  have performed :
      run? step (.fresh plainConnection) plainConnect =
        some plainConnected := by
    decide
  have connected :
      clientConnect (fun _ => .loaded) none plainContext 5 "localhost" =
        .ok plainConnection := by
    decide
  obtain ⟨sni, _, established, _⟩ :=
    connect_settles connected (reachable_of_run? (.start rfl) performed)
  obtain ⟨_, isShown, _, recorded, _⟩ := established rfl
  exact ⟨performed, sni nofun, isShown, recorded⟩

end ClientHandshake

end FizzRs
