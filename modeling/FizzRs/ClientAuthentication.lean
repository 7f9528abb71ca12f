import FizzRs.ClientHandshake

namespace FizzRs

open LabelledSystem

/-!
# Client authentication

A connection made from a context with verification information reports a
complete handshake only after a success callback in which the server presented a
delegated credential with exactly the expected values.  `connect` returns `Ok`
exactly when such a callback ran to its end: every other end of a callback sends
a text that is not empty.
-/

/--
The credential and its expiry are what the verification information says.  The
timestamp comparison is between unsigned numbers; for an expiry from the epoch
on it is equality of whole seconds.
-/
structure VerificationInfo.Matches
    (info : VerificationInfo)
    (credential : FizzDelegatedCredential)
    (expiresTime : Int) :
    Prop where
  publicKey :
    ∀ bytes,
      bytesToHexLower bytes = info.publicKeyDer ↔
        bytes = credential.publicKey
  validTime : credential.validTime = info.validTime
  verifyScheme :
    credential.expectedVerifyScheme = info.expectedVerifyScheme
  expiry : unixTimestamp expiresTime = info.expiresAt
  expirySeconds :
    0 ≤ wholeSeconds expiresTime → wholeSeconds expiresTime < 2 ^ 64 →
      wholeSeconds expiresTime = info.expiresAt.toNat

namespace VerificationInfo.Matches

/-- The four comparisons of the code are the whole match. -/
theorem of_comparisons
    {info : VerificationInfo}
    {credential : FizzDelegatedCredential}
    {expiresTime : Int}
    (sameKey : bytesToHexLower credential.publicKey = info.publicKeyDer)
    (sameTime : credential.validTime = info.validTime)
    (sameScheme :
      credential.expectedVerifyScheme = info.expectedVerifyScheme)
    (sameExpiry : unixTimestamp expiresTime = info.expiresAt) :
    info.Matches credential expiresTime where
  publicKey := by
    intro bytes
    rw [← sameKey]
    exact bytesToHexLower_injective.eq_iff
  validTime := sameTime
  verifyScheme := sameScheme
  expiry := sameExpiry
  expirySeconds := by
    intro notBeforeEpoch representable
    rw [← sameExpiry]
    exact (toNat_unixTimestamp notBeforeEpoch representable).symm

end VerificationInfo.Matches

/-- The connection expects what the verification information says. -/
structure FizzClientConnection.Expects
    (conn : FizzClientConnection)
    (info : VerificationInfo) :
    Prop where
  dcEnabled : conn.dcEnabled = true
  validTime : conn.expectedValidTime = info.validTime
  verifyScheme : conn.expectedVerifyScheme = info.expectedVerifyScheme
  publicKey : conn.expectedPublicKeyDerHex = info.publicKeyDer
  expiresAt : conn.expectedExpiresAt = info.expiresAt

/-- The success callback ran to its end on a credential that matches. -/
structure SuccessCallback.Accepts
    (callback : SuccessCallback)
    (info : VerificationInfo) :
    Prop where
  undisturbed : callback.faults = .none
  presented :
    ∃ credential expiresTime,
      callback.certificate = .delegated credential expiresTime ∧
        info.Matches credential expiresTime

/-- Nothing throws exactly when none of the four calls does. -/
theorem CheckFaults.eq_none_iff
    {faults : CheckFaults} :
    faults = .none ↔
      faults.getState = Option.none ∧ faults.encodeKey = Option.none ∧
        faults.readExpiry = Option.none ∧
        faults.setReadCB = Option.none := by
  rcases faults with ⟨getState, encodeKey, readExpiry, setReadCB⟩
  simp [CheckFaults.none]

/-- The comparison succeeds exactly on undisturbed matches. -/
theorem verify_eq_ok_empty_iff
    {conn : FizzClientConnection}
    {info : VerificationInfo}
    (expects : conn.Expects info)
    (faults : CheckFaults)
    (credential : FizzDelegatedCredential)
    (expiresTime : Int) :
    verifyVerificationInfoAgainstPeerDelegatedCredential faults conn
        credential expiresTime = .ok "" ↔
      faults.encodeKey = none ∧ faults.readExpiry = none ∧
        info.Matches credential expiresTime := by
  constructor
  · intro verified
    unfold verifyVerificationInfoAgainstPeerDelegatedCredential at verified
    split at verified
    · cases verified
    rename_i noKeyFault
    split at verified
    · simp at verified
    rename_i sameKey
    split at verified
    · simp at verified
    rename_i sameTime
    split at verified
    · simp at verified
    rename_i sameScheme
    split at verified
    · cases verified
    rename_i noExpiryFault
    split at verified
    · simp at verified
    rename_i sameExpiry
    simp only [ne_eq, Decidable.not_not]
      at sameKey sameTime sameScheme sameExpiry
    refine ⟨noKeyFault, noExpiryFault, .of_comparisons ?_ ?_ ?_ ?_⟩
    · rw [sameKey, expects.publicKey]
    · rw [sameTime, expects.validTime]
    · rw [sameScheme, expects.verifyScheme]
    · rw [sameExpiry, expects.expiresAt]
  · rintro ⟨noKeyFault, noExpiryFault, isMatch⟩
    have sameKey := (isMatch.publicKey credential.publicKey).mpr rfl
    simp [verifyVerificationInfoAgainstPeerDelegatedCredential,
      noKeyFault, noExpiryFault, sameKey, isMatch.validTime,
      isMatch.verifyScheme, isMatch.expiry, expects.publicKey,
      expects.validTime, expects.verifyScheme, expects.expiresAt]

/-- Noting the certificate ends well unless the read callback is refused. -/
theorem noteCertificate_eq_accepted_iff
    (callback : SuccessCallback) :
    noteCertificate callback = .accepted ↔
      callback.faults.setReadCB = none := by
  unfold noteCertificate
  split <;> simp_all

/-- With the expectations in place, exactly accepting callbacks are accepted. -/
theorem checkServerCertificate_eq_accepted_iff
    {conn : FizzClientConnection}
    {info : VerificationInfo}
    (expects : conn.Expects info)
    (callback : SuccessCallback) :
    checkServerCertificate conn callback = .accepted ↔
      callback.Accepts info := by
  constructor
  · intro accepted
    unfold checkServerCertificate at accepted
    split at accepted
    · cases accepted
    rename_i noStateFault
    split at accepted
    · cases accepted
    · simp [expects.dcEnabled] at accepted
    rename_i credential expiresTime isDelegated
    rw [if_pos expects.dcEnabled] at accepted
    split at accepted
    · cases accepted
    rename_i mismatch verified
    by_cases isEmpty : mismatch = ""
    · rw [if_pos isEmpty, noteCertificate_eq_accepted_iff] at accepted
      rw [isEmpty, verify_eq_ok_empty_iff expects] at verified
      obtain ⟨noKeyFault, noExpiryFault, isMatch⟩ := verified
      refine ⟨?_, credential, expiresTime, isDelegated, isMatch⟩
      rw [CheckFaults.eq_none_iff]
      exact ⟨noStateFault, noKeyFault, noExpiryFault, accepted⟩
    · rw [if_neg isEmpty] at accepted
      cases accepted
  · rintro ⟨undisturbed, credential, expiresTime, isDelegated, isMatch⟩
    obtain ⟨noStateFault, noKeyFault, noExpiryFault, noReadFault⟩ :=
      CheckFaults.eq_none_iff.mp undisturbed
    have verified :=
      (verify_eq_ok_empty_iff expects callback.faults credential
        expiresTime).mpr ⟨noKeyFault, noExpiryFault, isMatch⟩
    simp [checkServerCertificate, noteCertificate, noStateFault,
      isDelegated, expects.dcEnabled, verified, noReadFault]

/-- A callback that does not accept sends a text that is not empty. -/
theorem checkServerCertificate_text
    {conn : FizzClientConnection}
    {callback : SuccessCallback}
    {text : String}
    {closesNow : Bool}
    (rejects :
      checkServerCertificate conn callback = .rejected text closesNow) :
    text ≠ "" := by
  unfold checkServerCertificate noteCertificate at rejects
  repeat' split at rejects
  all_goals
    cases rejects
  · decide
  · decide
  · assumption

/-- The text of a caught exception is not empty. -/
theorem verifyFailure_ne_empty
    (what : String) :
    verifyFailure what ≠ "" := by
  intro isEmpty
  have leading := (String.append_eq_empty_iff.mp isEmpty).1
  exact absurd leading (by decide)

/-- The text of a verdict is empty exactly when it accepts. -/
theorem checkServerCertificate_text_eq_empty_iff
    (conn : FizzClientConnection)
    (callback : SuccessCallback) :
    (checkServerCertificate conn callback).text = "" ↔
      checkServerCertificate conn callback = .accepted := by
  cases verdict : checkServerCertificate conn callback with
  | rejected text closesNow =>
      simp [Verdict.text, checkServerCertificate_text verdict]
  | raised what certificateNoted =>
      simp [Verdict.text, verifyFailure_ne_empty]
  | accepted =>
      simp [Verdict.text]

/-- Up to `setReadCB`, the asynchronous callback leaves the flag alone. -/
@[simp] theorem clientHandshakeSuccessAsync_handshakeComplete
    (conn : FizzClientConnection)
    (verdict : Verdict) :
    (clientHandshakeSuccessAsync conn verdict).1.handshakeComplete =
      conn.handshakeComplete := by
  cases verdict <;> rfl

/-- Up to `setReadCB`, the blocking callback leaves the flag alone. -/
@[simp] theorem clientHandshakeSuccess_handshakeComplete
    (conn : FizzClientConnection)
    (verdict : Verdict) :
    (clientHandshakeSuccess conn verdict).handshakeComplete =
      conn.handshakeComplete := by
  cases verdict <;> rfl

namespace FizzClientConnection.Expects

/-- A blocking callback leaves the expectations alone. -/
theorem clientHandshakeSuccess
    {conn : FizzClientConnection}
    {info : VerificationInfo}
    (expects : conn.Expects info)
    (verdict : Verdict) :
    (FizzRs.clientHandshakeSuccess conn verdict).Expects info := by
  cases verdict <;>
    exact { expects with }

/-- An asynchronous callback leaves the expectations alone. -/
theorem clientHandshakeSuccessAsync
    {conn : FizzClientConnection}
    {info : VerificationInfo}
    (expects : conn.Expects info)
    (verdict : Verdict) :
    (FizzRs.clientHandshakeSuccessAsync conn verdict).1.Expects info := by
  cases verdict <;>
    exact { expects with }

end FizzClientConnection.Expects

/-- The context carries the verification information. -/
structure FizzClientContext.Carries
    (context : FizzClientContext)
    (info : VerificationInfo) :
    Prop where
  dcEnabled : context.dcEnabled = true
  validTime : context.validTime = info.validTime
  verifyScheme : context.expectedVerifyScheme = info.expectedVerifyScheme
  publicKey : context.publicKeyDer = info.publicKeyDer
  expiresAt : context.expiresAt = info.expiresAt

/-- A new context carries its verification information, whatever is set later. -/
theorem carries_newClientTlsContext
    (info : VerificationInfo)
    (caCertPath : String)
    (setters : List ContextSetter) :
    (setters.foldl ContextSetter.apply
      (newClientTlsContext info caCertPath)).Carries info := by
  have kept :
      ∀ context : FizzClientContext, context.Carries info →
        (setters.foldl ContextSetter.apply context).Carries info := by
    induction setters with
    | nil =>
        exact fun _ carries => carries
    | cons setter rest inductionHypothesis =>
        intro context carries
        apply inductionHypothesis
        cases setter <;>
          exact ⟨carries.dcEnabled, carries.validTime,
            carries.verifyScheme, carries.publicKey, carries.expiresAt⟩
  exact kept _ ⟨rfl, rfl, rfl, rfl, rfl⟩

/-- A new connection expects the verification information of its context. -/
theorem FizzClientContext.Carries.clientConnect_expects
    {context : FizzClientContext}
    {info : VerificationInfo}
    (carries : context.Carries info)
    {caStore : String → CaStore}
    {fault : Option String}
    {fd : Int}
    {hostname : String}
    {conn : FizzClientConnection}
    (connected :
      clientConnect caStore fault context fd hostname = .ok conn) :
    conn.Expects info ∧ conn.handshakeComplete = false := by
  unfold clientConnect at connected
  split at connected
  · cases connected
  · cases connected
  · cases connected
    refine ⟨⟨carries.dcEnabled, ?_, ?_, ?_, ?_⟩, rfl⟩
    · simp [carries.dcEnabled, carries.validTime]
    · simp [carries.dcEnabled, carries.verifyScheme]
    · simp [carries.dcEnabled, carries.publicKey]
    · simp [carries.dcEnabled, carries.expiresAt]

namespace CallerPc

/-- The caller is inside `connect`, past its first await, or it was. -/
def viaConnect : CallerPc → Bool
  | .awaiting => true
  | .returnedOk => true
  | .returnedErr _ => true
  | .dropped => true
  | _ => false

/-- `connect` has returned. -/
def connectReturned : CallerPc → Bool
  | .returnedOk => true
  | .returnedErr _ => true
  | _ => false

end CallerPc

namespace ClientHandshake

/--
A connection that `client_connect` made from a context with this verification
information, whatever its setters, its CA path and the hostname.
-/
def StartsFrom
    (info : VerificationInfo)
    (state : ClientHandshake) :
    Prop :=
  ∃ (caStore : String → CaStore) (fault : Option String)
      (caCertPath : String) (setters : List ContextSetter) (fd : Int)
      (hostname : String) (conn : FizzClientConnection),
    awaitBlocking (.ok (clientConnect caStore fault
        (setters.foldl ContextSetter.apply
          (newClientTlsContext info caCertPath)) fd hostname)) =
        .ok conn ∧
      state = .fresh conn

/-- Some success callback accepted the server. -/
def Accepted
    (info : VerificationInfo)
    (state : ClientHandshake) :
    Prop :=
  ∃ callback ∈ state.successes, callback.Accepts info

/-- The channel delivered, or will deliver, `Ok`. -/
def RepliedOk (state : ClientHandshake) : Prop :=
  ∃ bytes, state.reply = some (.ok bytes)

/-- The entry point whose callback is installed, or inside `setReadCB`. -/
def activePoint? (state : ClientHandshake) : Option EntryPoint :=
  match state.callback with
  | some entry => some entry
  | none => state.installing.map Prod.fst

/-- What the handshake has established so far. -/
structure HandshakeAccount
    (info : VerificationInfo)
    (state : ClientHandshake) :
    Prop where
  expects : state.conn.Expects info
  complete :
    state.conn.handshakeComplete = true → state.Accepted info
  unstarted :
    state.caller = .ready →
      state.callback = none ∧ state.installing = none ∧
        state.successes = [] ∧ state.reply = none ∧
        state.senderDropped = false
  active :
    state.activePoint? ≠ none →
      state.successes = [] ∧ state.reply = none
  activeBlocking :
    state.activePoint? = some .blocking → state.caller.viaConnect = false
  activeAsync :
    state.activePoint? = some .async →
      state.senderDropped = false ∧
        (state.caller = .awaiting ∨ state.caller = .dropped)
  accepting :
    ∀ entry callback, state.installing = some (entry, callback) →
      state.callback = none ∧ callback.Accepts info
  replied :
    state.caller.viaConnect = true →
      (state.RepliedOk ↔ state.Accepted info)
  repliedComplete :
    state.caller.viaConnect = true →
      state.RepliedOk → state.conn.handshakeComplete = true
  returnedOk :
    state.caller = .returnedOk → state.RepliedOk
  returnedErr :
    ∀ error, state.caller = .returnedErr error →
      state.activePoint? = none ∧ ¬ state.RepliedOk

namespace HandshakeAccount

/-- A connection whose handshake has not started keeps the account. -/
theorem initially
    {info : VerificationInfo}
    {state : ClientHandshake}
    (starts : StartsFrom info state) :
    HandshakeAccount info state := by
  obtain ⟨caStore, fault, caCertPath, setters, fd, hostname, conn,
    connected, isFresh⟩ := starts
  subst isFresh
  have returned :
      clientConnect caStore fault
        (setters.foldl ContextSetter.apply
          (newClientTlsContext info caCertPath)) fd hostname = .ok conn := by
    unfold awaitBlocking at connected
    split at connected
    · cases connected
    · cases connected
    · next sameConn shape =>
        cases connected
        simpa using shape
  obtain ⟨expects, incomplete⟩ :=
    (carries_newClientTlsContext info caCertPath
      setters).clientConnect_expects returned
  refine
    { expects := expects
      complete := ?_
      unstarted := fun _ => ⟨rfl, rfl, rfl, rfl, rfl⟩
      active := ?_
      activeBlocking := ?_
      activeAsync := ?_
      accepting := ?_
      replied := ?_
      repliedComplete := ?_
      returnedOk := ?_
      returnedErr := ?_ }
  · simp [fresh, incomplete]
  all_goals
    simp [fresh, activePoint?, CallerPc.viaConnect]

/-- While a callback is installed, none is inside `setReadCB`. -/
theorem installing_eq_none
    {info : VerificationInfo}
    {state : ClientHandshake}
    (account : HandshakeAccount info state)
    {entry : EntryPoint}
    (isInstalled : state.callback = some entry) :
    state.installing = none := by
  cases isInstalling : state.installing with
  | none =>
      rfl
  | some pair =>
      have noCallback := (account.accepting _ _ isInstalling).1
      rw [isInstalled] at noCallback
      cases noCallback

/-- A step of the loop thread while nobody is inside `connect`. -/
theorem blockingRuns
    {info : VerificationInfo}
    {following : ClientHandshake}
    (notConnect : following.caller.viaConnect = false)
    (started : following.caller ≠ .ready)
    (expects : following.conn.Expects info)
    (complete :
      following.conn.handshakeComplete = true → following.Accepted info)
    (active :
      following.activePoint? ≠ none →
        following.successes = [] ∧ following.reply = none)
    (notAsync : following.activePoint? ≠ some .async)
    (accepting :
      ∀ entry callback, following.installing = some (entry, callback) →
        following.callback = none ∧ callback.Accepts info) :
    HandshakeAccount info following where
  expects := expects
  complete := complete
  unstarted := fun here => (started here).elim
  active := active
  activeBlocking := fun _ => notConnect
  activeAsync := fun isAsync => (notAsync isAsync).elim
  accepting := accepting
  replied := by simp [notConnect]
  repliedComplete := by simp [notConnect]
  returnedOk := by
    intro here
    rw [here] at notConnect
    cases notConnect
  returnedErr := by
    intro error here
    rw [here] at notConnect
    cases notConnect

/-- A step of the loop thread while `connect` has not returned. -/
theorem asyncRuns
    {info : VerificationInfo}
    {following : ClientHandshake}
    (waits :
      following.caller = .awaiting ∨ following.caller = .dropped)
    (expects : following.conn.Expects info)
    (complete :
      following.conn.handshakeComplete = true → following.Accepted info)
    (active :
      following.activePoint? ≠ none →
        following.successes = [] ∧ following.reply = none)
    (notBlocking : following.activePoint? ≠ some .blocking)
    (sends :
      following.activePoint? = some .async →
        following.senderDropped = false)
    (accepting :
      ∀ entry callback, following.installing = some (entry, callback) →
        following.callback = none ∧ callback.Accepts info)
    (replied : following.RepliedOk ↔ following.Accepted info)
    (repliedComplete :
      following.RepliedOk → following.conn.handshakeComplete = true) :
    HandshakeAccount info following where
  expects := expects
  complete := complete
  unstarted := by
    intro here
    rcases waits with there | there <;>
      · rw [here] at there
        cases there
  active := active
  activeBlocking := fun isBlocking => (notBlocking isBlocking).elim
  activeAsync := fun isAsync => ⟨sends isAsync, waits⟩
  accepting := accepting
  replied := fun _ => replied
  repliedComplete := fun _ => repliedComplete
  returnedOk := by
    intro here
    rcases waits with there | there <;>
      · rw [here] at there
        cases there
  returnedErr := by
    intro error here
    rcases waits with there | there <;>
      · rw [here] at there
        cases there

/-- A handshake whose callback is active has been started. -/
theorem started
    {info : VerificationInfo}
    {state : ClientHandshake}
    (account : HandshakeAccount info state)
    (isActive : state.activePoint? ≠ none) :
    state.caller ≠ .ready := by
  intro here
  obtain ⟨noCallback, notInstalling, _⟩ := account.unstarted here
  simp [activePoint?, noCallback, notInstalling] at isActive

/-- The handshake is not complete while a callback is active. -/
theorem incomplete
    {info : VerificationInfo}
    {state : ClientHandshake}
    (account : HandshakeAccount info state)
    (isActive : state.activePoint? ≠ none) :
    state.conn.handshakeComplete ≠ true := by
  intro isComplete
  obtain ⟨callback, member, _⟩ := account.complete isComplete
  rw [(account.active isActive).1] at member
  cases member

/-- A success callback that accepts keeps the account. -/
theorem accept
    {info : VerificationInfo}
    {state : ClientHandshake}
    (account : HandshakeAccount info state)
    {entry : EntryPoint}
    {callback : SuccessCallback}
    (isInstalled : state.callback = some entry)
    (accepted : checkServerCertificate state.conn callback = .accepted) :
    HandshakeAccount info
      { state with
        conn := clientHandshakeSuccess state.conn .accepted
        callback := none
        installing := some (entry, callback) } := by
  have isActive : state.activePoint? = some entry := by
    simp [activePoint?, isInstalled]
  obtain ⟨noSuccess, noReply⟩ := account.active (by simp [isActive])
  have incomplete := account.incomplete (by simp [isActive])
  have expects := account.expects.clientHandshakeSuccess .accepted
  have accepts :=
    (checkServerCertificate_eq_accepted_iff account.expects callback).mp
      accepted
  cases entry with
  | blocking =>
      refine
        blockingRuns (account.activeBlocking isActive)
          (account.started (by simp [isActive])) expects ?_ ?_ ?_ ?_ <;>
        simp [activePoint?, incomplete, noSuccess, noReply, accepts]
  | async =>
      obtain ⟨sends, waits⟩ := account.activeAsync isActive
      refine asyncRuns waits expects ?_ ?_ ?_ ?_ ?_ ?_ ?_ <;>
        simp [activePoint?, incomplete, RepliedOk, Accepted, noSuccess,
          noReply, sends, accepts]

/-- A success callback of the blocking handshake that refuses keeps it. -/
theorem refuse
    {info : VerificationInfo}
    {state : ClientHandshake}
    (account : HandshakeAccount info state)
    (isInstalled : state.callback = some .blocking)
    (callback : SuccessCallback)
    (verdict : Verdict) :
    HandshakeAccount info
      { state with
        conn := clientHandshakeSuccess state.conn verdict
        callback := none
        closedNow := state.closedNow || verdict.closesNow
        successes := callback :: state.successes } := by
  have isActive : state.activePoint? = some .blocking := by
    simp [activePoint?, isInstalled]
  have incomplete := account.incomplete (by simp [isActive])
  have notInstalling := account.installing_eq_none isInstalled
  refine
    blockingRuns (account.activeBlocking isActive)
      (account.started (by simp [isActive]))
      (account.expects.clientHandshakeSuccess verdict) ?_ ?_ ?_ ?_ <;>
    simp [activePoint?, incomplete, notInstalling]

/-- So does one of the asynchronous handshake, which sends its text. -/
theorem refuseAsync
    {info : VerificationInfo}
    {state : ClientHandshake}
    (account : HandshakeAccount info state)
    (isInstalled : state.callback = some .async)
    {callback : SuccessCallback}
    {verdict : Verdict}
    (isVerdict : checkServerCertificate state.conn callback = verdict)
    (refused : verdict ≠ .accepted) :
    HandshakeAccount info
      { state with
        conn := (clientHandshakeSuccessAsync state.conn verdict).1
        callback := none
        reply := some (handleIoResult 0 verdict.text)
        closedNow := state.closedNow || verdict.closesNow
        successes := callback :: state.successes } := by
  have isActive : state.activePoint? = some .async := by
    simp [activePoint?, isInstalled]
  obtain ⟨noSuccess, _⟩ := account.active (by simp [isActive])
  have incomplete := account.incomplete (by simp [isActive])
  have notInstalling := account.installing_eq_none isInstalled
  have hasText : verdict.text ≠ "" := by
    subst isVerdict
    rwa [ne_eq, checkServerCertificate_text_eq_empty_iff]
  have notAccepts : ¬ callback.Accepts info := by
    rwa [← checkServerCertificate_eq_accepted_iff account.expects,
      isVerdict]
  refine
    asyncRuns (account.activeAsync isActive).2
      (account.expects.clientHandshakeSuccessAsync verdict)
      ?_ ?_ ?_ ?_ ?_ ?_ ?_ <;>
    simp [activePoint?, incomplete, notInstalling, RepliedOk, Accepted,
      handleIoResult, noSuccess, hasText, notAccepts]

/-- The end of an accepting callback of the blocking handshake. -/
theorem readCBInstalled
    {info : VerificationInfo}
    {state : ClientHandshake}
    (account : HandshakeAccount info state)
    (callback : SuccessCallback)
    (isInstalling : state.installing = some (.blocking, callback)) :
    HandshakeAccount info
      { state with
        conn := { state.conn with handshakeComplete := true }
        installing := none
        successes := callback :: state.successes } := by
  obtain ⟨noCallback, accepts⟩ := account.accepting _ _ isInstalling
  have isActive : state.activePoint? = some .blocking := by
    simp [activePoint?, noCallback, isInstalling]
  have expects := account.expects
  refine
    blockingRuns (account.activeBlocking isActive)
      (account.started (by simp [isActive]))
      { expects with } ?_ ?_ ?_ ?_
  · exact fun _ => ⟨callback, List.mem_cons_self, accepts⟩
  · simp [activePoint?, noCallback]
  · simp [activePoint?, noCallback]
  · simp

/-- The end of an accepting callback of the asynchronous handshake. -/
theorem readCBInstalledAsync
    {info : VerificationInfo}
    {state : ClientHandshake}
    (account : HandshakeAccount info state)
    (callback : SuccessCallback)
    (isInstalling : state.installing = some (.async, callback)) :
    HandshakeAccount info
      { state with
        conn := { state.conn with handshakeComplete := true }
        installing := none
        reply := some (handleIoResult 0 "")
        successes := callback :: state.successes } := by
  obtain ⟨noCallback, accepts⟩ := account.accepting _ _ isInstalling
  have isActive : state.activePoint? = some .async := by
    simp [activePoint?, noCallback, isInstalling]
  obtain ⟨_, waits⟩ := account.activeAsync isActive
  have expects := account.expects
  refine
    asyncRuns waits
      { expects with } ?_ ?_ ?_ ?_ ?_ ?_ ?_
  · exact fun _ => ⟨callback, List.mem_cons_self, accepts⟩
  · simp [activePoint?, noCallback]
  · simp [activePoint?, noCallback]
  · simp [activePoint?, noCallback]
  · simp
  · simp [RepliedOk, Accepted, handleIoResult, accepts]
  · simp

/-- Starting the blocking handshake keeps the account. -/
theorem handshake
    {info : VerificationInfo}
    {state : ClientHandshake}
    (account : HandshakeAccount info state)
    (fault : Option String)
    (here : state.caller = .ready) :
    HandshakeAccount info (state.handshake fault) := by
  obtain ⟨noCallback, notInstalling, noSuccess, noReply, _⟩ :=
    account.unstarted here
  have expects := account.expects
  have complete := account.complete
  unfold ClientHandshake.handshake
  split
  · refine blockingRuns rfl (by simp) expects complete ?_ ?_ ?_ <;>
      simp [activePoint?, noCallback, notInstalling]
  · split
    · refine
        blockingRuns rfl (by simp)
          { expects with } complete ?_ ?_ ?_ <;>
        simp [activePoint?, takeSni, noCallback, notInstalling]
    · refine
        blockingRuns rfl (by simp)
          { expects with } complete ?_ ?_ ?_ <;>
        simp [activePoint?, takeSni, notInstalling, noSuccess, noReply]

/-- Starting the asynchronous handshake keeps the account. -/
theorem handshakeAsync
    {info : VerificationInfo}
    {state : ClientHandshake}
    (account : HandshakeAccount info state)
    (fault : Option String)
    (here : state.caller = .ready) :
    HandshakeAccount info (state.handshakeAsync fault) := by
  obtain ⟨noCallback, notInstalling, noSuccess, noReply, connected⟩ :=
    account.unstarted here
  have expects := account.expects
  have complete := account.complete
  unfold ClientHandshake.handshakeAsync
  split
  · constructor <;>
      simp_all [CallerPc.viaConnect, Accepted, RepliedOk, activePoint?]
  · split
    · constructor <;>
        simp_all [CallerPc.viaConnect, Accepted, RepliedOk, takeSni,
          activePoint?]
      exact { expects with }
    · refine
        asyncRuns (.inl rfl)
          { expects with } complete
          ?_ ?_ ?_ ?_ ?_ ?_ <;>
        simp [activePoint?, takeSni, RepliedOk, Accepted, notInstalling,
          noSuccess, noReply, connected]

/-- A step of the waiting caller keeps the account. -/
theorem waiter
    {info : VerificationInfo}
    {state : ClientHandshake}
    (account : HandshakeAccount info state)
    (notConnect : state.caller.viaConnect = false)
    {caller : CallerPc}
    (stillNotConnect : caller.viaConnect = false)
    (started : caller ≠ .ready) :
    HandshakeAccount info { state with caller := caller } := by
  have notAsync : state.activePoint? ≠ some .async := by
    intro isAsync
    rcases (account.activeAsync isAsync).2 with here | here <;>
      · rw [here] at notConnect
        cases notConnect
  exact
    blockingRuns stillNotConnect started account.expects account.complete
      account.active notAsync account.accepting

/-- The handler that clears `handshakeComplete` keeps the account. -/
theorem giveUp
    {info : VerificationInfo}
    {state : ClientHandshake}
    (account : HandshakeAccount info state)
    (notConnect : state.caller.viaConnect = false)
    (text : String) :
    HandshakeAccount info
      { state with
        conn := { state.conn with handshakeComplete := false }
        caller := .failed ("Client handshake failed: " ++ text) } := by
  have moved :
      HandshakeAccount info
        { state with
          caller := .failed ("Client handshake failed: " ++ text) } :=
    account.waiter notConnect rfl (by simp)
  have expects := account.expects
  exact { moved with
    expects :=
      { expects with }
    complete := by simp
    repliedComplete := by simp [CallerPc.viaConnect] }

/-- A step of `connect` at its second await keeps the account. -/
theorem connectMoves
    {info : VerificationInfo}
    {state : ClientHandshake}
    (account : HandshakeAccount info state)
    (here : state.caller = .awaiting)
    {caller : CallerPc}
    (viaConnect : caller.viaConnect = true)
    (ok : caller = .returnedOk → state.RepliedOk)
    (err :
      ∀ error, caller = .returnedErr error →
        state.activePoint? = none ∧ ¬ state.RepliedOk)
    (stillActive :
      state.activePoint? = some .async →
        caller = .awaiting ∨ caller = .dropped) :
    HandshakeAccount info { state with caller := caller } := by
  have wasConnect : state.caller.viaConnect = true := by
    rw [here]
    rfl
  exact
    { expects := account.expects
      complete := account.complete
      unstarted := by
        intro isReady
        change caller = _ at isReady
        rw [isReady] at viaConnect
        cases viaConnect
      active := account.active
      activeBlocking := by
        intro isBlocking
        have notConnect := account.activeBlocking isBlocking
        rw [wasConnect] at notConnect
        cases notConnect
      activeAsync := fun isAsync =>
        ⟨(account.activeAsync isAsync).1, stillActive isAsync⟩
      accepting := account.accepting
      replied := fun _ => account.replied wasConnect
      repliedComplete := fun _ => account.repliedComplete wasConnect
      returnedOk := ok
      returnedErr := err }

/-- Nothing has been sent while a callback is installed. -/
theorem notOk
    {info : VerificationInfo}
    {state : ClientHandshake}
    (account : HandshakeAccount info state)
    {entry : EntryPoint}
    (isInstalled : state.callback = some entry)
    (bytes : Nat) :
    state.reply ≠ some (.ok bytes) := by
  have noReply :=
    (account.active (by simp [activePoint?, isInstalled])).2
  simp [noReply]

/-- A callback that ends without a report of success keeps the account. -/
theorem callbackEnds
    {info : VerificationInfo}
    {state : ClientHandshake}
    (account : HandshakeAccount info state)
    {entry : EntryPoint}
    (isInstalled : state.callback = some entry)
    (errorMessage : String)
    {reply : Option IoResult}
    (notOk : ∀ bytes, reply ≠ some (.ok bytes))
    (senderDropped : Bool) :
    HandshakeAccount info
      { state with
        conn := { state.conn with errorMessage := errorMessage }
        callback := none
        reply := reply
        senderDropped := senderDropped } := by
  have isActive : state.activePoint? = some entry := by
    simp [activePoint?, isInstalled]
  have notInstalling := account.installing_eq_none isInstalled
  obtain ⟨noSuccess, _⟩ := account.active (by simp [isActive])
  have incomplete := account.incomplete (by simp [isActive])
  have expects : FizzClientConnection.Expects
      { state.conn with errorMessage := errorMessage } info :=
    ⟨account.expects.dcEnabled, account.expects.validTime,
      account.expects.verifyScheme, account.expects.publicKey,
      account.expects.expiresAt⟩
  cases entry with
  | blocking =>
      refine
        blockingRuns (account.activeBlocking isActive)
          (account.started (by simp [isActive])) expects ?_ ?_ ?_ ?_ <;>
        simp [activePoint?, notInstalling, incomplete]
  | async =>
      refine
        asyncRuns (account.activeAsync isActive).2 expects
          ?_ ?_ ?_ ?_ ?_ ?_ ?_ <;>
        simp [activePoint?, notInstalling, incomplete, RepliedOk, Accepted,
          noSuccess, notOk]

/-- One step keeps the account. -/
theorem preserved
    {info : VerificationInfo}
    {state following : ClientHandshake}
    {action : Action}
    (account : HandshakeAccount info state)
    (transition : Transition state action following) :
    HandshakeAccount info following := by
  cases transition with
  | handshake fault here =>
      exact account.handshake fault here
  | handshakeAsync fault here =>
      exact account.handshakeAsync fault here
  | leaveLoop here settled =>
      exact account.waiter (by rw [here]; rfl) rfl (by simp)
  | findError here hasError =>
      exact account.waiter (by rw [here]; rfl) rfl (by simp)
  | findIncomplete here noError incomplete =>
      exact account.waiter (by rw [here]; rfl) rfl (by simp)
  | complete here noError isComplete =>
      exact account.waiter (by rw [here]; rfl) rfl (by simp)
  | giveUp text here =>
      exact account.giveUp (by rw [here]; rfl) text
  | timeout here incomplete noError =>
      exact account.waiter (by rw [here]; rfl) rfl (by simp)
  | pollOk bytes here delivered =>
      refine account.connectMoves here rfl (fun _ => ⟨bytes, delivered⟩)
        (by simp) ?_
      intro isAsync
      rw [(account.active (by simp [isAsync])).2] at delivered
      cases delivered
  | pollErr error here delivered =>
      have inactive : state.activePoint? = none := by
        by_contra isActive
        rw [(account.active isActive).2] at delivered
        cases delivered
      refine account.connectMoves here rfl (by simp)
        (fun _ _ => ⟨inactive, ?_⟩) (by simp [inactive])
      rintro ⟨bytes, isOk⟩
      rw [delivered] at isOk
      cases isOk
  | pollClosed here noReply closed =>
      have inactive : state.activePoint? = none := by
        cases isActive : state.activePoint? with
        | none =>
            rfl
        | some entry =>
            cases entry with
            | blocking =>
                have notConnect := account.activeBlocking isActive
                rw [here] at notConnect
                cases notConnect
            | async =>
                rw [(account.activeAsync isActive).1] at closed
                cases closed
      refine account.connectMoves here rfl (by simp)
        (fun _ _ => ⟨inactive, ?_⟩) (by simp [inactive])
      rintro ⟨bytes, isOk⟩
      rw [noReply] at isOk
      cases isOk
  | dropFuture here =>
      exact account.connectMoves here rfl (by simp) (by simp)
        (fun _ => .inr rfl)
  | accept entry callback isInstalled accepted =>
      exact account.accept isInstalled accepted
  | refuse callback verdict isInstalled isVerdict refused =>
      exact account.refuse isInstalled callback verdict
  | refuseAsync callback verdict isInstalled isVerdict refused =>
      exact account.refuseAsync isInstalled isVerdict refused
  | readCBInstalled callback isInstalling =>
      exact account.readCBInstalled callback isInstalling
  | readCBInstalledAsync callback isInstalling =>
      exact account.readCBInstalledAsync callback isInstalling
  | error exception isInstalled =>
      exact account.callbackEnds isInstalled exception.what
        (account.notOk isInstalled) state.senderDropped
  | errorAsync exception isInstalled =>
      refine account.callbackEnds isInstalled exception.what ?_
        state.senderDropped
      simp [handleIoResult, exception.what_ne_empty]
  | destroyed isInstalled =>
      exact account.callbackEnds isInstalled state.conn.errorMessage
        (account.notOk isInstalled) state.senderDropped
  | destroyedAsync isInstalled =>
      exact account.callbackEnds isInstalled state.conn.errorMessage
        (account.notOk isInstalled) true
  | readEnd told isReading =>
      have expects := account.expects
      exact { account with
        expects :=
          { expects with } }
  | closeNow isEnding =>
      exact { account with }

/-- Every reachable handshake keeps the account. -/
theorem of_reachable
    {info : VerificationInfo}
    {state : ClientHandshake}
    (reachable : Reachable step (StartsFrom info) state) :
    HandshakeAccount info state := by
  refine reachable.invariant ?_ ?_
  · intro start starts
    exact initially starts
  · intro before after action _ account _ taken
    exact account.preserved (.of_step taken)

end HandshakeAccount

/--
On a connection made by `client_connect` from a context with verification
information, a complete handshake means that the server presented a delegated
credential with exactly the expected values.  When `connect` has returned, it
returned `Ok` if and only if a success callback ran to its end on such a
credential, and the handshake is then complete; while it still awaits the result
of such a callback, its next poll returns `Ok`.
-/
theorem client_authenticated
    {info : VerificationInfo}
    {state : ClientHandshake}
    (reachable : Reachable step (StartsFrom info) state) :
    (state.conn.handshakeComplete = true →
      ∃ callback ∈ state.successes, ∃ credential expiresTime,
        callback.certificate = .delegated credential expiresTime ∧
          info.Matches credential expiresTime) ∧
      (state.caller.connectReturned = true →
        (state.caller = .returnedOk ↔ state.Accepted info)) ∧
      (state.caller = .returnedOk →
        state.conn.handshakeComplete = true) ∧
      (state.caller = .awaiting →
        state.Accepted info →
          ∃ following,
            state.step .poll = some following ∧
              following.caller = .returnedOk) := by
  have account := HandshakeAccount.of_reachable reachable
  refine ⟨?_, ?_, ?_, ?_⟩
  · intro isComplete
    obtain ⟨callback, member, accepts⟩ := account.complete isComplete
    obtain ⟨credential, expiresTime, presents, isMatch⟩ :=
      accepts.presented
    exact ⟨callback, member, credential, expiresTime, presents, isMatch⟩
  · intro returned
    cases here : state.caller with
    | returnedOk =>
        have replied := account.replied (by rw [here]; rfl)
        simp [replied.mp (account.returnedOk here)]
    | returnedErr error =>
        have replied := account.replied (by rw [here]; rfl)
        have notAccepted : ¬ state.Accepted info := fun accepted =>
          (account.returnedErr error here).2 (replied.mpr accepted)
        simp [notAccepted]
    | _ =>
        rw [here] at returned
        cases returned
  · intro here
    exact account.repliedComplete (by rw [here]; rfl)
      (account.returnedOk here)
  · intro here accepted
    obtain ⟨bytes, delivered⟩ :=
      (account.replied (by rw [here]; rfl)).mpr accepted
    exact ⟨{ state with caller := .returnedOk },
      by simp [step, poll, here, delivered], rfl⟩

/-- The verification information of a one-byte key. -/
def sampleInfo : VerificationInfo where
  serviceName := "service"
  validTime := 60
  expectedVerifyScheme := 0x0403
  publicKeyDer := "ab"
  expiresAt := 2

/-- A success callback that finds what `sampleInfo` says. -/
def sampleSuccess : SuccessCallback where
  certificate :=
    .delegated
      { validTime := 60
        expectedVerifyScheme := 0x0403
        publicKey := [0xab]
        credentialScheme := 0x0403
        signature := [] }
      2500000000
  faults := .none

/-- The connection made from a context with `sampleInfo`. -/
def sampleConnection : FizzClientConnection where
  fd := 7
  transport := true
  handshakeComplete := false
  errorMessage := ""
  peerCertPem := "example.com"
  caCertPath := "ca.pem"
  dcExtension := some dcSigSchemes
  expectedServiceName := "service"
  expectedValidTime := 60
  expectedVerifyScheme := 0x0403
  expectedPublicKeyDerHex := "ab"
  expectedExpiresAt := 2
  dcEnabled := true
  readCallback := false

/-- `connect` with a server that presents the expected credential. -/
def sampleConnect : List Action :=
  [.handshakeAsync none, .fizzHandshakeSuccess sampleSuccess,
    .readCBInstalled, .poll]

/-- The handshake after `sampleConnect`. -/
def sampleConnected : ClientHandshake where
  conn :=
    { sampleConnection with
      handshakeComplete := true
      peerCertPem := certificateExtracted
      readCallback := true }
  caller := .returnedOk
  callback := none
  installing := none
  reply := some (.ok 0)
  senderDropped := false
  sni := some "example.com"
  closedNow := false
  successes := [sampleSuccess]
  ends := []
  ending := false

theorem client_authenticated_sample :
    run? step (.fresh sampleConnection) sampleConnect =
        some sampleConnected ∧
      sampleConnected.Accepted sampleInfo := by
  have starts : StartsFrom sampleInfo (.fresh sampleConnection) :=
    ⟨fun _ => .loaded, none, "ca.pem", [.sni "example.com"], 7, "",
      sampleConnection, rfl, rfl⟩
  have performed :
      run? step (.fresh sampleConnection) sampleConnect =
        some sampleConnected := by
    decide
  refine ⟨performed, ?_⟩
  exact
    ((client_authenticated
      (reachable_of_run? (.start starts) performed)).2.1 rfl).mp rfl

end ClientHandshake

end FizzRs
