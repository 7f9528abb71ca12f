import FizzRs.ServerHandshake

namespace FizzRs

open LabelledSystem

/-!
# What a returned server handshake means

`accept_from_stream` learns of the result through the channel, after the last
statement of the callback, so a connection it hands out is complete and reads.
`server_connection_handshake` looks at the members themselves.  Its success may
overtake the installation of the read callback, and since a failure lowers
`handshakeComplete` without withdrawing the callback, a report that is still under
way can raise the flag again after the call has thrown.

A read error that comes right after a reported success also stands in
`errorMessage`.  The waiting call takes it for a failed handshake;
`accept_from_stream` does not see it and hands the connection out.
-/

/--
The error text after a report.  After a success it is what the read callback was
told.
-/
def recordedText : Option ServerReport → List ReadEnd → String
  | none, _ => ""
  | some .success, ends => errorAfter ends
  | some report, _ => report.text

/-- What is reported other than success stands in the error text. -/
theorem recordedText_of_ne_success
    {report : ServerReport}
    (notSuccess : report ≠ .success)
    (ends : List ReadEnd) :
    recordedText (some report) ends = report.text := by
  cases report with
  | success =>
      exact absurd rfl notSuccess
  | error exception =>
      rfl
  | fallback =>
      rfl

/-- An error text that is not empty was told to the read callback. -/
theorem err_errorAfter_mem
    {ends : List ReadEnd}
    (hasText : errorAfter ends ≠ "") :
    .err (errorAfter ends) ∈ ends := by
  induction ends with
  | nil =>
      exact absurd rfl hasText
  | cons last earlier inductionHypothesis =>
      cases last with
      | eof =>
          exact List.mem_cons_of_mem _ (inductionHypothesis hasText)
      | err message =>
          exact List.mem_cons_self

namespace ReportPc

/-- The entry point whose callback the loop thread is inside. -/
def entry? : ReportPc → Option EntryPoint
  | .idle => none
  | .completed entry => some entry
  | .installed => some .async
  | .recorded => some .async
  | .fallingBack entry => some entry

/-- The report that led to this position. -/
def follows : ReportPc → ServerReport → Prop
  | .idle, _ => True
  | .completed _, report => report = .success
  | .installed, report => report = .success
  | .recorded, report => ∃ exception, report = .error exception
  | .fallingBack _, report => report = .fallback

end ReportPc

namespace ServerHandshake

/-- The entry point whose callback is installed or running. -/
def activePoint? (state : ServerHandshake) : Option EntryPoint :=
  match state.callback with
  | some entry => some entry
  | none => state.pc.entry?

/-- Why `server_connection_handshake` failed, before its own wording. -/
def Cause
    (state : ServerHandshake)
    (text : String) :
    Prop :=
  (∃ report, state.report = some report ∧ report ≠ .success ∧
      text = "Handshake failed: " ++ report.text) ∨
    (state.report = some .success ∧
      ∃ message, .err message ∈ state.ends ∧
        text = "Handshake failed: " ++ message) ∨
    text = "Handshake timed out after 120 seconds" ∨
    (state.report = none ∧ state.callback = none ∧ state.fault = some text)

/-- Why `accept_from_stream` failed. -/
def CauseAsync
    (state : ServerHandshake)
    (text : String) :
    Prop :=
  (∃ report, state.report = some report ∧ report ≠ .success ∧
      text = report.text) ∨
    (state.report = none ∧
      (text = "Handshake channel closed unexpectedly" ∨
        state.fault = some text))

/-- The loop thread's side of a handshake. -/
structure LoopAccount (state : ServerHandshake) : Prop where
  transport : state.conn.transport = true
  installed :
    state.callback ≠ none →
      state.report = none ∧ state.pc = .idle ∧ state.reply = none ∧
        state.senderDropped = false
  recorded :
    state.conn.errorMessage = recordedText state.report state.ends
  inCallback :
    state.pc ≠ .idle →
      state.reply = none ∧
        ∃ report, state.report = some report ∧ state.pc.follows report
  reads :
    state.conn.readCallback = true ↔
      state.report = some .success ∧ ∀ entry, state.pc ≠ .completed entry
  told : state.ends ≠ [] → state.conn.readCallback = true
  closed :
    state.closedNow = true ∨ state.ending = true ↔ state.ends ≠ []
  replied :
    ∀ reply, state.reply = some reply →
      ∃ report, state.report = some report ∧
        reply = handleIoResult 0 report.text
  dropped :
    state.senderDropped = true → state.callback = none ∧ state.report = none

/-- The caller's side of a handshake. -/
structure CallerAccount (state : ServerHandshake) : Prop where
  unstarted :
    state.caller = .ready →
      state.callback = none ∧ state.report = none ∧
        state.senderDropped = false ∧
        state.conn.handshakeComplete = false
  blocking :
    state.activePoint? = some .blocking → state.caller.viaConnect = false
  async :
    state.activePoint? = some .async →
      state.caller = .awaiting ∨ state.caller = .dropped
  complete :
    state.conn.handshakeComplete = true →
      state.report = some .success ∨
        (state.report = some .fallback ∧ state.caller.viaConnect = false)
  kept :
    state.report = some .success → (∀ text, state.caller ≠ .failed text) →
      state.conn.handshakeComplete = true
  leftLoop :
    state.caller = .leftLoop →
      state.conn.handshakeComplete = true ∨ state.conn.errorMessage ≠ ""
  completed :
    state.caller = .completed →
      state.report = some .success ∧ state.conn.handshakeComplete = true
  failing :
    ∀ text, state.caller = .failing text → state.Cause text
  failed :
    ∀ text, state.caller = .failed text →
      ∃ cause, text = "Server handshake failed: " ++ cause ∧
        state.Cause cause ∧
        (state.conn.handshakeComplete = true →
          (state.report = some .success ∧
              cause = "Handshake timed out after 120 seconds") ∨
            state.report = some .fallback)
  returnedOk :
    state.caller = .returnedOk →
      ∃ bytes, state.reply = some (.ok bytes)
  returnedErr :
    ∀ error, state.caller = .returnedErr error →
      state.callback = none ∧ state.pc = .idle ∧
        ∃ text, error = .tlsHandshakeError text ∧ state.CauseAsync text

/-- `handle_io_result` of a report is `Ok` for a success only. -/
theorem handleIoResult_text_ok_iff
    (report : ServerReport)
    (bytes : Nat) :
    handleIoResult 0 report.text = .ok bytes ↔
      bytes = 0 ∧ report = .success := by
  by_cases isEmpty : report.text = ""
  · have isSuccess := report.text_eq_empty_iff.mp isEmpty
    constructor
    · intro isOk
      simp only [handleIoResult, isEmpty, if_true, IoResult.ok.injEq] at isOk
      exact ⟨isOk.symm, isSuccess⟩
    · rintro ⟨rfl, -⟩
      simp [handleIoResult, isEmpty]
  · have notSuccess : report ≠ .success := fun isSuccess =>
      isEmpty (report.text_eq_empty_iff.mpr isSuccess)
    simp [handleIoResult, isEmpty, notSuccess]

/-- The error that `handle_io_result` sends is the text of the report. -/
theorem handleIoResult_text_err
    {report : ServerReport}
    {error : String}
    (isError : handleIoResult 0 report.text = .err error) :
    report ≠ .success ∧ error = report.text := by
  by_cases isEmpty : report.text = ""
  · simp [handleIoResult, isEmpty] at isError
  · have notSuccess : report ≠ .success := fun isSuccess =>
      isEmpty (report.text_eq_empty_iff.mpr isSuccess)
    simp only [handleIoResult, isEmpty, if_false, IoResult.err.injEq] at isError
    exact ⟨notSuccess, isError.symm⟩

namespace LoopAccount

/-- Nothing was reported to a fresh connection. -/
theorem initially
    {fd : Int}
    {conn : FizzServerConnection}
    (accepted : serverAcceptConnection none fd = .ok conn) :
    LoopAccount (fresh conn) := by
  cases accepted
  constructor <;> simp [fresh, recordedText]

/-- Before anything is reported the loop thread is in no callback. -/
theorem quiet
    {state : ServerHandshake}
    (account : LoopAccount state)
    (unreported : state.report = none) :
    state.pc = .idle ∧ state.reply = none := by
  constructor
  · by_contra inside
    obtain ⟨_, report, given, _⟩ := account.inCallback inside
    rw [unreported] at given
    cases given
  · cases sent : state.reply with
    | none =>
        rfl
    | some reply =>
        obtain ⟨report, given, _⟩ := account.replied reply sent
        rw [unreported] at given
        cases given

/-- Installing a callback keeps the account. -/
theorem start
    {state : ServerHandshake}
    (account : LoopAccount state)
    (unreported : state.report = none)
    (notDropped : state.senderDropped = false)
    (caller : CallerPc)
    (entry : EntryPoint) :
    LoopAccount
      { state with caller := caller, callback := some entry } := by
  obtain ⟨atIdle, noReply⟩ := account.quiet unreported
  exact
    { transport := account.transport
      installed := fun _ => ⟨unreported, atIdle, noReply, notDropped⟩
      recorded := account.recorded
      inCallback := account.inCallback
      reads := account.reads
      told := account.told
      closed := account.closed
      replied := account.replied
      dropped := by simp [notDropped] }

/-- The first statement of a callback keeps the account. -/
theorem enter
    {state : ServerHandshake}
    (account : LoopAccount state)
    {entry : EntryPoint}
    (isInstalled : state.callback = some entry)
    (report : ServerReport) :
    LoopAccount (state.enter entry report) := by
  obtain ⟨unreported, atIdle, noReply, notDropped⟩ :=
    account.installed (by simp [isInstalled])
  have noText : state.conn.errorMessage = "" := by
    rw [account.recorded, unreported]
    rfl
  have notReading : state.conn.readCallback = false := by
    by_contra isReading
    have given := (account.reads.mp (by simpa using isReading)).1
    rw [unreported] at given
    cases given
  have noEnds : state.ends = [] := by
    by_contra hasEnds
    have isReading := account.told hasEnds
    rw [notReading] at isReading
    cases isReading
  cases report with
  | success =>
      exact
        { transport := account.transport
          installed := by simp [ServerHandshake.enter]
          recorded := by
            simp [ServerHandshake.enter, noText, noEnds, recordedText,
              errorAfter]
          inCallback := fun _ => ⟨noReply, .success, rfl, rfl⟩
          reads := by simp [ServerHandshake.enter, notReading]
          told := account.told
          closed := account.closed
          replied := by simp [ServerHandshake.enter, noReply]
          dropped := by simp [ServerHandshake.enter, notDropped] }
  | error exception =>
      refine
        { transport := account.transport
          installed := by simp [ServerHandshake.enter]
          recorded := rfl
          inCallback := fun inside =>
            ⟨noReply, .error exception, rfl, ?_⟩
          reads := by simp [ServerHandshake.enter, notReading]
          told := account.told
          closed := account.closed
          replied := by simp [ServerHandshake.enter, noReply]
          dropped := by simp [ServerHandshake.enter, notDropped] }
      cases entry with
      | blocking =>
          exact absurd rfl inside
      | async =>
          exact ⟨exception, rfl⟩
  | fallback =>
      exact
        { transport := account.transport
          installed := by simp [ServerHandshake.enter]
          recorded := rfl
          inCallback := fun _ => ⟨noReply, .fallback, rfl, rfl⟩
          reads := by simp [ServerHandshake.enter, notReading]
          told := account.told
          closed := account.closed
          replied := by simp [ServerHandshake.enter, noReply]
          dropped := by simp [ServerHandshake.enter, notDropped] }

/-- A statement that installs the read callback keeps the account. -/
theorem install
    {state : ServerHandshake}
    (account : LoopAccount state)
    {entry : EntryPoint}
    (here : state.pc = .completed entry)
    {next : ReportPc}
    (nextIs : next = .idle ∨ next = .installed) :
    LoopAccount { state with
      conn := { state.conn with readCallback := true }
      pc := next } := by
  obtain ⟨noReply, report, given, isSuccess⟩ :=
    account.inCallback (by simp [here])
  rw [here] at isSuccess
  have noCallback : state.callback = none := by
    by_contra isInstalled
    have unreported := (account.installed isInstalled).1
    rw [given] at unreported
    cases unreported
  refine
    { transport := account.transport
      installed := by simp [noCallback]
      recorded := account.recorded
      inCallback := ?_
      reads := ?_
      told := fun _ => rfl
      closed := account.closed
      replied := account.replied
      dropped := account.dropped }
  · rcases nextIs with rfl | rfl
    · simp
    · exact fun _ => ⟨noReply, report, given, isSuccess⟩
  · rw [given, isSuccess]
    rcases nextIs with rfl | rfl <;> simp

/-- The last statement of an asynchronous callback keeps the account. -/
theorem send
    {state : ServerHandshake}
    (account : LoopAccount state)
    {text : String}
    (inside : state.pc ≠ .idle)
    (notCompleted : ∀ entry, state.pc ≠ .completed entry)
    (isText : ∀ report, state.report = some report → text = report.text) :
    LoopAccount { state with
      reply := some (handleIoResult 0 text)
      pc := .idle } := by
  obtain ⟨_, report, given, _⟩ := account.inCallback inside
  have noCallback : state.callback = none := by
    by_contra isInstalled
    exact inside (account.installed isInstalled).2.1
  exact
    { transport := account.transport
      installed := by simp [noCallback]
      recorded := account.recorded
      inCallback := by simp
      reads := by
        rw [account.reads]
        simp [notCompleted]
      told := account.told
      closed := account.closed
      replied := by
        intro reply sent
        cases sent
        exact ⟨report, given, by rw [isText report given]⟩
      dropped := account.dropped }

/-- A read callback is told of an end only after a reported success. -/
theorem readEnd
    {state : ServerHandshake}
    (account : LoopAccount state)
    (isReading : state.conn.readCallback = true)
    (told : ReadEnd) :
    LoopAccount { state with
      conn :=
        { state.conn with
          errorMessage := told.record state.conn.errorMessage }
      ends := told :: state.ends
      ending := true } := by
  have given := (account.reads.mp isReading).1
  have recorded := account.recorded
  rw [given] at recorded
  exact { account with
    recorded := by
      rw [recorded, given]
      rfl
    told := fun _ => isReading
    closed := by simp }

/-- It closes the transport only then. -/
theorem closeNow
    {state : ServerHandshake}
    (account : LoopAccount state)
    (isEnding : state.ending = true) :
    LoopAccount { state with closedNow := true, ending := false } := by
  have told := account.closed.mp (.inr isEnding)
  exact { account with closed := by simp [told] }

/-- A recorded error text explains why the waiting call fails. -/
theorem cause_of_text
    {state : ServerHandshake}
    (account : LoopAccount state)
    (hasText : state.conn.errorMessage ≠ "") :
    state.Cause ("Handshake failed: " ++ state.conn.errorMessage) := by
  rw [account.recorded] at hasText ⊢
  cases given : state.report with
  | none =>
      rw [given] at hasText
      exact absurd rfl hasText
  | some report =>
      rw [given] at hasText
      by_cases isSuccess : report = .success
      · subst isSuccess
        exact .inr (.inl ⟨given, _, err_errorAfter_mem hasText, rfl⟩)
      · rw [recordedText_of_ne_success isSuccess]
        exact .inl ⟨report, given, isSuccess, rfl⟩

/-- One step keeps the loop thread's account. -/
theorem preserved
    {state following : ServerHandshake}
    {action : Action}
    (account : LoopAccount state)
    (callers : CallerAccount state)
    (transition : Transition state action following) :
    LoopAccount following := by
  cases transition with
  | handshake fault here =>
      obtain ⟨_, unreported, notDropped, _⟩ := callers.unstarted here
      simp only [ServerHandshake.handshake, account.transport]
      cases fault with
      | none =>
          exact account.start unreported notDropped _ _
      | some what =>
          exact { account with }
  | handshakeAsync fault here =>
      obtain ⟨noCallback, unreported, notDropped, _⟩ :=
        callers.unstarted here
      simp only [ServerHandshake.handshakeAsync, account.transport]
      cases fault with
      | none =>
          exact account.start unreported notDropped _ _
      | some what =>
          exact { account with
            installed := by simp [noCallback]
            dropped := fun _ => ⟨noCallback, unreported⟩ }
  | report entry report isInstalled =>
      exact account.enter isInstalled report
  | install here =>
      exact account.install here (.inl rfl)
  | installAsync here =>
      exact account.install here (.inr rfl)
  | sendOk here =>
      refine account.send (by simp [here]) (by simp [here]) ?_
      intro report given
      obtain ⟨_, sameReport, sameGiven, isSuccess⟩ :=
        account.inCallback (by simp [here])
      rw [given] at sameGiven
      cases sameGiven
      rw [here] at isSuccess
      exact (report.text_eq_empty_iff.mpr isSuccess).symm
  | sendError here =>
      refine account.send ?_ ?_ ?_
      · rcases here with here | here <;> simp [here]
      · rcases here with here | here <;> simp [here]
      · intro report given
        have notSuccess : report ≠ .success := by
          obtain ⟨_, same, sameGiven, follows⟩ :=
            account.inCallback (by rcases here with here | here <;> simp [here])
          rw [given] at sameGiven
          cases sameGiven
          rintro rfl
          rcases here with here | here <;>
            simp [here, ReportPc.follows] at follows
        rw [account.recorded, given, recordedText_of_ne_success notSuccess]
  | fallBack here =>
      obtain ⟨noReply, report, given, isFallback⟩ :=
        account.inCallback (by simp [here])
      rw [here] at isFallback
      have noCallback : state.callback = none := by
        by_contra isInstalled
        have atIdle := (account.installed isInstalled).2.1
        rw [here] at atIdle
        cases atIdle
      exact { account with
        installed := by simp [noCallback]
        inCallback := by simp
        reads := by
          rw [account.reads, given, isFallback]
          simp }
  | destroyed isInstalled =>
      exact { account with
        installed := by simp
        dropped := fun isDropped =>
          ⟨rfl, (account.dropped isDropped).2⟩ }
  | destroyedAsync isInstalled =>
      have unreported := (account.installed (by simp [isInstalled])).1
      exact { account with
        installed := by simp
        dropped := fun _ => ⟨rfl, unreported⟩ }
  | readEnd told isReading =>
      exact account.readEnd isReading told
  | closeNow isEnding =>
      exact account.closeNow isEnding
  | _ =>
      exact { account with }

end LoopAccount

namespace CallerAccount

/-- Nobody has called for the handshake of a fresh connection. -/
theorem initially
    {fd : Int}
    {conn : FizzServerConnection}
    (accepted : serverAcceptConnection none fd = .ok conn) :
    CallerAccount (fresh conn) := by
  cases accepted
  constructor <;>
    simp [fresh, activePoint?, ReportPc.entry?, CallerPc.viaConnect]

/-- A step of the blocking caller keeps the account when its new place is right. -/
theorem waiterMoves
    {state : ServerHandshake}
    (account : CallerAccount state)
    {caller : CallerPc}
    (wasBlocking : state.caller.viaConnect = false)
    (notVia : caller.viaConnect = false)
    (notReady : caller ≠ .ready)
    (leftLoop :
      caller = .leftLoop →
        state.conn.handshakeComplete = true ∨
          state.conn.errorMessage ≠ "")
    (completed :
      caller = .completed →
        state.report = some .success ∧
          state.conn.handshakeComplete = true)
    (failing : ∀ text, caller = .failing text → state.Cause text)
    (wasNotFailed : ∀ text, state.caller ≠ .failed text)
    (notFailed : ∀ text, caller ≠ .failed text) :
    CallerAccount { state with caller := caller } := by
  have notAsync : state.activePoint? ≠ some .async := by
    intro isAsync
    rcases account.async isAsync with here | here <;>
      (rw [here] at wasBlocking; cases wasBlocking)
  exact
    { unstarted := fun here => absurd here notReady
      blocking := fun _ => notVia
      async := fun isAsync => absurd isAsync notAsync
      complete := fun isComplete => by
        rcases account.complete isComplete with isSuccess | isFallback
        · exact .inl isSuccess
        · exact .inr ⟨isFallback.1, notVia⟩
      kept := fun given _ => account.kept given wasNotFailed
      leftLoop := leftLoop
      completed := completed
      failing := failing
      failed := fun text here => absurd here (notFailed text)
      returnedOk := by
        rintro rfl
        cases notVia
      returnedErr := by
        rintro error rfl
        cases notVia }

/-- A step of the loop thread that reports nothing new and completes nothing. -/
theorem frame
    {state following : ServerHandshake}
    (account : CallerAccount state)
    (sameCaller : following.caller = state.caller)
    (sameComplete :
      following.conn.handshakeComplete = state.conn.handshakeComplete)
    (leftLoop :
      state.caller = .leftLoop →
        following.conn.handshakeComplete = true ∨
          following.conn.errorMessage ≠ "")
    (sameReport : following.report = state.report)
    (sameFault : following.fault = state.fault)
    (stillTold : ∀ told ∈ state.ends, told ∈ following.ends)
    (noCallback : following.callback = none)
    (active :
      following.activePoint? = none ∨
        following.activePoint? = state.activePoint?)
    (stillOutside : state.pc = .idle → following.pc = .idle)
    (stillSent :
      ∀ bytes, state.reply = some (.ok bytes) →
        following.reply = some (.ok bytes))
    (stillOpen :
      state.caller = .ready →
        following.senderDropped = state.senderDropped) :
    CallerAccount following := by
  have sameActive :
      ∀ entry, following.activePoint? = some entry →
        state.activePoint? = some entry := by
    intro entry isActive
    rcases active with noEntry | same
    · rw [noEntry] at isActive
      cases isActive
    · rw [← same]
      exact isActive
  have sameCause : ∀ text, state.Cause text → following.Cause text := by
    intro text cause
    unfold Cause at cause ⊢
    rw [sameReport, sameFault]
    rcases cause with given | ⟨given, message, wasTold, isText⟩ | timedOut |
      ⟨unreported, _, isFault⟩
    · exact .inl given
    · exact .inr (.inl ⟨given, message, stillTold _ wasTold, isText⟩)
    · exact .inr (.inr (.inl timedOut))
    · exact .inr (.inr (.inr ⟨unreported, noCallback, isFault⟩))
  constructor
  · intro here
    rw [sameCaller] at here
    obtain ⟨_, unreported, notDropped, incomplete⟩ :=
      account.unstarted here
    rw [sameReport, sameComplete, stillOpen here]
    exact ⟨noCallback, unreported, notDropped, incomplete⟩
  · intro isActive
    rw [sameCaller]
    exact account.blocking (sameActive _ isActive)
  · intro isActive
    rw [sameCaller]
    exact account.async (sameActive _ isActive)
  · rw [sameComplete, sameReport, sameCaller]
    exact account.complete
  · rw [sameReport, sameCaller, sameComplete]
    exact account.kept
  · rw [sameCaller]
    exact leftLoop
  · rw [sameCaller, sameReport, sameComplete]
    exact account.completed
  · intro text here
    rw [sameCaller] at here
    exact sameCause text (account.failing text here)
  · intro text here
    rw [sameCaller] at here
    obtain ⟨cause, shape, isCause, raised⟩ := account.failed text here
    refine ⟨cause, shape, sameCause cause isCause, ?_⟩
    rwa [sameComplete, sameReport]
  · intro here
    rw [sameCaller] at here
    obtain ⟨bytes, sent⟩ := account.returnedOk here
    exact ⟨bytes, stillSent bytes sent⟩
  · intro error here
    rw [sameCaller] at here
    obtain ⟨_, outside, text, shape, cause⟩ :=
      account.returnedErr error here
    refine ⟨noCallback, stillOutside outside, text, shape, ?_⟩
    unfold CauseAsync at cause ⊢
    rwa [sameReport, sameFault]

/-- A caller that waits for a report has nothing but a timeout to blame. -/
theorem cause_of_installed
    {state : ServerHandshake}
    (unreported : state.report = none)
    (isInstalled : state.callback ≠ none)
    {text : String}
    (cause : state.Cause text) :
    text = "Handshake timed out after 120 seconds" := by
  rcases cause with ⟨report, given, _⟩ | ⟨given, _⟩ | timedOut |
    ⟨_, noCallback, _⟩
  · rw [unreported] at given
    cases given
  · rw [unreported] at given
    cases given
  · exact timedOut
  · exact absurd noCallback isInstalled

/-- The first statement of a callback keeps the caller's account. -/
theorem enter
    {state : ServerHandshake}
    (account : CallerAccount state)
    (loops : LoopAccount state)
    {entry : EntryPoint}
    (isInstalled : state.callback = some entry)
    (report : ServerReport) :
    CallerAccount (state.enter entry report) := by
  obtain ⟨unreported, atIdle, noReply, _⟩ :=
    loops.installed (by simp [isInstalled])
  have isActive : state.activePoint? = some entry := by
    simp [activePoint?, isInstalled]
  have incomplete : state.conn.handshakeComplete = false := by
    by_contra isComplete
    rcases account.complete (by simpa using isComplete) with given | given
    · rw [unreported] at given
      cases given
    · rw [unreported] at given
      cases given.1
  have noText : state.conn.errorMessage = "" := by
    rw [loops.recorded, unreported]
    rfl
  have sameCaller : (state.enter entry report).caller = state.caller := by
    cases report <;> rfl
  have given : (state.enter entry report).report = some report := by
    cases report <;> rfl
  have active :
      ∀ other, (state.enter entry report).activePoint? = some other →
        other = entry := by
    intro other
    cases report <;> cases entry <;>
      simp [ServerHandshake.enter, activePoint?, ReportPc.entry?, eq_comm]
  have timedOut :
      ∀ text, state.Cause text →
        text = "Handshake timed out after 120 seconds" := fun text cause =>
    cause_of_installed unreported (by simp [isInstalled]) cause
  constructor
  · intro here
    rw [sameCaller] at here
    have noCallback := (account.unstarted here).1
    rw [isInstalled] at noCallback
    cases noCallback
  · intro isBlocking
    rw [sameCaller]
    rw [← active _ isBlocking] at isActive
    exact account.blocking isActive
  · intro isAsync
    rw [sameCaller]
    rw [← active _ isAsync] at isActive
    exact account.async isActive
  · intro isComplete
    cases report with
    | success =>
        exact .inl rfl
    | error exception =>
        simp [ServerHandshake.enter, incomplete] at isComplete
    | fallback =>
        simp [ServerHandshake.enter, incomplete] at isComplete
  · intro isSuccess _
    rw [given] at isSuccess
    cases isSuccess
    rfl
  · intro here
    rw [sameCaller] at here
    rcases account.leftLoop here with isComplete | hasText
    · rw [incomplete] at isComplete
      cases isComplete
    · exact absurd noText hasText
  · intro here
    rw [sameCaller] at here
    have isComplete := (account.completed here).2
    rw [incomplete] at isComplete
    cases isComplete
  · intro text here
    rw [sameCaller] at here
    exact .inr (.inr (.inl (timedOut text (account.failing text here))))
  · intro text here
    rw [sameCaller] at here
    obtain ⟨cause, shape, isCause, _⟩ := account.failed text here
    have isTimeout := timedOut cause isCause
    refine ⟨cause, shape, .inr (.inr (.inl isTimeout)), ?_⟩
    intro isComplete
    cases report with
    | success =>
        exact .inl ⟨rfl, isTimeout⟩
    | error exception =>
        simp [ServerHandshake.enter, incomplete] at isComplete
    | fallback =>
        exact .inr rfl
  · intro here
    rw [sameCaller] at here
    obtain ⟨bytes, sent⟩ := account.returnedOk here
    rw [noReply] at sent
    cases sent
  · intro error here
    rw [sameCaller] at here
    have noCallback := (account.returnedErr error here).1
    rw [isInstalled] at noCallback
    cases noCallback

/-- A step of the asynchronous caller keeps the account when nothing is active. -/
theorem acceptMoves
    {state : ServerHandshake}
    (account : CallerAccount state)
    (here : state.caller = .awaiting)
    {caller : CallerPc}
    (via : caller.viaConnect = true)
    (stillAwaited :
      state.activePoint? = some .async →
        caller = .awaiting ∨ caller = .dropped)
    (returnedOk :
      caller = .returnedOk → ∃ bytes, state.reply = some (.ok bytes))
    (returnedErr :
      ∀ error, caller = .returnedErr error →
        state.callback = none ∧ state.pc = .idle ∧
          ∃ text, error = .tlsHandshakeError text ∧
            state.CauseAsync text) :
    CallerAccount { state with caller := caller } := by
  have wasVia : state.caller.viaConnect = true := by
    rw [here]
    rfl
  exact
    { unstarted := by
        rintro rfl
        cases via
      blocking := fun isBlocking => by
        have notVia := account.blocking isBlocking
        rw [wasVia] at notVia
        cases notVia
      async := stillAwaited
      complete := fun isComplete => by
        rcases account.complete isComplete with isSuccess | ⟨_, notVia⟩
        · exact .inl isSuccess
        · rw [wasVia] at notVia
          cases notVia
      kept := fun given _ => account.kept given (by simp [here])
      leftLoop := by
        rintro rfl
        cases via
      completed := by
        rintro rfl
        cases via
      failing := by
        rintro text rfl
        cases via
      failed := by
        rintro text rfl
        cases via
      returnedOk := returnedOk
      returnedErr := returnedErr }

/-- Calling for the handshake keeps the account. -/
theorem start
    {state : ServerHandshake}
    (account : CallerAccount state)
    (loops : LoopAccount state)
    (here : state.caller = .ready)
    (fault : Option String) :
    CallerAccount (state.handshake fault) := by
  obtain ⟨noCallback, unreported, _, incomplete⟩ := account.unstarted here
  obtain ⟨atIdle, _⟩ := loops.quiet unreported
  simp only [ServerHandshake.handshake, loops.transport]
  cases fault with
  | none =>
      constructor <;>
        simp [activePoint?, CallerPc.viaConnect, incomplete, unreported]
  | some what =>
      constructor <;>
        simp [activePoint?, noCallback, atIdle, ReportPc.entry?,
          CallerPc.viaConnect, incomplete, unreported, Cause]

/-- Calling for the asynchronous handshake keeps the account. -/
theorem startAsync
    {state : ServerHandshake}
    (account : CallerAccount state)
    (loops : LoopAccount state)
    (here : state.caller = .ready)
    (fault : Option String) :
    CallerAccount (state.handshakeAsync fault) := by
  obtain ⟨noCallback, unreported, _, incomplete⟩ := account.unstarted here
  obtain ⟨atIdle, _⟩ := loops.quiet unreported
  simp only [ServerHandshake.handshakeAsync, loops.transport]
  cases fault with
  | none =>
      constructor <;>
        simp [activePoint?, CallerPc.viaConnect, incomplete, unreported]
  | some what =>
      constructor <;>
        simp [activePoint?, noCallback, atIdle, ReportPc.entry?,
          CallerPc.viaConnect, incomplete, unreported, CauseAsync]

/-- One step keeps the caller's account. -/
theorem preserved
    {state following : ServerHandshake}
    {action : Action}
    (account : CallerAccount state)
    (loops : LoopAccount state)
    (transition : Transition state action following) :
    CallerAccount following := by
  have silent : state.reply ≠ none → state.activePoint? = none := by
    intro sent
    cases isCallback : state.callback with
    | some entry =>
        exact absurd (loops.installed (by simp [isCallback])).2.2.1 sent
    | none =>
        by_cases atIdle : state.pc = .idle
        · simp [activePoint?, isCallback, atIdle, ReportPc.entry?]
        · exact absurd (loops.inCallback atIdle).1 sent
  have uninstalled : state.pc ≠ .idle → state.callback = none := by
    intro inside
    by_contra isInstalled
    exact inside (loops.installed isInstalled).2.1
  have unsent :
      ∀ bytes, state.pc ≠ .idle → state.reply ≠ some (.ok bytes) := by
    intro bytes inside sent
    rw [(loops.inCallback inside).1] at sent
    cases sent
  cases transition with
  | handshake fault here =>
      exact account.start loops here fault
  | handshakeAsync fault here =>
      exact account.startAsync loops here fault
  | leaveLoop here settled =>
      exact account.waiterMoves (by rw [here]; rfl) rfl (by simp)
        (fun _ => settled) (by simp) (by simp) (by simp [here]) (by simp)
  | findError here hasText =>
      refine account.waiterMoves (by rw [here]; rfl) rfl (by simp)
        (by simp) (by simp) ?_ (by simp [here]) (by simp)
      intro text isText
      cases isText
      exact loops.cause_of_text hasText
  | findIncomplete here noText incomplete =>
      rcases account.leftLoop here with isComplete | hasText
      · rw [incomplete] at isComplete
        cases isComplete
      · exact absurd noText hasText
  | complete here noText isComplete =>
      refine account.waiterMoves (by rw [here]; rfl) rfl (by simp)
        (by simp) (fun _ => ⟨?_, isComplete⟩) (by simp) (by simp [here])
        (by simp)
      rcases account.complete isComplete with given | ⟨given, _⟩
      · exact given
      · rw [loops.recorded, given] at noText
        simp [recordedText, ServerReport.text, versionFallback] at noText
  | giveUp text here =>
      have wasBlocking : state.caller.viaConnect = false := by
        rw [here]
        rfl
      have notAsync : state.activePoint? ≠ some .async := by
        intro isAsync
        rcases account.async isAsync with there | there <;>
          (rw [here] at there; cases there)
      constructor
      · simp
      · exact fun _ => rfl
      · exact fun isAsync => absurd isAsync notAsync
      · simp
      · simp
      · simp
      · simp
      · simp
      · intro given isGiven
        cases isGiven
        exact ⟨text, rfl, account.failing text here, by simp⟩
      · simp
      · simp
  | timeout here _ =>
      refine account.waiterMoves (by rw [here]; rfl) rfl (by simp)
        (by simp) (by simp) ?_ (by simp [here]) (by simp)
      intro text isText
      cases isText
      exact .inr (.inr (.inl rfl))
  | pollOk bytes here delivered =>
      refine account.acceptMoves here rfl ?_ (fun _ => ⟨bytes, delivered⟩)
        (by simp)
      simp [silent (by simp [delivered])]
  | pollErr error here delivered =>
      have inactive := silent (by simp [delivered])
      refine account.acceptMoves here rfl (by simp [inactive]) (by simp) ?_
      intro given isGiven
      cases isGiven
      obtain ⟨report, reported, isReply⟩ :=
        loops.replied _ delivered
      obtain ⟨notSuccess, isText⟩ := handleIoResult_text_err isReply.symm
      have noCallback : state.callback = none := by
        by_contra isInstalled
        have noReply := (loops.installed isInstalled).2.2.1
        rw [delivered] at noReply
        cases noReply
      have atIdle : state.pc = .idle := by
        by_contra inside
        have noReply := (loops.inCallback inside).1
        rw [delivered] at noReply
        cases noReply
      exact ⟨noCallback, atIdle, error, rfl,
        .inl ⟨report, reported, notSuccess, isText⟩⟩
  | pollClosed here noReply isDropped =>
      obtain ⟨noCallback, unreported⟩ := loops.dropped isDropped
      obtain ⟨atIdle, _⟩ := loops.quiet unreported
      refine account.acceptMoves here rfl ?_ (by simp) ?_
      · simp [activePoint?, noCallback, atIdle, ReportPc.entry?]
      · intro error isError
        cases isError
        exact ⟨noCallback, atIdle, _, rfl, .inr ⟨unreported, .inl rfl⟩⟩
  | dropFuture here =>
      exact account.acceptMoves here rfl (fun _ => .inr rfl) (by simp)
        (by simp)
  | report entry report isInstalled =>
      exact account.enter loops isInstalled report
  | install here =>
      have noCallback := uninstalled (by simp [here])
      refine account.frame rfl rfl account.leftLoop rfl rfl (fun _ => id)
        noCallback (.inl ?_)
        (by simp [here]) (fun _ => id) (fun _ => rfl)
      simp [activePoint?, noCallback, ReportPc.entry?]
  | installAsync here =>
      have noCallback := uninstalled (by simp [here])
      refine account.frame rfl rfl account.leftLoop rfl rfl (fun _ => id)
        noCallback (.inr ?_)
        (by simp [here]) (fun _ => id) (fun _ => rfl)
      simp [activePoint?, noCallback, here, ReportPc.entry?]
  | sendOk here =>
      have noCallback := uninstalled (by simp [here])
      refine account.frame rfl rfl account.leftLoop rfl rfl (fun _ => id)
        noCallback (.inl ?_)
        (by simp [here]) ?_ (fun _ => rfl)
      · simp [activePoint?, noCallback, ReportPc.entry?]
      · exact fun bytes sent => absurd sent (unsent bytes (by simp [here]))
  | sendError here =>
      have inside : state.pc ≠ .idle := by
        rcases here with here | here <;> simp [here]
      have noCallback := uninstalled inside
      refine account.frame rfl rfl account.leftLoop rfl rfl (fun _ => id)
        noCallback (.inl ?_)
        (fun atIdle => absurd atIdle inside) ?_ (fun _ => rfl)
      · simp [activePoint?, noCallback, ReportPc.entry?]
      · exact fun bytes sent => absurd sent (unsent bytes inside)
  | fallBack here =>
      obtain ⟨noReply, report, given, isFallback⟩ :=
        loops.inCallback (by simp [here])
      rw [here] at isFallback
      have isReport : state.report = some .fallback := by
        rw [given, isFallback]
      have noCallback := uninstalled (by simp [here])
      have notVia := account.blocking
        (by simp [activePoint?, noCallback, here, ReportPc.entry?])
      exact
        { unstarted := fun isReady => by
            have unreported := (account.unstarted isReady).2.1
            rw [isReport] at unreported
            cases unreported
          blocking := fun _ => notVia
          async := by simp [activePoint?, noCallback, ReportPc.entry?]
          complete := fun _ => .inr ⟨isReport, notVia⟩
          kept := by simp
          leftLoop := by simp
          completed := fun isCompleted =>
            ⟨(account.completed isCompleted).1, rfl⟩
          failing := account.failing
          failed := by
            intro text isFailed
            obtain ⟨cause, shape, isCause, _⟩ := account.failed text isFailed
            exact ⟨cause, shape, isCause, fun _ => .inr isReport⟩
          returnedOk := account.returnedOk
          returnedErr := fun error isReturned => by
            rw [isReturned] at notVia
            cases notVia }
  | destroyed isInstalled =>
      obtain ⟨_, atIdle, _⟩ := loops.installed (by simp [isInstalled])
      refine account.frame rfl rfl account.leftLoop rfl rfl (fun _ => id) rfl
        (.inl ?_) id (fun _ => id) (fun _ => rfl)
      simp [activePoint?, atIdle, ReportPc.entry?]
  | destroyedAsync isInstalled =>
      obtain ⟨_, atIdle, _⟩ := loops.installed (by simp [isInstalled])
      refine account.frame rfl rfl account.leftLoop rfl rfl (fun _ => id) rfl
        (.inl ?_) id (fun _ => id) ?_
      · simp [activePoint?, atIdle, ReportPc.entry?]
      · intro isReady
        have noCallback := (account.unstarted isReady).1
        rw [isInstalled] at noCallback
        cases noCallback
  | readEnd told isReading =>
      have given := (loops.reads.mp isReading).1
      have noCallback : state.callback = none := by
        by_contra isInstalled
        have unreported := (loops.installed isInstalled).1
        rw [given] at unreported
        cases unreported
      refine account.frame rfl rfl ?_ rfl rfl ?_ noCallback (.inr rfl) id
        (fun _ => id) (fun _ => rfl)
      · exact fun here => .inl (account.kept given (by simp [here]))
      · exact fun _ wasTold => List.mem_cons_of_mem _ wasTold
  | closeNow isEnding =>
      exact { account with }

end CallerAccount

/-- A connection that `accept_from_stream` got out of its first await. -/
def StartsFrom
    (fd : Int)
    (state : ServerHandshake) :
    Prop :=
  ∃ conn,
    acceptBlocking (.ok (serverAcceptConnection none fd)) = .ok conn ∧
      state = .fresh conn

/-- Every reachable handshake keeps both accounts. -/
theorem accounts_of_reachable
    {fd : Int}
    {state : ServerHandshake}
    (reachable : Reachable step (StartsFrom fd) state) :
    LoopAccount state ∧ CallerAccount state := by
  induction reachable with
  | start starts =>
      obtain ⟨conn, accepted, isFresh⟩ := starts
      have returned : serverAcceptConnection none fd = .ok conn := by
        simpa [acceptBlocking, serverAcceptConnection] using accepted
      rw [isFresh]
      exact ⟨.initially returned, .initially returned⟩
  | next _ _ taken inductionHypothesis =>
      obtain ⟨loops, callers⟩ := inductionHypothesis
      have transition := Transition.of_step taken
      exact ⟨loops.preserved callers transition,
        callers.preserved loops transition⟩

/--
A connection that `accept_from_stream` hands out can be read at once, unless its
read callback has been told otherwise.
-/
def Established (state : ServerHandshake) : Prop :=
  state.report = some .success ∧
    state.conn.handshakeComplete = true ∧
    state.conn.readCallback = true ∧
    state.conn.errorMessage = errorAfter state.ends ∧
    (state.closedNow = true ∨ state.ending = true ↔ state.ends ≠ [])

/--
In every interleaving of the caller with the statements of Fizz's callback,
`accept_from_stream` returns `Ok` only when the success callback has run to its
end, with the error text that the read callback was told since and the transport
closed, or about to be, exactly if it was told of an end, and an error only when it
never ran, with the text of what went wrong; the connection of a failed call never
becomes complete.
-/
theorem accept_settles
    {fd : Int}
    {state : ServerHandshake}
    (reachable : Reachable step (StartsFrom fd) state) :
    (state.caller = .returnedOk → state.Established) ∧
      (∀ error, state.caller = .returnedErr error →
        state.conn.handshakeComplete = false ∧
          state.conn.readCallback = false ∧
          ∃ text, error = .tlsHandshakeError text ∧
            state.CauseAsync text) ∧
      (state.caller = .awaiting →
        state.reply ≠ none →
          ∃ following, state.step .poll = some following ∧
            (following.caller = .returnedOk ↔
              state.report = some .success)) := by
  obtain ⟨loops, callers⟩ := accounts_of_reachable reachable
  have outside : state.reply ≠ none → state.pc = .idle := by
    intro sent
    by_contra inside
    exact sent (loops.inCallback inside).1
  refine ⟨?_, ?_, ?_⟩
  · intro here
    obtain ⟨bytes, sent⟩ := callers.returnedOk here
    obtain ⟨report, given, isReply⟩ := loops.replied _ sent
    have isSuccess :=
      ((handleIoResult_text_ok_iff report bytes).mp isReply.symm).2
    subst report
    have atIdle := outside (by simp [sent])
    refine ⟨given, callers.kept given (by simp [here]), ?_, ?_, loops.closed⟩
    · exact loops.reads.mpr ⟨given, by simp [atIdle]⟩
    · rw [loops.recorded, given]
      rfl
  · intro error here
    obtain ⟨_, _, text, shape, cause⟩ := callers.returnedErr error here
    have notSuccess : state.report ≠ some .success := by
      intro given
      rcases cause with ⟨report, other, isOther, _⟩ | ⟨unreported, _⟩
      · rw [given] at other
        cases other
        exact isOther rfl
      · rw [given] at unreported
        cases unreported
    refine ⟨?_, ?_, text, shape, cause⟩
    · by_contra isComplete
      rcases callers.complete (by simpa using isComplete) with
        given | ⟨_, notVia⟩
      · exact notSuccess given
      · rw [here] at notVia
        cases notVia
    · by_contra isReading
      exact notSuccess (loops.reads.mp (by simpa using isReading)).1
  · intro here sent
    cases isReply : state.reply with
    | none =>
        exact absurd isReply sent
    | some reply =>
        obtain ⟨report, given, shape⟩ := loops.replied reply isReply
        cases reply with
        | ok bytes =>
            refine ⟨{ state with caller := .returnedOk }, ?_, ?_⟩
            · simp [step, poll, here, isReply]
            · have isSuccess :=
                ((handleIoResult_text_ok_iff report bytes).mp shape.symm).2
              simp [given, isSuccess]
        | err error =>
            refine
              ⟨{ state with
                  caller := .returnedErr (.tlsHandshakeError error) },
                ?_, ?_⟩
            · simp [step, poll, here, isReply]
            · have notSuccess := (handleIoResult_text_err shape.symm).1
              simp [given, notSuccess]

/-- A success, and a reset before `accept_from_stream` hears of the success. -/
def sampleAccept : List Action :=
  [.handshakeAsync none, .report .success, .callbackStep,
    .readEnd (.err "reset"), .closeNow, .callbackStep, .poll]

/-- The connection that `server_accept_connection` makes of descriptor 7. -/
def sampleServerConnection : FizzServerConnection where
  fd := 7
  transport := true
  handshakeComplete := false
  errorMessage := ""
  readCallback := false

/-- The handshake after `sampleAccept`. -/
def sampleAccepted : ServerHandshake where
  conn :=
    { sampleServerConnection with
      handshakeComplete := true
      errorMessage := "reset"
      readCallback := true }
  caller := .returnedOk
  callback := none
  pc := .idle
  reply := some (.ok 0)
  senderDropped := false
  report := some .success
  fault := none
  closedNow := true
  ends := [.err "reset"]
  ending := false

theorem accept_settles_sample :
    run? step (.fresh sampleServerConnection) sampleAccept =
        some sampleAccepted ∧
      sampleAccepted.Established := by
  have performed :
      run? step (.fresh sampleServerConnection) sampleAccept =
        some sampleAccepted := by
    decide
  have starts : StartsFrom 7 (.fresh sampleServerConnection) :=
    ⟨sampleServerConnection, rfl, rfl⟩
  exact ⟨performed,
    (accept_settles (reachable_of_run? (.start starts) performed)).1 rfl⟩

/--
In every interleaving, `server_connection_handshake` returns only after a success
was reported, with the read callback installed or about to be; it throws only for
a reported error or fallback, for a read error that followed a reported success,
for its timeout or for an exception of its own, and never because the handshake
did not complete; and when it has thrown, `handshakeComplete` can be true
afterwards only through a success after its timeout or through a version fallback.
-/
theorem blockingHandshake_settles
    {fd : Int}
    {state : ServerHandshake}
    (reachable : Reachable step (StartsFrom fd) state) :
    (state.caller = .completed →
      state.report = some .success ∧
        state.conn.handshakeComplete = true ∧
        state.conn.errorMessage = errorAfter state.ends ∧
        (state.conn.readCallback = true ∨
          ∃ following, state.step .callbackStep = some following ∧
            following.conn.readCallback = true)) ∧
      (∀ text, state.caller = .failed text →
        ∃ cause, text = "Server handshake failed: " ++ cause ∧
          state.Cause cause ∧
          (state.conn.handshakeComplete = true →
            (state.report = some .success ∧
                cause = "Handshake timed out after 120 seconds") ∨
              state.report = some .fallback)) := by
  obtain ⟨loops, callers⟩ := accounts_of_reachable reachable
  constructor
  · intro here
    obtain ⟨given, isComplete⟩ := callers.completed here
    refine ⟨given, isComplete, ?_, ?_⟩
    · rw [loops.recorded, given]
      rfl
    · by_cases isReading : state.conn.readCallback = true
      · exact .inl isReading
      · have pending : ∃ entry, state.pc = .completed entry := by
          by_contra noEntry
          exact isReading (loops.reads.mpr
            ⟨given, fun entry atEntry => noEntry ⟨entry, atEntry⟩⟩)
        obtain ⟨entry, atEntry⟩ := pending
        refine .inr ?_
        cases entry <;> simp [step, callbackStep, atEntry]
  · exact callers.failed

/-- A fallback whose second statement runs after the waiting call has thrown. -/
def lateFallback : List Action :=
  [.handshake none, .report .fallback, .waiterStep, .waiterStep,
    .waiterStep, .callbackStep]

/-- The handshake after `lateFallback`: thrown, and yet complete. -/
def lateFallbackState : ServerHandshake where
  conn :=
    { sampleServerConnection with
      handshakeComplete := true
      errorMessage := versionFallback }
  caller :=
    .failed
      "Server handshake failed: Handshake failed: Version fallback attempted"
  callback := none
  pc := .idle
  reply := none
  senderDropped := false
  report := some .fallback
  fault := none
  closedNow := false
  ends := []
  ending := false

/-- A reset right after a reported success. -/
def earlyReset : List Action :=
  [.handshake none, .report .success, .callbackStep,
    .readEnd (.err "reset"), .waiterStep, .waiterStep, .waiterStep]

/-- The handshake after `earlyReset`: thrown, although a success was reported. -/
def earlyResetState : ServerHandshake where
  conn :=
    { sampleServerConnection with
      errorMessage := "reset"
      readCallback := true }
  caller := .failed "Server handshake failed: Handshake failed: reset"
  callback := none
  pc := .idle
  reply := none
  senderDropped := false
  report := some .success
  fault := none
  closedNow := false
  ends := [.err "reset"]
  ending := true

theorem blockingHandshake_settles_sample :
    run? step (.fresh sampleServerConnection) lateFallback =
        some lateFallbackState ∧
      lateFallbackState.conn.handshakeComplete = true ∧
      (∃ cause, lateFallbackState.Cause cause) ∧
      run? step (.fresh sampleServerConnection) earlyReset =
        some earlyResetState ∧
      ∃ cause, earlyResetState.Cause cause := by
  have performed :
      run? step (.fresh sampleServerConnection) lateFallback =
        some lateFallbackState := by
    decide
  have performedReset :
      run? step (.fresh sampleServerConnection) earlyReset =
        some earlyResetState := by
    decide
  have starts : StartsFrom 7 (.fresh sampleServerConnection) :=
    ⟨sampleServerConnection, rfl, rfl⟩
  obtain ⟨cause, _, isCause, _⟩ :=
    (blockingHandshake_settles
      (reachable_of_run? (.start starts) performed)).2 _ rfl
  obtain ⟨causeReset, _, isCauseReset, _⟩ :=
    (blockingHandshake_settles
      (reachable_of_run? (.start starts) performedReset)).2 _ rfl
  exact
    ⟨performed, rfl, ⟨cause, isCause⟩, performedReset, causeReset,
      isCauseReset⟩

end ServerHandshake

end FizzRs
