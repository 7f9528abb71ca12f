import FizzRs.ConnectionTeardown

namespace FizzRs

open LabelledSystem

/-!
# Dropping a connection and its transport

Nothing destroys the transport of a connection, so a dropped connection has
closed it only if somebody called `close` or `closeNow` before.  `ClientConnection`
calls `close` in its `Drop`.  `ServerConnection` has no `Drop`, and the destructor
that both sides share stops the event loop without a word to the transport.

The runs considered here drop a server connection only when its transport is no
longer live.  A client connection may be dropped at any time.
-/

/-- The transport was never closed, by either end. -/
def TransportState.isOpen : TransportState → Bool
  | .live => true
  | _ => false

/-- The owner is inside `*_connection_close` and has yet to see it executed. -/
def CloserPc.awaitsClose : CloserPc → Bool
  | .posting _ => true
  | .waiting _ => true
  | _ => false

/-- What a transport that is not live may report tells how it was left. -/
theorem TransportState.closing_of_mayReport
    {transport : TransportState}
    (left : transport ≠ .live)
    (reported : transport.mayReport true = true) :
    transport = .closing := by
  cases transport with
  | live =>
      exact (left rfl).elim
  | closing =>
      rfl
  | closed =>
      cases reported

/-- The two sides differ in the name of what a write returns, not in its value. -/
theorem WriteSide.step_sides
    (header : ConnectionHeader)
    (state : WriteSide)
    (action : WriteSide.Action) :
    state.step .client header action = state.step .server header action := by
  cases action with
  | writerStep =>
      simp only [WriteSide.step, WriteSide.writerStep, writeLength_eq]
  | _ =>
      rfl

namespace Connection

section

variable [TaskWaker Waker]
variable {side : Side}
variable {state following : Connection Waker}
variable {action : Action Waker}

/-- Both sides take the same steps, up to the close inside the client's `Drop`. -/
theorem step_sides
    (state : Connection Waker)
    {action : Action Waker}
    (other : ∀ good, action ≠ .closeCall .drop good) :
    state.step .client action = state.step .server action := by
  cases action with
  | closeCall call good =>
      cases call with
      | drop =>
          exact (other good rfl).elim
      | _ =>
          rfl
  | closerStep =>
      simp only [step, closerStep, WriteSide.step_sides]
  | runTask =>
      simp only [step, runTask, WriteSide.step_sides]
  | _ =>
      simp only [step, WriteSide.step_sides]

/-- A transport that was left stays left. -/
theorem Transition.left_kept
    (transition : Transition side state action following)
    (left : state.transport ≠ .live) :
    following.transport ≠ .live := by
  cases transition with
  | read action read _ _ =>
      simp only [transportAfterRead]
      split
      · split
        · simp
        · exact left
      · exact left
  | runClose later write _ _ _ =>
      simp [left]
  | raiseWriteError _ _ _ _ =>
      simp
  | transportCloses _ =>
      simp
  | _ =>
      exact left

/-- A step that calls `close` or `closeNow` leaves no live transport. -/
theorem Transition.left_of_closes
    (transition : Transition side state action following)
    (closes : state.closesTransport action = true) :
    following.transport ≠ .live := by
  cases transition with
  | read action read _ _ =>
      cases action with
      | callbackStep =>
          have atCloseNow : state.read.callback.atCloseNow = true := closes
          simp [transportAfterRead, atCloseNow]
      | _ =>
          cases closes
  | runWrite chain later write _ shape _ =>
      simp [closesTransport, shape] at closes
  | runClose later write _ _ _ =>
      intro isLive
      simp only at isLive
      split at isLive
      · cases isLive
      · next left => exact left isLive
  | raiseWriteError _ _ _ _ =>
      simp
  | _ =>
      cases closes

/-- A transport comes to be closing by the posted `transport->close()`. -/
theorem Transition.closing_cases
    (transition : Transition side state action following)
    (isClosing : following.transport = .closing) :
    state.transport = .closing ∨ state.closesTransport action = true := by
  cases transition with
  | read action read _ _ =>
      simp only [transportAfterRead] at isClosing
      split at isClosing
      · split at isClosing
        · cases isClosing
        · exact .inl isClosing
      · exact .inl isClosing
  | runClose later write _ shape _ =>
      exact .inr (by simp [closesTransport, shape])
  | raiseWriteError _ _ _ _ =>
      cases isClosing
  | transportCloses _ =>
      cases isClosing
  | _ =>
      exact .inl isClosing

/-- The waiting owner is signalled by the posted `transport->close()`. -/
theorem Transition.signalled_cases
    (transition : Transition side state action following)
    (signalled : following.closeSignalled = true) :
    state.closeSignalled = true ∨ state.closesTransport action = true := by
  cases transition with
  | post call write _ _ =>
      cases signalled
  | runClose later write _ shape _ =>
      exact .inr (by simp [closesTransport, shape])
  | _ =>
      exact .inl signalled

/-- The owner stops waiting for its close when it was signalled. -/
theorem Transition.awaits_cases
    (transition : Transition side state action following)
    (awaits : state.closer.awaitsClose = true) :
    following.closer.awaitsClose = true ∨ state.closeSignalled = true := by
  cases transition with
  | post call write _ _ =>
      exact .inl rfl
  | resume call _ signalled =>
      exact .inr signalled
  | closeGood call free _ =>
      rw [free.2.2.2] at awaits
      cases awaits
  | closeBad call free _ =>
      rw [free.2.2.2] at awaits
      cases awaits
  | terminate call atStopping _ =>
      rw [atStopping] at awaits
      cases awaits
  | leave call atStopping _ =>
      rw [atStopping] at awaits
      cases awaits
  | join call atJoining _ =>
      rw [atJoining] at awaits
      cases awaits
  | _ =>
      exact .inl awaits

end

end Connection

namespace ConnectionObject

/-- Events of a connection's life before it is dropped. -/
def Action.beforeDrop : Action Waker → Bool
  | .conn _ => true
  | .handshake _ => true
  | _ => false

/--
The condition on a drop: a server connection's transport is no longer live when
the drop begins.
-/
def dropsClosed
    (side : Side)
    (state : ConnectionObject Waker) :
    Action Waker → Bool
  | .drop _ => side = .client ∨ state.conn.transport ≠ .live
  | _ => true

/--
What is known of a dropped connection: its transport was told to close, or was
not good when the drop began, and in both cases is not live.
-/
structure ClosedByDrop
    (state : ConnectionObject Waker) :
    Prop where
  told :
    ∀ good,
      state.goodAtDrop = some good →
      state.closeExecuted = true ∨ good = false
  left : state.goodAtDrop ≠ none → state.conn.transport.isOpen = false

/--
What holds along a run that drops server connections closed.  A signal to the
waiting owner and a closing transport both stem from an executed close, which
leaves no live transport.  A client whose transport was good is inside the close
of its `Drop` until that close was executed.
-/
structure DropAccount
    (state : ConnectionObject Waker) :
    Prop where
  signalled :
    state.conn.closeSignalled = true → state.closeExecuted = true
  closing :
    state.conn.transport = .closing → state.closeExecuted = true
  executed : state.closeExecuted = true → state.conn.transport ≠ .live
  notGood :
    state.goodAtDrop = some false → state.conn.transport ≠ .live
  told :
    state.goodAtDrop = some true →
      state.closeExecuted = true ∨
        (state.pc = .closing ∧ state.conn.closer.awaitsClose = true)

namespace DropAccount

/-- Nothing has been dropped or closed at the start. -/
theorem initial :
    (ConnectionObject.initial : ConnectionObject Waker).DropAccount where
  signalled := fun signalled => nomatch signalled
  closing := fun isClosing => nomatch isClosing
  executed := fun executed => nomatch executed
  notGood := fun dropped => nomatch dropped
  told := fun dropped => nomatch dropped

section

variable {state : ConnectionObject Waker}

/-- A server connection whose transport is not live may simply be destroyed. -/
theorem dropServer
    (account : state.DropAccount)
    {good : Bool}
    (left : state.conn.transport ≠ .live)
    (reported : state.conn.transport.mayReport good = true) :
    { state with
      pc := .testThread
      goodAtDrop := some good }.DropAccount := by
  refine { account with
    notGood := fun _ => left
    told := fun dropped => .inl ?_ }
  cases dropped
  exact account.closing
    (TransportState.closing_of_mayReport left reported)

/-- An owner that is not inside the close of its `Drop` has executed it. -/
theorem told_past_closing
    (account : state.DropAccount)
    (past : state.pc = .closing → state.conn.closer = .idle)
    (dropped : state.goodAtDrop = some true) :
    state.closeExecuted = true := by
  rcases account.told dropped with executed | ⟨atClosing, awaits⟩
  · exact executed
  · rw [past atClosing] at awaits
    cases awaits

/-- Moving on after `close` has returned keeps the account. -/
theorem moveOn
    {following : ConnectionObject Waker}
    (account : state.DropAccount)
    (past : state.pc = .closing → state.conn.closer = .idle)
    (sameSignal :
      following.conn.closeSignalled = state.conn.closeSignalled)
    (sameTransport : following.conn.transport = state.conn.transport)
    (sameExecuted : following.closeExecuted = state.closeExecuted)
    (sameGood : following.goodAtDrop = state.goodAtDrop) :
    following.DropAccount where
  signalled := by
    rw [sameSignal, sameExecuted]
    exact account.signalled
  closing := by
    rw [sameTransport, sameExecuted]
    exact account.closing
  executed := by
    rw [sameTransport, sameExecuted]
    exact account.executed
  notGood := by
    rw [sameTransport, sameGood]
    exact account.notGood
  told := by
    rw [sameExecuted, sameGood]
    exact fun dropped => .inl (account.told_past_closing past dropped)

/-- A connection that is gone was closed by its drop. -/
theorem closedByDrop
    (account : state.DropAccount)
    (gone : state.pc = .gone) :
    state.ClosedByDrop := by
  have executed := account.told_past_closing (by simp [gone])
  refine { told := ?_, left := ?_ }
  · intro good dropped
    cases good with
    | true =>
        exact .inl (executed dropped)
    | false =>
        exact .inr rfl
  · intro wasDropped
    have leftLive : state.conn.transport ≠ .live := by
      cases dropped : state.goodAtDrop with
      | none =>
          exact (wasDropped dropped).elim
      | some good =>
          cases good with
          | true =>
              exact account.executed (executed dropped)
          | false =>
              exact account.notGood dropped
    cases atTransport : state.conn.transport with
    | live =>
        exact (leftLive atTransport).elim
    | _ =>
        rfl

end

section

variable [TaskWaker Waker]
variable {side : Side}
variable {state following : ConnectionObject Waker}

/-- A step of the connection keeps the account. -/
theorem conn
    (account : state.DropAccount)
    {action : Connection.Action Waker}
    {conn : Connection Waker}
    (stepped : state.conn.step side action = some conn) :
    { state with
      conn := conn
      wakerBox := state.boxAfter action
      closeExecuted :=
        state.closeExecuted ||
          state.conn.closesTransport action }.DropAccount := by
  have transition := Connection.Transition.of_step stepped
  refine
    { signalled := fun signalled => ?_
      closing := fun isClosing => ?_
      executed := fun executed => ?_
      notGood := fun dropped =>
        transition.left_kept (account.notGood dropped)
      told := fun dropped => ?_ }
  · rcases transition.signalled_cases signalled with before | closes
    · simp [account.signalled before]
    · simp [closes]
  · rcases transition.closing_cases isClosing with before | closes
    · simp [account.closing before]
    · simp [closes]
  · rcases Bool.or_eq_true_iff.mp executed with before | closes
    · exact transition.left_kept (account.executed before)
    · exact transition.left_of_closes closes
  · rcases account.told dropped with before | ⟨atClosing, awaits⟩
    · exact .inl (by simp [before])
    · rcases transition.awaits_cases awaits with still | signalled
      · exact .inr ⟨atClosing, still⟩
      · exact .inl (by simp [account.signalled signalled])

/-- The client's `Drop` enters `close`, unless the transport is not good. -/
theorem dropClient
    (account : state.DropAccount)
    {good : Bool}
    {conn : Connection Waker}
    (stepped : state.conn.step .client (.closeCall .drop good) = some conn) :
    { state with
      conn := conn
      pc := .closing
      goodAtDrop := some good }.DropAccount := by
  have transition := Connection.Transition.of_step stepped
  cases transition with
  | closeGood _ free notClosed =>
      exact { account with
        notGood := fun dropped => nomatch dropped
        told := fun _ => .inr ⟨rfl, rfl⟩ }
  | closeBad _ free left =>
      exact { account with
        notGood := fun _ => left
        told := fun dropped => nomatch dropped }

/-- Every permitted step keeps the account. -/
theorem preserved
    (account : state.DropAccount)
    {action : Action Waker}
    (permitted : state.dropsClosed side action = true)
    (taken : state.step side action = some following) :
    following.DropAccount := by
  have transition := Transition.of_step taken
  cases transition with
  | conn action conn allowed stepped =>
      exact account.conn stepped
  | handshake event phase running moves =>
      exact { account with }
  | dropClient good conn isClient atHeld stepped =>
      exact account.dropClient stepped
  | dropServer good isServer atHeld free reported =>
      have left : state.conn.transport ≠ .live := by
        simpa [dropsClosed, isServer] using permitted
      exact account.dropServer left reported
  | destroy atHeld missing =>
      exact account.moveOn (by simp [atHeld]) rfl rfl rfl rfl
  | leaveClose here returned =>
      exact account.moveOn (fun _ => returned) rfl rfl rfl rfl
  | terminate here joinable =>
      exact account.moveOn (by simp [here]) rfl rfl rfl rfl
  | skipJoin here joined =>
      exact account.moveOn (by simp [here]) rfl rfl rfl rfl
  | join here stopped =>
      exact account.moveOn (by simp [here]) rfl rfl rfl rfl
  | drain here =>
      exact account.moveOn (by simp [here]) rfl rfl rfl rfl
  | drained here free settled noTasks =>
      exact account.moveOn (by simp [here]) rfl rfl rfl rfl
  | lockWaker here free =>
      exact account.moveOn (by simp [here]) rfl rfl rfl rfl
  | resetWaker here =>
      exact account.moveOn (by simp [here]) rfl rfl rfl rfl
  | unlockWaker here =>
      exact account.moveOn (by simp [here]) rfl rfl rfl rfl
  | destroyMember member remaining here =>
      exact account.moveOn (by simp [here]) rfl rfl rfl rfl
  | finish here =>
      exact account.moveOn (by simp [here]) rfl rfl rfl rfl

/-- Every state of a run that meets the condition keeps the account. -/
theorem of_reachable
    (reachable :
      ReachableWhile (step side)
        (fun state action => state.dropsClosed side action = true)
        (fun start => start = ConnectionObject.initial) state) :
    state.DropAccount :=
  reachable.invariant_from initial
    (fun _ account permitted taken => account.preserved permitted taken)

end

end DropAccount

section

variable [TaskWaker Waker]

/-- Until it is dropped, a connection takes the same steps on both sides. -/
theorem step_sides
    (state : ConnectionObject Waker)
    {action : Action Waker}
    (before : action.beforeDrop = true) :
    state.step .client action = state.step .server action := by
  cases action with
  | conn action =>
      simp only [step, connStep]
      split
      · next allowed =>
          have notDrop : ∀ good, action ≠ .closeCall .drop good := by
            rintro good rfl
            cases allowed
          rw [Connection.step_sides state.conn notDrop]
      · rfl
  | handshake event =>
      rfl
  | _ =>
      cases before

/-- A history without a drop meets the condition on drops. -/
theorem reachableWhile_of_history
    {side : Side}
    {history : List (Action Waker)}
    {held : ConnectionObject Waker}
    (before : ∀ action ∈ history, action.beforeDrop = true)
    (performed :
      run? (step side) ConnectionObject.initial history = some held) :
    ReachableWhile (step side)
      (fun state action => state.dropsClosed side action = true)
      (fun start => start = ConnectionObject.initial) held := by
  have unrestricted :
      ∀ action ∈ history, ∀ state : ConnectionObject Waker,
        restrict (step side) (dropsClosed side) state action =
          state.step side action := by
    intro action member state
    have permitted : state.dropsClosed side action = true := by
      have early := before action member
      cases action with
      | drop good =>
          cases early
      | _ =>
          rfl
    simp [restrict, permitted]
  rw [← run?_congr unrestricted] at performed
  exact reachableWhile_of_run? (.start rfl) performed

/--
In every run that drops a server connection only when its transport is no longer
live, a dropped connection of either side was told to close or not good when the
drop began.  Both sides reach the same state by the same history, and whatever
happens in their drops they end with transports that are equally closed.
-/
theorem drop_closes_transport :
    (∀ (side : Side) (state : ConnectionObject Waker),
      ReachableWhile (step side)
          (fun state action => state.dropsClosed side action = true)
          (fun start => start = ConnectionObject.initial) state →
        state.pc = .gone →
        state.ClosedByDrop) ∧
    (∀ (history : List (Action Waker)) (held : ConnectionObject Waker),
      (∀ action ∈ history, action.beforeDrop = true) →
        run? (step .client) ConnectionObject.initial history = some held →
        run? (step .server) ConnectionObject.initial history = some held ∧
          ∀ clientEnd serverEnd : ConnectionObject Waker,
            ReachableWhile (step .client)
                (fun state action => state.dropsClosed .client action = true)
                (fun start => start = held) clientEnd →
              ReachableWhile (step .server)
                (fun state action => state.dropsClosed .server action = true)
                (fun start => start = held) serverEnd →
              clientEnd.pc = .gone → clientEnd.goodAtDrop ≠ none →
              serverEnd.pc = .gone → serverEnd.goodAtDrop ≠ none →
              clientEnd.conn.transport.isOpen =
                serverEnd.conn.transport.isOpen) := by
  constructor
  · intro side state reachable gone
    exact (DropAccount.of_reachable reachable).closedByDrop gone
  · intro history held before performed
    have alike :
        run? (step .server) ConnectionObject.initial history = some held := by
      rw [← performed]
      apply run?_congr
      intro action member state
      exact (step_sides state (before action member)).symm
    refine ⟨alike, ?_⟩
    intro clientEnd serverEnd clientRun serverRun
      clientGone clientDropped serverGone serverDropped
    have clientReached :=
      (reachableWhile_of_history before performed).trans clientRun
    have serverReached :=
      (reachableWhile_of_history before alike).trans serverRun
    have clientClosed :=
      (DropAccount.of_reachable clientReached).closedByDrop clientGone
    have serverClosed :=
      (DropAccount.of_reachable serverReached).closedByDrop serverGone
    rw [clientClosed.left clientDropped, serverClosed.left serverDropped]

end

/-- The handshake succeeds and the owner gets the connection. -/
def handOverSchedule : List (Action Nat) :=
  [.handshake .success, .handshake .accept, .handshake .finish,
    .conn (.read .setReadWaker)]

/-- The destructor of a server connection, from its start to its end. -/
def destructorSchedule : List (Action Nat) :=
  [.dropStep, .conn .loopExit, .dropStep, .dropStep, .dropStep, .dropStep,
    .dropStep, .dropStep] ++
    List.replicate 18 .dropStep

/-- A server connection is handed over and dropped with its transport good. -/
def droppedOpenSchedule : List (Action Nat) :=
  handOverSchedule ++ .drop true :: destructorSchedule

/-- The peer ends the stream, and only then the server connection is dropped. -/
def droppedEndedSchedule : List (Action Nat) :=
  handOverSchedule ++
    [.conn (.read .readEOF), .conn (.read .callbackStep),
      .conn (.read .callbackStep), .conn (.read .callbackStep),
      .conn (.read .callbackStep), .conn (.read .callbackStep),
      .conn (.read .callbackStep)] ++
    .drop false :: destructorSchedule

theorem drop_closes_transport_ended :
    ∃ state : ConnectionObject Nat,
      run? (restrict (step .server) (dropsClosed .server)) initial
          droppedEndedSchedule = some state ∧
        state.pc = .gone ∧ state.goodAtDrop = some false ∧
        state.ClosedByDrop := by
  have performed :
      ∃ state : ConnectionObject Nat,
        run? (restrict (step .server) (dropsClosed .server)) initial
            droppedEndedSchedule = some state ∧
          state.pc = .gone ∧ state.goodAtDrop = some false :=
    ⟨_, rfl, rfl, rfl⟩
  obtain ⟨state, ran, gone, dropped⟩ := performed
  have reachable :
      ReachableWhile (step .server)
        (fun state action => state.dropsClosed .server action = true)
        (fun start => start = ConnectionObject.initial) state :=
    reachableWhile_of_run? (.start rfl) ran
  exact
    ⟨state, ran, gone, dropped,
      drop_closes_transport.1 .server state reachable gone⟩

/-- A server connection dropped while it is open is gone and was never closed. -/
theorem droppedOpen_stays_live :
    ∃ state : ConnectionObject Nat,
      Reachable (step .server)
          (fun start => start = ConnectionObject.initial) state ∧
        state.pc = .gone ∧ state.goodAtDrop = some true ∧
        state.closeExecuted = false ∧ state.conn.transport = .live ∧
        ¬ state.ClosedByDrop := by
  have performed :
      ∃ state : ConnectionObject Nat,
        run? (step .server) initial droppedOpenSchedule = some state ∧
          state.pc = .gone ∧ state.goodAtDrop = some true ∧
          state.closeExecuted = false ∧ state.conn.transport = .live :=
    ⟨_, rfl, rfl, rfl, rfl, rfl⟩
  obtain ⟨state, ran, gone, dropped, notExecuted, isLive⟩ := performed
  refine
    ⟨state, reachable_of_run? (.start rfl) ran, gone, dropped,
      notExecuted, isLive, ?_⟩
  intro closed
  have left := closed.left (by simp [dropped])
  rw [isLive] at left
  cases left

end ConnectionObject

end FizzRs
