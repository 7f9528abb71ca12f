import Mathlib.Data.List.Chain
import FizzRs.ConnectionSetup

namespace FizzRs

open LabelledSystem

/-!
# Resources after connection set-up

Every call that has finished took one of a few exit paths.  The descriptor and
the loop thread are accounted for on three of them: the future was never polled,
the connecting function threw while one of its locals owned the descriptor, or
the handshake succeeded and the caller got the connection.  On every other path
the descriptor or the thread is left to nobody.
-/

namespace Resources

/-- Where the resources stand when a step is about to be performed. -/
def before : SetupStep → Resources
  | .newAsyncFizz => { fd := .socket, thread := .notStarted }
  | .copySniHostname => { fd := .transport, thread := .notStarted }
  | .releaseTransport => { fd := .transport, thread := .notStarted }
  | .storeSniHostname => { fd := .connection, thread := .notStarted }
  | .startThread => { fd := .connection, thread := .notStarted }
  | _ => { fd := .raw, thread := .notStarted }

end Resources

namespace SetupStep

/-- The first step leaves the resources where the second one expects them. -/
def LeadsTo (first second : SetupStep) : Prop :=
  Resources.before second = (Resources.before first).perform first

instance : DecidableRel LeadsTo :=
  fun first second =>
    inferInstanceAs
      (Decidable
        (Resources.before second = (Resources.before first).perform first))

/-- A local of the connecting function owns the descriptor at this step. -/
def fdOwnedLocally : SetupStep → Bool
  | .newAsyncFizz => true
  | .copySniHostname => true
  | _ => false

/-- The rest of a connecting function, ending with the start of the thread. -/
def Planned (step : SetupStep) (later : List SetupStep) : Prop :=
  List.IsChain LeadsTo (step :: later) ∧
    (step :: later).getLast? = some .startThread

theorem Planned.tail
    {step next : SetupStep}
    {later : List SetupStep}
    (planned : Planned step (next :: later)) :
    Planned next later := by
  obtain ⟨chained, ends⟩ := planned
  exact ⟨(List.isChain_cons_cons.mp chained).2, by simpa using ends⟩

end SetupStep

/-- Both connecting functions hand each step what it expects. -/
theorem ContextKind.setupSteps_planned
    {kind : ContextKind}
    {first : SetupStep}
    {later : List SetupStep}
    (body : kind.setupSteps = first :: later) :
    SetupStep.Planned first later ∧
      Resources.before first = { fd := .raw, thread := .notStarted } := by
  rcases kind with dcEnabled | _
  · cases dcEnabled <;>
      · cases body
        refine ⟨⟨by decide, rfl⟩, rfl⟩
  · cases body
    exact ⟨⟨by decide, rfl⟩, rfl⟩

namespace FuturePc

/-- The future waits for its closure, or was dropped while it did. -/
def atBlocking : FuturePc → Bool
  | .suspended .blocking => true
  | .dropped .blocking => true
  | _ => false

/-- The future is past the start of the handshake without a connection to return. -/
def leavesHandshake : FuturePc → Bool
  | .suspended .handshake => true
  | .dropped .handshake => true
  | .returnedErr .channelClosed => true
  | .returnedErr .callbackError => true
  | _ => false

theorem eq_of_atBlocking
    {future : FuturePc}
    (position : future.atBlocking = true) :
    future = .suspended .blocking ∨ future = .dropped .blocking := by
  unfold atBlocking at position
  split at position
  · exact .inl rfl
  · exact .inr rfl
  · cases position

theorem eq_of_leavesHandshake
    {future : FuturePc}
    (position : future.leavesHandshake = true) :
    future = .suspended .handshake ∨ future = .dropped .handshake ∨
      future = .returnedErr .channelClosed ∨
      future = .returnedErr .callbackError := by
  unfold leavesHandshake at position
  split at position
  · exact .inl rfl
  · exact .inr (.inl rfl)
  · exact .inr (.inr (.inl rfl))
  · exact .inr (.inr (.inr rfl))
  · cases position

end FuturePc

/-- The combinations of positions and owners that a call can be in. -/
inductive CallShape :
    FuturePc → ClosurePc → Resources → ConnectionOwner →
      Option HandshakeReply → Prop where
  | unpolled :
      CallShape (.suspended .unpolled) .notSpawned
        { fd := .stream, thread := .notStarted } .nobody none
  | neverPolled :
      CallShape (.dropped .unpolled) .notSpawned
        { fd := .closed, thread := .notStarted } .nobody none
  | queued {future : FuturePc} :
      future.atBlocking = true →
      CallShape future .queued
        { fd := .raw, thread := .notStarted } .nobody none
  | running
      {future : FuturePc}
      {step : SetupStep}
      {later : List SetupStep}
      {resources : Resources} :
      future.atBlocking = true →
      step.Planned later →
      resources = .before step →
      CallShape future (.running step later) resources .nobody none
  | refused {future : FuturePc} :
      future.atBlocking = true ∨ future = .returnedErr .joinError →
      CallShape future .refused
        { fd := .raw, thread := .notStarted } .nobody none
  | threw
      {future : FuturePc}
      {step : SetupStep}
      {resources : Resources} :
      future.atBlocking = true ∨ future = .returnedErr .connectError →
      step.mayThrow = true →
      resources = (Resources.before step).unwind →
      CallShape future (.threw step) resources .nobody none
  | built {future : FuturePc} :
      future.atBlocking = true →
      CallShape future .succeeded
        { fd := .connection, thread := .running } .rawPointer none
  | destroyed :
      CallShape (.returnedErr .handshakeAsyncError) .succeeded
        { fd := .connection, thread := .joined } .destroyed none
  | handshaking
      {future : FuturePc}
      {fd : FdOwner}
      {reply : Option HandshakeReply} :
      future.leavesHandshake = true →
      (reply = none ∨ reply = some .success → fd = .connection) →
      CallShape future .succeeded
        { fd := fd, thread := .running } .rawPointer reply
  | held :
      CallShape .returnedOk .succeeded
        { fd := .connection, thread := .running } .caller (some .success)
  | handedBack :
      CallShape .returnedOk .succeeded
        { fd := .connection, thread := .joined } .droppedByCaller
        (some .success)

namespace CallShape

/-- Dropping the future at its first await keeps the shape. -/
theorem drop_blocking
    {closure : ClosurePc}
    {resources : Resources}
    {connection : ConnectionOwner}
    {reply : Option HandshakeReply}
    (shape :
      CallShape (.suspended .blocking) closure resources connection reply) :
    CallShape (.dropped .blocking) closure resources connection reply := by
  cases shape with
  | queued position =>
      exact .queued rfl
  | running position planned atStep =>
      exact .running rfl planned atStep
  | refused position =>
      exact .refused (.inl rfl)
  | threw position throwing unwound =>
      exact .threw (.inl rfl) throwing unwound
  | built position =>
      exact .built rfl
  | handshaking position stillOpen =>
      cases position

/-- Dropping the future at its second await keeps the shape. -/
theorem drop_handshake
    {closure : ClosurePc}
    {resources : Resources}
    {connection : ConnectionOwner}
    {reply : Option HandshakeReply}
    (shape :
      CallShape (.suspended .handshake) closure resources connection
        reply) :
    CallShape (.dropped .handshake) closure resources connection reply := by
  cases shape with
  | handshaking position stillOpen =>
      exact .handshaking rfl stillOpen
  | _ =>
      simp_all [FuturePc.atBlocking]

/-- A report keeps the shape, whether or not it closed the socket. -/
theorem report
    {future : FuturePc}
    {closure : ClosurePc}
    {resources : Resources}
    {connection : ConnectionOwner}
    {reply : HandshakeReply}
    {closesSocket : Bool}
    (shape : CallShape future closure resources connection none)
    (position :
      future = .suspended .handshake ∨ future = .dropped .handshake) :
    CallShape future closure
      (if reply ≠ .success ∧ closesSocket = true then
        { resources with fd := .closed }
      else
        resources)
      connection (some reply) := by
  cases shape with
  | handshaking leaves stillOpen =>
      have isOpen := stillOpen (.inl rfl)
      subst isOpen
      by_cases closes : reply ≠ .success ∧ closesSocket = true
      · rw [if_pos closes]
        exact .handshaking leaves fun success => by simp_all
      · rw [if_neg closes]
        exact .handshaking leaves fun _ => rfl
  | _ =>
      rcases position with here | here <;>
        simp_all [FuturePc.atBlocking]

end CallShape

namespace SetupCall

/-- The call is in one of the listed combinations. -/
def Shaped (call : SetupCall) : Prop :=
  CallShape call.future call.closure call.resources call.connection
    call.reply

/-- One step of a call keeps it in the listed combinations. -/
theorem Shaped.preserved
    {call following : SetupCall}
    {action : Action}
    (shaped : call.Shaped)
    (transition : Transition call action following) :
    following.Shaped := by
  obtain ⟨context, kind, future, closure, resources, connection, reply⟩ :=
    call
  unfold Shaped at shaped ⊢
  cases transition with
  | firstPoll handshakeThrows here =>
      cases here
      cases shaped with
      | unpolled =>
          exact .queued rfl
      | _ =>
          simp_all [FuturePc.atBlocking, FuturePc.leavesHandshake]
  | pollRefused handshakeThrows here refused =>
      cases refused
      cases shaped with
      | refused position =>
          exact .refused (.inr rfl)
  | pollThrew handshakeThrows step here threw =>
      cases threw
      cases shaped with
      | threw position throwing unwound =>
          exact .threw (.inr rfl) throwing unwound
  | pollHandshakeThrows here succeeded =>
      cases here
      cases succeeded
      cases shaped with
      | built position =>
          exact .destroyed
      | handshaking position stillOpen =>
          cases position
  | pollConnected here succeeded =>
      cases here
      cases succeeded
      cases shaped with
      | built position =>
          exact .handshaking rfl fun _ => rfl
      | handshaking position stillOpen =>
          cases position
  | pollSuccess handshakeThrows here reported =>
      cases here
      cases reported
      cases shaped with
      | handshaking position stillOpen =>
          cases stillOpen (.inr rfl)
          exact .held
  | pollError handshakeThrows here reported =>
      cases here
      cases reported
      cases shaped with
      | handshaking position stillOpen =>
          exact .handshaking rfl (by simp)
  | pollClosed handshakeThrows here reported =>
      cases here
      cases reported
      cases shaped with
      | handshaking position stillOpen =>
          exact .handshaking rfl (by simp)
  | dropUnpolled here =>
      cases here
      cases shaped with
      | unpolled =>
          exact .neverPolled
      | _ =>
          simp_all [FuturePc.atBlocking, FuturePc.leavesHandshake]
  | dropSuspended point here notUnpolled =>
      cases here
      cases point with
      | unpolled =>
          exact (notUnpolled rfl).elim
      | blocking =>
          exact shaped.drop_blocking
      | handshake =>
          exact shaped.drop_handshake
  | poolRefuses waiting =>
      cases waiting
      cases shaped with
      | queued position =>
          exact .refused (.inl position)
  | closureStarts first later waiting body =>
      cases waiting
      obtain ⟨planned, atStart⟩ := ContextKind.setupSteps_planned body
      cases shaped with
      | queued position =>
          exact .running position planned atStart.symm
  | closureFinishes step inside =>
      cases inside
      cases shaped with
      | running position planned atStep =>
          cases planned.2
          subst atStep
          exact .built position
  | closureContinues step next later inside =>
      cases inside
      cases shaped with
      | running position planned atStep =>
          have handsOver : SetupStep.LeadsTo step next :=
            (List.isChain_cons_cons.mp planned.1).1
          refine .running position planned.tail ?_
          rw [handsOver, ← atStep]
  | closureThrows step later inside throwing =>
      cases inside
      cases shaped with
      | running position planned atStep =>
          exact .threw (.inl position) throwing (by rw [← atStep])
  | handshakeReports reply closesSocket awaiting =>
      obtain ⟨position, noReply⟩ := awaiting
      cases noReply
      exact shaped.report position
  | callerDrops held =>
      cases held
      cases shaped with
      | held =>
          exact .handedBack

/-- A fresh call is in one of the listed combinations. -/
theorem shaped_unpolled
    (context : Nat)
    (kind : ContextKind) :
    (unpolled context kind).Shaped :=
  .unpolled

end SetupCall

/-- How a call came to its end. -/
inductive ExitPath where
  | neverPolled
  | poolRefused
  | connectThrew (step : SetupStep)
  | droppedAtBlocking
  | handshakeAsyncThrew
  | droppedAtHandshake
  | channelClosed
  | callbackError
  | completed
  deriving Repr, DecidableEq

namespace ExitPath

/--
The exit paths that account for the descriptor and the thread: the future never
took the descriptor, the connecting function threw while a local owned it, or
the connection was returned.
-/
def keepsBalance : ExitPath → Bool
  | .neverPolled => true
  | .connectThrew step => step.fdOwnedLocally
  | .completed => true
  | _ => false

/-- The exit paths that leave a running thread to nobody. -/
def leaksThread : ExitPath → Bool
  | .droppedAtBlocking => true
  | .droppedAtHandshake => true
  | .channelClosed => true
  | .callbackError => true
  | _ => false

end ExitPath

namespace SetupCall

/-- The exit path of a call whose future is over and whose closure is done. -/
def exit? (call : SetupCall) : Option ExitPath :=
  match call.future, call.closure with
  | .dropped .unpolled, _ => some .neverPolled
  | .dropped .blocking, .refused => some .poolRefused
  | .dropped .blocking, .threw step => some (.connectThrew step)
  | .dropped .blocking, .succeeded => some .droppedAtBlocking
  | .dropped .handshake, _ => some .droppedAtHandshake
  | .returnedErr .joinError, _ => some .poolRefused
  | .returnedErr .connectError, .threw step => some (.connectThrew step)
  | .returnedErr .handshakeAsyncError, _ => some .handshakeAsyncThrew
  | .returnedErr .channelClosed, _ => some .channelClosed
  | .returnedErr .callbackError, _ => some .callbackError
  | .returnedOk, _ => some .completed
  | _, _ => none

/-- The connection object was returned to the caller. -/
def returned (call : SetupCall) : Prop :=
  call.connection = .caller ∨ call.connection = .droppedByCaller

/--
The descriptor belongs to the connection returned to the caller or is closed,
and the loop thread belongs to a connection the caller holds or does not run.
-/
def Balanced (call : SetupCall) : Prop :=
  (call.resources.fd = .closed ∨
      call.resources.fd = .connection ∧ call.returned) ∧
    (call.resources.thread = .running → call.connection = .caller)

/-- Unwinding from a step closes the descriptor exactly when a local owns it. -/
theorem unwind_before_closed_iff
    {step : SetupStep}
    (throwing : step.mayThrow = true) :
    (Resources.before step).unwind.fd = .closed ↔
      step.fdOwnedLocally = true := by
  cases step <;>
    simp_all [SetupStep.mayThrow, Resources.before, Resources.unwind,
      SetupStep.fdOwnedLocally]

/-- No step of a connecting function that throws has started the thread. -/
@[simp] theorem unwind_before_thread
    (step : SetupStep) :
    (Resources.before step).unwind.thread = .notStarted := by
  cases step <;> rfl

/-- What a finished call left behind, by its exit path. -/
structure ExitAccount (call : SetupCall) (exit : ExitPath) : Prop where
  balanced : call.Balanced ↔ exit.keepsBalance = true
  running :
    call.resources.thread = .running ↔
      call.connection = .caller ∨ exit.leaksThread = true
  exclusive : call.connection = .caller → exit.leaksThread = false

/-- A finished call left behind what its exit path says. -/
theorem Shaped.exitAccount
    {call : SetupCall}
    (shaped : call.Shaped)
    {exit : ExitPath}
    (finished : call.exit? = some exit) :
    ExitAccount call exit := by
  obtain ⟨context, kind, future, closure, resources, connection, reply⟩ :=
    call
  unfold Shaped at shaped
  cases shaped with
  | unpolled =>
      cases finished
  | neverPolled =>
      cases finished
      constructor <;>
        simp [Balanced, ExitPath.keepsBalance, ExitPath.leaksThread]
  | queued position =>
      rcases FuturePc.eq_of_atBlocking position with here | here <;>
        · cases here
          cases finished
  | running position planned atStep =>
      rcases FuturePc.eq_of_atBlocking position with here | here <;>
        · cases here
          cases finished
  | refused position =>
      have isExit : exit = .poolRefused := by
        rcases position with atBlocking | here
        · rcases FuturePc.eq_of_atBlocking atBlocking with here | here <;>
            · cases here
              cases finished
              try rfl
        · cases here
          cases finished
          rfl
      subst isExit
      constructor <;>
        simp [Balanced, ExitPath.keepsBalance, ExitPath.leaksThread]
  | @threw _ step _ position throwing unwound =>
      have isExit : exit = .connectThrew step := by
        rcases position with atBlocking | here
        · rcases FuturePc.eq_of_atBlocking atBlocking with here | here <;>
            · cases here
              cases finished
              try rfl
        · cases here
          cases finished
          rfl
      subst isExit
      simp only at unwound
      subst unwound
      constructor <;>
        simp [Balanced, returned, unwind_before_closed_iff throwing,
          ExitPath.keepsBalance, ExitPath.leaksThread]
  | built position =>
      rcases FuturePc.eq_of_atBlocking position with here | here
      · cases here
        cases finished
      · cases here
        cases finished
        constructor <;>
          simp [Balanced, ExitPath.keepsBalance, ExitPath.leaksThread]
  | destroyed =>
      cases finished
      constructor <;>
        simp [Balanced, returned, ExitPath.keepsBalance,
          ExitPath.leaksThread]
  | handshaking position stillOpen =>
      rcases FuturePc.eq_of_leavesHandshake position with
        here | here | here | here
      · cases here
        cases finished
      all_goals
        cases here
        cases finished
        constructor <;>
          simp [Balanced, ExitPath.keepsBalance, ExitPath.leaksThread]
  | held =>
      cases finished
      constructor <;>
        simp [Balanced, returned, ExitPath.keepsBalance,
          ExitPath.leaksThread]
  | handedBack =>
      cases finished
      constructor <;>
        simp [Balanced, returned, ExitPath.keepsBalance,
          ExitPath.leaksThread]

end SetupCall

namespace Setup

/-- Every call of a reachable system is in one of the listed combinations. -/
theorem shaped_of_reachable
    {state : Setup}
    (reachable : Reachable step (fun start => start = initial) state) :
    ∀ call ∈ state.calls, call.Shaped := by
  induction reachable with
  | start isInitial =>
      rw [isInitial]
      simp [initial]
  | next _ _ taken inductionHypothesis =>
      have transition := Transition.of_step taken
      cases transition with
      | newContext kind =>
          exact inductionHypothesis
      | connect context found _ _ =>
          intro call member
          rcases List.mem_append.mp member with isOld | isNew
          · exact inductionHypothesis call isOld
          · rw [List.mem_singleton.mp isNew]
            exact SetupCall.shaped_unpolled context found.kind
      | dropContext context found _ _ =>
          exact inductionHypothesis
      | call index action before after present moved =>
          intro call member
          rcases List.mem_or_eq_of_mem_set member with isOld | isNew
          · exact inductionHypothesis call isOld
          · rw [isNew]
            have shaped :=
              inductionHypothesis before (List.mem_of_getElem? present)
            exact shaped.preserved moved

/-- The loop thread of the call runs. -/
def threadRuns (call : SetupCall) : Bool :=
  call.resources.thread = .running

/-- The caller holds the connection object of the call. -/
def callerHolds (call : SetupCall) : Bool :=
  call.connection = .caller

/-- The call has finished and left a running thread to nobody. -/
def threadLeaked (call : SetupCall) : Bool :=
  match call.exit? with
  | some exit => exit.leaksThread
  | none => false

/-- The number of event-loop threads that run. -/
def runningThreads (state : Setup) : Nat :=
  state.calls.countP threadRuns

/-- The number of connection objects that callers hold. -/
def heldConnections (state : Setup) : Nat :=
  state.calls.countP callerHolds

/-- Of finished calls, the running threads are the held and the leaked ones. -/
theorem countP_threadRuns
    {calls : List SetupCall}
    (accounted :
      ∀ call ∈ calls,
        ∃ exit,
          call.exit? = some exit ∧ SetupCall.ExitAccount call exit) :
    calls.countP threadRuns =
      calls.countP callerHolds + calls.countP threadLeaked := by
  induction calls with
  | nil =>
      rfl
  | cons first rest inductionHypothesis =>
      have ofRest :=
        inductionHypothesis fun call member =>
          accounted call (List.mem_cons_of_mem _ member)
      obtain ⟨exit, finished, account⟩ := accounted first List.mem_cons_self
      simp only [List.countP_cons, ofRest]
      by_cases holds : first.connection = .caller
      · have runs := account.running.mpr (.inl holds)
        have notLeaked := account.exclusive holds
        simp [threadRuns, callerHolds, threadLeaked, finished, holds, runs,
          notLeaked]
        omega
      · by_cases leaks : exit.leaksThread = true
        · have runs := account.running.mpr (.inr leaks)
          simp [threadRuns, callerHolds, threadLeaked, finished, holds,
            runs, leaks]
          omega
        · have stopped : first.resources.thread ≠ .running := by
            intro runs
            rcases account.running.mp runs with isHeld | isLeak
            · exact holds isHeld
            · exact leaks isLeak
          simp [threadRuns, callerHolds, threadLeaked, finished, holds,
            stopped, leaks]

/--
A finished call is resource-balanced exactly when its future never took the
descriptor, its connecting function threw while a local owned the descriptor, or
the handshake succeeded and was awaited to its end.  When every call has
finished, the running threads are as many as the connections held exactly when
no call was dropped with its connection built, failed in its handshake callback
or lost its channel.
-/
theorem setup_balanced_iff
    {state : Setup}
    (reachable : Reachable step (fun start => start = initial) state) :
    (∀ call ∈ state.calls, ∀ exit,
      call.exit? = some exit →
        (call.Balanced ↔ exit.keepsBalance = true)) ∧
      ((∀ call ∈ state.calls, ∃ exit, call.exit? = some exit) →
        (state.runningThreads = state.heldConnections ↔
          ∀ call ∈ state.calls, ∀ exit,
            call.exit? = some exit → exit.leaksThread = false)) := by
  have shaped := shaped_of_reachable reachable
  constructor
  · intro call member exit finished
    exact ((shaped call member).exitAccount finished).balanced
  · intro allFinished
    have counted : state.runningThreads =
        state.heldConnections + state.calls.countP threadLeaked := by
      apply countP_threadRuns
      intro call member
      obtain ⟨exit, finished⟩ := allFinished call member
      exact ⟨exit, finished, (shaped call member).exitAccount finished⟩
    have noneLeaked :
        state.runningThreads = state.heldConnections ↔
          state.calls.countP threadLeaked = 0 := by
      omega
    rw [noneLeaked, List.countP_eq_zero]
    constructor
    · intro quiet call member exit finished
      simpa [threadLeaked, finished] using quiet call member
    · intro quiet call member
      obtain ⟨exit, finished⟩ := allFinished call member
      simp [threadLeaked, finished, quiet call member exit finished]

/-- A call of `connect` up to the point where its handshake is awaited. -/
def connectToHandshake : List Action :=
  [.newContext (.client true), .connect 0, .call 0 (.poll false),
    .call 0 .closureStarts, .call 0 .closureStep, .call 0 .closureStep,
    .call 0 .closureStep, .call 0 .closureStep, .call 0 .closureStep,
    .call 0 .closureStep, .call 0 .closureStep, .call 0 .closureStep,
    .call 0 .closureStep, .call 0 .closureStep, .call 0 (.poll false)]

/-- The one call of `connectToHandshake` after its channel delivered a reply. -/
def finishedCall
    (future : FuturePc)
    (connection : ConnectionOwner)
    (reply : HandshakeReply) :
    SetupCall where
  context := 0
  kind := .client true
  future := future
  closure := .succeeded
  resources := { fd := .connection, thread := .running }
  connection := connection
  reply := some reply

/-- The system with that one call. -/
def finishedState (call : SetupCall) : Setup where
  contexts := [{ kind := .client true, alive := true }]
  calls := [call]

theorem setup_balanced_iff_sample :
    run? step initial
        (connectToHandshake ++
          [.call 0 (.handshakeReports .success false),
            .call 0 (.poll false)]) =
        some (finishedState
          (finishedCall .returnedOk .caller .success)) ∧
      (finishedCall .returnedOk .caller .success).Balanced := by
  have performed :
      run? step initial
        (connectToHandshake ++
          [.call 0 (.handshakeReports .success false),
            .call 0 (.poll false)]) =
        some (finishedState
          (finishedCall .returnedOk .caller .success)) := by
    decide
  refine ⟨performed, ?_⟩
  exact
    ((setup_balanced_iff (reachable_of_run? (.start rfl) performed)).1
      _ List.mem_cons_self .completed rfl).mpr rfl

/--
A handshake callback that reports an error makes `connect` return `Err` and
leaves a running thread and an open descriptor behind a raw pointer that nobody
frees.
-/
theorem failedHandshake_leaks :
    ∃ state : Setup, ∃ call ∈ state.calls,
      Reachable step (fun start => start = initial) state ∧
        call.future = .returnedErr .callbackError ∧
        call.exit? = some .callbackError ∧
        call.resources.thread = .running ∧
        call.resources.fd = .connection ∧
        ¬ call.Balanced ∧
        state.runningThreads = 1 ∧
        state.heldConnections = 0 := by
  have performed :
      run? step initial
        (connectToHandshake ++
          [.call 0 (.handshakeReports .error false),
            .call 0 (.poll false)]) =
        some (finishedState
          (finishedCall (.returnedErr .callbackError) .rawPointer
            .error)) := by
    decide
  refine ⟨_, _, List.mem_cons_self,
    reachable_of_run? (.start rfl) performed, rfl, rfl, rfl, rfl, ?_,
    rfl, rfl⟩
  intro balanced
  cases balanced.2 rfl

end Setup

end FizzRs
