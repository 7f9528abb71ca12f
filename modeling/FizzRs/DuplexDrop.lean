import FizzRs.DuplexDelivery
import FizzRs.TeardownOrder
import FizzRs.DropClosesTransport

namespace FizzRs

open LabelledSystem

/-!
# Dropping one end of a session

One end of a session is read to the end while the owner of the other end drops it.
The destructor stops the loop and destroys the event base, and after that nothing
leaves the socket.  A connection that nobody has closed keeps its socket: as long
as the process lives the end that stays hears nothing from it, neither the bytes
that `poll_write` had accepted and the socket had not taken, nor that the stream is
over.  That its stream is over the end that stays can then learn in two ways only:
its own socket reports an error, or its own transport has been closed.
-/

namespace ConnectionObject

/-- What the owner wrote and what became of it. -/
structure WriteBooks (state : ConnectionObject Waker) : Prop where
  wire : state.conn.WireAccount
  order : state.conn.write.WriteAccount

/-- The socket takes a leading part of what `poll_write` accepted. -/
theorem WriteBooks.sent_leads_accepted
    {state : ConnectionObject Waker}
    (books : state.WriteBooks) :
    state.conn.sent <+:
      (acceptedBuffers state.conn.write.results).flatten := by
  refine books.wire.leading.trans ?_
  rw [← books.order.ordered, List.flatten_append]
  exact List.prefix_append _ _

/-- Once the event base is gone, only the loop could still take a step. -/
theorem onLoop_of_released
    {state : ConnectionObject Waker}
    {connAction : Connection.Action Waker}
    (released : state.pc.evbReleased = true)
    (allowed : state.mayStep connAction = true) :
    connAction.onLoop = true := by
  have notHeld : state.pc ≠ .held := by
    intro isHeld
    rw [isHeld] at released
    cases released
  have notClosing : state.pc ≠ .closing := by
    intro isClosing
    rw [isClosing] at released
    cases released
  cases connAction with
  | read action =>
      simp only [mayStep, notHeld, or_false, decide_eq_true_eq] at allowed
      exact allowed.elim (fun byLoop => byLoop.2) (fun byLoop => byLoop.2)
  | closeCall call good =>
      cases call <;>
        simp [mayStep, notHeld, Connection.Action.onLoop] at allowed
  | closerStep =>
      simp [mayStep, notHeld, notClosing] at allowed
  | write action =>
      simp [mayStep, notHeld, Connection.Action.onLoop] at allowed
  | _ =>
      rfl

section

variable [TaskWaker Waker]
variable {side : Side}
variable {state following : ConnectionObject Waker}
variable {action : Action Waker}

/-- No step takes back what the socket took. -/
theorem Transition.sent_grows
    (transition : Transition side state action following) :
    state.conn.sent <+: following.conn.sent := by
  cases transition with
  | conn action conn _ stepped =>
      exact (Connection.Transition.of_step stepped).sent_grows
  | dropClient good conn _ _ stepped =>
      exact (Connection.Transition.of_step stepped).sent_grows
  | _ =>
      exact List.prefix_rfl

/-- A transport that was left stays left. -/
theorem Transition.left_kept
    (transition : Transition side state action following)
    (left : state.conn.transport ≠ .live) :
    following.conn.transport ≠ .live := by
  cases transition with
  | conn action conn _ stepped =>
      exact (Connection.Transition.of_step stepped).left_kept left
  | dropClient good conn _ _ stepped =>
      exact (Connection.Transition.of_step stepped).left_kept left
  | _ =>
      exact left

/-- A step of the connection itself keeps the books. -/
theorem WriteBooks.conn
    (books : state.WriteBooks)
    {moved : Side}
    {connAction : Connection.Action Waker}
    {conn : Connection Waker}
    (stepped : state.conn.step moved connAction = some conn) :
    conn.WireAccount ∧ conn.write.WriteAccount := by
  refine ⟨books.wire.preserved stepped, ?_⟩
  rcases Connection.write_of_step stepped with same | ⟨_, change⟩
  · rw [same]
    exact books.order
  · exact books.order.preserved change

theorem WriteBooks.preserved
    (books : state.WriteBooks)
    (transition : Transition side state action following) :
    following.WriteBooks := by
  cases transition with
  | conn action conn _ stepped =>
      obtain ⟨wire, order⟩ := books.conn stepped
      exact ⟨wire, order⟩
  | dropClient good conn _ _ stepped =>
      obtain ⟨wire, order⟩ := books.conn stepped
      exact ⟨wire, order⟩
  | _ =>
      exact ⟨books.wire.frame rfl rfl rfl id, books.order⟩

theorem WriteBooks.of_reachable
    (reachable :
      Reachable (step side)
        (fun start => start = ConnectionObject.initial) state) :
    state.WriteBooks := by
  refine reachable.invariant_from ?_ ?_
  · exact ⟨Connection.WireAccount.initially,
      WriteSide.WriteAccount.initially⟩
  · intro before after action _ books _ taken
    exact books.preserved (.of_step taken)

/-- A destroyed event base sends nothing and closes nothing. -/
theorem Transition.frozen
    (account : state.TeardownAccount)
    (released : state.pc.evbReleased = true)
    (transition : Transition side state action following) :
    following.pc.evbReleased = true ∧
      following.conn.sent = state.conn.sent ∧
      following.conn.transport = state.conn.transport ∧
      following.conn.write = state.conn.write := by
  have stopped := account.released released
  cases transition with
  | conn action conn allowed stepped =>
      have running :=
        (Connection.Transition.of_step stepped).running_of_onLoop
          (onLoop_of_released released allowed)
      rw [stopped] at running
      cases running
  | handshake event phase running _ =>
      rw [stopped] at running
      cases running
  | lockWaker _ _ =>
      exact ⟨rfl, rfl, rfl, rfl⟩
  | resetWaker _ =>
      exact ⟨rfl, rfl, rfl, rfl⟩
  | unlockWaker _ =>
      exact ⟨rfl, rfl, rfl, rfl⟩
  | destroyMember _ _ _ =>
      exact ⟨rfl, rfl, rfl, rfl⟩
  | finish _ =>
      exact ⟨rfl, rfl, rfl, rfl⟩
  | dropClient _ _ _ here _ =>
      rw [here] at released
      cases released
  | dropServer _ _ here _ _ =>
      rw [here] at released
      cases released
  | _ here =>
      rw [here] at released
      cases released

end

end ConnectionObject

/--
How the end that stays learns that its stream is over: from an error of its socket,
after its own transport was closed, or from the other end.
-/
inductive Ending where
  | failed (message : String)
  | closedHere
  | closedThere
  deriving Repr, DecidableEq

/--
A session seen from the end that stays, which reads what the other end wrote, with
how it learned that its stream is over.
-/
structure Departure (Waker : Type) where
  reader : Connection Waker
  writer : ConnectionObject Waker
  endings : List Ending
  deriving Repr, DecidableEq

namespace Departure

/-- One of the two ends takes a step. -/
inductive Action (Waker : Type) where
  | reader (action : Connection.Action Waker)
  | writer (action : ConnectionObject.Action Waker)
  deriving Repr, DecidableEq

def initial : Departure Waker where
  reader := .initial
  writer := .initial
  endings := []

/-- What the session lets happen at the end that stays: only a close ends it. -/
def permitsReader
    (state : Departure Waker)
    (action : Connection.Action Waker) :
    Bool :=
  state.reader.permits state.writer.conn action &&
    match action with
    | .read .readEOF =>
        decide (state.reader.transport ≠ .live ∨
          state.writer.conn.transport ≠ .live)
    | _ => true

/-- How a step of the end that stays tells it that its stream is over. -/
def ending?
    (state : Departure Waker) :
    Connection.Action Waker → Option Ending
  | .read (.readErr message) => some (.failed message)
  | .read .readEOF =>
      if state.reader.transport = .live then
        some .closedThere
      else
        some .closedHere
  | _ => none

/-- The other end tells of an end only when it has left its transport. -/
theorem ending_ne_closedThere
    {state : Departure Waker}
    {action : Connection.Action Waker}
    (permitted : state.permitsReader action = true)
    (isLive : state.writer.conn.transport = .live) :
    state.ending? action ≠ some .closedThere := by
  unfold ending?
  split
  · simp
  · obtain ⟨_, closes⟩ := Bool.and_eq_true_iff.mp permitted
    have closing : state.reader.transport ≠ .live := by
      simpa [isLive] using closes
    simp [closing]
  · simp

/-- `readEOF` tells of an end, whoever closed. -/
theorem ending_readEOF_ne_nil
    (state : Departure Waker) :
    (state.ending? (.read .readEOF)).toList ≠ [] := by
  simp only [ending?]
  split <;> simp

/-- What it lets happen at the other one. -/
def permitsWriter
    (state : Departure Waker) :
    ConnectionObject.Action Waker → Bool
  | .conn action => state.writer.conn.permits state.reader action
  | _ => true

/-- One step; `side` is the one that stays. -/
def step
    [TaskWaker Waker]
    (side : Side)
    (state : Departure Waker) :
    Action Waker → Option (Departure Waker)
  | .reader action =>
      if state.permitsReader action = true then
        (state.reader.step side action).map fun reader =>
          { state with
            reader := reader
            endings := (state.ending? action).toList ++ state.endings }
      else
        none
  | .writer action =>
      if state.permitsWriter action = true then
        (state.writer.step side.peer action).map fun writer =>
          { state with writer := writer }
      else
        none

/-- The steps, with what the session permits. -/
inductive Transition
    [TaskWaker Waker]
    (side : Side)
    (state : Departure Waker) :
    Action Waker → Departure Waker → Prop where
  | reader {action : Connection.Action Waker} {reader : Connection Waker} :
      state.permitsReader action = true →
      state.reader.step side action = some reader →
      Transition side state (.reader action) { state with
        reader := reader
        endings := (state.ending? action).toList ++ state.endings }
  | writer {action : ConnectionObject.Action Waker}
      {writer : ConnectionObject Waker} :
      state.writer.step side.peer action = some writer →
      Transition side state (.writer action) { state with writer := writer }

theorem Transition.of_step
    [TaskWaker Waker]
    {side : Side}
    {state following : Departure Waker}
    {action : Action Waker}
    (taken : state.step side action = some following) :
    Transition side state action following := by
  cases action with
  | reader action =>
      simp only [step] at taken
      split at taken
      · next permitted =>
          obtain ⟨reader, moved, rfl⟩ := Option.map_eq_some_iff.mp taken
          exact .reader permitted moved
      · cases taken
  | writer action =>
      simp only [step] at taken
      split at taken
      · obtain ⟨writer, moved, rfl⟩ := Option.map_eq_some_iff.mp taken
        exact .writer moved
      · cases taken

section

variable [TaskWaker Waker]
variable {side : Side}
variable {state following : Departure Waker}

/-- The end that stays runs as a connection of its own. -/
theorem reader_reachable
    (reachable :
      Reachable (step side) (fun start => start = initial) state) :
    Reachable (Connection.step side)
      (fun start => start = .initial) state.reader := by
  refine reachable.project Departure.reader ?_ ?_
  · intro start begins
    subst start
    rfl
  · intro before after action _ taken
    cases Transition.of_step taken with
    | @reader connAction _ _ moved =>
        exact .inr ⟨connAction, moved⟩
    | writer _ =>
        exact .inl rfl

/-- So does the other end, as a connection object. -/
theorem writer_reachable
    (reachable :
      Reachable (step side) (fun start => start = initial) state) :
    Reachable (ConnectionObject.step side.peer)
      (fun start => start = ConnectionObject.initial) state.writer := by
  refine reachable.project Departure.writer ?_ ?_
  · intro start begins
    subst start
    rfl
  · intro before after action _ taken
    cases Transition.of_step taken with
    | reader _ _ =>
        exact .inl rfl
    | @writer objectAction _ moved =>
        exact .inr ⟨objectAction, moved⟩

/--
What has arrived was sent; an ended stream was learned of; and from the other end
only after it left its transport.
-/
structure Heard (state : Departure Waker) : Prop where
  arrived : state.reader.read.committed <+: state.writer.conn.sent
  ended : state.reader.read.streamEnded = true → state.endings ≠ []
  remote :
    .closedThere ∈ state.endings → state.writer.conn.transport ≠ .live

/-- The end that stays takes a step. -/
theorem Heard.reader
    (heard : state.Heard)
    {action : Connection.Action Waker}
    {reader : Connection Waker}
    (permitted : state.permitsReader action = true)
    (moved : state.reader.step side action = some reader) :
    Heard { state with
      reader := reader
      endings := (state.ending? action).toList ++ state.endings } := by
  have remote :
      .closedThere ∈ (state.ending? action).toList ++ state.endings →
        state.writer.conn.transport ≠ .live := by
    intro member isLive
    rcases List.mem_append.mp member with here | before
    · exact
        ending_ne_closedThere permitted isLive (Option.mem_toList.mp here)
    · exact heard.remote before isLive
  have kept :
      state.reader.read.streamEnded = true →
        (state.ending? action).toList ++ state.endings ≠ [] := by
    intro ended
    simp [heard.ended ended]
  rcases Connection.read_of_step moved with
    sameRead | ⟨readAction, isRead, change⟩
  · refine ⟨?_, ?_, remote⟩
    · simpa only [sameRead] using heard.arrived
    · simpa only [sameRead] using kept
  · subst action
    rcases change.stream_cases with
      ⟨bytes, isData, grown, notEnded⟩ |
        ⟨sameBytes, sameEnd | isEOF | ⟨message, isErr⟩⟩
    · subst readAction
      obtain ⟨arrives, _⟩ := Bool.and_eq_true_iff.mp permitted
      refine ⟨?_, ?_, remote⟩
      · simp only [grown]
        simpa [Connection.permits] using arrives
      · simp [notEnded]
    · refine ⟨?_, ?_, remote⟩
      · simpa only [sameBytes] using heard.arrived
      · simpa only [sameEnd] using kept
    · subst readAction
      refine ⟨?_, ?_, remote⟩
      · simpa only [sameBytes] using heard.arrived
      · intro _ noEndings
        exact
          state.ending_readEOF_ne_nil (List.append_eq_nil_iff.mp noEndings).1
    · subst readAction
      refine ⟨?_, ?_, remote⟩
      · simpa only [sameBytes] using heard.arrived
      · simp [ending?]

/-- The other end takes a step. -/
theorem Heard.writer
    (heard : state.Heard)
    {action : ConnectionObject.Action Waker}
    {writer : ConnectionObject Waker}
    (moved : state.writer.step side.peer action = some writer) :
    Heard { state with writer := writer } := by
  have transition := ConnectionObject.Transition.of_step moved
  exact
    ⟨heard.arrived.trans transition.sent_grows, heard.ended,
      fun told => transition.left_kept (heard.remote told)⟩

theorem Heard.of_reachable
    (reachable :
      Reachable (step side) (fun start => start = initial) state) :
    state.Heard := by
  refine reachable.invariant_from ?_ ?_
  · exact ⟨List.prefix_rfl, by simp [initial, Connection.initial,
      ReadSide.initial], by simp [initial]⟩
  · intro before after action _ heard _ taken
    cases Transition.of_step taken with
    | reader permitted moved =>
        exact heard.reader permitted moved
    | writer moved =>
        exact heard.writer moved

/-- From the release of the event base on, the other end is as it was left. -/
theorem frozen_later
    (reachable :
      Reachable (step side) (fun start => start = initial) state)
    (released : state.writer.pc.evbReleased = true)
    {later : Departure Waker}
    (follows : Reachable (step side) (fun start => start = state) later) :
    later.writer.pc.evbReleased = true ∧
      later.writer.conn.sent = state.writer.conn.sent ∧
      later.writer.conn.transport = state.writer.conn.transport ∧
      later.writer.conn.write = state.writer.conn.write := by
  induction follows with
  | start isState =>
      rw [isState]
      exact ⟨released, rfl, rfl, rfl⟩
  | @next middle final action earlier _ taken inductionHypothesis =>
      obtain ⟨still, sameSent, sameTransport, sameWrite⟩ :=
        inductionHypothesis
      cases Transition.of_step taken with
      | reader _ _ =>
          exact ⟨still, sameSent, sameTransport, sameWrite⟩
      | writer moved =>
          have account :=
            ConnectionObject.TeardownAccount.of_reachable
              (writer_reachable (reachable.trans earlier))
          obtain ⟨stays, sent, transport, write⟩ :=
            (ConnectionObject.Transition.of_step moved).frozen account still
          exact ⟨stays, sent.trans sameSent, transport.trans sameTransport,
            write.trans sameWrite⟩

/--
The end that stays has been given only what was sent, and an end of it only after
it learned of one.
-/
theorem Heard.given
    (heard : state.Heard)
    (reachable :
      Reachable (step side) (fun start => start = initial) state) :
    returnedBytes state.reader.read.polls <+: state.writer.conn.sent ∧
      ∀ record ∈ state.reader.read.polls,
        record.result = .ready [] → state.endings ≠ [] := by
  have readRun := Connection.read_reachable (reader_reachable reachable)
  have discipline := ReadSide.ReadDiscipline.of_reachable readRun
  have account := ReadSide.StreamAccount.of_reachable readRun
  constructor
  · have returned :
        returnedBytes state.reader.read.polls <+:
          state.reader.read.committed :=
      ⟨_, account.conserved⟩
    exact returned.trans heard.arrived
  · intro record member isEnd
    obtain ⟨flag, _⟩ := account.afterEnd record member isEnd
    exact heard.ended (discipline.flagEnds flag)

/--
When a connection object has been dropped and its event base released while its
transport was never closed, then in every later session, whatever the end that
stays does, it has been given no more than the socket had taken by then, which is a
leading part of what `poll_write` had accepted; the other end has told it of no end
of the stream; and a poll has reported one only if its own socket reported an error
or its own transport had been closed.
-/
theorem dropped_writer_falls_silent
    (reachable :
      Reachable (step side) (fun start => start = initial) state)
    (released : state.writer.pc.evbReleased = true)
    (isLive : state.writer.conn.transport = .live) :
    state.writer.conn.sent <+:
        (acceptedBuffers state.writer.conn.write.results).flatten ∧
      ∀ later,
        Reachable (step side) (fun start => start = state) later →
          later.writer.conn.write.results =
              state.writer.conn.write.results ∧
            returnedBytes later.reader.read.polls <+:
              state.writer.conn.sent ∧
            .closedThere ∉ later.endings ∧
            ∀ record ∈ later.reader.read.polls,
              record.result = .ready [] →
                ∃ ending ∈ later.endings,
                  ending = .closedHere ∨
                    ∃ message, ending = .failed message := by
  have books :=
    ConnectionObject.WriteBooks.of_reachable (writer_reachable reachable)
  refine ⟨books.sent_leads_accepted, ?_⟩
  intro later follows
  have reached := reachable.trans follows
  have heard := Heard.of_reachable reached
  obtain ⟨_, sameSent, sameTransport, sameWrite⟩ :=
    frozen_later reachable released follows
  obtain ⟨given, learned⟩ := heard.given reached
  rw [sameSent] at given
  have silent : .closedThere ∉ later.endings := fun told =>
    heard.remote told (sameTransport.trans isLive)
  refine ⟨by rw [sameWrite], given, silent, ?_⟩
  intro record member isEnd
  obtain ⟨ending, told⟩ :=
    List.exists_mem_of_ne_nil _ (learned record member isEnd)
  refine ⟨ending, told, ?_⟩
  cases ending with
  | failed message =>
      exact .inr ⟨message, rfl⟩
  | closedHere =>
      exact .inl rfl
  | closedThere =>
      exact absurd told silent

end

/-- A server connection accepts three bytes, and its socket takes one. -/
def writesHalf : List (ConnectionObject.Action Nat) :=
  [.conn (.write (.pollWrite [1, 2, 3])), .conn (.write .writerStep),
    .conn (.write .writerStep), .conn .runTask, .conn (.socketAccepts 1)]

/-- Then it is dropped. -/
def halfSent : List (Action Nat) :=
  (ConnectionObject.handOverSchedule ++ writesHalf ++
    .drop true :: ConnectionObject.destructorSchedule).map .writer

theorem dropped_writer_falls_silent_sample :
    ∃ state : Departure Nat,
      run? (step .client) initial halfSent = some state ∧
        state.writer.pc = .gone ∧
        (acceptedBuffers state.writer.conn.write.results).flatten =
          [1, 2, 3] ∧
        ∀ later,
          Reachable (step .client) (fun start => start = state) later →
            returnedBytes later.reader.read.polls <+: [1] ∧
              .closedThere ∉ later.endings := by
  have performed :
      ∃ state : Departure Nat,
        run? (step .client) initial halfSent = some state ∧
          state.writer.pc = .gone ∧
          state.writer.conn.transport = .live ∧
          state.writer.conn.sent = [1] ∧
          (acceptedBuffers state.writer.conn.write.results).flatten =
            [1, 2, 3] :=
    ⟨_, rfl, rfl, rfl, rfl, rfl⟩
  obtain ⟨state, ran, gone, isLive, sent, accepted⟩ := performed
  have reachable :
      Reachable (step .client) (fun start => start = initial) state :=
    reachable_of_run? (.start rfl) ran
  refine ⟨state, ran, gone, accepted, ?_⟩
  intro later follows
  obtain ⟨_, later_silent⟩ :=
    dropped_writer_falls_silent reachable (by rw [gone]; rfl) isLive
  obtain ⟨_, given, silent, _⟩ := later_silent later follows
  rw [sent] at given
  exact ⟨given, silent⟩

end Departure

end FizzRs
