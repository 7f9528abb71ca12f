import FizzRs.Duplex

namespace FizzRs

open LabelledSystem FifoPipe

/-!
# Each direction of a session is a FIFO pipe

What `poll_read` returns at one end is compared with what `poll_write` accepted at
the other.  Between the two lie the posted functions, the transport, the network
and the read queue, each of which holds a part of the stream.  A closed transport
drops what it still held, and what is posted afterwards is never sent, so at every
moment the socket took a leading part of the chains, and the reader got a leading
part of that.
-/

/-- A write-side step accepts one more buffer or none. -/
theorem WriteSide.Transition.accepted_grows
    {side : Side}
    {header : ConnectionHeader}
    {state following : WriteSide}
    {action : Action}
    (transition : Transition side header state action following) :
    ∃ buffers,
      acceptedBuffers following.results =
        acceptedBuffers state.results ++ buffers := by
  cases transition with
  | refuse call message _ _ =>
      exact ⟨[], by simp [complete, acceptedBuffers]⟩
  | fail call _ =>
      exact ⟨[], by simp [complete, acceptedBuffers]⟩
  | post call _ =>
      exact ⟨[call.buffer], by simp [complete, acceptedBuffers]⟩
  | _ =>
      exact ⟨[], by simp⟩

/-- A read-side step completes one poll or none. -/
theorem ReadSide.Transition.polls_grow
    [TaskWaker Waker]
    {header : ConnectionHeader}
    {state following : ReadSide Waker}
    {action : Action Waker}
    (transition : Transition header state action following) :
    following.polls = state.polls ∨
      ∃ record, following.polls = record :: state.polls := by
  cases transition with
  | refuse call message _ _ =>
      exact .inr ⟨_, rfl⟩
  | takeFails call message _ _ _ =>
      exact .inr ⟨_, rfl⟩
  | takeBytes call copied remaining _ _ _ =>
      exact .inr ⟨_, rfl⟩
  | loadEof call _ =>
      exact .inr ⟨_, rfl⟩
  | _ =>
      exact .inl rfl

/-- A read-side step adds bytes, ends the stream, or does neither. -/
theorem ReadSide.Transition.stream_cases
    [TaskWaker Waker]
    {header : ConnectionHeader}
    {state following : ReadSide Waker}
    {action : Action Waker}
    (transition : Transition header state action following) :
    (∃ bytes,
        action = .readDataAvailable bytes ∧
          following.committed = state.committed ++ bytes ∧
          following.streamEnded = false) ∨
      (following.committed = state.committed ∧
        (following.streamEnded = state.streamEnded ∨
          action = .readEOF ∨ ∃ message, action = .readErr message)) := by
  cases transition with
  | readDataAvailable length fresh bytes _ _ notEnded =>
      exact .inl ⟨bytes, rfl, rfl, notEnded⟩
  | readEOF _ =>
      exact .inr ⟨rfl, .inr (.inl rfl)⟩
  | readErr message _ =>
      exact .inr ⟨rfl, .inr (.inr ⟨message, rfl⟩)⟩
  | _ =>
      exact .inr ⟨rfl, .inl rfl⟩

namespace Connection

/-- The read side of a connection changes only by its own steps. -/
theorem read_of_step
    [TaskWaker Waker]
    {side : Side}
    {state following : Connection Waker}
    {action : Action Waker}
    (taken : state.step side action = some following) :
    following.read = state.read ∨
      ∃ readAction,
        action = .read readAction ∧
          ReadSide.Transition .established state.read readAction
            following.read := by
  cases Transition.of_step taken with
  | read readAction read _ stepped =>
      exact .inr ⟨readAction, rfl, .of_step stepped⟩
  | _ =>
      exact .inl rfl

/-- The write side of a connection changes only by its own steps. -/
theorem write_of_step
    [TaskWaker Waker]
    {side : Side}
    {state following : Connection Waker}
    {action : Action Waker}
    (taken : state.step side action = some following) :
    following.write = state.write ∨
      ∃ writeAction,
        WriteSide.Transition side .established state.write writeAction
          following.write := by
  cases Transition.of_step taken with
  | write writeAction write _ _ _ _ stepped =>
      exact .inr ⟨writeAction, .of_step stepped⟩
  | post call write _ stepped =>
      exact .inr ⟨_, .of_step stepped⟩
  | runWrite chain later write _ _ stepped =>
      exact .inr ⟨_, .of_step stepped⟩
  | runClose later write _ _ stepped =>
      exact .inr ⟨_, .of_step stepped⟩
  | writeSuccess head rest write _ _ _ stepped =>
      exact .inr ⟨_, .of_step stepped⟩
  | writeErr text head rest write _ _ stepped =>
      exact .inr ⟨_, .of_step stepped⟩
  | raiseWriteError index write _ stepped =>
      exact .inr ⟨_, .of_step stepped⟩
  | _ =>
      exact .inl rfl

/-- The transport's own tests on a writable event and on a failed write. -/
theorem transport_of_step
    [TaskWaker Waker]
    {side : Side}
    {state following : Connection Waker}
    {action : Action Waker}
    (taken : state.step side action = some following) :
    (∀ count, action = .socketAccepts count →
        state.transport ≠ .closed) ∧
      ∀ text, action = .writeErr text → state.transport = .closed := by
  constructor
  · intro count isAccept
    subst action
    simp only [step] at taken
    split at taken
    · split at taken
      · next guard =>
          exact guard.2
      · cases taken
    · cases taken
  · intro text isError
    subst action
    simp only [step] at taken
    split at taken
    · split at taken
      · next guard =>
          exact guard.2
      · cases taken
    · cases taken

/-- Where the chains given to the transport are, whether or not it closes. -/
structure WireAccount (state : Connection Waker) : Prop where
  leading :
    state.sent <+: state.write.chains.flatten
  onWire :
    state.transport ≠ .closed →
      state.sent ++ (state.pending.map PendingWrite.remaining).flatten =
        state.write.chains.flatten

namespace WireAccount

/-- Nothing was handed to a fresh transport. -/
theorem initially : WireAccount (initial : Connection Waker) := by
  constructor <;> simp [initial, WriteSide.initial]

/-- A step that touches neither the chains nor the wire. -/
theorem frame
    {state following : Connection Waker}
    (account : WireAccount state)
    (sameChains : following.write.chains = state.write.chains)
    (sameSent : following.sent = state.sent)
    (samePending : following.pending = state.pending)
    (staysClosed :
      state.transport = .closed → following.transport = .closed) :
    WireAccount following := by
  constructor
  · rw [sameSent, sameChains]
    exact account.leading
  · intro notClosed
    rw [sameSent, sameChains, samePending]
    exact account.onWire fun isClosed => notClosed (staysClosed isClosed)

/-- Handing one more chain to the transport. -/
theorem handOver
    {state following : Connection Waker}
    (account : WireAccount state)
    {index : Nat}
    {chain : List UInt8}
    (chains : following.write.chains = state.write.chains ++ [chain])
    (sameSent : following.sent = state.sent)
    (pending :
      following.pending =
        state.pending ++
          [{ index := index, chain := chain, remaining := chain }])
    (sameTransport : following.transport = state.transport) :
    WireAccount following := by
  constructor
  · rw [sameSent, chains, List.flatten_append]
    exact account.leading.trans (List.prefix_append _ _)
  · intro notClosed
    rw [sameTransport] at notClosed
    rw [sameSent, chains, pending, List.flatten_append,
      ← account.onWire notClosed]
    simp

/-- The socket takes the front of the first pending chain. -/
theorem takeFront
    {state following : Connection Waker}
    (account : WireAccount state)
    {count : Nat}
    {head : PendingWrite}
    {rest : List PendingWrite}
    (shape : state.pending = head :: rest)
    (notClosed : state.transport ≠ .closed)
    (sameChains : following.write.chains = state.write.chains)
    (sent : following.sent = state.sent ++ head.remaining.take count)
    (pending :
      following.pending =
        { head with remaining := head.remaining.drop count } :: rest) :
    WireAccount following := by
  have moved :
      following.sent ++
          (following.pending.map PendingWrite.remaining).flatten =
        following.write.chains.flatten := by
    rw [sent, pending, sameChains, ← account.onWire notClosed, shape]
    simp only [List.map_cons, List.flatten_cons, List.append_assoc]
    rw [← List.append_assoc (head.remaining.take count),
      List.take_append_drop]
  exact ⟨⟨_, moved⟩, fun _ => moved⟩

/-- One atomic step keeps the account of the wire. -/
theorem preserved
    [TaskWaker Waker]
    {side : Side}
    {state following : Connection Waker}
    {action : Action Waker}
    (account : WireAccount state)
    (taken : state.step side action = some following) :
    WireAccount following := by
  have guards := transport_of_step taken
  cases Transition.of_step taken with
  | read action read _ _ =>
      refine account.frame rfl rfl rfl fun isClosed => ?_
      cases action with
      | callbackStep =>
          simp only [transportAfterRead]
          split
          · rfl
          · exact isClosed
      | _ =>
          exact isClosed
  | write action write byOwner _ _ _ stepped =>
      refine account.frame ?_ rfl rfl id
      cases WriteSide.Transition.of_step stepped with
      | runWrite chain later _ =>
          cases byOwner
      | _ =>
          rfl
  | post call write _ stepped =>
      cases WriteSide.Transition.of_step stepped with
      | postClose =>
          exact account.frame rfl rfl rfl id
  | runWrite chain later write _ shape stepped =>
      cases WriteSide.Transition.of_step stepped with
      | runClose rest otherShape =>
          simp [shape] at otherShape
      | runWrite sameChain rest sameShape =>
          rw [shape] at sameShape
          cases sameShape
          exact account.handOver rfl rfl rfl rfl
  | runClose later write _ shape stepped =>
      cases WriteSide.Transition.of_step stepped with
      | runWrite chain rest otherShape =>
          simp [shape] at otherShape
      | runClose rest sameShape =>
          exact account.frame rfl rfl rfl fun isClosed => by
            simp [isClosed]
  | socketAccepts count head rest shape _ =>
      exact account.takeFront shape (guards.1 count rfl) rfl rfl rfl
  | writeSuccess head rest write shape _ isDone stepped =>
      cases WriteSide.Transition.of_step stepped with
      | writeSuccess index _ =>
          refine ⟨account.leading, fun notClosed => ?_⟩
          have onWire := account.onWire notClosed
          rw [shape] at onWire
          simpa [isDone] using onWire
  | writeErr text head rest write _ _ stepped =>
      cases WriteSide.Transition.of_step stepped with
      | writeErr index text _ =>
          exact ⟨account.leading, fun notClosed =>
            absurd (guards.2 text rfl) notClosed⟩
  | raiseWriteError index write _ stepped =>
      cases WriteSide.Transition.of_step stepped with
      | raiseError index _ =>
          exact account.frame rfl rfl rfl fun _ => rfl
  | transportCloses _ =>
      exact account.frame rfl rfl rfl fun _ => rfl
  | _ =>
      exact account.frame rfl rfl rfl id

/-- Every reachable connection keeps the account of the wire. -/
theorem of_reachable
    [TaskWaker Waker]
    {side : Side}
    {allowed : Connection Waker → Action Waker → Prop}
    {state : Connection Waker}
    (reachable :
      ReachableWhile (step side) allowed
        (fun start => start = initial) state) :
    WireAccount state := by
  refine reachable.invariant_from ?_ ?_
  · exact initially
  · intro before after action _ account _ taken
    exact account.preserved taken

end WireAccount

/-- The socket takes a leading part of what `poll_write` accepted. -/
theorem sent_leads_accepted
    [TaskWaker Waker]
    {side : Side}
    {state : Connection Waker}
    (reachable :
      Reachable (step side) (fun start => start = initial) state) :
    state.sent <+: (acceptedBuffers state.write.results).flatten := by
  have wire := WireAccount.of_reachable reachable
  have ordered :=
    (WriteSide.WriteAccount.of_reachable (write_reachable reachable)).ordered
  refine wire.leading.trans ?_
  rw [← ordered, List.flatten_append]
  exact List.prefix_append _ _

/-- No step takes back what the socket took. -/
theorem Transition.sent_grows
    [TaskWaker Waker]
    {side : Side}
    {state following : Connection Waker}
    {action : Action Waker}
    (transition : Transition side state action following) :
    state.sent <+: following.sent := by
  cases transition with
  | socketAccepts count head rest _ _ =>
      exact List.prefix_append _ _
  | _ =>
      exact List.prefix_rfl

end Connection

namespace Duplex

/-- What has arrived at one end is a leading part of what the other end sent. -/
def Arrived
    (side : Side)
    (state : Duplex Waker) :
    Prop :=
  (state.endpoint side).read.committed <+: (state.endpoint side.peer).sent

/-- The network adds, drops and reorders nothing. -/
theorem arrived_of_reachable
    [TaskWaker Waker]
    {allowed : Duplex Waker → Side × Connection.Action Waker → Prop}
    {state : Duplex Waker}
    (reachable :
      ReachableWhile step allowed (fun start => start = initial) state)
    (side : Side) :
    state.Arrived side := by
  refine reachable.invariant_from ?_ ?_
  · simp [Arrived, Connection.initial, ReadSide.initial]
  · intro before after action _ arrived _ taken
    obtain ⟨mover, action⟩ := action
    unfold Arrived at arrived ⊢
    rcases endpoints_of_step taken side with
      ⟨_, permitted, moved, same⟩ | ⟨_, moved, same⟩
    · rw [same]
      rcases Connection.read_of_step moved with
        sameRead | ⟨readAction, isRead, change⟩
      · rw [sameRead]
        exact arrived
      · subst action
        rcases change.stream_cases with
          ⟨bytes, isData, grown, _⟩ | ⟨sameBytes, _⟩
        · subst readAction
          rw [grown]
          simpa [Connection.permits] using permitted
        · rw [sameBytes]
          exact arrived
    · rw [same]
      exact arrived.trans
        (Connection.Transition.of_step moved).sent_grows

/-- What the reader at one end has got is a leading part of what was accepted. -/
theorem returned_leads_accepted
    [TaskWaker Waker]
    {allowed : Duplex Waker → Side × Connection.Action Waker → Prop}
    {state : Duplex Waker}
    (reachable :
      ReachableWhile step allowed (fun start => start = initial) state)
    (side : Side) :
    returnedBytes (state.endpoint side).read.polls <+:
      (acceptedBuffers (state.endpoint side.peer).write.results).flatten := by
  have account :=
    ReadSide.StreamAccount.of_reachable
      (Connection.read_reachable (endpoint_reachable reachable side))
  have returned :
      returnedBytes (state.endpoint side).read.polls <+:
        (state.endpoint side).read.committed :=
    ⟨_, account.conserved⟩
  exact (returned.trans (arrived_of_reachable reachable side)).trans
    (Connection.sent_leads_accepted (endpoint_reachable reachable side.peer))

/-- What one direction of the session looks like to its writer and its reader. -/
def stream
    (side : Side)
    (state : Duplex Waker) :
    Pipe UInt8 where
  accepted :=
    (acceptedBuffers (state.endpoint side.peer).write.results).flatten
  delivered := returnedBytes (state.endpoint side).read.polls
  ended :=
    (state.endpoint side).read.polls.any fun record =>
      decide (record.result = .ready [])

/-- A poll that completes delivers its bytes or reports the end, never both. -/
theorem stream_of_poll
    [TaskWaker Waker]
    {side : Side}
    {state following : Duplex Waker}
    {record : PollRecord Waker}
    (reachable : ReachableSession following)
    (completes :
      (following.endpoint side).read.polls =
        record :: (state.endpoint side).read.polls)
    (samePeer :
      following.endpoint side.peer = state.endpoint side.peer) :
    Pipe.Change (stream side state) (stream side following) := by
  have account :=
    ReadSide.StreamAccount.of_reachable
      (Connection.read_reachable (endpoint_reachable reachable side))
  by_cases isEnd : record.result = .ready []
  · refine .finished ?_
    simp [stream, completes, samePeer, returnedBytes, isEnd,
      PollRead.filled]
  · refine .delivered record.result.filled ?_
      (returned_leads_accepted reachable side) ?_
    · simp [stream, completes, samePeer, returnedBytes, isEnd]
    · intro hasEnded
      -- An earlier poll reported the end, so by stickiness this one does too.
      have sticky := account.sticky
      rw [completes, List.pairwise_cons] at sticky
      obtain ⟨earlier, member, earlierEnd⟩ := List.any_eq_true.mp hasEnded
      exact absurd
        (sticky.1 earlier member (of_decide_eq_true earlierEnd)) isEnd

/-- Every step of a session is at most one step of each of its pipes. -/
theorem stream_change
    [TaskWaker Waker]
    {state following : Duplex Waker}
    {action : Side × Connection.Action Waker}
    (reachable : ReachableSession state)
    (taken : state.step action = some following)
    (side : Side) :
    Pipe.Change (stream side state) (stream side following) := by
  obtain ⟨mover, action⟩ := action
  rcases endpoints_of_step taken side with
    ⟨_, _, moved, samePeer⟩ | ⟨_, moved, same⟩
  · rcases Connection.read_of_step moved with
      sameRead | ⟨readAction, _, change⟩
    · exact .none (by simp [stream, samePeer, sameRead])
    · rcases change.polls_grow with samePolls | ⟨record, completes⟩
      · exact .none (by simp [stream, samePeer, samePolls])
      · exact stream_of_poll (reachable.next trivial taken) completes
          samePeer
  · rcases Connection.write_of_step moved with
      sameWrite | ⟨writeAction, change⟩
    · exact .none (by simp [stream, same, sameWrite])
    · obtain ⟨buffers, grown⟩ := change.accepted_grows
      refine .accepted buffers.flatten ?_
      simp [stream, same, grown]

/-- From any reachable session on, each direction runs as its pipe does. -/
theorem stream_follows
    [TaskWaker Waker]
    {state later : Duplex Waker}
    (reachable : ReachableSession state)
    (follows : Later step state later)
    (side : Side) :
    Later Pipe.step (stream side state) (stream side later) := by
  refine follows.project (stream side) ?_ ?_
  · intro start isState
    rw [isState]
  · intro before after action earlier taken
    exact (stream_change (reachable.trans earlier) taken side).matched

/--
Each direction of a session is a FIFO pipe, in every interleaving of the two
owners, the two loop threads and the network: what `poll_read` returns at one end
is at every moment a leading part of what `poll_write` accepted at the other, it
only grows, and after a reported end it stays as it is.
-/
theorem session_refines_pipes
    [TaskWaker Waker]
    {state : Duplex Waker}
    (reachable : ReachableSession state)
    (side : Side) :
    Reachable Pipe.step (fun start => start = .empty) (stream side state) ∧
      returnedBytes (state.endpoint side).read.polls <+:
        (acceptedBuffers
          (state.endpoint side.peer).write.results).flatten ∧
      ∀ later, Later step state later →
        returnedBytes (state.endpoint side).read.polls <+:
            returnedBytes (later.endpoint side).read.polls ∧
          ((∃ record ∈ (state.endpoint side).read.polls,
              record.result = .ready []) →
            returnedBytes (later.endpoint side).read.polls =
              returnedBytes (state.endpoint side).read.polls) := by
  have refined :
      Reachable Pipe.step (fun start => start = .empty)
        (stream side state) := by
    refine reachable.project (stream side) ?_ ?_
    · intro start isInitial
      subst start
      simp [stream, Connection.initial, ReadSide.initial,
        WriteSide.initial, acceptedBuffers, returnedBytes, Pipe.empty]
    · intro before after action earlier taken
      exact (stream_change earlier taken side).matched
  refine ⟨refined, Pipe.delivered_prefix refined, ?_⟩
  intro later follows
  have run := stream_follows reachable follows side
  refine ⟨Pipe.delivered_grows refined run, ?_⟩
  rintro ⟨record, member, isEnd⟩
  refine (Pipe.delivered_frozen ?_ run).2
  exact List.any_eq_true.mpr ⟨record, member, decide_eq_true isEnd⟩

/-- The client writes three bytes, and two of them leave before it shuts down. -/
def writeThenShutDown : List (Side × Connection.Action Nat) :=
  [(.client, .read .setReadWaker),
    (.client, .write (.pollWrite [1, 2, 3])),
    (.client, .write .writerStep), (.client, .write .writerStep),
    (.client, .runTask), (.client, .socketAccepts 2),
    (.server, .read (.getReadBuffer 65536 true)),
    (.server, .read (.readDataAvailable [1])),
    (.server, .read .callbackStep), (.server, .read .callbackStep),
    (.server, .read .callbackStep), (.server, .read .callbackStep),
    (.server, .read .setReadWaker), (.server, .read (.pollRead 7 8)),
    (.server, .read .readerStep), (.server, .read .readerStep),
    (.client, .socketAccepts 1), (.client, .writeSuccess),
    (.client, .closeCall .pollShutdown true), (.client, .closerStep),
    (.client, .runTask), (.client, .closerStep), (.client, .closerStep),
    (.client, .loopExit)]

/-- The client of that run, about to return from its shutdown. -/
def shuttingDownClient : Connection Nat :=
  { (Connection.initial : Connection Nat) with
    read := { ReadSide.initial with readWaker := true }
    write :=
      { WriteSide.initial with
        callerBuffer := [1, 2, 3]
        chains := [[1, 2, 3]]
        callbacks := [.finished]
        results :=
          [{ buffer := [1, 2, 3]
             errorAtCall := false
             result := .ready 3 }] }
    transport := .closing
    sent := [1, 2, 3]
    succeeded := [[1, 2, 3]]
    loopRunning := false
    terminateRequested := true
    closeSignalled := true
    closer := .joining .pollShutdown
    terminations := 1 }

/-- The session after that run, with one byte read. -/
def shuttingDownSession : Duplex Nat where
  client := shuttingDownClient
  server :=
    { (Connection.initial : Connection Nat) with
      read :=
        { (ReadSide.initial : ReadSide Nat) with
          readWaker := true
          slot := some 7
          committed := [1]
          polls := [{ waker := 7, mark := 0, result := .ready [1] }] } }

theorem session_refines_pipes_sample :
    run? step initial writeThenShutDown = some shuttingDownSession ∧
      returnedBytes (shuttingDownSession.endpoint .server).read.polls <+:
        (acceptedBuffers
          (shuttingDownSession.endpoint .client).write.results).flatten := by
  have performed :
      run? step initial writeThenShutDown = some shuttingDownSession := by
    decide
  exact ⟨performed,
    (session_refines_pipes
      (reachable_of_run? (.start rfl) performed) .server).2.1⟩

end Duplex

end FizzRs
