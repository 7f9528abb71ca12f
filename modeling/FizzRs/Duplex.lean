import FizzRs.FifoPipe
import FizzRs.CloseRepeatable

namespace FizzRs

open LabelledSystem FifoPipe

/-!
# Two connections joined by the network

A client connection and a server connection with the two directions of one TLS
session between them.  The record layer and the transport below it are modelled
by what they promise: what one end's socket took reaches the other end unchanged
and in order, cut into pieces at will and with any delay, unless the session
breaks.

Three events end the stream that one end reads.  The peer finished sending and
everything it sent has arrived; the connection's own transport is being closed,
which reports `readEOF` to its own read callback; or the session broke, which is
`readErr`.  Only the first of them promises that nothing is missing, and
`poll_read` reports all three in the same way.
-/

/-- The other end of the session. -/
def Side.peer : Side → Side
  | .client => .server
  | .server => .client

@[simp] theorem Side.peer_peer
    (side : Side) :
    side.peer.peer = side := by
  cases side <;> rfl

theorem Side.ne_peer
    (side : Side) :
    side ≠ side.peer := by
  cases side <;> decide

theorem Side.eq_or_eq_peer
    (side other : Side) :
    other = side ∨ other = side.peer := by
  cases side <;> cases other <;> simp [peer]

namespace Connection

/--
Nothing more will leave this end: its transport is closed, its loop has stopped,
or it is closing and everything it was given has been written out.
-/
def finishedSending (state : Connection Waker) : Bool :=
  match state.transport with
  | .closed => true
  | .closing => state.pending.isEmpty || !state.loopRunning
  | .live => !state.loopRunning

/-- What the session lets happen at `reader`, when `writer` is the other end. -/
def permits
    (reader writer : Connection Waker) :
    Action Waker → Bool
  | .read (.readDataAvailable bytes) =>
      decide (reader.read.committed ++ bytes <+: writer.sent)
  | .read .readEOF =>
      decide (reader.transport ≠ .live) ||
        (decide (reader.read.committed = writer.sent) &&
          writer.finishedSending)
  | _ => true

end Connection

/-- The two ends of one session. -/
structure Duplex (Waker : Type) where
  client : Connection Waker
  server : Connection Waker
  deriving Repr, DecidableEq

namespace Duplex

/-- The connection at one end. -/
def endpoint
    (state : Duplex Waker) :
    Side → Connection Waker
  | .client => state.client
  | .server => state.server

/-- The session with one end replaced. -/
def replace
    (state : Duplex Waker)
    (side : Side)
    (connection : Connection Waker) :
    Duplex Waker :=
  match side with
  | .client => { state with client := connection }
  | .server => { state with server := connection }

@[simp] theorem endpoint_replace
    (state : Duplex Waker)
    (side : Side)
    (connection : Connection Waker) :
    (state.replace side connection).endpoint side = connection := by
  cases side <;> rfl

@[simp] theorem endpoint_peer_replace
    (state : Duplex Waker)
    (side : Side)
    (connection : Connection Waker) :
    (state.replace side connection).endpoint side.peer =
      state.endpoint side.peer := by
  cases side <;> rfl

/-- Both handshakes have just succeeded. -/
def initial : Duplex Waker where
  client := .initial
  server := .initial

@[simp] theorem endpoint_initial
    (side : Side) :
    (initial : Duplex Waker).endpoint side = .initial := by
  cases side <;> rfl

/-- One atomic step of one end. -/
def step
    [TaskWaker Waker]
    (state : Duplex Waker) :
    Side × Connection.Action Waker → Option (Duplex Waker)
  | (side, action) =>
      if (state.endpoint side).permits (state.endpoint side.peer)
          action = true then
        ((state.endpoint side).step side action).map (state.replace side)
      else
        none

/-- A session reached by some run. -/
abbrev ReachableSession
    [TaskWaker Waker] :
    Duplex Waker → Prop :=
  Reachable step (fun start => start = initial)

/-- Everything a step can do: one end moves as the session permits. -/
theorem of_step
    [TaskWaker Waker]
    {state following : Duplex Waker}
    {side : Side}
    {action : Connection.Action Waker}
    (taken : state.step (side, action) = some following) :
    ∃ connection,
      (state.endpoint side).permits (state.endpoint side.peer)
          action = true ∧
        (state.endpoint side).step side action = some connection ∧
        following = state.replace side connection := by
  simp only [step] at taken
  split at taken
  · next permitted =>
      obtain ⟨connection, moved, shape⟩ := Option.map_eq_some_iff.mp taken
      exact ⟨connection, permitted, moved, shape.symm⟩
  · cases taken

/-- Seen from one end: it moves and the other stays, or the other way round. -/
theorem endpoints_of_step
    [TaskWaker Waker]
    {state following : Duplex Waker}
    {mover : Side}
    {action : Connection.Action Waker}
    (taken : state.step (mover, action) = some following)
    (side : Side) :
    (mover = side ∧
        (state.endpoint side).permits (state.endpoint side.peer)
          action = true ∧
        (state.endpoint side).step side action =
          some (following.endpoint side) ∧
        following.endpoint side.peer = state.endpoint side.peer) ∨
      (mover = side.peer ∧
        (state.endpoint side.peer).step side.peer action =
          some (following.endpoint side.peer) ∧
        following.endpoint side = state.endpoint side) := by
  obtain ⟨connection, permitted, moved, shape⟩ := of_step taken
  subst following
  rcases Side.eq_or_eq_peer side mover with same | other
  · subst mover
    refine .inl ⟨rfl, permitted, ?_, endpoint_peer_replace _ _ _⟩
    rw [endpoint_replace]
    exact moved
  · subst mover
    refine .inr ⟨rfl, ?_, ?_⟩
    · rw [endpoint_replace]
      exact moved
    · have unchanged := endpoint_peer_replace state side.peer connection
      rwa [Side.peer_peer] at unchanged

/-- Each end of a session is a connection reached by a run of its own. -/
theorem endpoint_reachable
    [TaskWaker Waker]
    {allowed : Duplex Waker → Side × Connection.Action Waker → Prop}
    {state : Duplex Waker}
    (reachable :
      ReachableWhile step allowed (fun start => start = initial) state)
    (side : Side) :
    Reachable (Connection.step side)
      (fun start => start = .initial) (state.endpoint side) := by
  refine reachable.project (fun state => state.endpoint side) ?_ ?_
  · intro start begins
    subst start
    exact endpoint_initial side
  · intro before after action _ taken
    obtain ⟨mover, action⟩ := action
    rcases endpoints_of_step taken side with
      ⟨_, _, moved, _⟩ | ⟨_, _, same⟩
    · exact .inr ⟨action, moved⟩
    · exact .inl same

end Duplex

end FizzRs
