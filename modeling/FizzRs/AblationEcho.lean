import FizzRs.FifoPipe

namespace FizzRs

open FifoPipe
open LabelledSystem

/-!
# The echo tasks of the ablation benchmark

`echo_client` and `echo_serve` are written against any stream.  All they use is
`write_all`, `flush` and `read_exact`, which are loops around polls that take or
give some of the bytes.  A stream may keep what it took in a buffer, and what was
sent takes up room on the wire until the peer reads it.

There are two kinds of streams here.  A rustls stream writes its buffer out while
it is polled, and its `flush` waits until the buffer is empty.  The buffer of a
TCP socket is the kernel's, which sends by itself, also when the socket has been
closed, and `flush` returns at once.  A Fizz connection is of neither kind: what
its loop has not sent when it is dropped is lost.

A task that returns drops its stream.  The peer then reads what was sent and the
end of the file behind it, and its own writes fail.
-/

namespace AblationEcho

/-- The two programs. -/
inductive Role where
  | client
  | server
  deriving Repr, DecidableEq

/--
How much a stream holds back and how much the wire holds, in bytes, and whether
the stream sends without being polled.
-/
structure Limits where
  buffer : Nat
  wire : Nat
  sendsItself : Bool
  buffer_pos : 0 < buffer
  wire_pos : 0 < wire
  deriving Repr, DecidableEq

/-- One direction of a stream: what was written, sent and read. -/
structure Channel where
  pipe : Pipe UInt8
  sent : Nat
  deriving Repr, DecidableEq

namespace Channel

/-- Nothing was written. -/
def empty : Channel where
  pipe := .empty
  sent := 0

/-- Bytes in the buffer of the writer. -/
def buffered (channel : Channel) : Nat :=
  channel.pipe.accepted.length - channel.sent

/-- Bytes on the wire. -/
def inFlight (channel : Channel) : Nat :=
  channel.sent - channel.pipe.delivered.length

/-- The writer's buffer takes some bytes. -/
def write
    (channel : Channel)
    (bytes : List UInt8) :
    Channel :=
  { channel with
    pipe := { channel.pipe with
      accepted := channel.pipe.accepted ++ bytes } }

/-- Some bytes leave the writer's buffer. -/
def push
    (channel : Channel)
    (count : Nat) :
    Channel :=
  { channel with sent := channel.sent + count }

/-- The next bytes on the wire. -/
def front
    (channel : Channel)
    (count : Nat) :
    List UInt8 :=
  (channel.pipe.accepted.take
    (channel.pipe.delivered.length + count)).drop
      channel.pipe.delivered.length

/-- The reader takes some bytes off the wire. -/
def read
    (channel : Channel)
    (count : Nat) :
    Channel :=
  { channel with
    pipe := { channel.pipe with
      delivered :=
        channel.pipe.accepted.take
          (channel.pipe.delivered.length + count) } }

/-- The reader is told that the peer has gone. -/
def finish (channel : Channel) : Channel :=
  { channel with pipe := { channel.pipe with ended := true } }

end Channel

/-- Why a task ends with an error. -/
inductive EchoError where
  | writeZero
  | unexpectedEof
  | brokenPipe
  | other (what : String)
  deriving Repr, DecidableEq

/--
Where a task stands: in `write_all` with the bytes that are left, in `flush`, in
`read_exact` with the bytes it has, or at its end.
-/
inductive Pc where
  | write (rest : List UInt8)
  | flush
  | read (got : List UInt8)
  | done
  | failed (error : EchoError)
  deriving Repr, DecidableEq

/-- The future has returned. -/
def Pc.isEnded : Pc → Bool
  | .done => true
  | .failed _ => true
  | _ => false

/-- The future has returned an error. -/
def Pc.isFailed : Pc → Bool
  | .failed _ => true
  | _ => false

/-- A task, with the number of rounds behind the present one. -/
structure Task where
  role : Role
  left : Nat
  pc : Pc
  deriving Repr, DecidableEq

namespace Task

/-- The first operation of a round. -/
def firstPc
    (buf : List UInt8) :
    Role → Pc
  | .client => .write buf
  | .server => .read []

/-- Enter the loop `for _ in 0..rounds`. -/
def enter
    (buf : List UInt8)
    (role : Role) :
    Nat → Task
  | 0 => { role := role, left := 0, pc := .done }
  | left + 1 => { role := role, left := left, pc := firstPc buf role }

/-- `read_exact` has filled the buffer. -/
def afterRead
    (buf : List UInt8)
    (task : Task)
    (got : List UInt8) :
    Task :=
  match task.role with
  | .client => enter buf .client task.left
  | .server => { task with pc := .write got }

/-- `flush` has returned. -/
def afterFlush
    (buf : List UInt8)
    (task : Task) :
    Task :=
  match task.role with
  | .client => { task with pc := .read [] }
  | .server => enter buf .server task.left

/-- The task waits for its stream. -/
def awaits
    (buf : List UInt8)
    (task : Task) :
    Bool :=
  match task.pc with
  | .write rest => rest ≠ []
  | .flush => true
  | .read got => got.length < buf.length
  | _ => false

/-- The task polls its stream for writing, or flushes it. -/
def sends (task : Task) : Bool :=
  match task.pc with
  | .write rest => rest ≠ []
  | .flush => true
  | _ => false

/-- What the task has in hand cannot be delivered to a peer that has gone. -/
def sendsInto
    (output : Channel)
    (task : Task) :
    Bool :=
  match task.pc with
  | .write rest => rest ≠ []
  | .flush => output.buffered ≠ 0
  | _ => false

/-- The future returns an error. -/
def fail
    (task : Task)
    (error : EchoError) :
    Task :=
  { task with pc := .failed error }

end Task

/-- What happens to a task. -/
inductive Event where
  | accept (count : Nat)
  | push (count : Nat)
  | flushed
  | deliver (count : Nat)
  | proceed
  | endOfFile
  | broken
  | fault (error : EchoError)
  deriving Repr, DecidableEq

/-- The stream fails for no reason of the two programs. -/
def Event.isFault : Event → Bool
  | .fault _ => true
  | _ => false

/--
One event of a task with the two directions of its stream.  What a stream has not
sent that is dropped is lost, unless the kernel sends it.
-/
def Task.step
    (limits : Limits)
    (buf : List UInt8)
    (peerEnded : Bool)
    (task : Task)
    (output input : Channel) :
    Event → Option (Task × Channel × Channel)
  | .accept count =>
      match task.pc with
      | .write rest =>
          if 0 < count ∧ count ≤ rest.length ∧
              output.buffered + count ≤ limits.buffer then
            some ({ task with pc := .write (rest.drop count) },
              output.write (rest.take count), input)
          else
            none
      | _ => none
  | .push count =>
      if (task.sends ∨ limits.sendsItself) ∧ 0 < count ∧
          count ≤ output.buffered ∧
          output.inFlight + count ≤ limits.wire then
        some (task, output.push count, input)
      else
        none
  | .flushed =>
      if task.pc = .flush ∧
          (output.buffered = 0 ∨ limits.sendsItself) then
        some (task.afterFlush buf, output, input)
      else
        none
  | .deliver count =>
      match task.pc with
      | .read got =>
          if 0 < count ∧ count ≤ input.inFlight ∧
              got.length + count ≤ buf.length then
            some ({ task with pc := .read (got ++ input.front count) },
              output, input.read count)
          else
            none
      | _ => none
  | .proceed =>
      match task.pc with
      | .write [] => some ({ task with pc := .flush }, output, input)
      | .read got =>
          if buf.length ≤ got.length then
            some (task.afterRead buf got, output, input)
          else
            none
      | _ => none
  | .endOfFile =>
      match task.pc with
      | .read got =>
          if got.length < buf.length ∧ input.inFlight = 0 ∧
              (limits.sendsItself → input.buffered = 0) ∧ peerEnded then
            some (task.fail .unexpectedEof, output, input.finish)
          else
            none
      | _ => none
  | .broken =>
      if task.sendsInto output ∧ peerEnded then
        some (task.fail .brokenPipe, output, input)
      else
        none
  | .fault error =>
      if task.awaits buf then
        some (task.fail error, output, input)
      else
        none

/-- The events of a task, with their conditions and what they change. -/
inductive Task.Transition
    (limits : Limits)
    (buf : List UInt8)
    (peerEnded : Bool)
    (task : Task)
    (output input : Channel) :
    Event → Task → Channel → Channel → Prop where
  | accept {rest : List UInt8} {count : Nat} :
      task.pc = .write rest →
      0 < count →
      count ≤ rest.length →
      Transition limits buf peerEnded task output input (.accept count)
        { task with pc := .write (rest.drop count) }
        (output.write (rest.take count)) input
  | push {count : Nat} :
      (task.sends = true ∨ limits.sendsItself = true) →
      0 < count →
      count ≤ output.buffered →
      Transition limits buf peerEnded task output input (.push count) task
        (output.push count) input
  | flushed :
      task.pc = .flush →
      (output.buffered = 0 ∨ limits.sendsItself = true) →
      Transition limits buf peerEnded task output input .flushed
        (task.afterFlush buf) output input
  | deliver {got : List UInt8} {count : Nat} :
      task.pc = .read got →
      0 < count →
      count ≤ input.inFlight →
      got.length + count ≤ buf.length →
      Transition limits buf peerEnded task output input (.deliver count)
        { task with pc := .read (got ++ input.front count) } output
        (input.read count)
  | written :
      task.pc = .write [] →
      Transition limits buf peerEnded task output input .proceed
        { task with pc := .flush } output input
  | filled {got : List UInt8} :
      task.pc = .read got →
      buf.length ≤ got.length →
      Transition limits buf peerEnded task output input .proceed
        (task.afterRead buf got) output input
  | endOfFile {got : List UInt8} :
      task.pc = .read got →
      got.length < buf.length →
      input.inFlight = 0 →
      (limits.sendsItself = true → input.buffered = 0) →
      peerEnded = true →
      Transition limits buf peerEnded task output input .endOfFile
        (task.fail .unexpectedEof) output input.finish
  | broken :
      task.sendsInto output = true →
      peerEnded = true →
      Transition limits buf peerEnded task output input .broken
        (task.fail .brokenPipe) output input
  | fault {error : EchoError} :
      task.awaits buf = true →
      Transition limits buf peerEnded task output input (.fault error)
        (task.fail error) output input

/-- Every event is one of these. -/
theorem Task.Transition.of_step
    {limits : Limits}
    {buf : List UInt8}
    {peerEnded : Bool}
    {task following : Task}
    {output input outputAfter inputAfter : Channel}
    {event : Event}
    (taken :
      task.step limits buf peerEnded output input event =
        some (following, outputAfter, inputAfter)) :
    Transition limits buf peerEnded task output input event following
      outputAfter inputAfter := by
  cases event with
  | accept count =>
      simp only [Task.step] at taken
      split at taken
      · next rest atWrite =>
          split at taken
          · next guard =>
              cases taken
              exact .accept atWrite guard.1 guard.2.1
          · cases taken
      · cases taken
  | push count =>
      simp only [Task.step] at taken
      split at taken
      · next guard =>
          cases taken
          exact .push guard.1 guard.2.1 guard.2.2.1
      · cases taken
  | flushed =>
      simp only [Task.step] at taken
      split at taken
      · next guard =>
          cases taken
          exact .flushed guard.1 guard.2
      · cases taken
  | deliver count =>
      simp only [Task.step] at taken
      split at taken
      · next got atRead =>
          split at taken
          · next guard =>
              cases taken
              exact .deliver atRead guard.1 guard.2.1 guard.2.2
          · cases taken
      · cases taken
  | proceed =>
      simp only [Task.step] at taken
      split at taken
      · next atWrite =>
          cases taken
          exact .written atWrite
      · next got atRead =>
          split at taken
          · next isFull =>
              cases taken
              exact .filled atRead isFull
          · cases taken
      · cases taken
  | endOfFile =>
      simp only [Task.step] at taken
      split at taken
      · next got atRead =>
          split at taken
          · next guard =>
              cases taken
              exact
                .endOfFile atRead guard.1 guard.2.1 guard.2.2.1 guard.2.2.2
          · cases taken
      · cases taken
  | broken =>
      simp only [Task.step] at taken
      split at taken
      · next guard =>
          cases taken
          exact .broken guard.1 guard.2
      · cases taken
  | fault error =>
      simp only [Task.step] at taken
      split at taken
      · next waits =>
          cases taken
          exact .fault waits
      · cases taken

/-- A client task and a server task on the two ends of a stream. -/
structure Echo where
  client : Task
  server : Task
  toServer : Channel
  toClient : Channel
  deriving Repr, DecidableEq

namespace Echo

/-- Both tasks have been given their stream. -/
def initial
    (buf : List UInt8)
    (rounds : Nat) :
    Echo where
  client := .enter buf .client rounds
  server := .enter buf .server rounds
  toServer := .empty
  toClient := .empty

/-- One event of one of the tasks. -/
def step
    (limits : Limits)
    (buf : List UInt8)
    (state : Echo) :
    Role × Event → Option Echo
  | (.client, event) =>
      (state.client.step limits buf state.server.pc.isEnded state.toServer
        state.toClient event).map fun (task, output, input) =>
          { state with client := task, toServer := output, toClient := input }
  | (.server, event) =>
      (state.server.step limits buf state.client.pc.isEnded state.toClient
        state.toServer event).map fun (task, output, input) =>
          { state with server := task, toClient := output, toServer := input }

/-- A step is an event of one of the tasks, with the other one as its peer. -/
inductive Transition
    (limits : Limits)
    (buf : List UInt8)
    (state : Echo) :
    Event → Echo → Prop where
  | client {event : Event} {task : Task} {output input : Channel} :
      Task.Transition limits buf state.server.pc.isEnded state.client
        state.toServer state.toClient event task output input →
      Transition limits buf state event
        { state with client := task, toServer := output, toClient := input }
  | server {event : Event} {task : Task} {output input : Channel} :
      Task.Transition limits buf state.client.pc.isEnded state.server
        state.toClient state.toServer event task output input →
      Transition limits buf state event
        { state with server := task, toClient := output, toServer := input }

theorem Transition.of_step
    {limits : Limits}
    {buf : List UInt8}
    {state following : Echo}
    {action : Role × Event}
    (taken : state.step limits buf action = some following) :
    Transition limits buf state action.2 following := by
  obtain ⟨role, event⟩ := action
  cases role with
  | client =>
      obtain ⟨⟨task, output, input⟩, moves, rfl⟩ :=
        Option.map_eq_some_iff.mp taken
      exact .client (.of_step moves)
  | server =>
      obtain ⟨⟨task, output, input⟩, moves, rfl⟩ :=
        Option.map_eq_some_iff.mp taken
      exact .server (.of_step moves)

/-- Both futures have returned. -/
def ended (state : Echo) : Bool :=
  state.client.pc.isEnded && state.server.pc.isEnded

/-- One of the futures has returned an error. -/
def failed (state : Echo) : Bool :=
  state.client.pc.isFailed || state.server.pc.isFailed

end Echo

end AblationEcho

end FizzRs
