import FizzRs.AblationEcho
import Mathlib.Algebra.Group.Nat.Defs
import Mathlib.Data.List.Flatten

namespace FizzRs

open FifoPipe
open LabelledSystem

/-!
# The echo tasks complete

In each direction the bytes under way are part of one stream: the client's batch
as often as there are rounds.  Where a task stands says how much of it the task
has still to write and still to read.  From this follows that the two tasks never
wait for each other, whatever the limits of the stream and the sizes of the
pieces, and that neither of them sees the other one leave too early.

An error of the stream ends one task.  The other one is then not left waiting
either: it reads the end of the file, or its write fails.
-/

namespace AblationEcho

/-- The batches of some rounds. -/
def batches
    (buf : List UInt8)
    (rounds : Nat) :
    List UInt8 :=
  (List.replicate rounds buf).flatten

theorem length_batches
    (buf : List UInt8)
    (rounds : Nat) :
    (batches buf rounds).length = rounds * buf.length := by
  simp [batches]

theorem batches_succ
    (buf : List UInt8)
    (rounds : Nat) :
    batches buf (rounds + 1) = buf ++ batches buf rounds := by
  simp [batches, List.replicate_succ]

namespace Task

/-- The bytes that the task has still to write. -/
def toWrite
    (buf : List UInt8)
    (task : Task) :
    List UInt8 :=
  match task.role, task.pc with
  | _, .write rest => rest ++ batches buf task.left
  | _, .flush => batches buf task.left
  | .client, .read _ => batches buf task.left
  | .server, .read _ => buf ++ batches buf task.left
  | _, _ => []

/-- The bytes that the task has still to read. -/
def toRead
    (buf : List UInt8)
    (task : Task) :
    List UInt8 :=
  match task.role, task.pc with
  | _, .read got => buf.drop got.length ++ batches buf task.left
  | .client, .write _ => buf ++ batches buf task.left
  | .client, .flush => buf ++ batches buf task.left
  | .server, .write _ => batches buf task.left
  | .server, .flush => batches buf task.left
  | _, _ => []

/-- The task has flushed all it wrote. -/
def hasFlushed (task : Task) : Bool :=
  match task.pc with
  | .read _ => true
  | .done => true
  | _ => false

/-- The task has not failed, and what it read is the beginning of a batch. -/
structure Sound
    (buf : List UInt8)
    (task : Task) :
    Prop where
  unfailed : task.pc.isFailed = false
  got : ∀ {got}, task.pc = .read got → got <+: buf

@[simp]
theorem toWrite_enter
    (buf : List UInt8)
    (role : Role)
    (left : Nat) :
    (enter buf role left).toWrite buf = batches buf left := by
  cases left with
  | zero =>
      cases role <;> rfl
  | succ left =>
      rw [batches_succ]
      cases role <;> rfl

@[simp]
theorem toRead_enter
    (buf : List UInt8)
    (role : Role)
    (left : Nat) :
    (enter buf role left).toRead buf = batches buf left := by
  cases left with
  | zero =>
      cases role <;> rfl
  | succ left =>
      rw [batches_succ]
      cases role <;> rfl

theorem sound_enter
    (buf : List UInt8)
    (role : Role)
    (left : Nat) :
    (enter buf role left).Sound buf := by
  cases left with
  | zero =>
      exact ⟨rfl, nofun⟩
  | succ left =>
      cases role with
      | client =>
          exact ⟨rfl, nofun⟩
      | server =>
          refine ⟨rfl, ?_⟩
          intro got isGot
          cases isGot
          exact List.nil_prefix

@[simp]
theorem role_enter
    (buf : List UInt8)
    (role : Role)
    (left : Nat) :
    (enter buf role left).role = role := by
  cases left <;> rfl

section Positions

variable {buf : List UInt8} {task : Task}

theorem toWrite_of_write
    {rest : List UInt8}
    (atWrite : task.pc = .write rest) :
    task.toWrite buf = rest ++ batches buf task.left := by
  cases isRole : task.role <;> simp [toWrite, isRole, atWrite]

theorem toWrite_of_flush
    (atFlush : task.pc = .flush) :
    task.toWrite buf = batches buf task.left := by
  cases isRole : task.role <;> simp [toWrite, isRole, atFlush]

theorem toRead_of_read
    {got : List UInt8}
    (atRead : task.pc = .read got) :
    task.toRead buf = buf.drop got.length ++ batches buf task.left := by
  cases isRole : task.role <;> simp [toRead, isRole, atRead]

theorem toWrite_of_done
    (atDone : task.pc = .done) :
    task.toWrite buf = [] := by
  cases isRole : task.role <;> simp [toWrite, isRole, atDone]

theorem toRead_of_done
    (atDone : task.pc = .done) :
    task.toRead buf = [] := by
  cases isRole : task.role <;> simp [toRead, isRole, atDone]

/-- A flush changes nothing of what is still to be done. -/
theorem afterFlush_keeps
    (atFlush : task.pc = .flush) :
    (task.afterFlush buf).role = task.role ∧
      (task.afterFlush buf).toWrite buf = task.toWrite buf ∧
      (task.afterFlush buf).toRead buf = task.toRead buf ∧
      (task.afterFlush buf).Sound buf := by
  rw [toWrite_of_flush atFlush]
  unfold afterFlush
  cases isRole : task.role with
  | client =>
      refine ⟨rfl, ?_, ?_, rfl, ?_⟩
      · simp [toWrite]
      · simp [toRead, isRole, atFlush]
      · intro got isGot
        cases isGot
        exact List.nil_prefix
  | server =>
      have unread : task.toRead buf = batches buf task.left := by
        simp [toRead, isRole, atFlush]
      rw [unread]
      exact ⟨by simp, by simp, by simp, sound_enter buf .server task.left⟩

/-- Nor does it change anything to have read a whole batch. -/
theorem afterRead_keeps
    {got : List UInt8}
    (sound : task.Sound buf)
    (atRead : task.pc = .read got)
    (isFull : buf.length ≤ got.length) :
    (task.afterRead buf got).role = task.role ∧
      (task.afterRead buf got).toWrite buf = task.toWrite buf ∧
      (task.afterRead buf got).toRead buf = task.toRead buf ∧
      (task.afterRead buf got).Sound buf := by
  have isBatch : got = buf :=
    (sound.got atRead).eq_of_length_le isFull
  subst isBatch
  rw [toRead_of_read atRead]
  unfold afterRead
  cases isRole : task.role with
  | client =>
      have written : task.toWrite got = batches got task.left := by
        simp [toWrite, isRole, atRead]
      rw [written]
      exact ⟨by simp, by simp, by simp, sound_enter got .client task.left⟩
  | server =>
      refine ⟨rfl, ?_, ?_, rfl, nofun⟩
      · simp [toWrite, isRole, atRead]
      · simp [toRead]

end Positions

end Task

/--
One direction of the stream: the pipe carries the batches, what was sent lies
between what was read and what was written, and a writer that has flushed has
nothing in its buffer unless the kernel sends it.
-/
structure Flow
    (limits : Limits)
    (buf stream : List UInt8)
    (writer reader : Task)
    (channel : Channel) :
    Prop where
  carries :
    channel.pipe.Carries stream (writer.toWrite buf) (reader.toRead buf)
  readSent : channel.pipe.delivered.length ≤ channel.sent
  sentWritten : channel.sent ≤ channel.pipe.accepted.length
  flushed :
    limits.sendsItself = false → writer.hasFlushed = true →
      channel.sent = channel.pipe.accepted.length

namespace Flow

variable {limits : Limits}
variable {buf stream : List UInt8}
variable {writer reader other : Task}
variable {channel : Channel}

/-- The writer may move on without writing. -/
theorem of_writer
    (flow : Flow limits buf stream writer reader channel)
    (same : other.toWrite buf = writer.toWrite buf)
    (flushed :
      limits.sendsItself = false → other.hasFlushed = true →
        channel.sent = channel.pipe.accepted.length) :
    Flow limits buf stream other reader channel where
  carries := by
    rw [same]
    exact flow.carries
  readSent := flow.readSent
  sentWritten := flow.sentWritten
  flushed := flushed

/-- The reader may move on without reading. -/
theorem of_reader
    (flow : Flow limits buf stream writer reader channel)
    (same : other.toRead buf = reader.toRead buf) :
    Flow limits buf stream writer other channel where
  carries := by
    rw [same]
    exact flow.carries
  readSent := flow.readSent
  sentWritten := flow.sentWritten
  flushed := flow.flushed

/-- The stream takes the next bytes. -/
theorem write
    (flow : Flow limits buf stream writer reader channel)
    {bytes : List UInt8}
    (next : writer.toWrite buf = bytes ++ other.toWrite buf)
    (unflushed : other.hasFlushed = false) :
    Flow limits buf stream other reader (channel.write bytes) where
  carries := flow.carries.accept next
  readSent := flow.readSent
  sentWritten := by
    have sentWritten := flow.sentWritten
    simp only [Channel.write, List.length_append]
    omega
  flushed := by
    rw [unflushed]
    exact fun _ => nofun

/-- The stream sends some of what it took. -/
theorem push
    (flow : Flow limits buf stream writer reader channel)
    {count : Nat}
    (some : count ≤ channel.buffered)
    (unflushed :
      limits.sendsItself = false → writer.hasFlushed = false) :
    Flow limits buf stream writer reader (channel.push count) where
  carries := flow.carries
  readSent := by
    have readSent := flow.readSent
    simp only [Channel.push]
    omega
  sentWritten := by
    have sentWritten := flow.sentWritten
    simp only [Channel.buffered] at some
    simp only [Channel.push]
    omega
  flushed := by
    intro polled hasFlushed
    rw [unflushed polled] at hasFlushed
    cases hasFlushed

/-- What is on the wire was written. -/
theorem available
    (flow : Flow limits buf stream writer reader channel)
    {count : Nat}
    (some : count ≤ channel.inFlight) :
    channel.pipe.delivered.length + count ≤ channel.sent ∧
      channel.sent ≤ channel.pipe.accepted.length := by
  have readSent := flow.readSent
  have sentWritten := flow.sentWritten
  simp only [Channel.inFlight] at some
  omega

/-- A writer that has flushed has sent all, or the kernel has. -/
theorem sent_eq
    (flow : Flow limits buf stream writer reader channel)
    (hasFlushed : writer.hasFlushed = true)
    (allSent : limits.sendsItself = true → channel.buffered = 0) :
    channel.sent = channel.pipe.accepted.length := by
  have sentWritten := flow.sentWritten
  by_cases sendsItself : limits.sendsItself = true
  · have nothing := allSent sendsItself
    simp only [Channel.buffered] at nothing
    omega
  · exact flow.flushed (by simpa using sendsItself) hasFlushed

/-- The next bytes on the wire are the next ones to be read. -/
theorem front_eq
    (flow : Flow limits buf stream writer reader channel)
    {count : Nat}
    (some : count ≤ channel.inFlight) :
    channel.front count = (reader.toRead buf).take count := by
  obtain ⟨arrived, written⟩ := flow.available some
  rw [Channel.front, flow.carries.take_eq (Nat.le_trans arrived written),
    List.drop_left]

/-- The reader takes the next bytes. -/
theorem read
    (flow : Flow limits buf stream writer reader channel)
    {count : Nat}
    (some : count ≤ channel.inFlight)
    (next : other.toRead buf = (reader.toRead buf).drop count) :
    Flow limits buf stream writer other (channel.read count) where
  carries := by
    obtain ⟨arrived, written⟩ := flow.available some
    rw [next]
    exact flow.carries.deliver (Nat.le_trans arrived written)
  readSent := by
    obtain ⟨arrived, _⟩ := flow.available some
    simp only [Channel.read, List.length_take]
    omega
  sentWritten := flow.sentWritten
  flushed := flow.flushed

/-- What is still to be written and read tells how much is under way. -/
theorem length_eq
    (flow : Flow limits buf stream writer reader channel) :
    channel.pipe.accepted.length + (writer.toWrite buf).length =
      channel.pipe.delivered.length + (reader.toRead buf).length :=
  flow.carries.length_eq

end Flow

/-- The account of one task and its stream. -/
structure Task.Account
    (limits : Limits)
    (buf stream : List UInt8)
    (task peer : Task)
    (output input : Channel) :
    Prop where
  sound : task.Sound buf
  output : Flow limits buf stream task peer output
  input : Flow limits buf stream peer task input

namespace Task.Account

variable {limits : Limits}
variable {buf stream : List UInt8}
variable {peer task : Task}
variable {output input : Channel}

/-- `poll_write` takes some bytes. -/
theorem accept
    (account : task.Account limits buf stream peer output input)
    {rest : List UInt8}
    (atWrite : task.pc = .write rest)
    (count : Nat) :
    Account limits buf stream { task with pc := .write (rest.drop count) } peer
      (output.write (rest.take count)) input where
  sound := ⟨rfl, nofun⟩
  output := by
    refine account.output.write ?_ rfl
    rw [toWrite_of_write atWrite, toWrite_of_write rfl,
      ← List.append_assoc, List.take_append_drop]
  input := by
    refine account.input.of_reader ?_
    cases isRole : task.role <;> simp [toRead, isRole, atWrite]

/-- `poll_read` gives some bytes. -/
theorem deliver
    (account : task.Account limits buf stream peer output input)
    {got : List UInt8}
    {count : Nat}
    (atRead : task.pc = .read got)
    (arrived : count ≤ input.inFlight)
    (fits : got.length + count ≤ buf.length) :
    Account limits buf stream
      { task with pc := .read (got ++ input.front count) } peer output
      (input.read count) := by
  have enough : count ≤ (buf.drop got.length).length := by
    rw [List.length_drop]
    omega
  have front : input.front count = (buf.drop got.length).take count := by
    rw [account.input.front_eq arrived, toRead_of_read atRead,
      List.take_append_of_le_length enough]
  have longer : (got ++ input.front count).length = got.length + count := by
    rw [List.length_append, front, List.length_take]
    omega
  constructor
  · refine ⟨rfl, ?_⟩
    intro other isOther
    cases isOther
    have beginning : buf.take got.length = got :=
      (List.prefix_iff_eq_take.mp (account.sound.got atRead)).symm
    rw [front, ← beginning, List.length_take,
      Nat.min_eq_left (by omega), ← List.take_add]
    exact List.take_prefix _ _
  · refine account.output.of_writer ?_ ?_
    · cases isRole : task.role <;> simp [toWrite, isRole, atRead]
    · intro polled _
      exact account.output.flushed polled (by simp [hasFlushed, atRead])
  · refine account.input.read arrived ?_
    rw [toRead_of_read atRead, toRead_of_read rfl, longer,
      List.drop_append_of_le_length enough, List.drop_drop]

/-- `flush` returns. -/
theorem afterFlush
    (account : task.Account limits buf stream peer output input)
    (atFlush : task.pc = .flush)
    (isEmpty : output.buffered = 0 ∨ limits.sendsItself = true) :
    (task.afterFlush buf).Account limits buf stream peer output input := by
  obtain ⟨_, sameWrite, sameRead, sound⟩ :=
    afterFlush_keeps atFlush
  refine ⟨sound, account.output.of_writer sameWrite ?_,
    account.input.of_reader sameRead⟩
  intro polled _
  have sentWritten := account.output.sentWritten
  simp only [Channel.buffered, polled, Bool.false_eq_true, or_false]
    at isEmpty
  omega

/-- `write_all` returns. -/
theorem written
    (account : task.Account limits buf stream peer output input)
    (atWrite : task.pc = .write []) :
    Account limits buf stream { task with pc := .flush } peer output input where
  sound := ⟨rfl, nofun⟩
  output := by
    refine account.output.of_writer ?_ (fun _ => nofun)
    rw [toWrite_of_write atWrite, toWrite_of_flush rfl]
    rfl
  input := by
    refine account.input.of_reader ?_
    cases isRole : task.role <;> simp [toRead, isRole, atWrite]

/-- `read_exact` returns. -/
theorem filled
    (account : task.Account limits buf stream peer output input)
    {got : List UInt8}
    (atRead : task.pc = .read got)
    (isFull : buf.length ≤ got.length) :
    (task.afterRead buf got).Account limits buf stream peer output input := by
  obtain ⟨_, sameWrite, sameRead, sound⟩ :=
    afterRead_keeps account.sound atRead isFull
  refine ⟨sound, account.output.of_writer sameWrite ?_,
    account.input.of_reader sameRead⟩
  intro polled _
  exact account.output.flushed polled (by simp [hasFlushed, atRead])

/-- A peer that has gone left nothing unread behind that is still to come. -/
theorem not_endOfFile
    (account : task.Account limits buf stream peer output input)
    {got : List UInt8}
    (atRead : task.pc = .read got)
    (isShort : got.length < buf.length)
    (isEmpty : input.inFlight = 0)
    (allSent : limits.sendsItself = true → input.buffered = 0)
    (peerDone : peer.pc = .done) :
    False := by
  have size := account.input.length_eq
  have sentWritten := account.input.sentWritten
  have flushed :=
    account.input.sent_eq (by simp [hasFlushed, peerDone]) allSent
  have readSent := account.input.readSent
  rw [toWrite_of_done peerDone, toRead_of_read atRead] at size
  simp only [List.length_append, List.length_drop, List.length_nil]
    at size
  simp only [Channel.inFlight] at isEmpty
  omega

/-- Nobody writes to a peer that has gone. -/
theorem not_broken
    (account : task.Account limits buf stream peer output input)
    (sending : task.sendsInto output = true)
    (peerDone : peer.pc = .done) :
    False := by
  have size := account.output.length_eq
  have readSent := account.output.readSent
  have sentWritten := account.output.sentWritten
  rw [toRead_of_done peerDone] at size
  simp only [List.length_nil] at size
  unfold sendsInto at sending
  split at sending
  · next rest atWrite =>
      have notEmpty : rest ≠ [] := by simpa using sending
      have someLeft := List.length_pos_iff.mpr notEmpty
      rw [toWrite_of_write atWrite, List.length_append] at size
      omega
  · next atFlush =>
      have buffered : output.buffered ≠ 0 := by simpa using sending
      simp only [Channel.buffered] at buffered
      omega
  · cases sending

/-- No event but a fault of the stream ends the account of a task. -/
theorem preserved
    {event : Event}
    {following : Task}
    {outputAfter inputAfter : Channel}
    (account : task.Account limits buf stream peer output input)
    (peerSound : peer.Sound buf)
    (notFault : event.isFault = false)
    (transition :
      Transition limits buf peer.pc.isEnded task output input event
        following outputAfter inputAfter) :
    following.role = task.role ∧
      following.Account limits buf stream peer outputAfter inputAfter := by
  have peerDone : peer.pc.isEnded = true → peer.pc = .done := by
    intro isEnded
    have unfailed := peerSound.unfailed
    cases atPc : peer.pc <;> simp_all [Pc.isEnded, Pc.isFailed]
  cases transition with
  | accept atWrite _ _ =>
      exact ⟨rfl, account.accept atWrite _⟩
  | push sending _ some =>
      have unflushed :
          limits.sendsItself = false → task.hasFlushed = false := by
        intro polled
        cases atPc : task.pc <;> simp_all [sends, hasFlushed]
      exact ⟨rfl, account.sound, account.output.push some unflushed,
        account.input⟩
  | flushed atFlush isEmpty =>
      exact ⟨(afterFlush_keeps atFlush).1,
        account.afterFlush atFlush isEmpty⟩
  | deliver atRead _ arrived fits =>
      exact ⟨rfl, account.deliver atRead arrived fits⟩
  | written atWrite =>
      exact ⟨rfl, account.written atWrite⟩
  | filled atRead isFull =>
      exact ⟨(afterRead_keeps account.sound atRead isFull).1,
        account.filled atRead isFull⟩
  | endOfFile atRead isShort isEmpty allSent isEnded =>
      exact
        (account.not_endOfFile atRead isShort isEmpty allSent
          (peerDone isEnded)).elim
  | broken sending isEnded =>
      exact (account.not_broken sending (peerDone isEnded)).elim
  | fault waits =>
      cases notFault

end Task.Account

/-- The account of two tasks that have not failed. -/
structure Account
    (limits : Limits)
    (buf : List UInt8)
    (rounds : Nat)
    (state : Echo) :
    Prop where
  clientRole : state.client.role = .client
  serverRole : state.server.role = .server
  client :
    state.client.Account limits buf (batches buf rounds) state.server
      state.toServer state.toClient
  server :
    state.server.Account limits buf (batches buf rounds) state.client
      state.toClient state.toServer

namespace Account

variable {limits : Limits}
variable {buf : List UInt8}
variable {rounds : Nat}
variable {state following : Echo}

/-- Both tasks have everything before them. -/
theorem initially
    (limits : Limits)
    (buf : List UInt8)
    (rounds : Nat) :
    Account limits buf rounds (.initial buf rounds) := by
  have flow :
      ∀ writer reader,
        Flow limits buf (batches buf rounds) (.enter buf writer rounds)
          (.enter buf reader rounds) .empty := by
    intro writer reader
    refine ⟨?_, Nat.le_refl 0, Nat.le_refl 0, fun _ _ => rfl⟩
    rw [Task.toWrite_enter, Task.toRead_enter]
    exact Pipe.Carries.ofEmpty (batches buf rounds)
  exact
    { clientRole := Task.role_enter buf .client rounds
      serverRole := Task.role_enter buf .server rounds
      client := ⟨Task.sound_enter buf .client rounds, flow _ _, flow _ _⟩
      server := ⟨Task.sound_enter buf .server rounds, flow _ _, flow _ _⟩ }

/-- No event but a fault of the stream ends the account. -/
theorem preserved
    {event : Event}
    (account : Account limits buf rounds state)
    (notFault : event.isFault = false)
    (transition : Echo.Transition limits buf state event following) :
    Account limits buf rounds following := by
  cases transition with
  | client moves =>
      obtain ⟨sameRole, client⟩ :=
        account.client.preserved account.server.sound notFault moves
      exact
        { clientRole := sameRole.trans account.clientRole
          serverRole := account.serverRole
          client := client
          server := ⟨account.server.sound, client.input, client.output⟩ }
  | server moves =>
      obtain ⟨sameRole, server⟩ :=
        account.server.preserved account.client.sound notFault moves
      exact
        { clientRole := account.clientRole
          serverRole := sameRole.trans account.serverRole
          client := ⟨account.client.sound, server.input, server.output⟩
          server := server }

theorem unfailed
    (account : Account limits buf rounds state) :
    state.failed = false := by
  rw [Echo.failed, account.client.sound.unfailed,
    account.server.sound.unfailed]
  rfl

end Account

/-- A task that has failed stays as it is. -/
theorem Task.Transition.failed_kept
    {limits : Limits}
    {buf : List UInt8}
    {peerEnded : Bool}
    {task following : Task}
    {output input outputAfter inputAfter : Channel}
    {event : Event}
    (transition :
      Transition limits buf peerEnded task output input event following
        outputAfter inputAfter)
    (failed : task.pc.isFailed = true) :
    following.pc.isFailed = true := by
  cases transition with
  | push =>
      exact failed
  | endOfFile =>
      rfl
  | broken =>
      rfl
  | fault =>
      rfl
  | _ atPc =>
      rw [atPc] at failed
      cases failed

/-- Until one of the tasks has failed, the account holds. -/
theorem failed_or_account
    {limits : Limits}
    {buf : List UInt8}
    {rounds : Nat}
    {state : Echo}
    (reachable :
      Reachable (Echo.step limits buf)
        (fun start => start = .initial buf rounds) state) :
    state.failed = true ∨ Account limits buf rounds state := by
  induction reachable with
  | start isInitial =>
      rw [isInitial]
      exact .inr (Account.initially limits buf rounds)
  | @next before after action _ _ taken inductionHypothesis =>
      have transition := Echo.Transition.of_step taken
      rcases inductionHypothesis with failed | account
      · refine .inl ?_
        rw [Echo.failed, Bool.or_eq_true] at failed ⊢
        cases transition with
        | client moves =>
            exact failed.imp_left moves.failed_kept
        | server moves =>
            exact failed.imp_right moves.failed_kept
      · by_cases isFault : action.2.isFault = true
        · refine .inl ?_
          obtain ⟨role, event⟩ := action
          cases event <;> cases isFault
          cases transition with
          | client moves =>
              cases moves
              rfl
          | server moves =>
              cases moves
              exact Bool.or_true _
        · exact .inr (account.preserved (by simpa using isFault) transition)

section Progress

/-- Some event of the task is possible that is no fault of the stream. -/
def Task.CanMove
    (limits : Limits)
    (buf : List UInt8)
    (peerEnded : Bool)
    (task : Task)
    (output input : Channel) :
    Prop :=
  ∃ event,
    event.isFault = false ∧
      (task.step limits buf peerEnded output input event).isSome = true

/-- What a task waits for that cannot move. -/
inductive Task.Blocked
    (buf : List UInt8)
    (task : Task)
    (output input : Channel) :
    Prop where
  | sending :
      task.sendsInto output = true →
      0 < output.inFlight →
      Blocked buf task output input
  | reading {got : List UInt8} :
      task.pc = .read got →
      got.length < buf.length →
      input.inFlight = 0 →
      Blocked buf task output input

namespace Task

variable (limits : Limits)
variable (buf : List UInt8)
variable (peerEnded : Bool)
variable {task : Task}
variable {output : Channel}
variable (input : Channel)

/-- Bytes that the stream holds back can be sent unless the wire is full. -/
theorem canMove_or_full
    (sending : task.sends = true ∨ limits.sendsItself = true)
    (holds : 0 < output.buffered) :
    task.CanMove limits buf peerEnded output input ∨
      0 < output.inFlight := by
  by_cases room : output.inFlight + 1 ≤ limits.wire
  · refine .inl ⟨.push 1, rfl, ?_⟩
    have guard :
        (task.sends ∨ limits.sendsItself) ∧ 0 < 1 ∧
          1 ≤ output.buffered ∧ output.inFlight + 1 ≤ limits.wire :=
      ⟨sending, Nat.zero_lt_one, holds, room⟩
    rw [Task.step, if_pos guard]
    rfl
  · have someWire := limits.wire_pos
    exact .inr (by omega)

/-- A task that has not ended moves, or waits for its peer. -/
theorem canMove_or_blocked
    (running : task.pc.isEnded = false) :
    task.CanMove limits buf peerEnded output input ∨
      task.Blocked buf output input := by
  cases atPc : task.pc with
  | write rest =>
      by_cases isEmpty : rest = []
      · subst isEmpty
        exact .inl ⟨.proceed, rfl, by simp [Task.step, atPc]⟩
      · have sending : task.sends = true := by simp [sends, atPc, isEmpty]
        have someLeft := List.length_pos_iff.mpr isEmpty
        by_cases room : output.buffered + 1 ≤ limits.buffer
        · refine .inl ⟨.accept 1, rfl, ?_⟩
          have guard :
              0 < 1 ∧ 1 ≤ rest.length ∧
                output.buffered + 1 ≤ limits.buffer :=
            ⟨Nat.zero_lt_one, someLeft, room⟩
          simp only [Task.step, atPc]
          rw [if_pos guard]
          rfl
        · have someBuffer := limits.buffer_pos
          have holds : 0 < output.buffered := by omega
          rcases canMove_or_full limits buf peerEnded input (.inl sending)
            holds with moves | isFull
          · exact .inl moves
          · refine .inr (.sending ?_ isFull)
            simp [sendsInto, atPc, isEmpty]
  | flush =>
      by_cases isEmpty : output.buffered = 0
      · exact .inl ⟨.flushed, rfl, by simp [Task.step, atPc, isEmpty]⟩
      · have sending : task.sends = true := by simp [sends, atPc]
        rcases canMove_or_full limits buf peerEnded input (.inl sending)
          (Nat.pos_of_ne_zero isEmpty) with moves | isFull
        · exact .inl moves
        · refine .inr (.sending ?_ isFull)
          simp [sendsInto, atPc, isEmpty]
  | read got =>
      by_cases isFull : buf.length ≤ got.length
      · exact .inl ⟨.proceed, rfl, by simp [Task.step, atPc, isFull]⟩
      · by_cases isEmpty : input.inFlight = 0
        · exact .inr (.reading atPc (by omega) isEmpty)
        · refine .inl ⟨.deliver 1, rfl, ?_⟩
          have guard :
              0 < 1 ∧ 1 ≤ input.inFlight ∧ got.length + 1 ≤ buf.length :=
            ⟨Nat.zero_lt_one, Nat.pos_of_ne_zero isEmpty, by omega⟩
          simp only [Task.step, atPc]
          rw [if_pos guard]
          rfl
  | done =>
      rw [atPc] at running
      cases running
  | failed error =>
      rw [atPc] at running
      cases running

/-- The kernel has bytes to send and an empty wire to send them on. -/
def HeldBack
    (limits : Limits)
    (channel : Channel) :
    Prop :=
  limits.sendsItself = true ∧ channel.buffered ≠ 0 ∧ channel.inFlight = 0

theorem allSent_of_not_heldBack
    {limits : Limits}
    {channel : Channel}
    (noneHeld : ¬HeldBack limits channel)
    (isEmpty : channel.inFlight = 0) :
    limits.sendsItself = true → channel.buffered = 0 := by
  intro sendsItself
  by_cases isSent : channel.buffered = 0
  · exact isSent
  · exact absurd ⟨sendsItself, isSent, isEmpty⟩ noneHeld

/-- It sends them, whatever the task does. -/
theorem canMove_of_heldBack
    (held : HeldBack limits output) :
    task.CanMove limits buf peerEnded output input := by
  obtain ⟨sendsItself, someHeld, isEmpty⟩ := held
  rcases canMove_or_full limits buf peerEnded input (.inr sendsItself)
    (Nat.pos_of_ne_zero someHeld) with moves | isFull
  · exact moves
  · omega

/-- A task whose peer has gone is not left waiting. -/
theorem canMove_of_peerEnded
    (running : task.pc.isEnded = false) :
    task.CanMove limits buf true output input ∨ HeldBack limits input := by
  rcases canMove_or_blocked limits buf true input running with
    moves | blocked
  · exact .inl moves
  · cases blocked with
    | sending sends _ =>
        exact .inl ⟨.broken, rfl, by simp [Task.step, sends]⟩
    | reading atRead isShort isEmpty =>
        by_cases held : HeldBack limits input
        · exact .inr held
        · have allSent := allSent_of_not_heldBack held isEmpty
          refine .inl ⟨.endOfFile, rfl, ?_⟩
          simp only [Task.step, atRead]
          rw [if_pos ⟨isShort, isEmpty, allSent, trivial⟩]
          rfl

end Task

/-- A number of rounds is a number of bytes. -/
theorem mul_apart
    (first second size : Nat) :
    first * size = second * size ∨
      first * size + size ≤ second * size ∨
      second * size + size ≤ first * size := by
  rcases Nat.lt_trichotomy first second with less | same | more
  · have product := Nat.mul_le_mul_right size less
    rw [Nat.succ_mul] at product
    exact .inr (.inl product)
  · exact .inl (by rw [same])
  · have product := Nat.mul_le_mul_right size more
    rw [Nat.succ_mul] at product
    exact .inr (.inr product)

/-- How much a task that is sending has still to do. -/
theorem Task.lengths_of_sending
    (buf : List UInt8)
    {task : Task}
    {output : Channel}
    (sending : task.sendsInto output = true) :
    task.left * buf.length ≤ (task.toWrite buf).length ∧
      (task.role = .client →
        (task.toRead buf).length = buf.length + task.left * buf.length) ∧
      (task.role = .server →
        (task.toRead buf).length = task.left * buf.length) := by
  cases atPc : task.pc with
  | write rest =>
      cases isRole : task.role <;>
        simp [toWrite, toRead, atPc, isRole, length_batches]
  | flush =>
      cases isRole : task.role <;>
        simp [toWrite, toRead, atPc, isRole, length_batches]
  | read got =>
      simp [sendsInto, atPc] at sending
  | done =>
      simp [sendsInto, atPc] at sending
  | failed error =>
      simp [sendsInto, atPc] at sending

namespace Account

variable {limits : Limits}
variable {buf : List UInt8}
variable {rounds : Nat}
variable {state : Echo}

/-- The wires are not full in both directions. -/
theorem not_both_sending
    (account : Account limits buf rounds state)
    (clientSends : state.client.sendsInto state.toServer = true)
    (toServerFull : 0 < state.toServer.inFlight)
    (serverSends : state.server.sendsInto state.toClient = true)
    (toClientFull : 0 < state.toClient.inFlight) :
    False := by
  obtain ⟨clientWrites, clientReads, _⟩ :=
    Task.lengths_of_sending buf clientSends
  obtain ⟨serverWrites, _, serverReads⟩ :=
    Task.lengths_of_sending buf serverSends
  have clientReads := clientReads account.clientRole
  have serverReads := serverReads account.serverRole
  have toServer := account.client.output.length_eq
  have toClient := account.server.output.length_eq
  have sentToServer := account.client.output.sentWritten
  have sentToClient := account.server.output.sentWritten
  simp only [Channel.inFlight] at toServerFull toClientFull
  have apart :=
    mul_apart state.client.left state.server.left buf.length
  omega

/-- The tasks are not both waiting for bytes. -/
theorem not_both_reading
    (account : Account limits buf rounds state)
    {got other : List UInt8}
    (clientReads : state.client.pc = .read got)
    (clientShort : got.length < buf.length)
    (toClientEmpty : state.toClient.inFlight = 0)
    (serverReads : state.server.pc = .read other)
    (serverShort : other.length < buf.length)
    (toServerEmpty : state.toServer.inFlight = 0)
    (noneToServer : ¬Task.HeldBack limits state.toServer)
    (noneToClient : ¬Task.HeldBack limits state.toClient) :
    False := by
  have toServer := account.client.output.length_eq
  have toClient := account.server.output.length_eq
  have sentToServer :=
    account.client.output.sent_eq (by simp [Task.hasFlushed, clientReads])
      (Task.allSent_of_not_heldBack noneToServer toServerEmpty)
  have sentToClient :=
    account.server.output.sent_eq (by simp [Task.hasFlushed, serverReads])
      (Task.allSent_of_not_heldBack noneToClient toClientEmpty)
  have arrivedAtServer := account.client.output.readSent
  have arrivedAtClient := account.server.output.readSent
  simp only [Channel.inFlight] at toServerEmpty toClientEmpty
  simp only [Task.toWrite, Task.toRead, account.clientRole,
    account.serverRole, clientReads, serverReads, List.length_append,
    List.length_drop, length_batches] at toServer toClient
  have apart :=
    mul_apart state.client.left state.server.left buf.length
  omega

end Account

/-- A step of the client. -/
theorem exists_step_of_client
    {limits : Limits}
    {buf : List UInt8}
    {state : Echo}
    (moves :
      state.client.CanMove limits buf state.server.pc.isEnded
        state.toServer state.toClient) :
    ∃ action following,
      action.2.isFault = false ∧
        state.step limits buf action = some following := by
  obtain ⟨event, notFault, isSome⟩ := moves
  obtain ⟨⟨task, output, input⟩, taken⟩ := Option.isSome_iff_exists.mp isSome
  exact ⟨(.client, event), _, notFault, by rw [Echo.step, taken]; rfl⟩

/-- A step of the server. -/
theorem exists_step_of_server
    {limits : Limits}
    {buf : List UInt8}
    {state : Echo}
    (moves :
      state.server.CanMove limits buf state.client.pc.isEnded
        state.toClient state.toServer) :
    ∃ action following,
      action.2.isFault = false ∧
        state.step limits buf action = some following := by
  obtain ⟨event, notFault, isSome⟩ := moves
  obtain ⟨⟨task, output, input⟩, taken⟩ := Option.isSome_iff_exists.mp isSome
  exact ⟨(.server, event), _, notFault, by rw [Echo.step, taken]; rfl⟩

/-- Two tasks that have not failed do not wait for each other. -/
theorem Account.exists_step
    {limits : Limits}
    {buf : List UInt8}
    {rounds : Nat}
    {state : Echo}
    (account : Account limits buf rounds state)
    (clientRuns : state.client.pc.isEnded = false)
    (serverRuns : state.server.pc.isEnded = false) :
    ∃ action following,
      action.2.isFault = false ∧
        state.step limits buf action = some following := by
  rcases Task.canMove_or_blocked limits buf state.server.pc.isEnded
    state.toClient clientRuns with moves | clientBlocked
  · exact exists_step_of_client moves
  rcases Task.canMove_or_blocked limits buf state.client.pc.isEnded
    state.toServer serverRuns with moves | serverBlocked
  · exact exists_step_of_server moves
  by_cases toServerHeld : Task.HeldBack limits state.toServer
  · exact
      exists_step_of_client
        (Task.canMove_of_heldBack limits buf _ _ toServerHeld)
  by_cases toClientHeld : Task.HeldBack limits state.toClient
  · exact
      exists_step_of_server
        (Task.canMove_of_heldBack limits buf _ _ toClientHeld)
  cases clientBlocked with
  | sending clientSends toServerFull =>
      cases serverBlocked with
      | sending serverSends toClientFull =>
          exact
            (account.not_both_sending clientSends toServerFull serverSends
              toClientFull).elim
      | reading _ _ toServerEmpty =>
          omega
  | reading clientReads clientShort toClientEmpty =>
      cases serverBlocked with
      | sending _ toClientFull =>
          omega
      | reading serverReads serverShort toServerEmpty =>
          exact
            (account.not_both_reading clientReads clientShort toClientEmpty
              serverReads serverShort toServerEmpty toServerHeld
              toClientHeld).elim

/-- In every run, whatever failed, some task moves until both have ended. -/
theorem progress
    {limits : Limits}
    {buf : List UInt8}
    {rounds : Nat}
    {state : Echo}
    (reachable :
      Reachable (Echo.step limits buf)
        (fun start => start = .initial buf rounds) state)
    (running : state.ended = false) :
    ∃ action following,
      action.2.isFault = false ∧
        state.step limits buf action = some following := by
  by_cases clientEnded : state.client.pc.isEnded = true
  · have serverRuns : state.server.pc.isEnded = false := by
      simpa [Echo.ended, clientEnded] using running
    rcases Task.canMove_of_peerEnded limits buf state.toServer serverRuns
      with moves | held
    · apply exists_step_of_server
      rw [clientEnded]
      exact moves
    · exact
        exists_step_of_client (Task.canMove_of_heldBack limits buf _ _ held)
  · have clientRuns : state.client.pc.isEnded = false := by
      simpa using clientEnded
    by_cases serverEnded : state.server.pc.isEnded = true
    · rcases Task.canMove_of_peerEnded limits buf state.toClient clientRuns
        with moves | held
      · apply exists_step_of_client
        rw [serverEnded]
        exact moves
      · exact
          exists_step_of_server
            (Task.canMove_of_heldBack limits buf _ _ held)
    · have serverRuns : state.server.pc.isEnded = false := by
        simpa using serverEnded
      rcases failed_or_account reachable with failed | account
      · cases clientPc : state.client.pc <;>
          cases serverPc : state.server.pc <;>
            simp_all [Echo.failed, Pc.isFailed, Pc.isEnded]
      · exact account.exists_step clientRuns serverRuns

end Progress

section Work

/-- The events of a whole round, at most. -/
def roundWork (buf : List UInt8) : Nat :=
  3 * buf.length + 3

/-- How many events a task has before it, at most; bytes to write count twice. -/
def Task.work
    (buf : List UInt8)
    (task : Task) :
    Nat :=
  match task.role, task.pc with
  | .client, .write rest =>
      task.left * roundWork buf + 2 * rest.length + buf.length + 3
  | .client, .flush => task.left * roundWork buf + buf.length + 2
  | .client, .read got =>
      task.left * roundWork buf + (buf.length - got.length) + 1
  | .server, .read got =>
      task.left * roundWork buf + (buf.length - got.length) +
        2 * buf.length + 3
  | .server, .write rest => task.left * roundWork buf + 2 * rest.length + 2
  | .server, .flush => task.left * roundWork buf + 1
  | _, _ => 0

/-- The work of both tasks, and the bytes that the streams hold back. -/
def Echo.work
    (buf : List UInt8)
    (state : Echo) :
    Nat :=
  state.client.work buf + state.server.work buf +
    state.toServer.buffered + state.toClient.buffered

theorem Task.work_enter
    (buf : List UInt8)
    (role : Role)
    (left : Nat) :
    (enter buf role left).work buf = left * roundWork buf := by
  cases left with
  | zero =>
      cases role <;> simp [enter, work]
  | succ left =>
      rw [Nat.succ_mul]
      cases role <;> simp [enter, firstPc, work, roundWork] <;> omega

/-- The buffer of a task holds what was read, and its stream sends what it took. -/
structure Task.Bounded
    (buf : List UInt8)
    (task : Task)
    (output : Channel) :
    Prop where
  got : ∀ {got}, task.pc = .read got → got.length ≤ buf.length
  sent : output.sent ≤ output.pipe.accepted.length

theorem Task.bounded_enter
    (buf : List UInt8)
    (role : Role)
    (left : Nat)
    {output : Channel}
    (sent : output.sent ≤ output.pipe.accepted.length) :
    (enter buf role left).Bounded buf output := by
  refine ⟨?_, sent⟩
  intro got atRead
  exact ((sound_enter buf role left).got atRead).length_le

namespace Task.Transition

variable {limits : Limits}
variable {buf : List UInt8}
variable {peerEnded : Bool}
variable {task following : Task}
variable {output input outputAfter inputAfter : Channel}
variable {event : Event}

/-- Reading leaves what was written and sent as it is. -/
theorem input_kept
    (transition :
      Transition limits buf peerEnded task output input event following
        outputAfter inputAfter) :
    inputAfter.sent = input.sent ∧
      inputAfter.pipe.accepted = input.pipe.accepted := by
  cases transition <;> exact ⟨rfl, rfl⟩

/-- Both bounds are kept, also when the task fails. -/
theorem bounded
    (transition :
      Transition limits buf peerEnded task output input event following
        outputAfter inputAfter)
    (bounded : task.Bounded buf output) :
    following.Bounded buf outputAfter := by
  have sent := bounded.sent
  cases transition with
  | accept atWrite _ _ =>
      refine ⟨nofun, ?_⟩
      simp only [Channel.write, List.length_append]
      omega
  | push _ _ some =>
      refine ⟨bounded.got, ?_⟩
      simp only [Channel.buffered] at some
      simp only [Channel.push]
      omega
  | flushed atFlush _ =>
      unfold afterFlush
      cases task.role with
      | client =>
          refine ⟨?_, sent⟩
          intro got atRead
          cases atRead
          exact Nat.zero_le _
      | server =>
          exact bounded_enter buf .server task.left sent
  | @deliver got count atRead _ _ fits =>
      refine ⟨?_, sent⟩
      intro other isOther
      cases isOther
      have short : (input.front count).length ≤ count := by
        rw [Channel.front, List.length_drop, List.length_take]
        omega
      rw [List.length_append]
      omega
  | written atWrite =>
      exact ⟨nofun, sent⟩
  | filled atRead _ =>
      unfold afterRead
      cases task.role with
      | client =>
          exact bounded_enter buf .client task.left sent
      | server =>
          exact ⟨nofun, sent⟩
  | endOfFile _ _ _ _ =>
      exact ⟨nofun, sent⟩
  | broken _ _ =>
      exact ⟨nofun, sent⟩
  | fault _ =>
      exact ⟨nofun, sent⟩

/-- A task that waits for its stream has work. -/
theorem work_fail_lt
    (error : EchoError)
    (waits : task.awaits buf = true) :
    (task.fail error).work buf < task.work buf := by
  have nothing : (task.fail error).work buf = 0 := by
    cases isRole : task.role <;> simp [fail, work, isRole]
  rw [nothing]
  cases atPc : task.pc <;> cases isRole : task.role <;>
    simp_all [awaits, work]

/-- Every event is one less to come. -/
theorem work_lt
    (transition :
      Transition limits buf peerEnded task output input event following
        outputAfter inputAfter)
    (bounded : task.Bounded buf output)
    (inputSent : input.sent ≤ input.pipe.accepted.length) :
    following.work buf + outputAfter.buffered <
      task.work buf + output.buffered := by
  cases transition with
  | @accept rest count atWrite isSome enough =>
      have grows :
          (output.write (rest.take count)).buffered ≤
            output.buffered + count := by
        simp only [Channel.write, Channel.buffered, List.length_append,
          List.length_take]
        omega
      cases isRole : task.role <;>
        simp only [work, isRole, atWrite, List.length_drop] <;> omega
  | @push count _ isSome some =>
      have shrinks :
          (output.push count).buffered + count = output.buffered := by
        simp only [Channel.push, Channel.buffered] at some ⊢
        omega
      omega
  | flushed atFlush _ =>
      unfold afterFlush
      cases isRole : task.role with
      | client =>
          simp only [work, isRole, atFlush, List.length_nil]
          omega
      | server =>
          rw [work_enter]
          simp only [work, isRole, atFlush]
          omega
  | @deliver got count atRead isSome arrived fits =>
      have whole : (input.front count).length = count := by
        simp only [Channel.inFlight] at arrived
        rw [Channel.front, List.length_drop, List.length_take]
        omega
      cases isRole : task.role <;>
        simp only [work, isRole, atRead, List.length_append, whole] <;>
        omega
  | written atWrite =>
      cases isRole : task.role <;>
        simp only [work, isRole, atWrite, List.length_nil] <;> omega
  | @filled got atRead isFull =>
      have fits := bounded.got atRead
      unfold afterRead
      cases isRole : task.role with
      | client =>
          rw [work_enter]
          simp only [work, isRole, atRead]
          omega
      | server =>
          simp only [work, isRole, atRead]
          omega
  | endOfFile atRead isShort _ _ =>
      have less :=
        work_fail_lt .unexpectedEof
          (by simp [awaits, atRead, isShort] : task.awaits buf = true)
      omega
  | broken sending _ =>
      have waits : task.awaits buf = true := by
        cases atPc : task.pc <;> simp_all [awaits, sendsInto]
      have less := work_fail_lt .brokenPipe waits
      omega
  | @fault error waits =>
      have less := work_fail_lt error waits
      omega

end Task.Transition

/-- In every run both tasks are within their bounds. -/
structure Echo.Bounded
    (buf : List UInt8)
    (state : Echo) :
    Prop where
  client : state.client.Bounded buf state.toServer
  server : state.server.Bounded buf state.toClient

theorem Echo.Bounded.preserved
    {limits : Limits}
    {buf : List UInt8}
    {state following : Echo}
    {event : Event}
    (bounded : state.Bounded buf)
    (transition : Echo.Transition limits buf state event following) :
    following.Bounded buf := by
  cases transition with
  | client moves =>
      obtain ⟨sameSent, sameAccepted⟩ := moves.input_kept
      refine ⟨moves.bounded bounded.client, bounded.server.got, ?_⟩
      rw [sameSent, sameAccepted]
      exact bounded.server.sent
  | server moves =>
      obtain ⟨sameSent, sameAccepted⟩ := moves.input_kept
      refine ⟨⟨bounded.client.got, ?_⟩, moves.bounded bounded.server⟩
      rw [sameSent, sameAccepted]
      exact bounded.client.sent

theorem Echo.Bounded.of_reachable
    {limits : Limits}
    {buf : List UInt8}
    {rounds : Nat}
    {state : Echo}
    (reachable :
      Reachable (Echo.step limits buf)
        (fun start => start = .initial buf rounds) state) :
    state.Bounded buf := by
  refine reachable.invariant_from ?_ ?_
  · exact ⟨Task.bounded_enter buf .client rounds (Nat.le_refl 0),
      Task.bounded_enter buf .server rounds (Nat.le_refl 0)⟩
  · intro before after action _ bounded _ taken
    exact bounded.preserved (.of_step taken)

/-- Every step leaves less to do. -/
theorem work_lt
    {limits : Limits}
    {buf : List UInt8}
    {state following : Echo}
    {event : Event}
    (bounded : state.Bounded buf)
    (transition : Echo.Transition limits buf state event following) :
    following.work buf < state.work buf := by
  cases transition with
  | client moves =>
      obtain ⟨sameSent, sameAccepted⟩ := moves.input_kept
      have less := moves.work_lt bounded.client bounded.server.sent
      simp only [Echo.work, Channel.buffered, sameSent, sameAccepted]
        at less ⊢
      omega
  | server moves =>
      obtain ⟨sameSent, sameAccepted⟩ := moves.input_kept
      have less := moves.work_lt bounded.server bounded.client.sent
      simp only [Echo.work, Channel.buffered, sameSent, sameAccepted]
        at less ⊢
      omega

end Work

section Exchange

variable {buf : List UInt8}
variable {rounds : Nat}
variable {state : Echo}

/-- A pipe that carries a stream has delivered a beginning of it. -/
theorem delivered_prefix_batches
    {stream : List UInt8}
    {writer reader : Task}
    {channel : Channel}
    (flow : Flow limits buf stream writer reader channel) :
    channel.pipe.delivered <+: stream :=
  ⟨_, flow.carries.delivered⟩

/-- The server writes nothing that it has not read. -/
theorem Account.server_echoes
    (account : Account limits buf rounds state) :
    state.toClient.pipe.accepted <+: state.toServer.pipe.delivered := by
  have written := account.server.output.carries.accepted
  have read := account.client.output.carries.delivered
  have behind :
      (state.server.toRead buf).length ≤
        (state.server.toWrite buf).length := by
    cases atPc : state.server.pc <;>
      simp [Task.toRead, Task.toWrite, account.serverRole, atPc]
  have sizes := congrArg List.length (written.trans read.symm)
  rw [List.length_append, List.length_append] at sizes
  exact
    List.prefix_of_prefix_length_le ⟨_, written⟩ ⟨_, read⟩ (by omega)

/-- The client is at most one batch ahead of what it has read back. -/
theorem Account.client_ahead
    (account : Account limits buf rounds state) :
    state.toServer.pipe.accepted.length ≤
      state.toClient.pipe.delivered.length + buf.length := by
  have written := account.client.output.carries.accepted
  have read := account.server.output.carries.delivered
  have ahead :
      (state.client.toRead buf).length ≤
        (state.client.toWrite buf).length + buf.length := by
    cases atPc : state.client.pc <;>
      simp [Task.toRead, Task.toWrite, account.clientRole, atPc] <;> omega
  have sizes := congrArg List.length (written.trans read.symm)
  rw [List.length_append, List.length_append] at sizes
  omega

/-- Two tasks that have returned without an error have exchanged all batches. -/
theorem Account.exchanged
    (account : Account limits buf rounds state)
    (ended : state.ended = true) :
    state.toServer.pipe.delivered = batches buf rounds ∧
      state.toClient.pipe.delivered = batches buf rounds := by
  have clientDone : state.client.pc = .done := by
    have unfailed := account.client.sound.unfailed
    cases atPc : state.client.pc <;>
      simp_all [Echo.ended, Pc.isEnded, Pc.isFailed]
  have serverDone : state.server.pc = .done := by
    have unfailed := account.server.sound.unfailed
    cases atPc : state.server.pc <;>
      simp_all [Echo.ended, Pc.isEnded, Pc.isFailed]
  have toServer := account.client.output.carries.delivered
  have toClient := account.server.output.carries.delivered
  rw [Task.toRead_of_done serverDone, List.append_nil] at toServer
  rw [Task.toRead_of_done clientDone, List.append_nil] at toClient
  exact ⟨toServer, toClient⟩

end Exchange

/--
Whatever the limits of the stream, the sizes of the pieces and the order of
events: until both tasks have returned some event is possible that is no fault of
the stream, every event leaves less to do, and as long as no task has failed the
server returns what it has read, the client is at most one batch ahead, and when
both have returned all batches have gone both ways.  Without a fault of the
stream no task fails.
-/
theorem echo_completes
    (limits : Limits)
    (buf : List UInt8)
    (rounds : Nat) :
    (∀ state,
      Reachable (Echo.step limits buf)
          (fun start => start = .initial buf rounds) state →
        (state.ended = false →
          ∃ action following,
            action.2.isFault = false ∧
              state.step limits buf action = some following) ∧
        (∀ action following,
          state.step limits buf action = some following →
            following.work buf < state.work buf) ∧
        (state.failed = false →
          state.toClient.pipe.delivered <+: state.toClient.pipe.accepted ∧
          state.toClient.pipe.accepted <+:
            state.toServer.pipe.delivered ∧
          state.toServer.pipe.delivered <+: batches buf rounds ∧
          state.toServer.pipe.accepted.length ≤
            state.toClient.pipe.delivered.length + buf.length ∧
          (state.ended = true →
            state.toServer.pipe.delivered = batches buf rounds ∧
              state.toClient.pipe.delivered = batches buf rounds))) ∧
    ∀ state,
      ReachableWhile (Echo.step limits buf)
          (fun _ action => action.2.isFault = false)
          (fun start => start = .initial buf rounds) state →
        state.failed = false := by
  constructor
  · intro state reachable
    refine ⟨progress reachable, ?_, ?_⟩
    · intro action following taken
      exact work_lt (Echo.Bounded.of_reachable reachable) (.of_step taken)
    · intro unfailed
      rcases failed_or_account reachable with failed | account
      · rw [unfailed] at failed
        cases failed
      · refine ⟨?_, account.server_echoes,
          delivered_prefix_batches account.client.output,
          account.client_ahead, account.exchanged⟩
        have readSent := account.server.output.readSent
        have sentWritten := account.server.output.sentWritten
        exact
          List.prefix_of_prefix_length_le
            (delivered_prefix_batches account.server.output)
            ⟨_, account.server.output.carries.accepted⟩
            (Nat.le_trans readSent sentWritten)
  · intro state reachable
    have account : Account limits buf rounds state := by
      refine reachable.invariant_from (Account.initially limits buf rounds) ?_
      intro before after action _ account notFault taken
      exact account.preserved notFault (.of_step taken)
    exact account.unfailed

/-- A stream that holds back one byte, on a wire for one byte. -/
def narrowLimits : Limits where
  buffer := 1
  wire := 1
  sendsItself := false
  buffer_pos := Nat.zero_lt_one
  wire_pos := Nat.zero_lt_one

/-- One round with two bytes, byte by byte. -/
def narrowSchedule : List (Role × Event) :=
  [(.client, .accept 1), (.client, .push 1), (.server, .deliver 1),
    (.client, .accept 1), (.client, .proceed), (.client, .push 1),
    (.client, .flushed), (.server, .deliver 1), (.server, .proceed),
    (.server, .accept 1), (.server, .push 1), (.client, .deliver 1),
    (.server, .accept 1), (.server, .proceed), (.server, .push 1),
    (.server, .flushed), (.client, .deliver 1), (.client, .proceed)]

/-- A channel that everything has passed. -/
def passed (bytes : List UInt8) : Channel where
  pipe :=
    { accepted := bytes
      delivered := bytes
      ended := false }
  sent := bytes.length

/-- Both tasks have returned. -/
def narrowEnd : Echo where
  client := { role := .client, left := 0, pc := .done }
  server := { role := .server, left := 0, pc := .done }
  toServer := passed [0x5a, 0x5a]
  toClient := passed [0x5a, 0x5a]

theorem echo_completes_sample :
    narrowEnd.failed = false ∧
      narrowEnd.toClient.pipe.delivered = batches [0x5a, 0x5a] 1 := by
  have performed :
      run?
          (restrict (Echo.step narrowLimits [0x5a, 0x5a])
            (fun _ action => !action.2.isFault))
          (.initial [0x5a, 0x5a] 1) narrowSchedule = some narrowEnd := by
    decide
  have reached :
      ReachableWhile (Echo.step narrowLimits [0x5a, 0x5a])
        (fun _ action => (!action.2.isFault) = true)
        (fun start => start = .initial [0x5a, 0x5a] 1) narrowEnd :=
    reachableWhile_of_run? (.start rfl) performed
  obtain ⟨anyRun, faultless⟩ := echo_completes narrowLimits [0x5a, 0x5a] 1
  have unfailed : narrowEnd.failed = false := by
    refine faultless narrowEnd (reached.weaken ?_)
    intro state action notFault
    simpa using notFault
  obtain ⟨_, _, exchanged⟩ :=
    anyRun narrowEnd (reached.weaken fun _ => trivial)
  obtain ⟨_, _, _, _, atEnd⟩ := exchanged unfailed
  exact ⟨unfailed, (atEnd rfl).2⟩

end AblationEcho

end FizzRs
