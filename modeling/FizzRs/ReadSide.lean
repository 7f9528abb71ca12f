import FizzRs.LabelledSystem
import FizzRs.ByteChain

namespace FizzRs

/-!
# The read side of a connection

Decrypted bytes travel from the event-loop thread to the task that polls the
connection.  The loop thread delivers `getReadBuffer`, `readDataAvailable`,
`readEOF` and `readErr`; the polling task calls `poll_read`, which registers its
`Waker` and then asks `*_connection_read_or_status`.  The two threads share a
byte queue with its own counter under `read_mutex`, an atomic end-of-stream
flag outside of it, and a `Waker` slot behind `waker_mutex`.

The client and the server connection have the same read side, field by field
and statement by statement, so both are modelled by `ReadSide`.  The machine
advances one lock acquisition or one atomic access at a time.  Every thread has
a program counter, and the observed history (committed bytes, completed polls,
fired wakers) is recorded in fields of its own.
-/

/-- The two threads that contend for the mutexes of a connection. -/
inductive Thread where
  | eventLoop
  | caller
  deriving Repr, DecidableEq

/-- A task `Waker`: `willWake` tells whether two of them wake the same task. -/
class TaskWaker (Waker : Type) where
  willWake : Waker → Waker → Bool

/-- Task numbers as wakers, for concrete schedules. -/
instance : TaskWaker Nat where
  willWake existing waker := existing == waker

/-- The members every data operation tests before it touches the connection. -/
structure ConnectionHeader where
  handshakeComplete : Bool
  transport : Bool
  deriving Repr, DecidableEq

namespace ConnectionHeader

/-- The header of a connection whose handshake succeeded. -/
def established : ConnectionHeader where
  handshakeComplete := true
  transport := true

/--
The two tests at the top of a data operation.  `purpose` is the operation's own
word in the first message.
-/
def rejection?
    (header : ConnectionHeader)
    (purpose : String) :
    Option String :=
  if header.handshakeComplete = false then
    some ("Cannot " ++ purpose ++ ": handshake not complete")
  else if header.transport = false then
    some "No transport available"
  else
    none

@[simp] theorem rejection?_established
    (purpose : String) :
    established.rejection? purpose = none := by
  simp [established, rejection?]

end ConnectionHeader

/-- Outcome of a coalesced read: bytes copied, or whether the peer closed. -/
structure ReadOutcome where
  bytesRead : Nat
  eof : Bool
  deriving Repr, DecidableEq

/--
What `poll_read` returns.  `ready filled` is `Ready(Ok(()))` with the buffer
advanced over `filled`; end of stream is `ready []`.
-/
inductive PollRead where
  | pending
  | ready (filled : List UInt8)
  | failed (message : String)
  deriving Repr, DecidableEq

/-- The queue of decrypted bytes and its separately kept byte count. -/
structure ReadBuffer where
  readBufQueue : ByteChain.Chain UInt8
  bytesRead : Nat
  deriving Repr, DecidableEq

namespace ReadBuffer

/-- The queue of a fresh connection. -/
def empty : ReadBuffer where
  readBufQueue := []
  bytesRead := 0

/-- `postallocate` of the bytes written into the buffer, and `bytesRead += len`. -/
def postallocate
    (fresh : Bool)
    (bytes : List UInt8)
    (buffer : ReadBuffer) :
    ReadBuffer where
  readBufQueue := ByteChain.commit fresh bytes buffer.readBufQueue
  bytesRead := buffer.bytesRead + bytes.length

/--
The critical section of a read that found buffered bytes: split off at most
`capacity` bytes, copy their nodes into the caller's buffer, lower the count.
-/
def take
    (buffer : ReadBuffer)
    (capacity : Nat) :
    Except String (List UInt8 × ReadBuffer) :=
  let toRead := min buffer.bytesRead capacity
  match ByteChain.split buffer.readBufQueue toRead with
  | none =>
      .error "Attempt to remove more bytes than are present in IOBufQueue"
  | some (data, remaining) =>
      .ok (ByteChain.copyNodes capacity data [],
        { readBufQueue := remaining
          bytesRead := buffer.bytesRead - toRead })

/-- The count is the number of bytes that the queue holds. -/
def Counted (buffer : ReadBuffer) : Prop :=
  buffer.bytesRead = buffer.readBufQueue.flatten.length

theorem counted_postallocate
    {buffer : ReadBuffer}
    (counted : buffer.Counted)
    (fresh : Bool)
    (bytes : List UInt8) :
    (buffer.postallocate fresh bytes).Counted := by
  simp only [Counted, postallocate, ByteChain.flatten_commit,
    List.length_append] at counted ⊢
  rw [counted]

/-- A counted buffer hands out exactly its leading bytes and keeps the others. -/
theorem exists_take
    {buffer : ReadBuffer}
    (counted : buffer.Counted)
    (capacity : Nat) :
    ∃ remaining,
      buffer.take capacity =
          .ok (buffer.readBufQueue.flatten.take capacity, remaining) ∧
        remaining.readBufQueue.flatten =
          buffer.readBufQueue.flatten.drop capacity ∧
        remaining.Counted := by
  have count :
      buffer.bytesRead = buffer.readBufQueue.flatten.length := counted
  have enough :
      min buffer.bytesRead capacity ≤
        buffer.readBufQueue.flatten.length := by
    omega
  obtain ⟨data, remaining, splits, dataIs, remainingIs⟩ :=
    ByteChain.exists_split enough
  have dataTake :
      data.flatten = buffer.readBufQueue.flatten.take capacity := by
    rw [dataIs, count, List.take_eq_take_iff]
    omega
  have remainingDrop :
      remaining.flatten = buffer.readBufQueue.flatten.drop capacity := by
    rw [remainingIs, count]
    by_cases short : buffer.readBufQueue.flatten.length ≤ capacity
    · rw [Nat.min_eq_left short, List.drop_length,
        List.drop_of_length_le short]
    · rw [Nat.min_eq_right (Nat.le_of_not_le short)]
  have fits : ([] : List UInt8).length + data.flatten.length ≤ capacity := by
    rw [dataTake, List.length_nil, List.length_take]
    omega
  refine
    ⟨{ readBufQueue := remaining
       bytesRead := buffer.bytesRead - min buffer.bytesRead capacity },
      ?_, remainingDrop, ?_⟩
  · simp [take, splits, ByteChain.copyNodes_of_fits fits, dataTake]
  · simp only [Counted, remainingDrop, List.length_drop, count]
    omega

/-- A read with room that found bytes copies some. -/
theorem take_ne_nil
    {buffer remaining : ReadBuffer}
    {capacity : Nat}
    {copied : List UInt8}
    (counted : buffer.Counted)
    (notEmpty : buffer.bytesRead ≠ 0)
    (roomy : 0 < capacity)
    (takes : buffer.take capacity = .ok (copied, remaining)) :
    copied ≠ [] := by
  obtain ⟨rest, succeeds, _⟩ := exists_take counted capacity
  rw [takes] at succeeds
  cases succeeds
  intro nothing
  have count :
      buffer.bytesRead = buffer.readBufQueue.flatten.length := counted
  rw [List.take_eq_nil_iff] at nothing
  rcases nothing with noRoom | noBytes
  · omega
  · rw [noBytes] at count
    exact notEmpty count

end ReadBuffer

/--
`client_connection_read_or_status` and `server_connection_read_or_status`: the
outcome, the bytes placed at the front of the caller's buffer, and the buffer
that remains.
-/
def readOrStatus
    (header : ConnectionHeader)
    (readEof : Bool)
    (buffer : ReadBuffer)
    (capacity : Nat) :
    Except String (ReadOutcome × List UInt8 × ReadBuffer) :=
  match header.rejection? "read" with
  | some message => .error message
  | none =>
      if buffer.bytesRead = 0 then
        .ok ({ bytesRead := 0, eof := readEof }, [], buffer)
      else
        (buffer.take capacity).map fun (copied, remaining) =>
          ({ bytesRead := copied.length, eof := false }, copied, remaining)

/-- The client's read function. -/
def clientConnectionReadOrStatus := readOrStatus

/-- The server's read function. -/
def serverConnectionReadOrStatus := readOrStatus

/-- How `poll_read` turns the outcome of the foreign call into its result. -/
def PollRead.ofOutcome :
    Except String (ReadOutcome × List UInt8) → PollRead
  | .error message => .failed message
  | .ok (outcome, copied) =>
      if 0 < outcome.bytesRead then
        .ready (copied.take outcome.bytesRead)
      else if outcome.eof then
        .ready []
      else
        .pending

/-- The bytes a poll placed into the caller's buffer. -/
def PollRead.filled : PollRead → List UInt8
  | .ready filled => filled
  | _ => []

/-- Copied bytes are exactly the bytes filled, whether or not there are any. -/
@[simp] theorem PollRead.filled_ofOutcome_copied
    (copied : List UInt8) :
    (PollRead.ofOutcome (.ok
      ({ bytesRead := copied.length, eof := false }, copied))).filled =
        copied := by
  cases copied with
  | nil =>
      rfl
  | cons byte rest =>
      simp [ofOutcome, filled]

/-- A read that found buffered bytes never signals end of stream. -/
theorem PollRead.ofOutcome_copied_ne_end
    (copied : List UInt8) :
    PollRead.ofOutcome (.ok
      ({ bytesRead := copied.length, eof := false }, copied)) ≠
        .ready [] := by
  cases copied with
  | nil =>
      simp [ofOutcome]
  | cons byte rest =>
      simp [ofOutcome]

/-- A read that found no bytes reports the end-of-stream flag. -/
@[simp] theorem PollRead.ofOutcome_empty
    (eof : Bool) :
    PollRead.ofOutcome (.ok ({ bytesRead := 0, eof := eof }, [])) =
      if eof then .ready [] else .pending := by
  simp [ofOutcome]

/-- One `poll_read` in progress: its `Waker`, when it registered, its buffer. -/
structure ReadCall (Waker : Type) where
  waker : Waker
  mark : Nat
  capacity : Nat
  deriving Repr, DecidableEq

/-- One completed `poll_read`. -/
structure PollRecord (Waker : Type) where
  waker : Waker
  mark : Nat
  result : PollRead
  deriving Repr, DecidableEq

/-- All bytes returned by completed polls, given newest poll first. -/
def returnedBytes : List (PollRecord Waker) → List UInt8
  | [] => []
  | latest :: earlier => returnedBytes earlier ++ latest.result.filled

/-- Where the polling task stands inside `poll_read`. -/
inductive ReaderPc (Waker : Type) where
  | idle
  | registered (call : ReadCall Waker)
  | locked (call : ReadCall Waker)
  | sawEmpty (call : ReadCall Waker)
  deriving Repr, DecidableEq

/-- Where the event-loop thread stands inside a read callback. -/
inductive CallbackPc (Waker : Type) where
  | idle
  | bufferHanded (length : Nat) (fresh : Bool)
  | dataCommitted
  | eofStored
  | errRecorded
  | errReleased
  | closeNow
  | wakeReader
  | wakerLocked
  | wakerTaken (taken : Option Waker)
  | wakerFired
  deriving Repr, DecidableEq

namespace CallbackPc

/-- `readEOF` and `readErr` may end an outstanding `getReadBuffer` or come alone. -/
def acceptsEnd : CallbackPc Waker → Bool
  | .idle => true
  | .bufferHanded _ _ => true
  | _ => false

/-- The callback has updated the state and its `wakeReader` has yet to take effect. -/
def owesWake : CallbackPc Waker → Bool
  | .dataCommitted => true
  | .eofStored => true
  | .closeNow => true
  | .wakeReader => true
  | .wakerLocked => true
  | .wakerTaken _ => true
  | _ => false

end CallbackPc

/-- The read-side members of a connection, both threads' positions, the history. -/
structure ReadSide (Waker : Type) where
  readMutex : Option Thread
  pendingRead : Bool
  buffer : ReadBuffer
  readEof : Bool
  errorMessage : String
  wakerMutex : Option Thread
  readWaker : Bool
  slot : Option Waker
  callback : CallbackPc Waker
  reader : ReaderPc Waker
  streamEnded : Bool
  committed : List UInt8
  polls : List (PollRecord Waker)
  wakes : List Waker
  deriving Repr, DecidableEq

/-- `ReadWaker::register`: keep a slot that already wakes this task. -/
def registerWaker
    [TaskWaker Waker]
    (slot : Option Waker)
    (waker : Waker) :
    Option Waker :=
  match slot with
  | some existing =>
      if TaskWaker.willWake existing waker then
        some existing
      else
        some waker
  | none => some waker

namespace ReadSide

/-- The read side when the handshake callback has just called `setReadCB`. -/
def initial : ReadSide Waker where
  readMutex := none
  pendingRead := false
  buffer := .empty
  readEof := false
  errorMessage := ""
  wakerMutex := none
  readWaker := false
  slot := none
  callback := .idle
  reader := .idle
  streamEnded := false
  committed := []
  polls := []
  wakes := []

/-- Events of the two threads, one atomic step each. -/
inductive Action (Waker : Type) where
  | setReadWaker
  | pollRead (waker : Waker) (capacity : Nat)
  | readerStep
  | getReadBuffer (length : Nat) (fresh : Bool)
  | readDataAvailable (bytes : List UInt8)
  | readEOF
  | readErr (message : String)
  | callbackStep
  deriving Repr, DecidableEq

/-- Complete the poll in progress with a result. -/
def complete
    (state : ReadSide Waker)
    (call : ReadCall Waker)
    (result : PollRead) :
    ReadSide Waker :=
  { state with
    reader := .idle
    polls :=
      { waker := call.waker, mark := call.mark, result := result } ::
        state.polls }

/-- Clear `pending_read`, unlocking `read_mutex` if it was set. -/
def releasePending
    (state : ReadSide Waker) :
    ReadSide Waker :=
  { state with
    pendingRead := false
    readMutex := if state.pendingRead then none else state.readMutex }

/-- The next atomic step of a `poll_read` in progress. -/
def readerStep
    (header : ConnectionHeader)
    (state : ReadSide Waker) :
    Option (ReadSide Waker) :=
  match state.reader with
  | .idle => none
  | .registered call =>
      match header.rejection? "read" with
      | some message => some (state.complete call (.failed message))
      | none =>
          if state.readMutex = none then
            some { state with
              readMutex := some .caller
              reader := .locked call }
          else
            none
  | .locked call =>
      if state.buffer.bytesRead = 0 then
        some { state with reader := .sawEmpty call }
      else
        match state.buffer.take call.capacity with
        | .error message =>
            some (({ state with readMutex := none }).complete
              call (.failed message))
        | .ok (copied, remaining) =>
            some (({ state with
                readMutex := none
                buffer := remaining }).complete call
              (PollRead.ofOutcome (.ok
                ({ bytesRead := copied.length, eof := false }, copied))))
  | .sawEmpty call =>
      some (({ state with readMutex := none }).complete call
        (PollRead.ofOutcome (.ok
          ({ bytesRead := 0, eof := state.readEof }, []))))

/-- The next atomic step of a read callback in progress. -/
def callbackStep
    (state : ReadSide Waker) :
    Option (ReadSide Waker) :=
  match state.callback with
  | .idle => none
  | .bufferHanded _ _ => none
  | .dataCommitted =>
      some { state with
        pendingRead := false
        readMutex := none
        callback := .wakeReader }
  | .eofStored =>
      some { state.releasePending with callback := .closeNow }
  | .errRecorded =>
      some { state.releasePending with callback := .errReleased }
  | .errReleased =>
      some { state with readEof := true, callback := .closeNow }
  | .closeNow =>
      some { state with callback := .wakeReader }
  | .wakeReader =>
      if state.wakerMutex = none then
        some { state with
          wakerMutex := some .eventLoop
          callback := .wakerLocked }
      else
        none
  | .wakerLocked =>
      if state.readWaker then
        some { state with
          slot := none
          callback := .wakerTaken state.slot }
      else
        some { state with callback := .wakerFired }
  | .wakerTaken none =>
      some { state with callback := .wakerFired }
  | .wakerTaken (some waker) =>
      some { state with
        wakes := state.wakes ++ [waker]
        callback := .wakerFired }
  | .wakerFired =>
      some { state with wakerMutex := none, callback := .idle }

/--
One atomic step.  The guards are the callback contract: a `getReadBuffer` is
followed by one of the other three callbacks before the next one, and no data
follows an end of stream.
-/
def step
    [TaskWaker Waker]
    (header : ConnectionHeader)
    (state : ReadSide Waker) :
    Action Waker → Option (ReadSide Waker)
  | .setReadWaker =>
      if state.wakerMutex = none ∧ state.readWaker = false then
        some { state with readWaker := true }
      else
        none
  | .pollRead waker capacity =>
      match state.reader, state.readWaker with
      | .idle, true =>
          some { state with
            slot := registerWaker state.slot waker
            reader := .registered
              { waker := waker
                mark := state.wakes.length
                capacity := capacity } }
      | _, _ => none
  | .readerStep => state.readerStep header
  | .getReadBuffer length fresh =>
      match state.callback with
      | .idle =>
          if state.readMutex = none ∧ 40960 ≤ length then
            some { state with
              readMutex := some .eventLoop
              pendingRead := true
              callback := .bufferHanded length fresh }
          else
            none
      | _ => none
  | .readDataAvailable bytes =>
      match state.callback with
      | .bufferHanded length fresh =>
          if bytes.length ≤ length ∧ state.streamEnded = false then
            some { state with
              buffer := state.buffer.postallocate fresh bytes
              committed := state.committed ++ bytes
              callback := .dataCommitted }
          else
            none
      | _ => none
  | .readEOF =>
      if state.callback.acceptsEnd then
        some { state with
          readEof := true
          streamEnded := true
          callback := .eofStored }
      else
        none
  | .readErr message =>
      if state.callback.acceptsEnd then
        some { state with
          errorMessage := message
          streamEnded := true
          callback := .errRecorded }
      else
        none
  | .callbackStep => state.callbackStep

/-- Everything one atomic step can do, with the guards it was taken under. -/
inductive Transition
    [TaskWaker Waker]
    (header : ConnectionHeader)
    (state : ReadSide Waker) :
    Action Waker → ReadSide Waker → Prop where
  | setReadWaker :
      state.readWaker = false →
      Transition header state .setReadWaker { state with readWaker := true }
  | register (waker : Waker) (capacity : Nat) :
      state.reader = .idle →
      state.readWaker = true →
      Transition header state (.pollRead waker capacity) { state with
        slot := registerWaker state.slot waker
        reader := .registered
          { waker := waker
            mark := state.wakes.length
            capacity := capacity } }
  | refuse (call : ReadCall Waker) (message : String) :
      state.reader = .registered call →
      header.rejection? "read" = some message →
      Transition header state .readerStep (state.complete call (.failed message))
  | lockRead (call : ReadCall Waker) :
      state.reader = .registered call →
      header.rejection? "read" = none →
      state.readMutex = none →
      Transition header state .readerStep { state with
        readMutex := some .caller
        reader := .locked call }
  | inspectEmpty (call : ReadCall Waker) :
      state.reader = .locked call →
      state.buffer.bytesRead = 0 →
      Transition header state .readerStep { state with reader := .sawEmpty call }
  | takeFails (call : ReadCall Waker) (message : String) :
      state.reader = .locked call →
      state.buffer.bytesRead ≠ 0 →
      state.buffer.take call.capacity = .error message →
      Transition header state .readerStep
        (({ state with readMutex := none }).complete
          call (.failed message))
  | takeBytes
      (call : ReadCall Waker)
      (copied : List UInt8)
      (remaining : ReadBuffer) :
      state.reader = .locked call →
      state.buffer.bytesRead ≠ 0 →
      state.buffer.take call.capacity = .ok (copied, remaining) →
      Transition header state .readerStep
        (({ state with
            readMutex := none
            buffer := remaining }).complete call
          (PollRead.ofOutcome (.ok
            ({ bytesRead := copied.length, eof := false }, copied))))
  | loadEof (call : ReadCall Waker) :
      state.reader = .sawEmpty call →
      Transition header state .readerStep
        (({ state with readMutex := none }).complete call
          (PollRead.ofOutcome (.ok
            ({ bytesRead := 0, eof := state.readEof }, []))))
  | getReadBuffer (length : Nat) (fresh : Bool) :
      state.callback = .idle →
      state.readMutex = none →
      Transition header state (.getReadBuffer length fresh) { state with
        readMutex := some .eventLoop
        pendingRead := true
        callback := .bufferHanded length fresh }
  | readDataAvailable (length : Nat) (fresh : Bool) (bytes : List UInt8) :
      state.callback = .bufferHanded length fresh →
      bytes.length ≤ length →
      state.streamEnded = false →
      Transition header state (.readDataAvailable bytes) { state with
        buffer := state.buffer.postallocate fresh bytes
        committed := state.committed ++ bytes
        callback := .dataCommitted }
  | releaseData :
      state.callback = .dataCommitted →
      Transition header state .callbackStep { state with
        pendingRead := false
        readMutex := none
        callback := .wakeReader }
  | readEOF :
      state.callback.acceptsEnd = true →
      Transition header state .readEOF { state with
        readEof := true
        streamEnded := true
        callback := .eofStored }
  | readErr (message : String) :
      state.callback.acceptsEnd = true →
      Transition header state (.readErr message) { state with
        errorMessage := message
        streamEnded := true
        callback := .errRecorded }
  | releaseEof :
      state.callback = .eofStored →
      Transition header state .callbackStep
        { state.releasePending with callback := .closeNow }
  | releaseErr :
      state.callback = .errRecorded →
      Transition header state .callbackStep
        { state.releasePending with callback := .errReleased }
  | storeEof :
      state.callback = .errReleased →
      Transition header state .callbackStep
        { state with readEof := true, callback := .closeNow }
  | closeNow :
      state.callback = .closeNow →
      Transition header state .callbackStep { state with callback := .wakeReader }
  | lockWaker :
      state.callback = .wakeReader →
      state.wakerMutex = none →
      Transition header state .callbackStep { state with
        wakerMutex := some .eventLoop
        callback := .wakerLocked }
  | takeWaker :
      state.callback = .wakerLocked →
      state.readWaker = true →
      Transition header state .callbackStep { state with
        slot := none
        callback := .wakerTaken state.slot }
  | skipWaker :
      state.callback = .wakerLocked →
      state.readWaker = false →
      Transition header state .callbackStep { state with callback := .wakerFired }
  | fireNothing :
      state.callback = .wakerTaken none →
      Transition header state .callbackStep { state with callback := .wakerFired }
  | fireWaker (waker : Waker) :
      state.callback = .wakerTaken (some waker) →
      Transition header state .callbackStep { state with
        wakes := state.wakes ++ [waker]
        callback := .wakerFired }
  | unlockWaker :
      state.callback = .wakerFired →
      Transition header state .callbackStep
        { state with wakerMutex := none, callback := .idle }

/-- A reader step is one of the reader's transitions. -/
theorem Transition.of_readerStep
    [TaskWaker Waker]
    {header : ConnectionHeader}
    {state following : ReadSide Waker}
    (taken : state.readerStep header = some following) :
    Transition header state .readerStep following := by
  unfold readerStep at taken
  split at taken
  · cases taken
  · next call atRegistered =>
      split at taken
      · next message rejected =>
          cases taken
          exact .refuse call message atRegistered rejected
      · next accepted =>
          split at taken
          · next free =>
              cases taken
              exact .lockRead call atRegistered accepted free
          · cases taken
  · next call atLocked =>
      split at taken
      · next isEmpty =>
          cases taken
          exact .inspectEmpty call atLocked isEmpty
      · next notEmpty =>
          split at taken
          · next message failed =>
              cases taken
              exact .takeFails call message atLocked notEmpty failed
          · next copied remaining succeeded =>
              cases taken
              exact .takeBytes call copied remaining
                atLocked notEmpty succeeded
  · next call atEmpty =>
      cases taken
      exact .loadEof call atEmpty

/-- A callback step is one of the callbacks' transitions. -/
theorem Transition.of_callbackStep
    [TaskWaker Waker]
    {header : ConnectionHeader}
    {state following : ReadSide Waker}
    (taken : state.callbackStep = some following) :
    Transition header state .callbackStep following := by
  unfold callbackStep at taken
  split at taken
  · cases taken
  · cases taken
  · next here =>
      cases taken
      exact .releaseData here
  · next here =>
      cases taken
      exact .releaseEof here
  · next here =>
      cases taken
      exact .releaseErr here
  · next here =>
      cases taken
      exact .storeEof here
  · next here =>
      cases taken
      exact .closeNow here
  · next here =>
      split at taken
      · next free =>
          cases taken
          exact .lockWaker here free
      · cases taken
  · next here =>
      split at taken
      · next installed =>
          cases taken
          exact .takeWaker here installed
      · next missing =>
          cases taken
          exact .skipWaker here (by simpa using missing)
  · next here =>
      cases taken
      exact .fireNothing here
  · next waker here =>
      cases taken
      exact .fireWaker waker here
  · next here =>
      cases taken
      exact .unlockWaker here

/-- Every enabled action performs one of the listed transitions. -/
theorem Transition.of_step
    [TaskWaker Waker]
    {header : ConnectionHeader}
    {state following : ReadSide Waker}
    {action : Action Waker}
    (taken : state.step header action = some following) :
    Transition header state action following := by
  cases action with
  | setReadWaker =>
      simp only [step] at taken
      split at taken
      · next guard =>
          cases taken
          exact .setReadWaker guard.2
      · cases taken
  | pollRead waker capacity =>
      simp only [step] at taken
      split at taken
      · next atIdle installed =>
          cases taken
          exact .register waker capacity atIdle installed
      · cases taken
  | readerStep =>
      exact .of_readerStep taken
  | getReadBuffer length fresh =>
      simp only [step] at taken
      split at taken
      · next atIdle =>
          split at taken
          · next guard =>
              cases taken
              exact .getReadBuffer length fresh atIdle guard.1
          · cases taken
      · cases taken
  | readDataAvailable bytes =>
      simp only [step] at taken
      split at taken
      · next length fresh handed =>
          split at taken
          · next guard =>
              cases taken
              exact .readDataAvailable length fresh bytes
                handed guard.1 guard.2
          · cases taken
      · cases taken
  | readEOF =>
      simp only [step] at taken
      split at taken
      · next accepts =>
          cases taken
          exact .readEOF accepts
      · cases taken
  | readErr message =>
      simp only [step] at taken
      split at taken
      · next accepts =>
          cases taken
          exact .readErr message accepts
      · cases taken
  | callbackStep =>
      exact .of_callbackStep taken

end ReadSide

end FizzRs
