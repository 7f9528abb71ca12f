import FizzRs.ReadSide

namespace FizzRs

open LabelledSystem

/-!
# The write side of a connection

`poll_write` is fire and forget: it copies the caller's bytes, posts a function
to the event base and reports the full length.  The loop thread later passes the
copy to `transport->writeChain`, whose callback either succeeds or records an
error text and raises `writeError` for the next call to observe.

The machine leaves the transport free: each outstanding callback may get
`writeSuccess` or `writeErr` at any time and in any order.  Posting is the last
shared step of a successful `poll_write`, so the post and the return are one
step here.
-/

/-- The two kinds of connection. -/
inductive Side where
  | client
  | server
  deriving Repr, DecidableEq

/-- Functions posted to the event base of a connection. -/
inductive LoopTask where
  | writeChain (chain : List UInt8)
  | closeTransport
  deriving Repr, DecidableEq

/-- The chain a posted function will hand to the transport, if it writes. -/
def LoopTask.chain? : LoopTask → Option (List UInt8)
  | .writeChain chain => some chain
  | .closeTransport => none

/-- The chains of the posted writes, in posting order. -/
def queuedChains (tasks : List LoopTask) : List (List UInt8) :=
  tasks.filterMap LoopTask.chain?

/-- `IOBuf::copyBuffer`: one buffer of its own holding the same bytes. -/
def copyBuffer (bytes : List UInt8) : List UInt8 :=
  bytes

/-- The count a write reports: the copy's length, or the slice's size. -/
def writeLength : Side → List UInt8 → Nat
  | .client, bytes => (copyBuffer bytes).length
  | .server, bytes => bytes.length

@[simp] theorem writeLength_eq
    (side : Side)
    (bytes : List UInt8) :
    writeLength side bytes = bytes.length := by
  cases side <;> rfl

/-- One `poll_write` in progress: its bytes, and whether an error preceded it. -/
structure WriteCall where
  buffer : List UInt8
  errorAtCall : Bool
  deriving Repr, DecidableEq

/-- What `poll_write` returns: `Ready(Ok(count))` or `Ready(Err(message))`. -/
inductive PollWrite where
  | ready (count : Nat)
  | failed (message : String)
  deriving Repr, DecidableEq

/-- One completed `poll_write`. -/
structure WriteRecord where
  buffer : List UInt8
  errorAtCall : Bool
  result : PollWrite
  deriving Repr, DecidableEq

/-- Where the caller stands inside `poll_write`. -/
inductive WriterPc where
  | idle
  | called (call : WriteCall)
  | cleared (call : WriteCall)
  | sawError (call : WriteCall)
  deriving Repr, DecidableEq

/-- The write in progress, if there is one. -/
def WriterPc.call? : WriterPc → Option WriteCall
  | .idle => none
  | .called call => some call
  | .cleared call => some call
  | .sawError call => some call

/-- Where the callback of one `writeChain` stands. -/
inductive WriteCallbackPc where
  | waiting
  | recorded
  | finished
  deriving Repr, DecidableEq

/-- Buffers for which `poll_write` returned `Ok`, oldest first. -/
def acceptedBuffers : List WriteRecord → List (List UInt8)
  | [] => []
  | latest :: earlier =>
      match latest.result with
      | .ready _ => acceptedBuffers earlier ++ [latest.buffer]
      | .failed _ => acceptedBuffers earlier

/-- The write-side members of a connection, both threads' positions, the history. -/
structure WriteSide where
  callerBuffer : List UInt8
  writeError : Bool
  writeErrorMessage : String
  tasks : List LoopTask
  chains : List (List UInt8)
  callbacks : List WriteCallbackPc
  writer : WriterPc
  recorded : List String
  results : List WriteRecord
  deriving Repr, DecidableEq

namespace WriteSide

/-- The write side of a connection whose handshake has just succeeded. -/
def initial : WriteSide where
  callerBuffer := []
  writeError := false
  writeErrorMessage := ""
  tasks := []
  chains := []
  callbacks := []
  writer := .idle
  recorded := []
  results := []

/-- Events of the caller and of the loop thread, one atomic step each. -/
inductive Action where
  | pollWrite (buffer : List UInt8)
  | reuseBuffer (bytes : List UInt8)
  | writerStep
  | postClose
  | runTask
  | writeSuccess (index : Nat)
  | writeErr (index : Nat) (text : String)
  | writeErrStep (index : Nat)
  deriving Repr, DecidableEq

/-- Complete the write in progress with a result. -/
def complete
    (state : WriteSide)
    (call : WriteCall)
    (result : PollWrite) :
    WriteSide :=
  { state with
    writer := .idle
    results :=
      { buffer := call.buffer
        errorAtCall := call.errorAtCall
        result := result } :: state.results }

/-- The next atomic step of a `poll_write` in progress. -/
def writerStep
    (side : Side)
    (header : ConnectionHeader)
    (state : WriteSide) :
    Option WriteSide :=
  match state.writer with
  | .idle => none
  | .called call =>
      match header.rejection? "write" with
      | some message => some (state.complete call (.failed message))
      | none =>
          if state.writeError then
            some { state with writer := .sawError call }
          else
            some { state with writer := .cleared call }
  | .sawError call =>
      some (state.complete call
        (.failed ("Write failed: " ++ state.writeErrorMessage)))
  | .cleared call =>
      some (({ state with
          tasks :=
            state.tasks ++
              [LoopTask.writeChain (copyBuffer state.callerBuffer)] }).complete
        call (.ready (writeLength side state.callerBuffer)))

/-- Run the oldest posted function. -/
def runTask
    (state : WriteSide) :
    Option WriteSide :=
  match state.tasks with
  | [] => none
  | .writeChain chain :: later =>
      some { state with
        tasks := later
        chains := state.chains ++ [chain]
        callbacks := state.callbacks ++ [.waiting] }
  | .closeTransport :: later =>
      some { state with tasks := later }

/-- One atomic step. -/
def step
    (side : Side)
    (header : ConnectionHeader)
    (state : WriteSide) :
    Action → Option WriteSide
  | .pollWrite buffer =>
      if state.writer = .idle then
        some { state with
          callerBuffer := buffer
          writer := .called
            { buffer := buffer, errorAtCall := state.writeError } }
      else
        none
  | .reuseBuffer bytes =>
      if state.writer = .idle then
        some { state with callerBuffer := bytes }
      else
        none
  | .writerStep => state.writerStep side header
  | .postClose =>
      some { state with tasks := state.tasks ++ [.closeTransport] }
  | .runTask => state.runTask
  | .writeSuccess index =>
      if state.callbacks[index]? = some .waiting then
        some { state with callbacks := state.callbacks.set index .finished }
      else
        none
  | .writeErr index text =>
      if state.callbacks[index]? = some .waiting then
        some { state with
          writeErrorMessage := text
          recorded := state.recorded ++ [text]
          callbacks := state.callbacks.set index .recorded }
      else
        none
  | .writeErrStep index =>
      if state.callbacks[index]? = some .recorded then
        some { state with
          writeError := true
          callbacks := state.callbacks.set index .finished }
      else
        none

/-- Everything one atomic step can do, with the guards it was taken under. -/
inductive Transition
    (side : Side)
    (header : ConnectionHeader)
    (state : WriteSide) :
    Action → WriteSide → Prop where
  | call (buffer : List UInt8) :
      state.writer = .idle →
      Transition side header state (.pollWrite buffer) { state with
        callerBuffer := buffer
        writer := .called
          { buffer := buffer, errorAtCall := state.writeError } }
  | reuseBuffer (bytes : List UInt8) :
      state.writer = .idle →
      Transition side header state (.reuseBuffer bytes)
        { state with callerBuffer := bytes }
  | refuse (call : WriteCall) (message : String) :
      state.writer = .called call →
      header.rejection? "write" = some message →
      Transition side header state .writerStep
        (state.complete call (.failed message))
  | seeError (call : WriteCall) :
      state.writer = .called call →
      state.writeError = true →
      Transition side header state .writerStep
        { state with writer := .sawError call }
  | seeNoError (call : WriteCall) :
      state.writer = .called call →
      state.writeError = false →
      Transition side header state .writerStep
        { state with writer := .cleared call }
  | fail (call : WriteCall) :
      state.writer = .sawError call →
      Transition side header state .writerStep
        (state.complete call
          (.failed ("Write failed: " ++ state.writeErrorMessage)))
  | post (call : WriteCall) :
      state.writer = .cleared call →
      Transition side header state .writerStep
        (({ state with
            tasks :=
              state.tasks ++
                [LoopTask.writeChain (copyBuffer state.callerBuffer)] }).complete
          call (.ready (writeLength side state.callerBuffer)))
  | postClose :
      Transition side header state .postClose
        { state with tasks := state.tasks ++ [.closeTransport] }
  | runWrite (chain : List UInt8) (later : List LoopTask) :
      state.tasks = .writeChain chain :: later →
      Transition side header state .runTask { state with
        tasks := later
        chains := state.chains ++ [chain]
        callbacks := state.callbacks ++ [.waiting] }
  | runClose (later : List LoopTask) :
      state.tasks = .closeTransport :: later →
      Transition side header state .runTask { state with tasks := later }
  | writeSuccess (index : Nat) :
      state.callbacks[index]? = some .waiting →
      Transition side header state (.writeSuccess index)
        { state with callbacks := state.callbacks.set index .finished }
  | writeErr (index : Nat) (text : String) :
      state.callbacks[index]? = some .waiting →
      Transition side header state (.writeErr index text) { state with
        writeErrorMessage := text
        recorded := state.recorded ++ [text]
        callbacks := state.callbacks.set index .recorded }
  | raiseError (index : Nat) :
      state.callbacks[index]? = some .recorded →
      Transition side header state (.writeErrStep index) { state with
        writeError := true
        callbacks := state.callbacks.set index .finished }

/-- A caller step is one of the caller's transitions. -/
theorem Transition.of_writerStep
    {side : Side}
    {header : ConnectionHeader}
    {state following : WriteSide}
    (taken : state.writerStep side header = some following) :
    Transition side header state .writerStep following := by
  unfold writerStep at taken
  split at taken
  · cases taken
  · next call atCalled =>
      split at taken
      · next message rejected =>
          cases taken
          exact .refuse call message atCalled rejected
      · split at taken
        · next raised =>
            cases taken
            exact .seeError call atCalled raised
        · next notRaised =>
            cases taken
            exact .seeNoError call atCalled (by simpa using notRaised)
  · next call atError =>
      cases taken
      exact .fail call atError
  · next call atCleared =>
      cases taken
      exact .post call atCleared

/-- Every enabled action performs one of the listed transitions. -/
theorem Transition.of_step
    {side : Side}
    {header : ConnectionHeader}
    {state following : WriteSide}
    {action : Action}
    (taken : state.step side header action = some following) :
    Transition side header state action following := by
  cases action with
  | pollWrite buffer =>
      simp only [step] at taken
      split at taken
      · next atIdle =>
          cases taken
          exact .call buffer atIdle
      · cases taken
  | reuseBuffer bytes =>
      simp only [step] at taken
      split at taken
      · next atIdle =>
          cases taken
          exact .reuseBuffer bytes atIdle
      · cases taken
  | writerStep =>
      exact .of_writerStep taken
  | postClose =>
      cases taken
      exact .postClose
  | runTask =>
      simp only [step, runTask] at taken
      split at taken
      · cases taken
      · next chain later shape =>
          cases taken
          exact .runWrite chain later shape
      · next later shape =>
          cases taken
          exact .runClose later shape
  | writeSuccess index =>
      simp only [step] at taken
      split at taken
      · next waiting =>
          cases taken
          exact .writeSuccess index waiting
      · cases taken
  | writeErr index text =>
      simp only [step] at taken
      split at taken
      · next waiting =>
          cases taken
          exact .writeErr index text waiting
      · cases taken
  | writeErrStep index =>
      simp only [step] at taken
      split at taken
      · next atRecorded =>
          cases taken
          exact .raiseError index atRecorded
      · cases taken

end WriteSide

end FizzRs
