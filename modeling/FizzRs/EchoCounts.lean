import FizzRs.EchoSession

namespace FizzRs

/-!
# Counters of echo sessions without errors

As long as nothing reports an error, a session keeps its books: the batches left
and the batches read are all of the rounds, the writes in flight are the writes
without a callback, and the bytes received are those of the batches read and
those still queued.  It stops when nothing is left to read and finishes when, in
addition, nothing is in flight.

The server has issued one write for each batch, with the bytes of that batch.
The client has issued one write more than it has read batches, up to the rounds.
-/

namespace EchoSession

/-- Nothing but a handshake that passes, data, ends of stream and write successes. -/
def Action.isClean (role : EchoRole) : Action → Bool
  | .fizzHandshakeSuccess callback =>
      match role with
      | .server => true
      | .client context => (checkPeer context callback).isNone
  | .readDataAvailable _ => true
  | .readEOF => true
  | .writeSuccess => true
  | .resume => true
  | .runClosure => true
  | _ => false

section Steps

variable {role : EchoRole} {batchSize rounds : Nat}
variable {session following : EchoSession}

/-- Either `maybeFinish` leaves the session as it is, or it finishes it. -/
theorem maybeFinish_cases
    (session : EchoSession) :
    (session.maybeFinish = session ∧
      (session.finished = true ∨ session.stopped = false ∨
        0 < session.writesInFlight)) ∨
    (session.finished = false ∧ session.stopped = true ∧
      session.writesInFlight = 0 ∧
      session.maybeFinish =
        { session with
          finished := true
          closures := session.closures + 1
          scheduled := session.scheduled + 1
          atFinish := some (session.readsRemaining, session.errorMsg) }) := by
  unfold maybeFinish
  split
  · next isFinished =>
      exact .inl ⟨rfl, .inl isFinished⟩
  · next unfinished =>
      split
      · next notStopped =>
          exact .inl ⟨rfl, .inr (.inl notStopped)⟩
      · next isStopped =>
          split
          · next inFlight =>
              exact .inl ⟨rfl, .inr (.inr inFlight)⟩
          · next noWrites =>
              refine .inr ⟨?_, ?_, ?_, rfl⟩
              · simpa using unfinished
              · simpa using isStopped
              · omega

/-- What a session in a conversation without errors keeps. -/
structure Running
    (rounds batchSize : Nat)
    (session : EchoSession) :
    Prop where
  counted : session.writesInFlight = session.outstanding
  issued : session.outstanding ≤ session.writes.length
  noError : session.errorMsg = none
  tally : session.readsRemaining + session.batches = rounds
  volume :
    session.received.length =
      session.batches * batchSize + session.readQueue.length
  reason : session.stopped = true → session.readsRemaining = 0
  halted :
    session.finished = true →
      session.stopped = true ∧ session.outstanding = 0
  open_ :
    session.finished = false →
      session.closures = 0 ∧ session.done = [] ∧ session.pc ≠ .closed
  closing :
    session.finished = true →
      (session.pc ≠ .closed ∧ session.closures = 1 ∧ session.done = []) ∨
      (session.pc = .closed ∧ session.closures = 0 ∧
        session.done = [.value])
  opening :
    session.pc = .handshaking ∨ session.pc = .installing ∨
        session.pc = .sendingFirst →
      session.batches = 0 ∧ session.received = []
  idleStops :
    session.pc = .idle → session.readsRemaining = 0 → session.stopped = true
  drained :
    session.pc = .idle →
      session.readQueue.length < batchSize ∨ session.readsRemaining = 0
  listening :
    session.pc ≠ .handshaking → session.pc ≠ .closed → session.readCB = true

/-- A stopped session with nothing in flight has finished. -/
def Settled (session : EchoSession) : Prop :=
  session.stopped = true → session.outstanding = 0 → session.finished = true

namespace Running

/-- A session that has been started. -/
theorem initially :
    Running rounds batchSize (initial rounds) where
  counted := rfl
  issued := Nat.le_refl 0
  noError := rfl
  tally := rfl
  volume := by simp [initial]
  reason := by simp [initial]
  halted := by simp [initial]
  open_ := by simp [initial]
  closing := by simp [initial]
  opening := by simp [initial]
  idleStops := by simp [initial]
  drained := by simp [initial]
  listening := by simp [initial]

/-- `maybeFinish` keeps the counts and settles the session. -/
theorem maybeFinish
    (running : Running rounds batchSize session)
    (alive : session.pc ≠ .closed) :
    Running rounds batchSize session.maybeFinish ∧
      session.maybeFinish.Settled := by
  rcases maybeFinish_cases session with
    ⟨same, because⟩ | ⟨unfinished, isStopped, noWrites, finishes⟩
  · rw [same]
    refine ⟨running, ?_⟩
    intro isStopped noneOut
    rcases because with isFinished | notStopped | inFlight
    · exact isFinished
    · rw [isStopped] at notStopped
      cases notStopped
    · have counted := running.counted
      omega
  · rw [finishes]
    obtain ⟨noClosures, notDone, _⟩ := running.open_ unfinished
    refine ⟨?_, fun _ _ => rfl⟩
    exact
      { counted := running.counted
        issued := running.issued
        noError := running.noError
        tally := running.tally
        volume := running.volume
        reason := running.reason
        halted := fun _ => ⟨isStopped, running.counted ▸ noWrites⟩
        open_ := by simp
        closing := fun _ =>
          .inl ⟨alive, by simp only; omega, notDone⟩
        opening := running.opening
        idleStops := running.idleStops
        drained := running.drained
        listening := running.listening }

/-- Nothing was read before the first write returned. -/
theorem nothingQueued
    (running : Running rounds batchSize session)
    (here :
      session.pc = .handshaking ∨ session.pc = .installing ∨
        session.pc = .sendingFirst) :
    session.readQueue.length = 0 := by
  have volume := running.volume
  rw [(running.opening here).2, List.length_nil] at volume
  omega

/-- Returning from a callback with the queue drained. -/
theorem return_
    (running : Running rounds batchSize session)
    (listens : session.readCB = true)
    (alive : session.pc ≠ .closed)
    (stops : session.readsRemaining = 0 → session.stopped = true)
    (noBatch :
      session.readQueue.length < batchSize ∨ session.readsRemaining = 0) :
    Running rounds batchSize { session with pc := .idle } where
  counted := running.counted
  issued := running.issued
  noError := running.noError
  tally := running.tally
  volume := running.volume
  reason := running.reason
  halted := running.halted
  open_ := by
    intro unfinished
    obtain ⟨noClosures, notDone, _⟩ := running.open_ unfinished
    exact ⟨noClosures, notDone, by simp⟩
  closing := by
    intro isFinished
    rcases running.closing isFinished with waiting | ⟨isClosed, _⟩
    · exact .inl ⟨by simp, waiting.2⟩
    · exact (alive isClosed).elim
  opening := by simp
  idleStops := fun _ => stops
  drained := fun _ => noBatch
  listening := fun _ _ => listens

/-- Before the first batch there are batches left to read. -/
theorem someLeft_opening
    (running : Running rounds batchSize session)
    (someRounds : 0 < rounds)
    (here :
      session.pc = .handshaking ∨ session.pc = .installing ∨
        session.pc = .sendingFirst) :
    session.readsRemaining ≠ 0 := by
  have tally := running.tally
  have nothingRead := (running.opening here).1
  omega

/-- Returning from a call that is made before the first batch. -/
theorem returnOpening
    (running : Running rounds batchSize session)
    (someRounds : 0 < rounds)
    (someBytes : 0 < batchSize)
    (here : session.pc = .installing ∨ session.pc = .sendingFirst) :
    Running rounds batchSize { session with pc := .idle } := by
  have someLeft := running.someLeft_opening someRounds (.inr here)
  have nothingQueued := running.nothingQueued (.inr here)
  have listens : session.readCB = true := by
    apply running.listening <;> rcases here with here | here <;> simp [here]
  have alive : session.pc ≠ .closed := by
    rcases here with here | here <;> simp [here]
  refine running.return_ listens alive ?_ ?_
  · intro readAll
    exact (someLeft readAll).elim
  · rw [nothingQueued]
    exact .inl someBytes

/-- Stopping with nothing left to read. -/
theorem stop
    (running : Running rounds batchSize session)
    (listens : session.readCB = true)
    (alive : session.pc ≠ .closed)
    (readAll : session.readsRemaining = 0) :
    Running rounds batchSize session.stop ∧ session.stop.Settled := by
  have stopping :
      Running rounds batchSize { session with stopped := true } :=
    { counted := running.counted
      issued := running.issued
      noError := running.noError
      tally := running.tally
      volume := running.volume
      reason := fun _ => readAll
      halted := fun isFinished => ⟨rfl, (running.halted isFinished).2⟩
      open_ := running.open_
      closing := running.closing
      opening := running.opening
      idleStops := fun _ _ => rfl
      drained := running.drained
      listening := running.listening }
  exact maybeFinish
    (stopping.return_ listens alive (fun _ => rfl) (.inr readAll)) (by simp)

/-- Reading a batch keeps the counts; the session is not stopped. -/
theorem splitBatch
    (running : Running rounds batchSize session)
    (here : session.pc = .echoing)
    (hasBatch : batchSize ≤ session.readQueue.length)
    (someLeft : 0 < session.readsRemaining) :
    Running rounds batchSize (session.splitBatch batchSize) ∧
      session.stopped = false := by
  have notStopped : session.stopped = false := by
    by_contra isStopped
    have readAll := running.reason (by simpa using isStopped)
    omega
  have unfinished : session.finished = false := by
    by_contra isFinished
    have isStopped := (running.halted (by simpa using isFinished)).1
    rw [notStopped] at isStopped
    cases isStopped
  have volume := running.volume
  have tally := running.tally
  refine ⟨?_, notStopped⟩
  exact
    { counted := running.counted
      issued := running.issued
      noError := running.noError
      tally := by
        simp only [EchoSession.splitBatch, decrement]
        rw [if_neg (by omega)]
        omega
      volume := by
        simp only [EchoSession.splitBatch, List.length_drop, Nat.succ_mul]
        omega
      reason := by simp [EchoSession.splitBatch, notStopped]
      halted := by simp [EchoSession.splitBatch, unfinished]
      open_ := running.open_
      closing := by simp [EchoSession.splitBatch, unfinished]
      opening := by simp [EchoSession.splitBatch, here]
      idleStops := by simp [EchoSession.splitBatch, here]
      drained := by simp [EchoSession.splitBatch, here]
      listening := running.listening }

/-- Issuing a write inside a callback. -/
theorem issue
    (running : Running rounds batchSize session)
    (notStopped : session.stopped = false)
    (listens : session.readCB = true)
    {pc : SessionPc}
    (inside :
      pc = .echoing ∨
        (pc = .sendingFirst ∧ session.batches = 0 ∧
          session.received = []))
    (bytes : List UInt8) :
    Running rounds batchSize { session.issue bytes with pc := pc } where
  counted := congrArg (fun count => count + 1) running.counted
  issued := by
    have issued := running.issued
    simp only [EchoSession.issue, List.length_append, List.length_cons,
      List.length_nil]
    omega
  noError := running.noError
  tally := running.tally
  volume := running.volume
  reason := running.reason
  halted := by
    intro isFinished
    have isStopped := (running.halted isFinished).1
    rw [notStopped] at isStopped
    cases isStopped
  open_ := by
    intro unfinished
    obtain ⟨noClosures, notDone, _⟩ := running.open_ unfinished
    refine ⟨noClosures, notDone, ?_⟩
    rcases inside with rfl | ⟨rfl, _⟩ <;> simp
  closing := by
    intro isFinished
    have isStopped := (running.halted isFinished).1
    rw [notStopped] at isStopped
    cases isStopped
  opening := by
    rcases inside with rfl | ⟨rfl, nothingRead⟩
    · simp
    · exact fun _ => nothingRead
  idleStops := by rcases inside with rfl | ⟨rfl, _⟩ <;> simp
  drained := by rcases inside with rfl | ⟨rfl, _⟩ <;> simp
  listening := fun _ _ => listens

/-- The server's loop keeps the counts and settles the session. -/
theorem serverLoop
    (running : Running rounds batchSize session)
    (settled : session.Settled)
    (here : session.pc = .echoing) :
    Running rounds batchSize (session.serverLoop batchSize) ∧
      (session.serverLoop batchSize).Settled := by
  have listens := running.listening (by simp [here]) (by simp [here])
  unfold EchoSession.serverLoop
  split
  · next hasBatch =>
      obtain ⟨split_, notStopped⟩ :=
        running.splitBatch here hasBatch.1 hasBatch.2
      refine ⟨split_.issue notStopped listens (.inl rfl) _, ?_⟩
      intro isStopped
      rw [show session.stopped = true from isStopped] at notStopped
      cases notStopped
  · next noBatch =>
      split
      · next readAll =>
          exact running.stop listens (by simp [here]) readAll.1
      · next goesOn =>
          refine ⟨running.return_ listens (by simp [here]) ?_ ?_, settled⟩
          · intro readAll
            by_contra notStopped
            exact goesOn ⟨readAll, by simpa using notStopped⟩
          · omega

/-- The client's loop keeps the counts and settles the session. -/
theorem clientLoop
    (running : Running rounds batchSize session)
    (settled : session.Settled)
    (here : session.pc = .echoing)
    (stops : session.readsRemaining = 0 → session.stopped = true) :
    Running rounds batchSize (session.clientLoop batchSize) ∧
      (session.clientLoop batchSize).Settled := by
  have listens := running.listening (by simp [here]) (by simp [here])
  unfold EchoSession.clientLoop
  split
  · next hasBatch =>
      obtain ⟨split_, notStopped⟩ :=
        running.splitBatch here hasBatch.1 hasBatch.2
      split
      · next readAll =>
          exact split_.stop listens
            (by simp [EchoSession.splitBatch, here]) readAll
      · refine ⟨split_.issue notStopped listens (.inl rfl) _, ?_⟩
        intro isStopped
        rw [show session.stopped = true from isStopped] at notStopped
        cases notStopped
  · next noBatch =>
      have returned : Running rounds batchSize { session with pc := .idle } :=
        running.return_ listens (by simp [here]) stops (by omega)
      split
      · exact returned.maybeFinish (by simp)
      · exact ⟨returned, settled⟩

/-- A write callback keeps the counts. -/
theorem settleWrite
    (running : Running rounds batchSize session)
    (issued : 0 < session.outstanding) :
    Running rounds batchSize session.settleWrite where
  counted := by
    have counted := running.counted
    simp only [EchoSession.settleWrite, decrement]
    rw [if_neg (by omega)]
    omega
  issued := by
    have issued := running.issued
    simp only [EchoSession.settleWrite]
    omega
  noError := running.noError
  tally := running.tally
  volume := running.volume
  reason := running.reason
  halted := by
    intro isFinished
    have noWrites := (running.halted isFinished).2
    omega
  open_ := running.open_
  closing := running.closing
  opening := running.opening
  idleStops := running.idleStops
  drained := running.drained
  listening := running.listening

/-- The read callback is installed. -/
theorem installed
    (running : Running rounds batchSize session)
    (here : session.pc = .handshaking)
    (someRounds : 0 < rounds) :
    Running rounds batchSize
        { session with readCB := true, pc := .installing } ∧
      session.stopped = false := by
  have tally := running.tally
  have nothingRead := running.opening (.inl here)
  have notStopped : session.stopped = false := by
    by_contra isStopped
    have readAll := running.reason (by simpa using isStopped)
    omega
  have unfinished : session.finished = false := by
    by_contra isFinished
    have isStopped := (running.halted (by simpa using isFinished)).1
    rw [notStopped] at isStopped
    cases isStopped
  obtain ⟨noClosures, notDone, _⟩ := running.open_ unfinished
  refine ⟨?_, notStopped⟩
  exact
    { counted := running.counted
      issued := running.issued
      noError := running.noError
      tally := running.tally
      volume := running.volume
      reason := running.reason
      halted := running.halted
      open_ := fun _ => ⟨noClosures, notDone, by simp⟩
      closing := by simp [unfinished]
      opening := fun _ => nothingRead
      idleStops := by simp
      drained := by simp
      listening := fun _ _ => rfl }

/-- The closure fulfils the promise with a value. -/
theorem closure
    (running : Running rounds batchSize session)
    (here : session.pc = .idle)
    (pending : 0 < session.closures) :
    Running rounds batchSize session.closure := by
  have isFinished : session.finished = true := by
    by_contra unfinished
    have noClosures := (running.open_ (by simpa using unfinished)).1
    omega
  have waiting :
      session.pc ≠ .closed ∧ session.closures = 1 ∧ session.done = [] := by
    rcases running.closing isFinished with waiting | ⟨isClosed, _⟩
    · exact waiting
    · rw [here] at isClosed
      cases isClosed
  exact
    { counted := running.counted
      issued := running.issued
      noError := running.noError
      tally := running.tally
      volume := running.volume
      reason := running.reason
      halted := running.halted
      open_ := by simp [EchoSession.closure, isFinished]
      closing := by
        simp [EchoSession.closure, running.noError, waiting]
      opening := by simp [EchoSession.closure]
      idleStops := by simp [EchoSession.closure]
      drained := by simp [EchoSession.closure]
      listening := by simp [EchoSession.closure] }

/-- Bytes that arrive between callbacks are queued. -/
theorem buffered
    (running : Running rounds batchSize session)
    (here : session.pc = .idle)
    (bytes : List UInt8) :
    Running rounds batchSize { session with
      readQueue := session.readQueue ++ bytes
      received := session.received ++ bytes
      pc := .echoing } where
  counted := running.counted
  issued := running.issued
  noError := running.noError
  tally := running.tally
  volume := by
    have volume := running.volume
    simp only [List.length_append]
    omega
  reason := running.reason
  halted := running.halted
  open_ := by
    intro unfinished
    obtain ⟨noClosures, notDone, _⟩ := running.open_ unfinished
    exact ⟨noClosures, notDone, by simp⟩
  closing := by
    intro isFinished
    rcases running.closing isFinished with waiting | ⟨isClosed, _⟩
    · exact .inl ⟨by simp, waiting.2⟩
    · rw [here] at isClosed
      cases isClosed
  opening := by simp
  idleStops := by simp
  drained := by simp
  listening := fun _ _ =>
    running.listening (by simp [here]) (by simp [here])

/-- Noting the end of the stream. -/
theorem endNoted
    (running : Running rounds batchSize session) :
    Running rounds batchSize { session with inputEnded := true } where
  counted := running.counted
  issued := running.issued
  noError := running.noError
  tally := running.tally
  volume := running.volume
  reason := running.reason
  halted := running.halted
  open_ := running.open_
  closing := running.closing
  opening := running.opening
  idleStops := running.idleStops
  drained := running.drained
  listening := running.listening

/-- An end of stream behind the last batch is only noted. -/
theorem endOfStream_eq
    (running : Running rounds batchSize session)
    (here : session.pc = .idle)
    (readAll : session.readsRemaining = 0) :
    session.endOfStream role = { session with inputEnded := true } := by
  have isStopped := running.idleStops here readAll
  simp [EchoSession.endOfStream, readAll, isStopped]

end Running

/-- The loop of `readDataAvailable` is the same wherever it is entered. -/
theorem loop_eq
    (role : EchoRole)
    (batchSize : Nat)
    (session : EchoSession) :
    session.loop role batchSize =
      { session with pc := .echoing }.loop role batchSize := by
  cases role <;> rfl

/-- The server returned every batch it read, byte by byte. -/
structure Echoes
    (batchSize : Nat)
    (session : EchoSession) :
    Prop where
  copied : session.received = session.writes.flatten ++ session.readQueue
  echoed : session.writes.length = session.batches
  sized : ∀ write ∈ session.writes, write.length = batchSize

/-- The client is one write ahead of the batches it read, up to the rounds. -/
structure Sends
    (rounds batchSize : Nat)
    (session : EchoSession) :
    Prop where
  same : ∀ write ∈ session.writes, write = sendBuf batchSize
  unsent :
    session.pc = .handshaking ∨ session.pc = .installing →
      session.writes.length = 0
  ahead :
    session.pc ≠ .handshaking → session.pc ≠ .installing →
      session.writes.length = min (session.batches + 1) rounds
  stops : session.readsRemaining = 0 → session.stopped = true

/-- `maybeFinish` does not touch what the server returned. -/
theorem Echoes.maybeFinish
    (echoes : Echoes batchSize session) :
    Echoes batchSize session.maybeFinish := by
  rcases maybeFinish_cases session with ⟨same, _⟩ | ⟨_, _, _, finishes⟩
  · rw [same]
    exact echoes
  · rw [finishes]
    exact ⟨echoes.copied, echoes.echoed, echoes.sized⟩

/-- `maybeFinish` does not touch what the client sent. -/
theorem Sends.maybeFinish
    (sends : Sends rounds batchSize session) :
    Sends rounds batchSize session.maybeFinish := by
  rcases maybeFinish_cases session with ⟨same, _⟩ | ⟨_, _, _, finishes⟩
  · rw [same]
    exact sends
  · rw [finishes]
    exact ⟨sends.same, sends.unsent, sends.ahead, sends.stops⟩

/-- The server's loop returns whole batches in order. -/
theorem Echoes.serverLoop
    (echoes : Echoes batchSize session) :
    Echoes batchSize (session.serverLoop batchSize) := by
  unfold EchoSession.serverLoop
  split
  · next hasBatch =>
      refine ⟨?_, ?_, ?_⟩
      · simp [issue, splitBatch, echoes.copied]
      · simp [issue, splitBatch, echoes.echoed]
      · intro write member
        simp only [issue, splitBatch, List.mem_append,
          List.mem_singleton] at member
        rcases member with earlier | isNew
        · exact echoes.sized write earlier
        · rw [isNew, List.length_take]
          exact Nat.min_eq_left hasBatch.1
  · split
    · apply Echoes.maybeFinish
      exact ⟨echoes.copied, echoes.echoed, echoes.sized⟩
    · exact ⟨echoes.copied, echoes.echoed, echoes.sized⟩

/-- The client's loop sends a batch for each one it reads but the last. -/
theorem Sends.clientLoop
    (sends : Sends rounds batchSize session)
    (running : Running rounds batchSize session)
    (here : session.pc = .echoing) :
    Sends rounds batchSize (session.clientLoop batchSize) := by
  have ahead := sends.ahead (by simp [here]) (by simp [here])
  have tally := running.tally
  unfold EchoSession.clientLoop
  split
  · next hasBatch =>
      have remaining :
          (session.splitBatch batchSize).readsRemaining =
            session.readsRemaining - 1 := by
        simp only [splitBatch, decrement]
        rw [if_neg (by omega)]
      split
      · next readAll =>
          apply Sends.maybeFinish
          refine ⟨sends.same, by simp, ?_, fun _ => rfl⟩
          intro _ _
          simp only [splitBatch]
          omega
      · next someLeft =>
          refine ⟨?_, by simp, ?_, ?_⟩
          · intro write member
            simp only [issue, splitBatch, List.mem_append,
              List.mem_singleton] at member
            rcases member with earlier | isNew
            · exact sends.same write earlier
            · exact isNew
          · intro _ _
            simp only [issue, splitBatch, List.length_append,
              List.length_cons, List.length_nil]
            omega
          · intro readAll
            exact (someLeft readAll).elim
  · have returned : Sends rounds batchSize { session with pc := .idle } :=
      ⟨sends.same, by simp, fun _ _ => ahead, sends.stops⟩
    split
    · exact returned.maybeFinish
    · exact returned

/-- The bytes that an action delivers. -/
def Action.bytes : Action → List UInt8
  | .readDataAvailable bytes => bytes
  | _ => []

@[simp] theorem maybeFinish_received :
    session.maybeFinish.received = session.received := by
  rcases maybeFinish_cases session with ⟨same, _⟩ | ⟨_, _, _, finishes⟩
  · rw [same]
  · rw [finishes]

@[simp] theorem maybeFinish_writes :
    session.maybeFinish.writes = session.writes := by
  rcases maybeFinish_cases session with ⟨same, _⟩ | ⟨_, _, _, finishes⟩
  · rw [same]
  · rw [finishes]

/-- The loop receives nothing and issues one write at most. -/
theorem loop_history :
    (session.loop role batchSize).received = session.received ∧
      session.writes <+: (session.loop role batchSize).writes := by
  cases role with
  | server =>
      simp only [loop, serverLoop]
      split
      · exact ⟨rfl, List.prefix_append _ _⟩
      · split <;> simp [stop]
  | client context =>
      simp only [loop, clientLoop]
      split
      · split
        · simp [stop, splitBatch]
        · exact ⟨rfl, List.prefix_append _ _⟩
      · split <;> simp

/-- A step receives the bytes delivered and only adds to the writes issued. -/
theorem history_of_transition
    {action : Action}
    (transition : Transition role batchSize session action following) :
    following.received = session.received ++ action.bytes ∧
      session.writes <+: following.writes := by
  cases transition with
  | handshakeSuccess callback _ =>
      unfold handshakeSuccess
      split
      · simp [Action.bytes]
      · split <;> simp [setError, Action.bytes]
  | handshakeError exception _ => simp [setError, Action.bytes]
  | handshakeFallback _ => simp [setError, Action.bytes]
  | data bytes _ _ _ _ => exact loop_history
  | endOfStream _ =>
      unfold endOfStream
      split
      · simp [setError, Action.bytes]
      · split <;> simp [Action.bytes]
  | readErr what _ => simp [setError, Action.bytes]
  | writeSuccess _ _ => simp [settleWrite, Action.bytes]
  | writeErr what _ _ => simp [setError, settleWrite, Action.bytes]
  | readCBReturns _ =>
      unfold afterReadCB
      split
      · simp [stop, Action.bytes]
      · cases role with
        | server => simp [Action.bytes]
        | client context => simp [issue, Action.bytes]
  | firstWriteReturns _ => simp [Action.bytes]
  | writeReturns _ => simpa [Action.bytes] using loop_history
  | closure _ _ => simp [closure, Action.bytes]

@[simp] theorem maybeFinish_inputEnded :
    session.maybeFinish.inputEnded = session.inputEnded := by
  rcases maybeFinish_cases session with ⟨same, _⟩ | ⟨_, _, _, finishes⟩
  · rw [same]
  · rw [finishes]

@[simp] theorem loop_inputEnded :
    (session.loop role batchSize).inputEnded = session.inputEnded := by
  cases role with
  | server =>
      simp only [loop, serverLoop]
      split
      · rfl
      · split <;> simp [stop]
  | client context =>
      simp only [loop, clientLoop]
      split
      · split
        · simp [stop, splitBatch]
        · rfl
      · split <;> simp

/-- Without errors, only an end of stream ends the input. -/
theorem inputEnded_of_transition
    {action : Action}
    (clean : action.isClean role = true)
    (notEnd : action ≠ .readEOF)
    (transition : Transition role batchSize session action following) :
    following.inputEnded = session.inputEnded := by
  cases transition with
  | handshakeSuccess callback _ =>
      cases role with
      | server => rfl
      | client context =>
          have passes : checkPeer context callback = none := by
            simpa [Action.isClean] using clean
          simp only [handshakeSuccess, passes]
  | data bytes _ _ _ _ => simp
  | endOfStream _ => exact (notEnd rfl).elim
  | writeSuccess _ _ => simp [settleWrite]
  | readCBReturns _ =>
      unfold afterReadCB
      split
      · simp [stop]
      · cases role <;> rfl
  | firstWriteReturns _ => rfl
  | writeReturns _ => simp
  | closure _ _ => rfl
  | handshakeError exception _ => cases clean
  | handshakeFallback _ => cases clean
  | readErr what _ => cases clean
  | writeErr what _ _ => cases clean

/-- A closed session takes no step. -/
theorem Transition.not_closed
    {action : Action}
    (transition : Transition role batchSize session action following) :
    session.pc ≠ .closed := by
  intro isClosed
  cases transition with
  | handshakeSuccess _ here => rw [isClosed] at here; cases here
  | handshakeError _ here => rw [isClosed] at here; cases here
  | handshakeFallback here => rw [isClosed] at here; cases here
  | data _ here _ _ _ => rw [isClosed] at here; cases here
  | endOfStream accepts => rw [isClosed] at accepts; cases accepts
  | readErr _ accepts => rw [isClosed] at accepts; cases accepts
  | writeSuccess accepts _ => rw [isClosed] at accepts; cases accepts
  | writeErr _ accepts _ => rw [isClosed] at accepts; cases accepts
  | readCBReturns here => rw [isClosed] at here; cases here
  | firstWriteReturns here => rw [isClosed] at here; cases here
  | writeReturns here => rw [isClosed] at here; cases here
  | closure here _ => rw [isClosed] at here; cases here

/-- A closed session has finished with everything read. -/
theorem Running.closed
    (running : Running rounds batchSize session)
    (isClosed : session.pc = .closed) :
    session.finished = true ∧ session.readsRemaining = 0 := by
  have isFinished : session.finished = true := by
    by_contra unfinished
    exact (running.open_ (by simpa using unfinished)).2.2 isClosed
  exact ⟨isFinished, running.reason (running.halted isFinished).1⟩

/-- The bytes of writes of one size. -/
theorem length_flatten_of_sized
    {writes : List (List UInt8)}
    (sized : ∀ write ∈ writes, write.length = batchSize) :
    writes.flatten.length = writes.length * batchSize := by
  induction writes with
  | nil =>
      simp
  | cons write rest inductionHypothesis =>
      rw [List.forall_mem_cons] at sized
      rw [List.flatten_cons, List.length_append,
        inductionHypothesis sized.2, sized.1, List.length_cons, Nat.succ_mul]
      omega

/-- What a server in a conversation without errors keeps. -/
structure ServerKeeps
    (rounds batchSize : Nat)
    (session : EchoSession) :
    Prop where
  running : Running rounds batchSize session
  settled : session.Settled
  echoes : Echoes batchSize session

/-- What a client in a conversation without errors keeps. -/
structure ClientKeeps
    (rounds batchSize : Nat)
    (session : EchoSession) :
    Prop where
  running : Running rounds batchSize session
  settled : session.Settled
  sends : Sends rounds batchSize session

/-- A server that has been started. -/
theorem ServerKeeps.initially :
    ServerKeeps rounds batchSize (initial rounds) where
  running := .initially
  settled := by simp [Settled, initial]
  echoes := ⟨rfl, rfl, by simp [initial]⟩

/-- A client that has been started. -/
theorem ClientKeeps.initially
    (someRounds : 0 < rounds) :
    ClientKeeps rounds batchSize (initial rounds) where
  running := .initially
  settled := by simp [Settled, initial]
  sends :=
    { same := by simp [initial]
      unsent := fun _ => rfl
      ahead := by simp [initial]
      stops := by
        intro readAll
        have remaining : rounds = 0 := readAll
        omega }

/-- An unsettled write callback, then `maybeFinish`. -/
theorem Running.writeSuccess
    (running : Running rounds batchSize session)
    (accepts : session.pc.acceptsCallbacks = true)
    (issued : 0 < session.outstanding) :
    Running rounds batchSize session.settleWrite.maybeFinish ∧
      session.settleWrite.maybeFinish.Settled := by
  apply (running.settleWrite issued).maybeFinish
  intro isClosed
  rw [show session.pc = .closed from isClosed] at accepts
  cases accepts

/-- One step without errors keeps the server's books. -/
theorem ServerKeeps.preserved
    {action : Action}
    (keeps : ServerKeeps rounds batchSize session)
    (someRounds : 0 < rounds)
    (someBytes : 0 < batchSize)
    (clean : action.isClean .server = true)
    (endsWell :
      action = .readEOF →
        session.pc = .idle ∧ session.readsRemaining = 0)
    (transition : Transition .server batchSize session action following) :
    ServerKeeps rounds batchSize following := by
  have running := keeps.running
  have settled := keeps.settled
  have echoes := keeps.echoes
  cases transition with
  | handshakeSuccess callback here =>
      obtain ⟨installs, _⟩ := running.installed here someRounds
      exact
        ⟨installs, settled, echoes.copied, echoes.echoed, echoes.sized⟩
  | data bytes here _ _ _ =>
      rw [loop_eq]
      have queued :
          Echoes batchSize { session with
            readQueue := session.readQueue ++ bytes
            received := session.received ++ bytes
            pc := .echoing } :=
        ⟨by simp [echoes.copied], echoes.echoed, echoes.sized⟩
      obtain ⟨runs, settles⟩ :=
        (running.buffered here bytes).serverLoop settled rfl
      exact ⟨runs, settles, queued.serverLoop⟩
  | endOfStream _ =>
      obtain ⟨here, readAll⟩ := endsWell rfl
      rw [running.endOfStream_eq here readAll]
      exact
        ⟨running.endNoted, settled, echoes.copied, echoes.echoed,
          echoes.sized⟩
  | writeSuccess accepts issued =>
      obtain ⟨runs, settles⟩ := running.writeSuccess accepts issued
      refine ⟨runs, settles, Echoes.maybeFinish ?_⟩
      exact ⟨echoes.copied, echoes.echoed, echoes.sized⟩
  | readCBReturns here =>
      have someLeft :=
        running.someLeft_opening someRounds (.inr (.inl here))
      unfold afterReadCB
      rw [if_neg someLeft]
      exact
        ⟨running.returnOpening someRounds someBytes (.inl here), settled,
          echoes.copied, echoes.echoed, echoes.sized⟩
  | firstWriteReturns here =>
      exact
        ⟨running.returnOpening someRounds someBytes (.inr here), settled,
          echoes.copied, echoes.echoed, echoes.sized⟩
  | writeReturns here =>
      obtain ⟨runs, settles⟩ := running.serverLoop settled here
      exact ⟨runs, settles, echoes.serverLoop⟩
  | closure here pending =>
      exact
        ⟨running.closure here pending, settled, echoes.copied,
          echoes.echoed, echoes.sized⟩
  | handshakeError exception _ => cases clean
  | handshakeFallback _ => cases clean
  | readErr what _ => cases clean
  | writeErr what _ _ => cases clean

/-- The client's first batch, sent when the read callback is installed. -/
theorem ClientKeeps.sendFirst
    (keeps : ClientKeeps rounds batchSize session)
    (someRounds : 0 < rounds)
    (here : session.pc = .installing) :
    ClientKeeps rounds batchSize
      { session.issue (sendBuf batchSize) with pc := .sendingFirst } := by
  have running := keeps.running
  have sends := keeps.sends
  have nothingRead := running.opening (.inr (.inl here))
  have someLeft := running.someLeft_opening someRounds (.inr (.inl here))
  have listens := running.listening (by simp [here]) (by simp [here])
  have unsent := sends.unsent (.inr here)
  have notStopped : session.stopped = false := by
    by_contra isStopped
    exact someLeft (running.reason (by simpa using isStopped))
  refine
    ⟨running.issue notStopped listens (.inr ⟨rfl, nothingRead⟩) _,
      ?_, ?_, by simp, ?_, ?_⟩
  · intro isStopped
    rw [show session.stopped = true from isStopped] at notStopped
    cases notStopped
  · intro write member
    simp only [issue, List.mem_append, List.mem_singleton] at member
    rcases member with earlier | isNew
    · exact sends.same write earlier
    · exact isNew
  · intro _ _
    simp only [issue, List.length_append, List.length_cons,
      List.length_nil]
    omega
  · intro readAll
    exact (someLeft readAll).elim

/-- One step without errors keeps the client's books. -/
theorem ClientKeeps.preserved
    {context : FizzClientContext}
    {action : Action}
    (keeps : ClientKeeps rounds batchSize session)
    (someRounds : 0 < rounds)
    (someBytes : 0 < batchSize)
    (clean : action.isClean (.client context) = true)
    (endsWell :
      action = .readEOF →
        session.pc = .idle ∧ session.readsRemaining = 0)
    (transition :
      Transition (.client context) batchSize session action following) :
    ClientKeeps rounds batchSize following := by
  have running := keeps.running
  have settled := keeps.settled
  have sends := keeps.sends
  cases transition with
  | handshakeSuccess callback here =>
      obtain ⟨installs, _⟩ := running.installed here someRounds
      have passes : checkPeer context callback = none := by
        simpa [Action.isClean] using clean
      simp only [handshakeSuccess, passes]
      refine ⟨installs, settled, sends.same, ?_, by simp, sends.stops⟩
      exact fun _ => sends.unsent (.inl here)
  | data bytes here _ _ _ =>
      rw [loop_eq]
      have queued :
          Sends rounds batchSize { session with
            readQueue := session.readQueue ++ bytes
            received := session.received ++ bytes
            pc := .echoing } :=
        ⟨sends.same, by simp,
          fun _ _ => sends.ahead (by simp [here]) (by simp [here]),
          sends.stops⟩
      have buffered := running.buffered here bytes
      obtain ⟨runs, settles⟩ :=
        buffered.clientLoop settled rfl sends.stops
      exact ⟨runs, settles, queued.clientLoop buffered rfl⟩
  | endOfStream _ =>
      obtain ⟨here, readAll⟩ := endsWell rfl
      rw [running.endOfStream_eq here readAll]
      exact
        ⟨running.endNoted, settled, sends.same, sends.unsent, sends.ahead,
          sends.stops⟩
  | writeSuccess accepts issued =>
      obtain ⟨runs, settles⟩ := running.writeSuccess accepts issued
      refine ⟨runs, settles, Sends.maybeFinish ?_⟩
      exact ⟨sends.same, sends.unsent, sends.ahead, sends.stops⟩
  | readCBReturns here =>
      have someLeft :=
        running.someLeft_opening someRounds (.inr (.inl here))
      unfold afterReadCB
      rw [if_neg someLeft]
      exact keeps.sendFirst someRounds here
  | firstWriteReturns here =>
      refine
        ⟨running.returnOpening someRounds someBytes (.inr here), settled,
          sends.same, by simp, ?_, sends.stops⟩
      exact fun _ _ => sends.ahead (by simp [here]) (by simp [here])
  | writeReturns here =>
      obtain ⟨runs, settles⟩ :=
        running.clientLoop settled here sends.stops
      exact ⟨runs, settles, sends.clientLoop running here⟩
  | closure here pending =>
      refine
        ⟨running.closure here pending, settled, sends.same,
          by simp [closure], ?_, sends.stops⟩
      exact fun _ _ => sends.ahead (by simp [here]) (by simp [here])
  | handshakeError exception _ => cases clean
  | handshakeFallback _ => cases clean
  | readErr what _ => cases clean
  | writeErr what _ _ => cases clean

end Steps

end EchoSession

end FizzRs
