import FizzRs.EchoCounts

namespace FizzRs

open LabelledSystem

/-!
# A conversation of two echo sessions

A client session and a server session are joined by two loss-free byte channels.
Bytes enter a channel when a write is issued.  They leave it in pieces of any
size, one for each `readDataAvailable`.  Write callbacks come inside `writeChain`
or at any later time.  An end of stream arrives when the peer has closed and the
channel is empty.

Without a transport error the client is at most one batch ahead of what it has
read back, the server returns the bytes that it received, and the conversation
ends with every batch sent both ways.
-/

/-- The two sessions and the bytes under way between them. -/
structure EchoConversation where
  client : EchoSession
  server : EchoSession
  toServer : List UInt8
  toClient : List UInt8
  deriving Repr, DecidableEq

namespace EchoSession

/-- What an action takes out of the channel that leads to the session. -/
def takeInput
    (channel : List UInt8)
    (peer session : EchoSession) :
    Action → Option (List UInt8)
  | .readDataAvailable bytes =>
      if bytes.isPrefixOf channel then
        some (channel.drop bytes.length)
      else
        none
  | .readEOF =>
      if channel = [] ∧ peer.pc = .closed ∧ session.pc = .idle then
        some channel
      else
        none
  | _ => some channel

/-- The bytes of the writes that a step issued. -/
def newBytes (session following : EchoSession) : List UInt8 :=
  (following.writes.drop session.writes.length).flatten

/-- A callback is awaited or in progress. -/
def callbackPending (session : EchoSession) : Bool :=
  session.pc = .handshaking || session.pc = .installing ||
    session.pc = .sendingFirst || session.pc = .echoing ||
    0 < session.outstanding

end EchoSession

namespace EchoConversation

/-- Both sessions have been started. -/
def initial (rounds : Nat) : EchoConversation where
  client := .initial rounds
  server := .initial rounds
  toServer := []
  toClient := []

/-- Steps of either session. -/
inductive Action where
  | client (action : EchoSession.Action)
  | server (action : EchoSession.Action)
  deriving Repr, DecidableEq

/-- One step of one session, with the bytes it takes and the bytes it sends. -/
def step
    (context : FizzClientContext)
    (batchSize : Nat)
    (state : EchoConversation) :
    Action → Option EchoConversation
  | .client action =>
      match EchoSession.takeInput state.toClient state.server state.client
          action,
        state.client.step (.client context) batchSize action with
      | some rest, some following =>
          some { state with
            client := following
            toClient := rest
            toServer :=
              state.toServer ++ state.client.newBytes following }
      | _, _ => none
  | .server action =>
      match EchoSession.takeInput state.toServer state.client state.server
          action,
        state.server.step .server batchSize action with
      | some rest, some following =>
          some { state with
            server := following
            toServer := rest
            toClient :=
              state.toClient ++ state.server.newBytes following }
      | _, _ => none

/-- The step reports no error. -/
def isClean
    (context : FizzClientContext) :
    Action → Bool
  | .client action => action.isClean (.client context)
  | .server action => action.isClean .server

/-- Some byte, callback or scheduled closure is pending. -/
def pending (state : EchoConversation) : Bool :=
  state.toServer ≠ [] || state.toClient ≠ [] ||
    state.client.callbackPending || state.server.callbackPending ||
    0 < state.client.closures || 0 < state.server.closures

end EchoConversation

namespace EchoSession

/-- What a step takes out of a channel is what it delivers. -/
theorem of_takeInput
    {channel rest : List UInt8}
    {peer session : EchoSession}
    {action : Action}
    (takes : takeInput channel peer session action = some rest) :
    channel = action.bytes ++ rest ∧
      (action = .readEOF →
        channel = [] ∧ peer.pc = .closed ∧ session.pc = .idle) := by
  cases action with
  | readDataAvailable bytes =>
      simp only [takeInput, Option.ite_none_right_eq_some,
        Option.some.injEq] at takes
      obtain ⟨isPrefix, rfl⟩ := takes
      obtain ⟨tail, rfl⟩ := List.isPrefixOf_iff_prefix.mp isPrefix
      simp [Action.bytes]
  | readEOF =>
      simp only [takeInput, Option.ite_none_right_eq_some,
        Option.some.injEq] at takes
      obtain ⟨guard, rfl⟩ := takes
      exact ⟨rfl, fun _ => guard⟩
  | _ =>
      cases takes
      simp [Action.bytes]

/-- The input of a session ends behind the last byte of a closed peer. -/
theorem ended_of_step
    {role : EchoRole}
    {batchSize : Nat}
    {channel rest : List UInt8}
    {peer session following : EchoSession}
    {action : Action}
    (clean : action.isClean role = true)
    (takes : takeInput channel peer session action = some rest)
    (steps : Transition role batchSize session action following)
    (before :
      session.inputEnded = true → peer.pc = .closed ∧ channel = [])
    (ended : following.inputEnded = true) :
    peer.pc = .closed ∧ rest = [] := by
  obtain ⟨shape, endGuard⟩ := of_takeInput takes
  have atEnd : peer.pc = .closed ∧ channel = [] := by
    by_cases isEnd : action = .readEOF
    · obtain ⟨noBytes, isClosed, _⟩ := endGuard isEnd
      exact ⟨isClosed, noBytes⟩
    · rw [inputEnded_of_transition clean isEnd steps] at ended
      exact before ended
  rw [atEnd.2] at shape
  exact ⟨atEnd.1, (List.append_eq_nil_iff.mp shape.symm).2⟩

/-- A step that takes no input is enabled when a callback or closure is due. -/
theorem Running.exists_step
    {role : EchoRole}
    {rounds batchSize : Nat}
    {session : EchoSession}
    (running : Running rounds batchSize session)
    (started : session.pc ≠ .handshaking)
    (due : session.callbackPending = true ∨ 0 < session.closures) :
    ∃ action following,
      action.isClean role = true ∧
        (∀ channel peer,
          takeInput channel peer session action = some channel) ∧
        session.step role batchSize action = some following := by
  cases pc : session.pc with
  | handshaking =>
      exact (started pc).elim
  | installing =>
      exact
        ⟨.resume, session.afterReadCB role batchSize, rfl, fun _ _ => rfl,
          by simp [step, resume, pc]⟩
  | sendingFirst =>
      exact
        ⟨.resume, { session with pc := .idle }, rfl, fun _ _ => rfl,
          by simp [step, resume, pc]⟩
  | echoing =>
      exact
        ⟨.resume, session.loop role batchSize, rfl, fun _ _ => rfl,
          by simp [step, resume, pc]⟩
  | idle =>
      rcases due with isPending | hasClosure
      · have someOut : 0 < session.outstanding := by
          simpa [callbackPending, pc] using isPending
        refine
          ⟨.writeSuccess, session.settleWrite.maybeFinish, rfl,
            fun _ _ => rfl, ?_⟩
        rw [step, if_pos ⟨by rw [pc]; rfl, someOut⟩]
      · refine
          ⟨.runClosure, session.closure, rfl, fun _ _ => rfl, ?_⟩
        rw [step, if_pos ⟨pc, hasClosure⟩]
  | closed =>
      have isFinished := (running.closed pc).1
      rcases due with isPending | hasClosure
      · have someOut : 0 < session.outstanding := by
          simpa [callbackPending, pc] using isPending
        have noneOut := (running.halted isFinished).2
        omega
      · rcases running.closing isFinished with ⟨notClosed, _⟩ | ⟨_, none_, _⟩
        · exact (notClosed pc).elim
        · omega

/-- Bytes under way are delivered to an idle session. -/
theorem Running.exists_delivery
    {role : EchoRole}
    {rounds batchSize : Nat}
    {session peer : EchoSession}
    {channel : List UInt8}
    (running : Running rounds batchSize session)
    (here : session.pc = .idle)
    (notEnded : session.inputEnded = false)
    (someBytes : channel ≠ []) :
    ∃ following,
      takeInput channel peer session (.readDataAvailable channel) =
          some [] ∧
        session.step role batchSize (.readDataAvailable channel) =
          some following := by
  have listens := running.listening (by simp [here]) (by simp [here])
  refine
    ⟨{ session with
        readQueue := session.readQueue ++ channel
        received := session.received ++ channel }.loop role batchSize,
      ?_, ?_⟩
  · simp [takeInput]
  · rw [step, if_pos ⟨here, listens, notEnded, someBytes⟩]

/-- The bytes of all writes are the earlier ones and the new ones. -/
theorem flatten_writes
    {session following : EchoSession}
    (grows : session.writes <+: following.writes) :
    following.writes.flatten =
      session.writes.flatten ++ session.newBytes following := by
  obtain ⟨added, shape⟩ := grows
  rw [newBytes, ← shape, List.drop_left, List.flatten_append]

end EchoSession

namespace EchoConversation

open EchoSession (ClientKeeps ServerKeeps)

/-- Who stepped, with the input it took and the output it gave. -/
inductive Transition
    (context : FizzClientContext)
    (batchSize : Nat)
    (state : EchoConversation) :
    Action → EchoConversation → Prop where
  | client
      (action : EchoSession.Action)
      (rest : List UInt8)
      (following : EchoSession) :
      EchoSession.takeInput state.toClient state.server state.client
        action = some rest →
      EchoSession.Transition (.client context) batchSize state.client action
        following →
      Transition context batchSize state (.client action) { state with
        client := following
        toClient := rest
        toServer := state.toServer ++ state.client.newBytes following }
  | server
      (action : EchoSession.Action)
      (rest : List UInt8)
      (following : EchoSession) :
      EchoSession.takeInput state.toServer state.client state.server
        action = some rest →
      EchoSession.Transition .server batchSize state.server action
        following →
      Transition context batchSize state (.server action) { state with
        server := following
        toServer := rest
        toClient := state.toClient ++ state.server.newBytes following }

/-- Every enabled action is a step of one of the sessions. -/
theorem Transition.of_step
    {context : FizzClientContext}
    {batchSize : Nat}
    {state following : EchoConversation}
    {action : Action}
    (taken : state.step context batchSize action = some following) :
    Transition context batchSize state action following := by
  cases action with
  | client action =>
      simp only [step] at taken
      split at taken
      · next rest session takes steps =>
          cases taken
          exact .client action rest session takes (.of_step steps)
      · cases taken
  | server action =>
      simp only [step] at taken
      split at taken
      · next rest session takes steps =>
          cases taken
          exact .server action rest session takes (.of_step steps)
      · cases taken

/-- What the two sessions and the channels agree on. -/
structure Agreement
    (rounds batchSize : Nat)
    (state : EchoConversation) :
    Prop where
  client : ClientKeeps rounds batchSize state.client
  server : ServerKeeps rounds batchSize state.server
  toServer :
    state.server.received ++ state.toServer = state.client.writes.flatten
  toClient :
    state.client.received ++ state.toClient = state.server.writes.flatten
  serverEnded :
    state.server.inputEnded = true →
      state.client.pc = .closed ∧ state.toServer = []
  clientEnded :
    state.client.inputEnded = true →
      state.server.pc = .closed ∧ state.toClient = []

namespace Agreement

variable {context : FizzClientContext} {rounds batchSize : Nat}
variable {state following : EchoConversation}

/-- Both sessions have been started. -/
theorem initially
    (someRounds : 0 < rounds) :
    Agreement rounds batchSize (initial rounds) where
  client := .initially someRounds
  server := .initially
  toServer := rfl
  toClient := rfl
  serverEnded := by simp [initial, EchoSession.initial]
  clientEnded := by simp [initial, EchoSession.initial]

/-- The bytes between the client's writes and the server's queue. -/
theorem volumeToServer
    (agreement : Agreement rounds batchSize state) :
    state.server.batches * batchSize + state.server.readQueue.length +
        state.toServer.length =
      state.client.writes.length * batchSize := by
  have flow := congrArg List.length agreement.toServer
  have sized :
      ∀ write ∈ state.client.writes, write.length = batchSize := by
    intro write member
    rw [agreement.client.sends.same write member, EchoSession.sendBuf,
      List.length_replicate]
  rw [List.length_append, EchoSession.length_flatten_of_sized sized,
    agreement.server.running.volume] at flow
  exact flow

/-- The bytes between the server's writes and the client's queue. -/
theorem volumeToClient
    (agreement : Agreement rounds batchSize state) :
    state.client.batches * batchSize + state.client.readQueue.length +
        state.toClient.length =
      state.server.batches * batchSize := by
  have flow := congrArg List.length agreement.toClient
  have echoes := agreement.server.echoes
  rw [List.length_append,
    EchoSession.length_flatten_of_sized echoes.sized, echoes.echoed,
    agreement.client.running.volume] at flow
  exact flow

/-- The client never read more batches than the server returned. -/
theorem client_batches_le
    (agreement : Agreement rounds batchSize state)
    (someBytes : 0 < batchSize) :
    state.client.batches ≤ state.server.batches := by
  have volume := agreement.volumeToClient
  apply Nat.le_of_mul_le_mul_right _ someBytes
  omega

/-- When the client has closed, the server has read everything. -/
theorem server_readAll
    (agreement : Agreement rounds batchSize state)
    (someBytes : 0 < batchSize)
    (isClosed : state.client.pc = .closed) :
    state.server.readsRemaining = 0 := by
  have readAll := (agreement.client.running.closed isClosed).2
  have clientTally := agreement.client.running.tally
  have serverTally := agreement.server.running.tally
  have fewer := agreement.client_batches_le someBytes
  omega

/-- When the server has closed and the channel is empty, so has the client. -/
theorem client_readAll
    (agreement : Agreement rounds batchSize state)
    (isClosed : state.server.pc = .closed)
    (noBytes : state.toClient = [])
    (here : state.client.pc = .idle) :
    state.client.readsRemaining = 0 := by
  have readAll := (agreement.server.running.closed isClosed).2
  have clientTally := agreement.client.running.tally
  have serverTally := agreement.server.running.tally
  have volume := agreement.volumeToClient
  rw [noBytes, List.length_nil] at volume
  rcases agreement.client.running.drained here with noBatch | readAll
  · have fewer : state.server.batches < state.client.batches + 1 := by
      apply Nat.lt_of_mul_lt_mul_right (a := batchSize)
      rw [Nat.succ_mul]
      omega
    omega
  · exact readAll

/-- One step without errors keeps the agreement. -/
theorem preserved
    {action : Action}
    (agreement : Agreement rounds batchSize state)
    (someRounds : 0 < rounds)
    (someBytes : 0 < batchSize)
    (clean : isClean context action = true)
    (transition : Transition context batchSize state action following) :
    Agreement rounds batchSize following := by
  cases transition with
  | client action rest session takes steps =>
      have actionClean : action.isClean (.client context) = true := clean
      obtain ⟨channel, endGuard⟩ := EchoSession.of_takeInput takes
      obtain ⟨receives, grows⟩ := EchoSession.history_of_transition steps
      have running := steps.not_closed
      have notEnded : state.server.inputEnded ≠ true := by
        intro ended
        exact running (agreement.serverEnded ended).1
      have endsWell :
          action = .readEOF →
            state.client.pc = .idle ∧ state.client.readsRemaining = 0 := by
        intro isEnd
        obtain ⟨noBytes, isClosed, here⟩ := endGuard isEnd
        exact ⟨here, agreement.client_readAll isClosed noBytes here⟩
      exact
        { client :=
            agreement.client.preserved someRounds someBytes actionClean
              endsWell steps
          server := agreement.server
          toServer := by
            rw [EchoSession.flatten_writes grows, ← agreement.toServer,
              List.append_assoc]
          toClient := by
            rw [receives, List.append_assoc, ← channel]
            exact agreement.toClient
          serverEnded := fun ended => (notEnded ended).elim
          clientEnded :=
            EchoSession.ended_of_step actionClean takes steps
              agreement.clientEnded }
  | server action rest session takes steps =>
      have actionClean : action.isClean .server = true := clean
      obtain ⟨channel, endGuard⟩ := EchoSession.of_takeInput takes
      obtain ⟨receives, grows⟩ := EchoSession.history_of_transition steps
      have running := steps.not_closed
      have notEnded : state.client.inputEnded ≠ true := by
        intro ended
        exact running (agreement.clientEnded ended).1
      have endsWell :
          action = .readEOF →
            state.server.pc = .idle ∧ state.server.readsRemaining = 0 := by
        intro isEnd
        obtain ⟨_, isClosed, here⟩ := endGuard isEnd
        exact ⟨here, agreement.server_readAll someBytes isClosed⟩
      exact
        { client := agreement.client
          server :=
            agreement.server.preserved someRounds someBytes actionClean
              endsWell steps
          toServer := by
            rw [receives, List.append_assoc, ← channel]
            exact agreement.toServer
          toClient := by
            rw [EchoSession.flatten_writes grows, ← agreement.toClient,
              List.append_assoc]
          serverEnded :=
            EchoSession.ended_of_step actionClean takes steps
              agreement.serverEnded
          clientEnded := fun ended => (notEnded ended).elim }

/-- Every run without errors keeps the agreement. -/
theorem of_reachable
    (someRounds : 0 < rounds)
    (someBytes : 0 < batchSize)
    (reachable :
      ReachableWhile (step context batchSize)
        (fun _ action => isClean context action = true)
        (fun start => start = initial rounds) state) :
    Agreement rounds batchSize state := by
  refine reachable.invariant_from ?_ ?_
  · exact initially someRounds
  · intro before after action _ agreement clean taken
    exact agreement.preserved someRounds someBytes clean (.of_step taken)

/-- A session at rest is idle or closed, with nothing in flight. -/
theorem atRest
    {session : EchoSession}
    (quiet : session.callbackPending = false) :
    (session.pc = .idle ∨ session.pc = .closed) ∧
      session.outstanding = 0 := by
  simp only [EchoSession.callbackPending, Bool.or_eq_false_iff,
    decide_eq_false_iff_not] at quiet
  obtain ⟨⟨⟨⟨notHandshaking, notInstalling⟩, notSending⟩, notEchoing⟩,
    noneOut⟩ := quiet
  refine ⟨?_, by omega⟩
  cases pc : session.pc with
  | idle => exact .inl rfl
  | closed => exact .inr rfl
  | handshaking => exact (notHandshaking pc).elim
  | installing => exact (notInstalling pc).elim
  | sendingFirst => exact (notSending pc).elim
  | echoing => exact (notEchoing pc).elim

/-- A session at rest has no batch left to read in its queue. -/
theorem drained_atRest
    {session : EchoSession}
    (running : EchoSession.Running rounds batchSize session)
    (rests : session.pc = .idle ∨ session.pc = .closed) :
    session.readQueue.length < batchSize ∨ session.readsRemaining = 0 := by
  rcases rests with isIdle | isClosed
  · exact running.drained isIdle
  · exact .inr (running.closed isClosed).2

/-- A session at rest that has read everything holds its value. -/
theorem done_atRest
    {session : EchoSession}
    (running : EchoSession.Running rounds batchSize session)
    (settled : session.Settled)
    (rests : session.pc = .idle ∨ session.pc = .closed)
    (noneOut : session.outstanding = 0)
    (noClosure : session.closures = 0)
    (readAll : session.readsRemaining = 0) :
    session.finished = true ∧ session.done = [.value] := by
  have isStopped : session.stopped = true := by
    rcases rests with isIdle | isClosed
    · exact running.idleStops isIdle readAll
    · exact (running.halted (running.closed isClosed).1).1
  have isFinished := settled isStopped noneOut
  refine ⟨isFinished, ?_⟩
  rcases running.closing isFinished with ⟨_, oneClosure, _⟩ | ⟨_, _, isDone⟩
  · omega
  · exact isDone

/-- When nothing is pending, every batch has gone both ways. -/
theorem readAll_atRest
    (agreement : Agreement rounds batchSize state)
    (someBytes : 0 < batchSize)
    (clientRests :
      state.client.pc = .idle ∨ state.client.pc = .closed)
    (serverRests :
      state.server.pc = .idle ∨ state.server.pc = .closed)
    (noneToServer : state.toServer = [])
    (noneToClient : state.toClient = []) :
    state.client.readsRemaining = 0 ∧ state.server.readsRemaining = 0 := by
  have clientTally := agreement.client.running.tally
  have serverTally := agreement.server.running.tally
  have toServer := agreement.volumeToServer
  have toClient := agreement.volumeToClient
  have fewer := agreement.client_batches_le someBytes
  rw [noneToServer, List.length_nil] at toServer
  rw [noneToClient, List.length_nil] at toClient
  have ahead :
      state.client.writes.length =
        min (state.client.batches + 1) rounds := by
    apply agreement.client.sends.ahead
    · rcases clientRests with here | here <;> simp [here]
    · rcases clientRests with here | here <;> simp [here]
  have clientReads : state.client.readsRemaining = 0 := by
    rcases drained_atRest agreement.client.running clientRests with
      noBatch | readAll
    · by_contra someLeft
      have sameBatches :
          state.server.batches < state.client.batches + 1 := by
        apply Nat.lt_of_mul_lt_mul_right (a := batchSize)
        rw [Nat.succ_mul]
        omega
      rcases drained_atRest agreement.server.running serverRests with
        noBatchThere | readAllThere
      · have allRead :
            state.client.writes.length < state.server.batches + 1 := by
          apply Nat.lt_of_mul_lt_mul_right (a := batchSize)
          rw [Nat.succ_mul]
          omega
        omega
      · omega
    · exact readAll
  exact ⟨clientReads, by omega⟩

/-- The final state: both promises hold a value, and all batches went both ways. -/
theorem final
    (agreement : Agreement rounds batchSize state)
    (someBytes : 0 < batchSize)
    (nothingPending : state.pending = false) :
    (state.client.finished = true ∧ state.client.done = [.value] ∧
      state.client.writes.length = rounds) ∧
    (state.server.finished = true ∧ state.server.done = [.value] ∧
      state.server.writes.length = rounds) := by
  simp only [pending, Bool.or_eq_false_iff, decide_eq_false_iff_not,
    ne_eq, Decidable.not_not] at nothingPending
  obtain ⟨⟨⟨⟨⟨noneToServer, noneToClient⟩, clientQuiet⟩, serverQuiet⟩,
    clientClosures⟩, serverClosures⟩ := nothingPending
  obtain ⟨clientRests, clientNone⟩ := atRest clientQuiet
  obtain ⟨serverRests, serverNone⟩ := atRest serverQuiet
  obtain ⟨clientReads, serverReads⟩ :=
    agreement.readAll_atRest someBytes clientRests serverRests
      noneToServer noneToClient
  have clientTally := agreement.client.running.tally
  have serverTally := agreement.server.running.tally
  obtain ⟨clientFinished, clientDone⟩ :=
    done_atRest agreement.client.running agreement.client.settled
      clientRests clientNone (by omega) clientReads
  obtain ⟨serverFinished, serverDone⟩ :=
    done_atRest agreement.server.running agreement.server.settled
      serverRests serverNone (by omega) serverReads
  have ahead :
      state.client.writes.length =
        min (state.client.batches + 1) rounds := by
    apply agreement.client.sends.ahead
    · rcases clientRests with here | here <;> simp [here]
    · rcases clientRests with here | here <;> simp [here]
  have echoed := agreement.server.echoes.echoed
  exact
    ⟨⟨clientFinished, clientDone, by omega⟩,
      ⟨serverFinished, serverDone, by omega⟩⟩

/-- A clean step of the client is a clean step of the conversation. -/
theorem client_step
    {action : EchoSession.Action}
    {rest : List UInt8}
    {session : EchoSession}
    (clean : action.isClean (.client context) = true)
    (takes :
      EchoSession.takeInput state.toClient state.server state.client
        action = some rest)
    (steps :
      state.client.step (.client context) batchSize action =
        some session) :
    ∃ action following,
      isClean context action = true ∧
        state.step context batchSize action = some following := by
  refine
    ⟨.client action,
      { state with
        client := session
        toClient := rest
        toServer := state.toServer ++ state.client.newBytes session },
      clean, ?_⟩
  simp only [step, takes, steps]

/-- A clean step of the server is a clean step of the conversation. -/
theorem server_step
    {action : EchoSession.Action}
    {rest : List UInt8}
    {session : EchoSession}
    (clean : action.isClean .server = true)
    (takes :
      EchoSession.takeInput state.toServer state.client state.server
        action = some rest)
    (steps : state.server.step .server batchSize action = some session) :
    ∃ action following,
      isClean context action = true ∧
        state.step context batchSize action = some following := by
  refine
    ⟨.server action,
      { state with
        server := session
        toServer := rest
        toClient := state.toClient ++ state.server.newBytes session },
      clean, ?_⟩
  simp only [step, takes, steps]

/-- The client never sends more than the rounds. -/
theorem client_writes_le
    (agreement : Agreement rounds batchSize state) :
    state.client.writes.length ≤ state.client.batches + 1 ∧
      state.client.writes.length ≤ rounds := by
  by_cases opening :
      state.client.pc = .handshaking ∨ state.client.pc = .installing
  · have unsent := agreement.client.sends.unsent opening
    omega
  · rw [not_or] at opening
    have ahead := agreement.client.sends.ahead opening.1 opening.2
    omega

/-- Nothing is under way to a client that has closed. -/
theorem toClient_closed
    (agreement : Agreement rounds batchSize state)
    (isClosed : state.client.pc = .closed) :
    state.toClient = [] := by
  have readAll := (agreement.client.running.closed isClosed).2
  have clientTally := agreement.client.running.tally
  have serverTally := agreement.server.running.tally
  have volume := agreement.volumeToClient
  have noMore :
      state.server.batches * batchSize ≤
        state.client.batches * batchSize :=
    Nat.mul_le_mul_right _ (by omega)
  apply List.eq_nil_of_length_eq_zero
  omega

/-- Nothing is under way to a server that has closed. -/
theorem toServer_closed
    (agreement : Agreement rounds batchSize state)
    (isClosed : state.server.pc = .closed) :
    state.toServer = [] := by
  have readAll := (agreement.server.running.closed isClosed).2
  have serverTally := agreement.server.running.tally
  have volume := agreement.volumeToServer
  have atMost := agreement.client_writes_le.2
  have noMore :
      state.client.writes.length * batchSize ≤
        state.server.batches * batchSize :=
    Nat.mul_le_mul_right _ (by omega)
  apply List.eq_nil_of_length_eq_zero
  omega

/-- What is pending can happen: a handshake callback is awaited or a step enabled. -/
theorem progress
    (agreement : Agreement rounds batchSize state)
    (isPending : state.pending = true) :
    state.client.pc = .handshaking ∨ state.server.pc = .handshaking ∨
      ∃ action following,
        isClean context action = true ∧
          state.step context batchSize action = some following := by
  by_cases clientStarts : state.client.pc = .handshaking
  · exact .inl clientStarts
  by_cases serverStarts : state.server.pc = .handshaking
  · exact .inr (.inl serverStarts)
  refine .inr (.inr ?_)
  by_cases clientDue :
      state.client.callbackPending = true ∨ 0 < state.client.closures
  · obtain ⟨action, session, clean, takes, steps⟩ :=
      agreement.client.running.exists_step clientStarts clientDue
    exact client_step clean (takes _ _) steps
  by_cases serverDue :
      state.server.callbackPending = true ∨ 0 < state.server.closures
  · obtain ⟨action, session, clean, takes, steps⟩ :=
      agreement.server.running.exists_step serverStarts serverDue
    exact server_step clean (takes _ _) steps
  rw [not_or, Bool.not_eq_true] at clientDue serverDue
  have clientRests := (atRest clientDue.1).1
  have serverRests := (atRest serverDue.1).1
  by_cases someToClient : state.toClient = []
  · have someToServer : state.toServer ≠ [] := by
      intro noneToServer
      simp [pending, someToClient, noneToServer, clientDue.1, serverDue.1,
        clientDue.2, serverDue.2] at isPending
    have here : state.server.pc = .idle := by
      rcases serverRests with isIdle | isClosed
      · exact isIdle
      · exact (someToServer (agreement.toServer_closed isClosed)).elim
    have notEnded : state.server.inputEnded = false := by
      by_contra ended
      exact someToServer
        (agreement.serverEnded (by simpa using ended)).2
    obtain ⟨session, takes, steps⟩ :=
      agreement.server.running.exists_delivery here notEnded someToServer
    exact server_step rfl takes steps
  · have here : state.client.pc = .idle := by
      rcases clientRests with isIdle | isClosed
      · exact isIdle
      · exact (someToClient (agreement.toClient_closed isClosed)).elim
    have notEnded : state.client.inputEnded = false := by
      by_contra ended
      exact someToClient
        (agreement.clientEnded (by simpa using ended)).2
    obtain ⟨session, takes, steps⟩ :=
      agreement.client.running.exists_delivery here notEnded someToClient
    exact client_step rfl takes steps

end Agreement

/--
A client and a server session of some rounds of some bytes, in every state that
is reached without an error: the client is at most one batch ahead and sends no
more than the rounds; the server has returned the first bytes it received; no
counter underflows; unless both sessions have finished something is pending, and
what is pending can happen; when nothing is pending, both promises hold a value
and every batch went both ways.
-/
theorem echo_conversation
    {context : FizzClientContext}
    {rounds batchSize : Nat}
    {state : EchoConversation}
    (someRounds : 0 < rounds)
    (someBytes : 0 < batchSize)
    (reachable :
      ReachableWhile (step context batchSize)
        (fun _ action => isClean context action = true)
        (fun start => start = initial rounds) state) :
    (state.client.writes.length ≤ state.client.batches + 1 ∧
      state.client.writes.length ≤ rounds) ∧
    state.server.writes.flatten =
      state.server.received.take
        (state.server.writes.length * batchSize) ∧
    (state.client.readsRemaining + state.client.batches = rounds ∧
      state.client.writesInFlight = state.client.outstanding ∧
      state.client.outstanding ≤ state.client.writes.length) ∧
    (state.server.readsRemaining + state.server.batches = rounds ∧
      state.server.writesInFlight = state.server.outstanding ∧
      state.server.outstanding ≤ state.server.writes.length) ∧
    (¬ (state.client.finished = true ∧ state.server.finished = true) →
      state.pending = true) ∧
    (state.pending = true →
      state.client.pc = .handshaking ∨ state.server.pc = .handshaking ∨
        ∃ action following,
          isClean context action = true ∧
            state.step context batchSize action = some following) ∧
    (state.pending = false →
      state.client.done = [.value] ∧ state.server.done = [.value] ∧
        state.client.writes.length = rounds ∧
        state.server.writes.length = rounds) := by
  have agreement := Agreement.of_reachable someRounds someBytes reachable
  have client := agreement.client.running
  have server := agreement.server.running
  have echoes := agreement.server.echoes
  have returned :
      state.server.writes.flatten =
        state.server.received.take
          (state.server.writes.length * batchSize) := by
    rw [echoes.copied,
      ← EchoSession.length_flatten_of_sized echoes.sized, List.take_left]
  refine ⟨agreement.client_writes_le, returned,
    ⟨client.tally, client.counted, client.issued⟩,
    ⟨server.tally, server.counted, server.issued⟩, ?_,
    agreement.progress, ?_⟩
  · intro unfinished
    by_contra nothingPending
    rw [Bool.not_eq_true] at nothingPending
    obtain ⟨clientEnd, serverEnd⟩ :=
      agreement.final someBytes nothingPending
    exact unfinished ⟨clientEnd.1, serverEnd.1⟩
  · intro nothingPending
    obtain ⟨clientEnd, serverEnd⟩ :=
      agreement.final someBytes nothingPending
    exact ⟨clientEnd.2.1, serverEnd.2.1, clientEnd.2.2, serverEnd.2.2⟩

/-- The context of a client that pins `samplePinnedInfo`. -/
def sampleContext : FizzClientContext :=
  newClientTlsContext samplePinnedInfo "ca.pem"

/-- A handshake in which the server presents the pinned credential. -/
def sampleCallback : SuccessCallback where
  certificate := .delegated samplePinnedCredential 10800000000000
  faults := .none

/--
One round of two bytes.  The client's write completes inside `writeChain`, the
server's after its callback returned, and the server reads byte by byte.
-/
def sampleSchedule : List Action :=
  [.server (.fizzHandshakeSuccess sampleCallback), .server .resume,
    .client (.fizzHandshakeSuccess sampleCallback), .client .resume,
    .client .writeSuccess, .client .resume,
    .server (.readDataAvailable [0x5A]),
    .server (.readDataAvailable [0x5A]), .server .resume,
    .client (.readDataAvailable [0x5A, 0x5A]), .client .runClosure,
    .server .readEOF, .server .writeSuccess, .server .runClosure]

theorem echo_conversation_sample :
    ∃ final,
      run? (restrict (step sampleContext 2)
          (fun _ action => isClean sampleContext action)) (initial 1)
          sampleSchedule = some final ∧
        final.pending = false ∧
        final.client.done = [.value] ∧ final.server.done = [.value] := by
  obtain ⟨final, performed, nothingPending⟩ :
      ∃ final,
        run? (restrict (step sampleContext 2)
          (fun _ action => isClean sampleContext action)) (initial 1)
          sampleSchedule = some final ∧
        final.pending = false := ⟨_, rfl, rfl⟩
  have ends :=
    (echo_conversation Nat.one_pos Nat.two_pos
      (reachableWhile_of_run? (.start rfl) performed)).2.2.2.2.2.2
        nothingPending
  exact ⟨final, performed, nothingPending, ends.1, ends.2.1⟩

end EchoConversation

end FizzRs
