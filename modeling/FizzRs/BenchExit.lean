import FizzRs.BenchRun

namespace FizzRs

open LabelledSystem

/-!
# Leaving the echo benchmark

The joins of `run_fizz_cpp_bench` stand behind its two waits.  From the start of
the accept thread up to the first join an exception leaves the function with a
joinable thread, and the process ends.  So the function is left cleanly when it
starts no thread, and when nothing fails; in every other setting some exception is
thrown in between.
-/

namespace BenchRun

/-- The first `count` threads are not joinable. -/
def JoinedUpTo
    (threads : List Bool)
    (count : Nat) :
    Prop :=
  ∀ thread < count, threads[thread]? ≠ some true

theorem joinedUpTo_zero
    (threads : List Bool) :
    JoinedUpTo threads 0 :=
  nofun

theorem JoinedUpTo.join
    {threads : List Bool}
    {count : Nat}
    (joined : JoinedUpTo threads count) :
    JoinedUpTo (threads.set count false) (count + 1) := by
  intro thread before
  by_cases same : count = thread
  · subst same
    rw [List.getElem?_set_self']
    cases threads[count]? <;> simp
  · rw [List.getElem?_set_ne same]
    exact joined thread (by omega)

theorem JoinedUpTo.any_eq_false
    {threads : List Bool}
    {count : Nat}
    (joined : JoinedUpTo threads count)
    (covers : threads.length ≤ count) :
    threads.any id = false := by
  rw [List.any_eq_false]
  intro joinable member isTrue
  obtain ⟨thread, inRange, rfl⟩ := List.getElem_of_mem member
  apply joined thread (inRange.trans_le covers)
  rw [List.getElem?_eq_getElem inRange]
  exact congrArg some isTrue

/-- The function has begun, and its accept thread is joinable. -/
structure Started
    (setting : BenchSetting)
    (acceptThread : Bool) :
    Prop where
  begins : setting.Begins
  acceptJoinable : acceptThread = true

/-- The clients of the first pairs have connected and have their threads. -/
structure OpenedUpTo
    (setting : BenchSetting)
    (pair : Nat) :
    Prop where
  listens : setting.listenFault = none
  opens : ∀ earlier < pair, setting.Opens earlier
  inRange : pair ≤ setting.pairs

/-- What holds where the main thread stands. -/
def Phase
    (setting : BenchSetting)
    (run : BenchRun) :
    BenchPc → Prop
  | .entering =>
      run.anyJoinable = false ∧ run.connected = 0 ∧
        run.client.sessions.length = 0
  | .listening =>
      Started setting run.acceptThread ∧ run.connected = 0 ∧
        run.client.sessions.length = 0
  | .connecting pair =>
      Started setting run.acceptThread ∧ OpenedUpTo setting pair ∧
        run.connected = pair ∧ run.client.sessions.length = pair
  | .spawning pair =>
      Started setting run.acceptThread ∧ OpenedUpTo setting pair ∧
        (∃ fd, blockingTcpConnect (setting.sockets pair) = .ok fd) ∧
        run.connected = pair + 1 ∧ run.client.sessions.length = pair
  | .awaitingServer =>
      Started setting run.acceptThread ∧
        OpenedUpTo setting setting.pairs ∧
        run.connected = setting.pairs ∧
        run.client.sessions.length = setting.pairs
  | .awaitingClient =>
      Started setting run.acceptThread ∧
        OpenedUpTo setting setting.pairs ∧
        run.client.sessions.length = setting.pairs ∧
        ∀ session < setting.pairs,
          setting.serverEnds session = .completed .value
  | .stopping => Started setting run.acceptThread ∧ setting.Succeeds
  | .joiningAccept => Started setting run.acceptThread ∧ setting.Succeeds
  | .joiningServer thread =>
      setting.Succeeds ∧ run.acceptThread = false ∧
        JoinedUpTo run.serverThreads thread
  | .joiningClient thread =>
      setting.Succeeds ∧ run.acceptThread = false ∧
        run.serverThreads.any id = false ∧
        JoinedUpTo run.clientThreads thread
  | .left exit =>
      (exit = .terminated ∧ ¬ setting.LeavesCleanly) ∨
        (exit ≠ .terminated ∧ setting.LeavesCleanly ∧
          run.anyJoinable = false)

/-- The invariant of a run. -/
structure Tracks
    (setting : BenchSetting)
    (run : BenchRun) :
    Prop where
  server :
    run.server.Consistent setting.pairs setting.serverEnds
  client :
    run.client.Consistent setting.pairs setting.clientEnds
  serverBlamed : run.server.Blamed setting.serverEnds
  clientBlamed : run.client.Blamed setting.clientEnds
  acceptedWithin : run.server.sessions.length ≤ run.connected
  connectedWithin : run.connected ≤ setting.pairs
  startedWithin : run.client.sessions.length ≤ setting.pairs
  serverThreads : run.serverThreads.length ≤ run.server.sessions.length
  clientThreads : run.clientThreads.length = run.client.sessions.length
  phase : Phase setting run run.pc

section Leaving

variable
  {setting : BenchSetting}
  {run : BenchRun}

theorem anyJoinable_of_acceptThread
    (joinable : run.acceptThread = true) :
    run.anyJoinable = true := by
  simp [anyJoinable, joinable]

/-- An exception behind the start of the accept thread ends the process. -/
theorem phase_leave_of_started
    (started : Started setting run.acceptThread)
    (fails : ¬ setting.Succeeds)
    (exit : BenchExit) :
    Phase setting (run.leave exit) (run.leave exit).pc := by
  refine .inl ⟨?_, ?_⟩
  · rw [anyJoinable_of_acceptThread started.acceptJoinable]
    rfl
  · intro leavesCleanly
    exact fails (leavesCleanly started.begins)

/-- Leaving with no joinable thread is clean. -/
theorem phase_leave_of_joined
    (joined : run.anyJoinable = false)
    (leavesCleanly : setting.LeavesCleanly)
    {exit : BenchExit}
    (notTerminated : exit ≠ .terminated) :
    Phase setting (run.leave exit) (run.leave exit).pc := by
  refine .inr ⟨?_, leavesCleanly, joined⟩
  rw [joined]
  exact notTerminated

end Leaving

section Preservation

variable
  {setting : BenchSetting}
  {run following : BenchRun}

/-- A promise with a value means that every session of the server succeeded. -/
theorem Tracks.servers_succeed
    (tracks : Tracks setting run)
    (isValue : .value ∈ run.server.allDone) :
    ∀ session < setting.pairs,
      setting.serverEnds session = .completed .value := by
  intro session inRange
  exact (tracks.server.succeeded_of_full (tracks.server.valued isValue)
    (tracks.acceptedWithin.trans tracks.connectedWithin) inRange).1

/-- A promise with a value means that every session of the client succeeded. -/
theorem Tracks.clients_succeed
    (tracks : Tracks setting run)
    (isValue : .value ∈ run.client.allDone) :
    ∀ session < setting.pairs,
      setting.clientEnds session = .completed .value := by
  intro session inRange
  exact (tracks.client.succeeded_of_full (tracks.client.valued isValue)
    tracks.startedWithin inRange).1

/-- An exception of the server's promise comes from a session that failed. -/
theorem Tracks.server_fails
    (tracks : Tracks setting run)
    {what : String}
    (thrown : .exception what ∈ run.server.allDone) :
    ¬ setting.Succeeds := by
  intro succeeds
  obtain ⟨session, inRange, failed⟩ := tracks.serverBlamed what thrown
  have within := tracks.acceptedWithin.trans tracks.connectedWithin
  exact failed (succeeds.servers session (inRange.trans_le within))

/-- An exception of the client's promise comes from a session that failed. -/
theorem Tracks.client_fails
    (tracks : Tracks setting run)
    {what : String}
    (thrown : .exception what ∈ run.client.allDone) :
    ¬ setting.Succeeds := by
  intro succeeds
  obtain ⟨session, inRange, failed⟩ := tracks.clientBlamed what thrown
  exact failed
    (succeeds.clients session (inRange.trans_le tracks.startedWithin))

theorem OpenedUpTo.extend
    {pair : Nat}
    (opened : OpenedUpTo setting pair)
    (inRange : pair < setting.pairs)
    (opens : setting.Opens pair) :
    OpenedUpTo setting (pair + 1) where
  listens := opened.listens
  opens := by
    intro earlier before
    rcases Nat.lt_succ_iff_lt_or_eq.mp before with before | rfl
    · exact opened.opens earlier before
    · exact opens
  inRange := inRange

/-- A step of the main thread leads from phase to phase. -/
theorem MainTransition.phase
    (transition : MainTransition setting run following)
    (tracks : Tracks setting run) :
    Phase setting following following.pc := by
  have phase := tracks.phase
  cases transition with
  | leaveEarly located notBegins notTerminated =>
      rw [located] at phase
      refine phase_leave_of_joined phase.1 ?_ notTerminated
      intro begins
      exact absurd begins notBegins
  | startAccepting located begins =>
      rw [located] at phase
      exact ⟨⟨begins, rfl⟩, phase.2⟩
  | listenThrows located fault =>
      rw [located] at phase
      refine phase_leave_of_started phase.1 ?_ _
      intro succeeds
      rw [succeeds.listens] at fault
      cases fault
  | listens located noFault =>
      rw [located] at phase
      exact ⟨phase.1, ⟨noFault, nofun, Nat.zero_le _⟩, phase.2⟩
  | connectThrows located inRange failed =>
      rw [located] at phase
      refine phase_leave_of_started phase.1 ?_ _
      intro succeeds
      obtain ⟨fd, connected⟩ := (succeeds.opens _ inRange).connects
      rw [connected] at failed
      cases failed
  | connects located inRange connected =>
      rw [located] at phase
      obtain ⟨started, opened, connectedSoFar, startedSoFar⟩ := phase
      exact ⟨started, opened, ⟨_, connected⟩,
        congrArg (· + 1) connectedSoFar, startedSoFar⟩
  | connectedAll located atEnd =>
      rw [located] at phase
      obtain ⟨started, opened, connectedSoFar, startedSoFar⟩ := phase
      obtain rfl := opened.inRange.antisymm atEnd
      exact ⟨started, opened, connectedSoFar, startedSoFar⟩
  | spawnThrows located fault =>
      rw [located] at phase
      refine phase_leave_of_started phase.1 ?_ _
      intro succeeds
      have inRange := tracks.connectedWithin
      rw [phase.2.2.2.1] at inRange
      rw [(succeeds.opens _ inRange).spawns] at fault
      cases fault
  | spawns located noFault =>
      rw [located] at phase
      obtain ⟨started, opened, connects, connectedSoFar, startedSoFar⟩ :=
        phase
      have inRange := tracks.connectedWithin
      rw [connectedSoFar] at inRange
      refine ⟨started, opened.extend inRange ⟨connects, noFault⟩,
        connectedSoFar, ?_⟩
      exact (CompletionGate.length_startSession _).trans
        (congrArg (· + 1) startedSoFar)
  | serverThrows located thrown =>
      rw [located] at phase
      exact phase_leave_of_started phase.1 (tracks.server_fails thrown) _
  | serverDone located isValue =>
      rw [located] at phase
      exact ⟨phase.1, phase.2.1, phase.2.2.2,
        tracks.servers_succeed isValue⟩
  | clientThrows located thrown =>
      rw [located] at phase
      exact phase_leave_of_started phase.1 (tracks.client_fails thrown) _
  | clientDone located isValue =>
      rw [located] at phase
      obtain ⟨started, opened, _, servers⟩ := phase
      exact ⟨started, opened.listens, opened.opens, servers,
        tracks.clients_succeed isValue⟩
  | stops located =>
      rw [located] at phase
      exact phase
  | joinsAccept located =>
      rw [located] at phase
      exact ⟨phase.2, rfl, joinedUpTo_zero _⟩
  | joinsServer located _ =>
      rw [located] at phase
      exact ⟨phase.1, phase.2.1, phase.2.2.join⟩
  | joinedServers located atEnd =>
      rw [located] at phase
      exact ⟨phase.1, phase.2.1, phase.2.2.any_eq_false atEnd,
        joinedUpTo_zero _⟩
  | joinsClient located _ =>
      rw [located] at phase
      exact ⟨phase.1, phase.2.1, phase.2.2.1, phase.2.2.2.join⟩
  | returns located atEnd =>
      rw [located] at phase
      obtain ⟨succeeds, acceptJoined, serversJoined, clients⟩ := phase
      refine phase_leave_of_joined ?_ (fun _ => succeeds) nofun
      simp [anyJoinable, acceptJoined, serversJoined,
        clients.any_eq_false atEnd]

/-- A step of the main thread keeps the invariant. -/
theorem MainTransition.preserves_tracks
    (transition : MainTransition setting run following)
    (tracks : Tracks setting run) :
    Tracks setting following := by
  have phase := transition.phase tracks
  have before := tracks.phase
  cases transition with
  | connects located inRange _ =>
      rw [located] at before
      have connectedLater : run.connected + 1 ≤ setting.pairs := by
        rw [before.2.2.1]
        exact inRange
      exact { tracks with
        acceptedWithin := tracks.acceptedWithin.trans (Nat.le_succ _)
        connectedWithin := connectedLater
        phase := phase }
  | spawns located noFault =>
      rw [located] at before
      have startedLater :
          run.client.startSession.sessions.length ≤ setting.pairs := by
        have := tracks.connectedWithin
        rw [CompletionGate.length_startSession, before.2.2.2.2]
        rw [before.2.2.2.1] at this
        exact this
      have starts :
          CompletionGate.Transition .client setting.pairs setting.clientEnds
            run.client .start run.client.startSession := .start
      exact { tracks with
        client := starts.preserves_consistent tracks.client
        clientBlamed :=
          starts.preserves_blamed tracks.client rfl tracks.clientBlamed
        startedWithin := startedLater
        clientThreads := by
          rw [CompletionGate.length_startSession, List.length_append,
            tracks.clientThreads]
          rfl
        phase := phase }
  | joinsServer located _ =>
      exact { tracks with
        serverThreads := List.length_set.trans_le tracks.serverThreads
        phase := phase }
  | joinsClient located _ =>
      exact { tracks with
        clientThreads := List.length_set.trans tracks.clientThreads
        phase := phase }
  | _ => exact { tracks with phase := phase }

/-- Accepting a connection keeps the invariant. -/
theorem Tracks.accept
    (tracks : Tracks setting run)
    (accepts : run.pc.accepts = true)
    (waiting : run.server.sessions.length < run.connected) :
    Tracks setting (run.accept setting) := by
  have starts :
      CompletionGate.Transition .server setting.pairs setting.serverEnds
        run.server .start run.server.startSession := .start
  have threads :
      (run.accept setting).serverThreads.length ≤
        run.server.sessions.length + 1 := by
    have := tracks.serverThreads
    unfold BenchRun.accept
    cases setting.serverEnds run.server.sessions.length <;>
      simp <;> omega
  have phase : Phase setting (run.accept setting) run.pc := by
    have before := tracks.phase
    cases located : run.pc <;>
      rw [located] at before accepts <;>
      first
      | exact before
      | cases accepts
  exact { tracks with
    server := starts.preserves_consistent tracks.server
    serverBlamed :=
      starts.preserves_blamed tracks.server rfl tracks.serverBlamed
    acceptedWithin := (CompletionGate.length_startSession _).trans_le waiting
    serverThreads :=
      threads.trans_eq (CompletionGate.length_startSession _).symm
    phase := phase }

/-- The phases look at the client's sessions only to count them. -/
theorem phase_of_length_eq
    {gate : CompletionGate}
    {pc : BenchPc}
    (same : gate.sessions.length = run.client.sessions.length)
    (phase : Phase setting run pc) :
    Phase setting { run with client := gate } pc := by
  cases pc with
  | entering => exact ⟨phase.1, phase.2.1, same.trans phase.2.2⟩
  | listening => exact ⟨phase.1, phase.2.1, same.trans phase.2.2⟩
  | connecting pair =>
      exact ⟨phase.1, phase.2.1, phase.2.2.1, same.trans phase.2.2.2⟩
  | spawning pair =>
      exact ⟨phase.1, phase.2.1, phase.2.2.1, phase.2.2.2.1,
        same.trans phase.2.2.2.2⟩
  | awaitingServer =>
      exact ⟨phase.1, phase.2.1, phase.2.2.1, same.trans phase.2.2.2⟩
  | awaitingClient =>
      exact ⟨phase.1, phase.2.1, same.trans phase.2.2.1, phase.2.2.2⟩
  | _ => exact phase

/-- Every step that meets the condition keeps the invariant. -/
theorem Transition.preserves_tracks
    {action : Action}
    (transition : Transition setting run action following)
    (late : run.acceptErrorsLate action = true)
    (tracks : Tracks setting run) :
    Tracks setting following := by
  cases transition with
  | main transition =>
      exact transition.preserves_tracks tracks
  | accept accepts waiting =>
      exact tracks.accept accepts waiting
  | server notLeft notStart transition =>
      have same := transition.length_sessions notStart
      exact { tracks with
        server := transition.preserves_consistent tracks.server
        serverBlamed :=
          transition.preserves_blamed tracks.server late tracks.serverBlamed
        acceptedWithin := same.trans_le tracks.acceptedWithin
        serverThreads := tracks.serverThreads.trans_eq same.symm
        phase := tracks.phase }
  | client notLeft notStart transition =>
      have same := transition.length_sessions notStart
      have late : run.client.acceptErrorsLate _ = true :=
        transition.acceptErrorsLate_of_client
      exact { tracks with
        client := transition.preserves_consistent tracks.client
        clientBlamed :=
          transition.preserves_blamed tracks.client late tracks.clientBlamed
        startedWithin := same.trans_le tracks.startedWithin
        clientThreads := tracks.clientThreads.trans same.symm
        phase := phase_of_length_eq same tracks.phase }

theorem tracks_initial
    (setting : BenchSetting) :
    Tracks setting initial where
  server := CompletionGate.consistent_initial
  client := CompletionGate.consistent_initial
  serverBlamed := nofun
  clientBlamed := nofun
  acceptedWithin := Nat.le_refl 0
  connectedWithin := Nat.zero_le _
  startedWithin := Nat.zero_le _
  serverThreads := Nat.le_refl 0
  clientThreads := rfl
  phase := ⟨rfl, rfl, rfl⟩

/-- Every run whose steps meet the condition keeps the invariant. -/
theorem tracks_of_reachable
    (reachable :
      ReachableWhile (step setting)
        (fun run action => run.acceptErrorsLate action = true)
        (fun start => start = initial) run) :
    Tracks setting run := by
  refine reachable.invariant_from (tracks_initial setting) ?_
  intro _ _ _ _ tracks late taken
  exact (transition_of_step taken).preserves_tracks late tracks

end Preservation

section Progress

variable
  {setting : BenchSetting}
  {run following : BenchRun}

/-- The main thread is blocked by an unfulfilled promise only. -/
theorem blocked_of_mainStep_eq_none
    (blocked : run.mainStep setting = none) :
    run.pc.hasLeft = true ∨
      (run.pc = .awaitingServer ∧ run.server.allDone = []) ∨
      (run.pc = .awaitingClient ∧ run.client.allDone = []) := by
  cases located : run.pc with
  | left exit =>
      exact .inl rfl
  | awaitingServer =>
      simp only [mainStep, located, get] at blocked
      split at blocked
      · next unfulfilled =>
          exact .inr (.inl ⟨rfl, unfulfilled⟩)
      · cases blocked
      · cases blocked
  | awaitingClient =>
      simp only [mainStep, located, get] at blocked
      split at blocked
      · next unfulfilled =>
          exact .inr (.inr ⟨rfl, unfulfilled⟩)
      · cases blocked
      · cases blocked
  | _ =>
      simp only [mainStep, located] at blocked
      repeat' split at blocked
      all_goals cases blocked

/-- While a promise is unfulfilled, some handler has not returned. -/
theorem exists_not_returned
    {expectedConns : Nat}
    {ends : Nat → SessionEnd}
    {gate : CompletionGate}
    (consistent : gate.Consistent expectedConns ends)
    (expectsSome : 0 < expectedConns)
    (enough : expectedConns ≤ gate.sessions.length)
    (unfulfilled : gate.allDone = []) :
    ∃ pc ∈ gate.sessions, pc.hasReturned = false := by
  by_contra noneLeft
  push Not at noneLeft
  have allReturned : ∀ pc ∈ gate.sessions, pc.hasReturned = true :=
    fun pc member => eq_true_of_ne_false (noneLeft pc member)
  have fired :=
    consistent.fired_of_returned expectsSome
      (by rwa [List.countP_eq_length.mpr allReturned])
      (fun pc member => .inr (allReturned pc member))
  obtain ⟨result, isResult⟩ := consistent.fulfilled fired
  rw [isResult] at unfulfilled
  cases unfulfilled

/-- A handler of the server that has not returned can go on. -/
theorem exists_server_step
    {pc : HandlerPc}
    (notLeft : run.pc.hasLeft = false)
    (member : pc ∈ run.server.sessions)
    (notReturned : pc.hasReturned = false) :
    ∃ action following,
      action.isAcceptError = false ∧
        run.step setting action = some following := by
  obtain ⟨action, gate, isHandlerStep, taken⟩ :=
    CompletionGate.exists_step_of_not_returned .server setting.pairs
      setting.serverEnds member notReturned
  refine ⟨.server action, { run with server := gate }, ?_, ?_⟩
  · cases action <;> first | rfl | cases isHandlerStep
  · have notStart : action ≠ .start := by
      rintro rfl
      cases isHandlerStep
    simp [step, notLeft, notStart, taken]

/-- A handler of the client that has not returned can go on. -/
theorem exists_client_step
    {pc : HandlerPc}
    (notLeft : run.pc.hasLeft = false)
    (member : pc ∈ run.client.sessions)
    (notReturned : pc.hasReturned = false) :
    ∃ action following,
      action.isAcceptError = false ∧
        run.step setting action = some following := by
  obtain ⟨action, gate, isHandlerStep, taken⟩ :=
    CompletionGate.exists_step_of_not_returned .client setting.pairs
      setting.clientEnds member notReturned
  refine ⟨.client action, { run with client := gate }, rfl, ?_⟩
  have notStart : action ≠ .start := by
    rintro rfl
    cases isHandlerStep
  simp [step, notLeft, notStart, taken]

/-- Until the function has been left, some thread can go on. -/
theorem Tracks.progress
    (tracks : Tracks setting run)
    (notLeft : run.pc.hasLeft = false) :
    ∃ action following,
      action.isAcceptError = false ∧
        run.step setting action = some following := by
  have phase := tracks.phase
  cases taken : run.mainStep setting with
  | some following =>
      exact ⟨.main, following, rfl, taken⟩
  | none =>
      rcases blocked_of_mainStep_eq_none taken with
        hasLeft | ⟨located, unfulfilled⟩ | ⟨located, unfulfilled⟩
      · rw [hasLeft] at notLeft
        cases notLeft
      · rw [located] at phase
        obtain ⟨started, _, connectedAll, _⟩ := phase
        by_cases waiting : run.server.sessions.length < run.connected
        · refine ⟨.accept, run.accept setting, rfl, if_pos ⟨?_, waiting⟩⟩
          rw [located]
          rfl
        · have enough : setting.pairs ≤ run.server.sessions.length := by
            omega
          obtain ⟨pc, member, notReturned⟩ :=
            exists_not_returned tracks.server started.begins.somePairs
              enough unfulfilled
          exact exists_server_step notLeft member notReturned
      · rw [located] at phase
        obtain ⟨started, _, startedAll, _⟩ := phase
        obtain ⟨pc, member, notReturned⟩ :=
          exists_not_returned tracks.client started.begins.somePairs
            startedAll.symm.le unfulfilled
        exact exists_client_step notLeft member notReturned

/-- A step that moves the main thread on, and no handler. -/
theorem stepsLeft_lt_of_mainStepsLeft_lt
    (sameServer : following.server = run.server)
    (sameClient : following.client = run.client)
    (fewer :
      mainStepsLeft setting.pairs following.pc <
        mainStepsLeft setting.pairs run.pc) :
    following.stepsLeft setting < run.stepsLeft setting := by
  unfold stepsLeft
  rw [sameServer, sameClient]
  omega

theorem stepsLeft_leave_lt
    (notLeft : run.pc.hasLeft = false)
    (exit : BenchExit) :
    (run.leave exit).stepsLeft setting < run.stepsLeft setting := by
  refine stepsLeft_lt_of_mainStepsLeft_lt rfl rfl ?_
  cases located : run.pc <;> rw [located] at notLeft <;>
    simp [leave, mainStepsLeft, BenchPc.hasLeft] at notLeft ⊢

/-- Every step of the main thread uses up one of its steps. -/
theorem MainTransition.stepsLeft_lt
    (transition : MainTransition setting run following)
    (tracks : Tracks setting run) :
    following.stepsLeft setting < run.stepsLeft setting := by
  have serverWithin := tracks.serverThreads.trans
    (tracks.acceptedWithin.trans tracks.connectedWithin)
  have clientWithin := tracks.clientThreads.trans_le tracks.startedWithin
  have phase := tracks.phase
  cases transition with
  | leaveEarly located _ _ =>
      exact stepsLeft_leave_lt (congrArg BenchPc.hasLeft located) _
  | listenThrows located _ =>
      exact stepsLeft_leave_lt (congrArg BenchPc.hasLeft located) _
  | connectThrows located _ _ =>
      exact stepsLeft_leave_lt (congrArg BenchPc.hasLeft located) _
  | spawnThrows located _ =>
      exact stepsLeft_leave_lt (congrArg BenchPc.hasLeft located) _
  | serverThrows located _ =>
      exact stepsLeft_leave_lt (congrArg BenchPc.hasLeft located) _
  | clientThrows located _ =>
      exact stepsLeft_leave_lt (congrArg BenchPc.hasLeft located) _
  | returns located _ =>
      exact stepsLeft_leave_lt (congrArg BenchPc.hasLeft located) _
  | spawns located _ =>
      rw [located] at phase
      have inRange := tracks.connectedWithin
      rw [phase.2.2.2.1] at inRange
      simp only [stepsLeft, located, mainStepsLeft,
        CompletionGate.stepsLeft_startSession]
      omega
  | _ =>
      refine stepsLeft_lt_of_mainStepsLeft_lt rfl rfl ?_
      simp only [‹run.pc = _›, mainStepsLeft]
      omega

/-- Every step but an accept error uses up a step of the run. -/
theorem Transition.stepsLeft_lt
    {action : Action}
    (transition : Transition setting run action following)
    (notAcceptError : action.isAcceptError = false)
    (tracks : Tracks setting run) :
    following.stepsLeft setting < run.stepsLeft setting := by
  cases transition with
  | main transition =>
      exact transition.stepsLeft_lt tracks
  | accept _ waiting =>
      have within := tracks.connectedWithin
      simp only [BenchRun.stepsLeft, BenchRun.accept,
        CompletionGate.stepsLeft_startSession,
        CompletionGate.length_startSession]
      omega
  | server _ notStart transition =>
      have same := transition.length_sessions notStart
      have fewer := transition.stepsLeft_lt (by
        cases transition <;> first | rfl | contradiction)
      simp only [BenchRun.stepsLeft, same]
      omega
  | client _ notStart transition =>
      have fewer := transition.stepsLeft_lt (by
        cases transition <;> first | rfl | contradiction)
      simp only [BenchRun.stepsLeft]
      omega

end Progress

/--
In every run in which no accept error comes before the server's promise is
fulfilled: the function is left with its threads joined, by returning or by an
exception that becomes an `Err`, exactly when no thread is started or nothing
fails afterwards.  It is left after finitely many steps: until then some thread can
go on, and every step but an accept error is one of a bounded number.
-/
theorem leaves_cleanly_iff
    {setting : BenchSetting}
    {run : BenchRun}
    (reachable :
      ReachableWhile (step setting)
        (fun run action => run.acceptErrorsLate action = true)
        (fun start => start = initial) run) :
    (∀ exit, run.pc = .left exit →
      (((∃ result, exit.result = some result) ∧ run.anyJoinable = false) ↔
        setting.LeavesCleanly)) ∧
    (run.pc.hasLeft = false →
      ∃ action following,
        action.isAcceptError = false ∧
          run.step setting action = some following) ∧
    (∀ action following,
      action.isAcceptError = false →
      run.step setting action = some following →
      following.stepsLeft setting < run.stepsLeft setting) := by
  have tracks := tracks_of_reachable reachable
  refine ⟨?_, tracks.progress, ?_⟩
  · intro exit located
    have phase := tracks.phase
    rw [located] at phase
    rcases phase with ⟨rfl, unclean⟩ | ⟨notTerminated, clean, joined⟩
    · constructor
      · rintro ⟨⟨result, isResult⟩, _⟩
        cases isResult
      · intro clean
        exact absurd clean unclean
    · refine ⟨fun _ => clean, fun _ => ⟨?_, joined⟩⟩
      cases exit with
      | returned wallTime => exact ⟨_, rfl⟩
      | threw what => exact ⟨_, rfl⟩
      | terminated => exact absurd rfl notTerminated
  · intro action following notAcceptError taken
    exact (transition_of_step taken).stepsLeft_lt notAcceptError tracks

/-- One pair, with nothing that fails. -/
def sampleSetting : BenchSetting where
  pairs := 1
  batchSize := 4
  rounds := 1
  caStore := fun _ => .loaded
  caCertPath := "ca.pem"
  acceptFault := none
  listenFault := none
  sockets := fun _ => { socket := 3, connect := 0, setsockopt := 0 }
  spawnFault := fun _ => none
  serverEnds := fun _ => .completed .value
  clientEnds := fun _ => .completed .value
  wallTime := 250

/-- The accept thread, then both sides, then the joins. -/
def sampleSchedule : List Action :=
  [.main, .main, .main, .accept, .main, .main,
    .client (.finish 0), .client (.advance 0), .server (.finish 0),
    .server (.advance 0), .server (.advance 0), .server (.advance 0),
    .main, .client (.advance 0), .client (.advance 0), .main,
    .main, .main, .main, .main, .main, .main]

theorem leaves_cleanly_iff_sample :
    ∃ run,
      run? (restrict (step sampleSetting) acceptErrorsLate) initial
          sampleSchedule = some run ∧
        run.pc = .left (.returned 250) ∧
        sampleSetting.LeavesCleanly := by
  obtain ⟨run, performed, located, joined⟩ :
      ∃ run,
        run? (restrict (step sampleSetting) acceptErrorsLate) initial
            sampleSchedule = some run ∧
          run.pc = .left (.returned 250) ∧
          run.anyJoinable = false := ⟨_, rfl, rfl, rfl⟩
  refine ⟨run, performed, located, ?_⟩
  exact ((leaves_cleanly_iff
    (reachableWhile_of_run? (.start rfl) performed)).1 _ located).mp
      ⟨⟨_, rfl⟩, joined⟩

/--
A connect that fails ends the process, and so does a handshake that fails: both
leave the function with the accept thread joinable.
-/
theorem failure_terminates :
    (∃ run,
      run? (step { sampleSetting with
          sockets := fun _ => { socket := 3, connect := -1, setsockopt := 0 } })
          initial [.main, .main, .main] = some run ∧
        run.pc = .left .terminated ∧ run.acceptThread = true) ∧
    (∃ run,
      run? (step { sampleSetting with
          serverEnds := fun _ =>
            .completed (.exception "server handshake: closed") })
          initial
          [.main, .main, .main, .accept, .main, .main, .server (.finish 0),
            .server (.advance 0), .server (.advance 0), .main] = some run ∧
        run.pc = .left .terminated ∧ run.acceptThread = true) ∧
    BenchExit.terminated.result = none :=
  ⟨⟨_, rfl, rfl, rfl⟩, ⟨_, rfl, rfl, rfl⟩, rfl⟩

end BenchRun

end FizzRs
