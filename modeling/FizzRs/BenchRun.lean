import FizzRs.BenchCompletion

namespace FizzRs

open LabelledSystem

/-!
# The run of the echo benchmark

`run_fizz_cpp_bench` starts a thread for the accept loop and one for each
connection of either side, waits for the promises of the two sides, and joins the
threads behind that wait.  Its threads are locals: leaving the function destroys
them, and the destruction of a thread that is still joinable terminates the
process.

The main thread, the acceptor and the handlers of both sides interleave.  What the
operating system and the peers do is fixed beforehand in a `BenchSetting`.  Every
session that is started ends, at any time and in the way that the setting says.
-/

/-- The results of the system calls that open one connection. -/
structure SocketCalls where
  socket : Int
  connect : Int
  setsockopt : Int
  deriving Repr, DecidableEq

/-- `blocking_tcp_connect`: a connected descriptor, or what is thrown. -/
def blockingTcpConnect (calls : SocketCalls) : Except String Int :=
  if calls.socket < 0 then
    .error "cpp_bench: socket()"
  else if calls.connect < 0 then
    .error "cpp_bench: connect()"
  else if calls.setsockopt < 0 then
    .error "cpp_bench: setsockopt(TCP_NODELAY)"
  else
    .ok calls.socket

/-- `create_verifier` of the benchmark. -/
def createVerifier
    (caStore : String → CaStore)
    (caCertPath : String) :
    Except String Unit :=
  match caStore caCertPath with
  | .loaded => .ok ()
  | _ => .error ("cpp_bench: failed to load CA from " ++ caCertPath)

/--
The arguments of a run and all that is outside it.  `acceptFault` is the text of
an exception thrown while the accept loop and its thread are created,
`listenFault` of one thrown afterwards and before the first connection,
`spawnFault` of one thrown while the thread of a client session is created.
Sessions are numbered in the order in which their side starts them.
-/
structure BenchSetting where
  pairs : Nat
  batchSize : Nat
  rounds : Nat
  caStore : String → CaStore
  caCertPath : String
  acceptFault : Option String
  listenFault : Option String
  sockets : Nat → SocketCalls
  spawnFault : Nat → Option String
  serverEnds : Nat → SessionEnd
  clientEnds : Nat → SessionEnd
  wallTime : Nat

namespace BenchSetting

/-- The function gets as far as to start its first thread. -/
structure Begins (setting : BenchSetting) : Prop where
  somePairs : 0 < setting.pairs
  someRounds : 0 < setting.rounds
  someBytes : 0 < setting.batchSize
  verifies : createVerifier setting.caStore setting.caCertPath = .ok ()
  accepts : setting.acceptFault = none

/-- A client connects and gets its thread. -/
structure Opens
    (setting : BenchSetting)
    (pair : Nat) :
    Prop where
  connects : ∃ fd, blockingTcpConnect (setting.sockets pair) = .ok fd
  spawns : setting.spawnFault pair = none

/-- Nothing fails once the first thread has been started. -/
structure Succeeds (setting : BenchSetting) : Prop where
  listens : setting.listenFault = none
  opens : ∀ pair < setting.pairs, setting.Opens pair
  servers :
    ∀ session < setting.pairs,
      setting.serverEnds session = .completed .value
  clients :
    ∀ session < setting.pairs,
      setting.clientEnds session = .completed .value

/-- No thread is started, or nothing fails afterwards. -/
def LeavesCleanly (setting : BenchSetting) : Prop :=
  setting.Begins → setting.Succeeds

end BenchSetting

/-- How the function is left. -/
inductive BenchExit where
  | returned (wallTime : Nat)
  | threw (what : String)
  | terminated
  deriving Repr, DecidableEq

/-- `cpp_bench::run`; nothing is left to return to when the process ends. -/
def BenchExit.result : BenchExit → Option (Except FizzError Nat)
  | .returned wallTime => some (.ok wallTime)
  | .threw what => some (.error (.ioError what))
  | .terminated => none

/-- Where the main thread stands in `run_fizz_cpp_bench`. -/
inductive BenchPc where
  | entering
  | listening
  | connecting (pair : Nat)
  | spawning (pair : Nat)
  | awaitingServer
  | awaitingClient
  | stopping
  | joiningAccept
  | joiningServer (thread : Nat)
  | joiningClient (thread : Nat)
  | left (exit : BenchExit)
  deriving Repr, DecidableEq

namespace BenchPc

/-- The listening socket accepts connections. -/
def accepts : BenchPc → Bool
  | .connecting _ => true
  | .spawning _ => true
  | .awaitingServer => true
  | .awaitingClient => true
  | .stopping => true
  | _ => false

/-- The function has been left. -/
def hasLeft : BenchPc → Bool
  | .left _ => true
  | _ => false

end BenchPc

/-- The locals of `run_fizz_cpp_bench`; a thread is `true` while joinable. -/
structure BenchRun where
  pc : BenchPc
  connected : Nat
  acceptThread : Bool
  serverThreads : List Bool
  clientThreads : List Bool
  server : CompletionGate
  client : CompletionGate
  deriving Repr, DecidableEq

namespace BenchRun

/-- The function has been called. -/
def initial : BenchRun where
  pc := .entering
  connected := 0
  acceptThread := false
  serverThreads := []
  clientThreads := []
  server := .initial
  client := .initial

/-- Some thread object would be destroyed while joinable. -/
def anyJoinable (run : BenchRun) : Bool :=
  run.acceptThread || run.serverThreads.any id || run.clientThreads.any id

/-- Leave the function, destroying its locals. -/
def leave
    (run : BenchRun)
    (exit : BenchExit) :
    BenchRun :=
  { run with pc := .left (if run.anyJoinable then .terminated else exit) }

/-- `future.get()`: blocked, going on, or rethrowing. -/
def get
    (run : BenchRun)
    (promise : List PromiseResult)
    (next : BenchPc) :
    Option BenchRun :=
  match promise with
  | [] => none
  | .value :: _ => some { run with pc := next }
  | .exception what :: _ => some (run.leave (.threw what))

/-- The next statement of the main thread. -/
def mainStep
    (setting : BenchSetting)
    (run : BenchRun) :
    Option BenchRun :=
  match run.pc with
  | .entering =>
      if setting.pairs = 0 ∨ setting.rounds = 0 ∨ setting.batchSize = 0 then
        some (run.leave (.returned 0))
      else
        match createVerifier setting.caStore setting.caCertPath,
          setting.acceptFault with
        | .error what, _ => some (run.leave (.threw what))
        | .ok (), some what => some (run.leave (.threw what))
        | .ok (), none =>
            some { run with
              pc := .listening
              acceptThread := true }
  | .listening =>
      match setting.listenFault with
      | some what => some (run.leave (.threw what))
      | none => some { run with pc := .connecting 0 }
  | .connecting pair =>
      if pair < setting.pairs then
        match blockingTcpConnect (setting.sockets pair) with
        | .error what => some (run.leave (.threw what))
        | .ok _ =>
            some { run with
              pc := .spawning pair
              connected := run.connected + 1 }
      else
        some { run with pc := .awaitingServer }
  | .spawning pair =>
      match setting.spawnFault pair with
      | some what => some (run.leave (.threw what))
      | none =>
          some { run with
            pc := .connecting (pair + 1)
            clientThreads := run.clientThreads ++ [true]
            client := run.client.startSession }
  | .awaitingServer => run.get run.server.allDone .awaitingClient
  | .awaitingClient => run.get run.client.allDone .stopping
  | .stopping => some { run with pc := .joiningAccept }
  | .joiningAccept =>
      some { run with
        pc := .joiningServer 0
        acceptThread := false }
  | .joiningServer thread =>
      if thread < run.serverThreads.length then
        some { run with
          pc := .joiningServer (thread + 1)
          serverThreads := run.serverThreads.set thread false }
      else
        some { run with pc := .joiningClient 0 }
  | .joiningClient thread =>
      if thread < run.clientThreads.length then
        some { run with
          pc := .joiningClient (thread + 1)
          clientThreads := run.clientThreads.set thread false }
      else
        some (run.leave (.returned setting.wallTime))
  | .left _ => none

/--
`connectionAccepted`: the new connection gets a thread, unless an exception is
caught before that.
-/
def accept
    (setting : BenchSetting)
    (run : BenchRun) :
    BenchRun :=
  { run with
    serverThreads :=
      match setting.serverEnds run.server.sessions.length with
      | .acceptFailed _ => run.serverThreads
      | _ => run.serverThreads ++ [true]
    server := run.server.startSession }

/-- The steps of the main thread until the function has been left, at most. -/
def mainStepsLeft (pairs : Nat) : BenchPc → Nat
  | .entering => 8 * pairs + 9
  | .listening => 8 * pairs + 8
  | .connecting pair => 6 * (pairs - pair) + 2 * pairs + 7
  | .spawning pair => 6 * (pairs - pair) + 2 * pairs + 6
  | .awaitingServer => 2 * pairs + 6
  | .awaitingClient => 2 * pairs + 5
  | .stopping => 2 * pairs + 4
  | .joiningAccept => 2 * pairs + 3
  | .joiningServer thread => (pairs - thread) + pairs + 2
  | .joiningClient thread => (pairs - thread) + 1
  | .left _ => 0

/--
A bound on the steps until the function has been left.  A pair takes two steps of
the main thread and one of the acceptor, and four steps of each handler.
-/
def stepsLeft
    (setting : BenchSetting)
    (run : BenchRun) :
    Nat :=
  mainStepsLeft setting.pairs run.pc +
    5 * (setting.pairs - run.server.sessions.length) +
    run.server.stepsLeft + run.client.stepsLeft

/-- Steps of the main thread, of the acceptor and of the two sides' handlers. -/
inductive Action where
  | main
  | accept
  | server (action : CompletionGate.Action)
  | client (action : CompletionGate.Action)
  deriving Repr, DecidableEq

/-- The step reports an error of the listening socket. -/
def Action.isAcceptError : Action → Bool
  | .server (.acceptError _) => true
  | _ => false

/-- An accept error does not come before the server's promise is fulfilled. -/
def acceptErrorsLate (run : BenchRun) : Action → Bool
  | .server action => run.server.acceptErrorsLate action
  | _ => true

/-- One step of one thread, until the function has been left. -/
def step
    (setting : BenchSetting)
    (run : BenchRun) :
    Action → Option BenchRun
  | .main => run.mainStep setting
  | .accept =>
      if run.pc.accepts ∧ run.server.sessions.length < run.connected then
        some (run.accept setting)
      else
        none
  | .server action =>
      if run.pc.hasLeft ∨ action = .start then
        none
      else
        (run.server.step .server setting.pairs setting.serverEnds action).map
          fun following => { run with server := following }
  | .client action =>
      if run.pc.hasLeft ∨ action = .start then
        none
      else
        (run.client.step .client setting.pairs setting.clientEnds action).map
          fun following => { run with client := following }

/-- What a step of the main thread does, with the branch that it takes. -/
inductive MainTransition
    (setting : BenchSetting)
    (run : BenchRun) :
    BenchRun → Prop where
  | leaveEarly {exit : BenchExit} :
      run.pc = .entering →
      ¬ setting.Begins →
      exit ≠ .terminated →
      MainTransition setting run (run.leave exit)
  | startAccepting :
      run.pc = .entering →
      setting.Begins →
      MainTransition setting run
        { run with
          pc := .listening
          acceptThread := true }
  | listenThrows {what : String} :
      run.pc = .listening →
      setting.listenFault = some what →
      MainTransition setting run (run.leave (.threw what))
  | listens :
      run.pc = .listening →
      setting.listenFault = none →
      MainTransition setting run { run with pc := .connecting 0 }
  | connectThrows {pair : Nat} {what : String} :
      run.pc = .connecting pair →
      pair < setting.pairs →
      blockingTcpConnect (setting.sockets pair) = .error what →
      MainTransition setting run (run.leave (.threw what))
  | connects {pair : Nat} {fd : Int} :
      run.pc = .connecting pair →
      pair < setting.pairs →
      blockingTcpConnect (setting.sockets pair) = .ok fd →
      MainTransition setting run
        { run with
          pc := .spawning pair
          connected := run.connected + 1 }
  | connectedAll {pair : Nat} :
      run.pc = .connecting pair →
      setting.pairs ≤ pair →
      MainTransition setting run { run with pc := .awaitingServer }
  | spawnThrows {pair : Nat} {what : String} :
      run.pc = .spawning pair →
      setting.spawnFault pair = some what →
      MainTransition setting run (run.leave (.threw what))
  | spawns {pair : Nat} :
      run.pc = .spawning pair →
      setting.spawnFault pair = none →
      MainTransition setting run
        { run with
          pc := .connecting (pair + 1)
          clientThreads := run.clientThreads ++ [true]
          client := run.client.startSession }
  | serverThrows {what : String} :
      run.pc = .awaitingServer →
      .exception what ∈ run.server.allDone →
      MainTransition setting run (run.leave (.threw what))
  | serverDone :
      run.pc = .awaitingServer →
      .value ∈ run.server.allDone →
      MainTransition setting run { run with pc := .awaitingClient }
  | clientThrows {what : String} :
      run.pc = .awaitingClient →
      .exception what ∈ run.client.allDone →
      MainTransition setting run (run.leave (.threw what))
  | clientDone :
      run.pc = .awaitingClient →
      .value ∈ run.client.allDone →
      MainTransition setting run { run with pc := .stopping }
  | stops :
      run.pc = .stopping →
      MainTransition setting run { run with pc := .joiningAccept }
  | joinsAccept :
      run.pc = .joiningAccept →
      MainTransition setting run
        { run with
          pc := .joiningServer 0
          acceptThread := false }
  | joinsServer {thread : Nat} :
      run.pc = .joiningServer thread →
      thread < run.serverThreads.length →
      MainTransition setting run
        { run with
          pc := .joiningServer (thread + 1)
          serverThreads := run.serverThreads.set thread false }
  | joinedServers {thread : Nat} :
      run.pc = .joiningServer thread →
      run.serverThreads.length ≤ thread →
      MainTransition setting run { run with pc := .joiningClient 0 }
  | joinsClient {thread : Nat} :
      run.pc = .joiningClient thread →
      thread < run.clientThreads.length →
      MainTransition setting run
        { run with
          pc := .joiningClient (thread + 1)
          clientThreads := run.clientThreads.set thread false }
  | returns {thread : Nat} :
      run.pc = .joiningClient thread →
      run.clientThreads.length ≤ thread →
      MainTransition setting run (run.leave (.returned setting.wallTime))

/-- What a step of any thread does. -/
inductive Transition
    (setting : BenchSetting)
    (run : BenchRun) :
    Action → BenchRun → Prop where
  | main {following : BenchRun} :
      MainTransition setting run following →
      Transition setting run .main following
  | accept :
      run.pc.accepts = true →
      run.server.sessions.length < run.connected →
      Transition setting run .accept (run.accept setting)
  | server {action : CompletionGate.Action} {gate : CompletionGate} :
      run.pc.hasLeft = false →
      action ≠ .start →
      CompletionGate.Transition .server setting.pairs setting.serverEnds
        run.server action gate →
      Transition setting run (.server action) { run with server := gate }
  | client {action : CompletionGate.Action} {gate : CompletionGate} :
      run.pc.hasLeft = false →
      action ≠ .start →
      CompletionGate.Transition .client setting.pairs setting.clientEnds
        run.client action gate →
      Transition setting run (.client action) { run with client := gate }

section Steps

variable
  {setting : BenchSetting}
  {run following : BenchRun}

theorem transition_of_entering
    (entering : run.pc = .entering)
    (taken : run.mainStep setting = some following) :
    MainTransition setting run following := by
  simp only [mainStep, entering] at taken
  split at taken
  · next nothingToDo =>
      obtain rfl := Option.some.inj taken
      refine .leaveEarly entering ?_ nofun
      intro begins
      have := begins.somePairs
      have := begins.someRounds
      have := begins.someBytes
      omega
  · next somethingToDo =>
      split at taken
      · next _ what failed =>
          obtain rfl := Option.some.inj taken
          refine .leaveEarly entering ?_ nofun
          intro begins
          rw [begins.verifies] at failed
          cases failed
      · next what _ fault =>
          obtain rfl := Option.some.inj taken
          refine .leaveEarly entering ?_ nofun
          intro begins
          rw [begins.accepts] at fault
          cases fault
      · next verified noFault =>
          obtain rfl := Option.some.inj taken
          refine .startAccepting entering ⟨?_, ?_, ?_, verified, noFault⟩
          all_goals omega

theorem transition_of_connecting
    {pair : Nat}
    (connecting : run.pc = .connecting pair)
    (taken : run.mainStep setting = some following) :
    MainTransition setting run following := by
  simp only [mainStep, connecting] at taken
  split at taken
  · next inRange =>
      split at taken
      · next what failed =>
          obtain rfl := Option.some.inj taken
          exact .connectThrows connecting inRange failed
      · next fd connected =>
          obtain rfl := Option.some.inj taken
          exact .connects connecting inRange connected
  · next atEnd =>
      obtain rfl := Option.some.inj taken
      exact .connectedAll connecting (Nat.le_of_not_lt atEnd)

/-- `future.get()` goes on with a value, and rethrows an exception. -/
theorem get_eq_some
    {promise : List PromiseResult}
    {next : BenchPc}
    (taken : run.get promise next = some following) :
    (.value ∈ promise ∧ following = { run with pc := next }) ∨
      ∃ what, .exception what ∈ promise ∧
        following = run.leave (.threw what) := by
  unfold get at taken
  split at taken
  · cases taken
  · exact .inl ⟨List.mem_cons_self, (Option.some.inj taken).symm⟩
  · next what _ =>
      exact .inr ⟨what, List.mem_cons_self, (Option.some.inj taken).symm⟩

theorem transition_of_mainStep
    (taken : run.mainStep setting = some following) :
    MainTransition setting run following := by
  cases located : run.pc with
  | entering =>
      exact transition_of_entering located taken
  | listening =>
      simp only [mainStep, located] at taken
      split at taken
      · next what fault =>
          obtain rfl := Option.some.inj taken
          exact .listenThrows located fault
      · next noFault =>
          obtain rfl := Option.some.inj taken
          exact .listens located noFault
  | connecting pair =>
      exact transition_of_connecting located taken
  | spawning pair =>
      simp only [mainStep, located] at taken
      split at taken
      · next what fault =>
          obtain rfl := Option.some.inj taken
          exact .spawnThrows located fault
      · next noFault =>
          obtain rfl := Option.some.inj taken
          exact .spawns located noFault
  | awaitingServer =>
      simp only [mainStep, located] at taken
      rcases get_eq_some taken with ⟨isValue, rfl⟩ | ⟨what, thrown, rfl⟩
      · exact .serverDone located isValue
      · exact .serverThrows located thrown
  | awaitingClient =>
      simp only [mainStep, located] at taken
      rcases get_eq_some taken with ⟨isValue, rfl⟩ | ⟨what, thrown, rfl⟩
      · exact .clientDone located isValue
      · exact .clientThrows located thrown
  | stopping =>
      simp only [mainStep, located, Option.some.injEq] at taken
      subst taken
      exact .stops located
  | joiningAccept =>
      simp only [mainStep, located, Option.some.injEq] at taken
      subst taken
      exact .joinsAccept located
  | joiningServer thread =>
      simp only [mainStep, located] at taken
      split at taken
      · next inRange =>
          obtain rfl := Option.some.inj taken
          exact .joinsServer located inRange
      · next atEnd =>
          obtain rfl := Option.some.inj taken
          exact .joinedServers located (Nat.le_of_not_lt atEnd)
  | joiningClient thread =>
      simp only [mainStep, located] at taken
      split at taken
      · next inRange =>
          obtain rfl := Option.some.inj taken
          exact .joinsClient located inRange
      · next atEnd =>
          obtain rfl := Option.some.inj taken
          exact .returns located (Nat.le_of_not_lt atEnd)
  | left exit =>
      simp [mainStep, located] at taken

theorem transition_of_step
    {action : Action}
    (taken : run.step setting action = some following) :
    Transition setting run action following := by
  cases action with
  | main =>
      exact .main (transition_of_mainStep taken)
  | accept =>
      simp only [step, Option.ite_none_right_eq_some,
        Option.some.injEq] at taken
      obtain ⟨⟨accepts, waiting⟩, rfl⟩ := taken
      exact .accept accepts waiting
  | server action =>
      simp only [step, Option.ite_none_left_eq_some, not_or,
        Option.map_eq_some_iff] at taken
      obtain ⟨⟨notLeft, notStart⟩, gate, gateTaken, rfl⟩ := taken
      exact .server (eq_false_of_ne_true notLeft) notStart
        (CompletionGate.transition_of_step gateTaken)
  | client action =>
      simp only [step, Option.ite_none_left_eq_some, not_or,
        Option.map_eq_some_iff] at taken
      obtain ⟨⟨notLeft, notStart⟩, gate, gateTaken, rfl⟩ := taken
      exact .client (eq_false_of_ne_true notLeft) notStart
        (CompletionGate.transition_of_step gateTaken)

end Steps

end BenchRun

end FizzRs
