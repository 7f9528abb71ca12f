import FizzRs.AblationRun

namespace FizzRs

open AblationEcho
open LabelledSystem

/-!
# What a run of the ablation benchmark comes to

Every connection of a run is a conversation of the two echo tasks, so what holds
of these holds of each connection.  What is left is the bookkeeping of the two
loops: how many clients have connected, how many connections have been taken, and
what the side that has returned has seen of its tasks.

A run without faults returns, and every batch has gone both ways.  After a fault
it returns an error, with one exception: when fewer connections reach the listener
than the accept loop counts on, it waits for the others and the function never
returns, although the client side has long since failed.
-/

namespace AblationEcho

section Done

variable {limits : Limits}
variable {buf : List UInt8}

/-- A task that has returned without an error stays as it is. -/
theorem Task.Transition.done_kept
    {peerEnded : Bool}
    {task following : Task}
    {output input outputAfter inputAfter : Channel}
    {event : Event}
    (transition :
      Transition limits buf peerEnded task output input event following
        outputAfter inputAfter)
    (done : task.pc = .done) :
    following.pc = .done := by
  cases transition with
  | push =>
      exact done
  | broken sending _ =>
      rw [Task.sendsInto, done] at sending
      cases sending
  | fault waits =>
      rw [Task.awaits, done] at waits
      cases waits
  | _ atPc =>
      rw [atPc] at done
      cases done

/-- So neither of the tasks is started again. -/
theorem Echo.Transition.done_kept
    {state following : Echo}
    {event : Event}
    (transition : Echo.Transition limits buf state event following) :
    (state.client.pc = .done → following.client.pc = .done) ∧
      (state.server.pc = .done → following.server.pc = .done) := by
  cases transition with
  | client moves =>
      exact ⟨moves.done_kept, id⟩
  | server moves =>
      exact ⟨id, moves.done_kept⟩

/-- A future that has returned neither way is running. -/
theorem Pc.isEnded_eq_false
    {pc : Pc}
    (notDone : pc ≠ .done)
    (notFailed : pc.isFailed ≠ true) :
    pc.isEnded = false := by
  cases pc with
  | done =>
      exact (notDone rfl).elim
  | failed error =>
      exact (notFailed rfl).elim
  | _ =>
      rfl

/-- A task that does not wait for its stream moves on by itself. -/
theorem Task.proceed_of_not_awaits
    {task : Task}
    (limits : Limits)
    (peerEnded : Bool)
    (output input : Channel)
    (running : task.pc.isEnded = false)
    (awake : task.awaits buf = false) :
    (task.step limits buf peerEnded output input .proceed).isSome = true := by
  cases atPc : task.pc with
  | write rest =>
      simp only [Task.awaits, atPc, ne_eq, decide_not, Bool.not_eq_false',
        decide_eq_true_eq] at awake
      simp [Task.step, atPc, awake]
  | flush =>
      simp [Task.awaits, atPc] at awake
  | read got =>
      have isFull : buf.length ≤ got.length := by
        simpa [Task.awaits, atPc] using awake
      simp [Task.step, atPc, isFull]
  | done =>
      rw [atPc] at running
      cases running
  | failed error =>
      rw [atPc] at running
      cases running

end Done

end AblationEcho

namespace AblationRun

namespace TcpRun

/-- A client side that has returned no error has returned without one. -/
theorem returned_of_clientGone
    {run : TcpRun}
    (gone : run.clientGone = true)
    (unfailed : run.client ≠ .returned false) :
    run.client = .returned true := by
  cases isClient : run.client with
  | joining =>
      simp [clientGone, isClient] at gone
  | returned ok =>
      cases ok with
      | false => exact (unfailed isClient).elim
      | true => rfl

/-- So has a server side. -/
theorem returned_of_serverGone
    {run : TcpRun}
    (gone : run.serverGone = true)
    (unfailed : run.server ≠ .returned false) :
    run.server = .returned true := by
  cases isServer : run.server with
  | accepting =>
      simp [serverGone, isServer] at gone
  | joining =>
      simp [serverGone, isServer] at gone
  | returned ok =>
      cases ok with
      | false => exact (unfailed isServer).elim
      | true => rfl

/-- A connection is at some point of a conversation of the two tasks. -/
abbrev Conversation
    (setting : Setting) :
    Echo → Prop :=
  Reachable (Echo.step setting.limits setting.buf)
    (fun start => start = .initial setting.buf setting.rounds)

/--
Every client task is accounted for until the client side has failed; the accept
loop has ended only with all connections; a side that has returned without an
error has seen all of its tasks return without one.
-/
structure Tally
    (setting : Setting)
    (run : TcpRun) :
    Prop where
  conns : ∀ echo ∈ run.conns, Conversation setting echo
  accepted_le : run.accepted ≤ run.conns.length
  total_le :
    run.conns.length + run.connecting + run.refused ≤ setting.pairs
  total_eq :
    run.client ≠ .returned false →
      run.conns.length + run.connecting + run.refused = setting.pairs
  allAccepted :
    run.server ≠ .accepting → run.server ≠ .returned false →
      run.accepted = setting.pairs
  clientDone :
    run.client = .returned true →
      run.connecting = 0 ∧ run.refused = 0 ∧
        ∀ echo ∈ run.conns, echo.client.pc = .done
  serverDone :
    run.server = .returned true →
      ∀ echo ∈ run.conns, echo.server.pc = .done

namespace Tally

variable {setting : Setting}
variable {run following : TcpRun}

theorem initially (setting : Setting) :
    Tally setting (.initial setting) where
  conns := fun _ isConn => (List.not_mem_nil isConn).elim
  accepted_le := Nat.le_refl 0
  total_le := by simp [initial]
  total_eq := by simp [initial]
  allAccepted := fun loops => (loops rfl).elim
  clientDone := nofun
  serverDone := nofun

/-- While clients are connecting, the client side has not returned well. -/
theorem client_ne_returned
    (tally : Tally setting run)
    (some : 0 < run.connecting) :
    run.client ≠ .returned true := by
  intro returned
  obtain ⟨none, _⟩ := tally.clientDone returned
  omega

/-- An event at a connection. -/
theorem set
    (tally : Tally setting run)
    {conn : Nat}
    {action : Role × Event}
    {echo after : Echo}
    (located : run.conns[conn]? = some echo)
    (moves :
      echo.step setting.limits setting.buf action = some after) :
    Tally setting { run with conns := run.conns.set conn after } := by
  have isConn : echo ∈ run.conns := List.mem_of_getElem? located
  have done := (Echo.Transition.of_step moves).done_kept
  have sameLength : (run.conns.set conn after).length = run.conns.length :=
    List.length_set
  constructor
  · intro other isOther
    rcases List.mem_or_eq_of_mem_set isOther with isOld | rfl
    · exact tally.conns other isOld
    · exact .next (tally.conns echo isConn) trivial moves
  · simpa only [sameLength] using tally.accepted_le
  · simpa only [sameLength] using tally.total_le
  · simpa only [sameLength] using tally.total_eq
  · exact tally.allAccepted
  · intro returned
    obtain ⟨noneLeft, noneRefused, allDone⟩ := tally.clientDone returned
    refine ⟨noneLeft, noneRefused, ?_⟩
    intro other isOther
    rcases List.mem_or_eq_of_mem_set isOther with isOld | rfl
    · exact allDone other isOld
    · exact done.1 (allDone echo isConn)
  · intro returned other isOther
    have allDone := tally.serverDone returned
    rcases List.mem_or_eq_of_mem_set isOther with isOld | rfl
    · exact allDone other isOld
    · exact done.2 (allDone echo isConn)

/-- A client connects. -/
theorem connect
    (tally : Tally setting run)
    (some : 0 < run.connecting)
    (listens : run.serverGone = false) :
    Tally setting
      { run with
        connecting := run.connecting - 1
        conns := run.conns ++ [.initial setting.buf setting.rounds] } := by
  have accepted_le := tally.accepted_le
  have total_le := tally.total_le
  have total_eq := tally.total_eq
  constructor
  · intro echo isConn
    rcases List.mem_append.mp isConn with isOld | isNew
    · exact tally.conns echo isOld
    · exact .start (List.mem_singleton.mp isNew)
  · simp only [List.length_append, List.length_singleton]
    omega
  · simp only [List.length_append, List.length_singleton]
    omega
  · intro unfailed
    have total := total_eq unfailed
    simp only [List.length_append, List.length_singleton]
    omega
  · exact tally.allAccepted
  · intro returned
    exact (tally.client_ne_returned some returned).elim
  · intro returned
    replace returned : run.server = .returned true := returned
    rw [serverGone, returned] at listens
    cases listens

/-- A client is turned away. -/
theorem refuse
    (tally : Tally setting run)
    (some : 0 < run.connecting) :
    Tally setting
      { run with
        connecting := run.connecting - 1
        refused := run.refused + 1 } := by
  have total_le := tally.total_le
  have total_eq := tally.total_eq
  refine
    { tally with
      total_le := ?_
      total_eq := ?_
      clientDone := ?_ }
  · show run.conns.length + (run.connecting - 1) + (run.refused + 1) ≤ _
    omega
  · intro unfailed
    have total := total_eq unfailed
    show run.conns.length + (run.connecting - 1) + (run.refused + 1) = _
    omega
  · intro returned
    exact (tally.client_ne_returned some returned).elim

/-- The client side drops a task that is connecting. -/
theorem dropConnect
    (tally : Tally setting run)
    (some : 0 < run.connecting)
    (gone : run.clientGone = true) :
    Tally setting { run with connecting := run.connecting - 1 } := by
  have total_le := tally.total_le
  have unwell := tally.client_ne_returned some
  refine
    { tally with
      total_le := ?_
      total_eq := ?_
      clientDone := fun returned => (unwell returned).elim }
  · show run.conns.length + (run.connecting - 1) + run.refused ≤ _
    omega
  · intro unfailed
    exact (unwell (returned_of_clientGone gone unfailed)).elim

/-- All that was accepted is all there is. -/
theorem take_accepted
    (tally : Tally setting run)
    (all : run.accepted = setting.pairs) :
    run.conns.take run.accepted = run.conns := by
  have total_le := tally.total_le
  exact List.take_of_length_le (by omega)

theorem preserved
    {action : Action}
    (tally : Tally setting run)
    (transition : Transition setting run action following) :
    Tally setting following := by
  cases transition with
  | connect some listens =>
      exact tally.connect some listens
  | connectFails some =>
      exact tally.refuse some
  | refuse some _ =>
      exact tally.refuse some
  | dropConnect some gone =>
      exact tally.dropConnect some gone
  | accept loops _ waiting =>
      exact
        { tally with
          accepted_le := waiting
          allAccepted := fun ended => (ended loops).elim }
  | acceptFails _ =>
      exact
        { tally with
          allAccepted := fun _ unfailed => (unfailed rfl).elim
          serverDone := nofun }
  | acceptedAll _ all =>
      exact
        { tally with
          allAccepted := fun _ _ => all
          serverDone := nofun }
  | converse located moves =>
      exact tally.set located moves
  | abort _ located moves =>
      exact tally.set located moves
  | reset _ _ located moves =>
      exact tally.set located moves
  | clientOk waits noneLeft noneRefused allDone =>
      exact
        { tally with
          total_eq := fun _ => tally.total_eq (by simp [waits])
          clientDone := fun _ => ⟨noneLeft, noneRefused, allDone⟩ }
  | clientErr _ _ =>
      exact
        { tally with
          total_eq := fun unfailed => (unfailed rfl).elim
          clientDone := nofun }
  | serverOk waits allDone =>
      have all : run.accepted = setting.pairs :=
        tally.allAccepted (by simp [waits]) (by simp [waits])
      rw [tally.take_accepted all] at allDone
      exact
        { tally with
          allAccepted := fun _ _ => all
          serverDone := fun _ => allDone }
  | serverErr _ _ =>
      exact
        { tally with
          allAccepted := fun _ unfailed => (unfailed rfl).elim
          serverDone := nofun }

theorem of_reachable
    (reachable :
      Reachable (step setting) (fun start => start = .initial setting) run) :
    Tally setting run := by
  refine reachable.invariant_from (initially setting) ?_
  intro before after action _ tally _ taken
  exact tally.preserved (.of_step taken)

end Tally

section Progress

variable {setting : Setting}
variable {run : TcpRun}

/-- Some step is possible that is not a fault. -/
def CanStep
    (setting : Setting)
    (run : TcpRun) :
    Prop :=
  ∃ action following,
    action.isFault = false ∧ run.step setting action = some following

/-- An event at a connection is possible when it is one of the conversation. -/
theorem converse_eq
    {conn : Nat}
    {action : Role × Event}
    {echo after : Echo}
    (located : run.conns[conn]? = some echo)
    (moves : echo.step setting.limits setting.buf action = some after) :
    run.converse setting conn action =
      some { run with conns := run.conns.set conn after } := by
  simp only [TcpRun.converse, located, moves, Option.map_some]

theorem canStep_of_converse
    {conn : Nat}
    {role : Role}
    {event : Event}
    {echo after : Echo}
    (notFault : event.isFault = false)
    (hasTask : run.hasTask conn role = true)
    (located : run.conns[conn]? = some echo)
    (moves :
      echo.step setting.limits setting.buf (role, event) = some after) :
    run.CanStep setting := by
  refine ⟨.converse conn role event, ?following, notFault, ?taken⟩
  case taken =>
    rw [step, if_pos hasTask]
    exact converse_eq located moves

/-- Both tasks of an accepted connection run until both have returned. -/
theorem canStep_of_accepted
    (tally : Tally setting run)
    {conn : Nat}
    {echo : Echo}
    (located : run.conns[conn]? = some echo)
    (accepted : conn < run.accepted)
    (unended : echo.ended = false) :
    run.CanStep setting := by
  obtain ⟨⟨role, event⟩, after, notFault, moves⟩ :=
    progress (tally.conns echo (List.mem_of_getElem? located)) unended
  have hasTask : run.hasTask conn role = true := by
    cases role <;> simp [TcpRun.hasTask, accepted]
  exact canStep_of_converse notFault hasTask located moves

/--
A connection that was never accepted is reset when the listener has gone, which
ends its client.
-/
theorem canStep_of_dropped
    {conn : Nat}
    {echo : Echo}
    (located : run.conns[conn]? = some echo)
    (dropped : run.accepted ≤ conn)
    (gone : run.serverGone = true)
    (running : echo.client.pc.isEnded = false) :
    run.CanStep setting := by
  by_cases awaits : echo.client.awaits setting.buf = true
  · have moves :
        echo.step setting.limits setting.buf
            (.client, .fault (.other "reset")) =
          some { echo with client := echo.client.fail (.other "reset") } := by
      simp only [Echo.step, Task.step, awaits, if_true, Option.map_some]
    exact
      ⟨.reset conn, _, rfl,
        (if_pos ⟨dropped, gone⟩).trans (converse_eq located moves)⟩
  · obtain ⟨⟨task, output, input⟩, proceeds⟩ :=
      Option.isSome_iff_exists.mp
        (Task.proceed_of_not_awaits setting.limits echo.server.pc.isEnded
          echo.toServer echo.toClient running (by simpa using awaits))
    have moves :
        echo.step setting.limits setting.buf (.client, .proceed) =
          some { echo with
            client := task, toServer := output, toClient := input } := by
      simp only [Echo.step, proceeds, Option.map_some]
    exact canStep_of_converse rfl rfl located moves

/-- The accept loop goes on, or a client has failed, or all is lost. -/
theorem canStep_of_accepting
    (tally : Tally setting run)
    (loops : run.server = .accepting)
    (notHung : ¬run.Hung setting) :
    run.CanStep setting := by
  have listens : run.serverGone = false := by
    simp [serverGone, loops]
  have accepted_le := tally.accepted_le
  have total_le := tally.total_le
  by_cases all : run.accepted = setting.pairs
  · exact ⟨.acceptedAll, _, rfl, if_pos ⟨loops, all⟩⟩
  by_cases waiting : run.accepted < run.conns.length
  · exact ⟨.accept, _, rfl, if_pos ⟨loops, by omega, waiting⟩⟩
  by_cases connecting : 0 < run.connecting
  · exact ⟨.connect, _, rfl, if_pos ⟨connecting, listens⟩⟩
  cases isClient : run.client with
  | joining =>
      have total := tally.total_eq (by simp [isClient])
      exact
        ⟨.clientReturns false, _, rfl,
          if_pos ⟨isClient, .inl (by omega)⟩⟩
  | returned ok =>
      cases ok with
      | false =>
          exact
            (notHung ⟨isClient, loops, by omega, by omega, by omega⟩).elim
      | true =>
          have total := tally.total_eq (by simp [isClient])
          obtain ⟨_, noneRefused, _⟩ := tally.clientDone isClient
          omega

/-- The server side returns, or one of its tasks goes on. -/
theorem canStep_of_joining
    (tally : Tally setting run)
    (waits : run.server = .joining) :
    run.CanStep setting := by
  have all : run.accepted = setting.pairs :=
    tally.allAccepted (by simp [waits]) (by simp [waits])
  have taken := tally.take_accepted all
  by_cases allDone : ∀ echo ∈ run.conns, echo.server.pc = .done
  · rw [← taken] at allDone
    exact ⟨.serverReturns true, _, rfl, if_pos ⟨waits, allDone⟩⟩
  by_cases oneFailed :
      ∃ echo ∈ run.conns, echo.server.pc.isFailed = true
  · rw [← taken] at oneFailed
    exact ⟨.serverReturns false, _, rfl, if_pos ⟨waits, oneFailed⟩⟩
  simp only [not_forall] at allDone
  obtain ⟨echo, isConn, notDone⟩ := allDone
  obtain ⟨conn, located⟩ := List.mem_iff_getElem?.mp isConn
  obtain ⟨inside, _⟩ := List.getElem?_eq_some_iff.mp located
  have total_le := tally.total_le
  have running : echo.server.pc.isEnded = false :=
    Pc.isEnded_eq_false notDone
      (fun failed => oneFailed ⟨echo, isConn, failed⟩)
  exact
    canStep_of_accepted tally located (by omega)
      (by simp [Echo.ended, running])

/-- The client side returns, or one of its tasks goes on. -/
theorem canStep_of_serverGone
    (tally : Tally setting run)
    (gone : run.serverGone = true)
    (waits : run.client = .joining) :
    run.CanStep setting := by
  by_cases oneFailed :
      run.refused ≠ 0 ∨ ∃ echo ∈ run.conns, echo.client.pc.isFailed = true
  · exact ⟨.clientReturns false, _, rfl, if_pos ⟨waits, oneFailed⟩⟩
  rw [not_or] at oneFailed
  obtain ⟨noneRefused, noneFailed⟩ := oneFailed
  by_cases connecting : 0 < run.connecting
  · exact ⟨.refuse, _, rfl, if_pos ⟨connecting, gone⟩⟩
  by_cases allDone : ∀ echo ∈ run.conns, echo.client.pc = .done
  · exact
      ⟨.clientReturns true, _, rfl,
        if_pos ⟨waits, by omega, by omega, allDone⟩⟩
  simp only [not_forall] at allDone
  obtain ⟨echo, isConn, notDone⟩ := allDone
  obtain ⟨conn, located⟩ := List.mem_iff_getElem?.mp isConn
  have running : echo.client.pc.isEnded = false :=
    Pc.isEnded_eq_false notDone
      (fun failed => noneFailed ⟨echo, isConn, failed⟩)
  by_cases accepted : conn < run.accepted
  · exact
      canStep_of_accepted tally located accepted (by simp [Echo.ended, running])
  · exact canStep_of_dropped located (by omega) gone running

/-- Until the function has returned it goes on, unless it hangs. -/
theorem canStep_of_not_hung
    (tally : Tally setting run)
    (pending : run.result = none)
    (notHung : ¬run.Hung setting) :
    run.CanStep setting := by
  cases isServer : run.server with
  | accepting =>
      exact canStep_of_accepting tally isServer notHung
  | joining =>
      exact canStep_of_joining tally isServer
  | returned serverOk =>
      have gone : run.serverGone = true := by
        simp [serverGone, isServer]
      cases isClient : run.client with
      | joining =>
          exact canStep_of_serverGone tally gone isClient
      | returned clientOk =>
          simp [result, isServer, isClient] at pending

end Progress

section Work

variable {setting : Setting}
variable {run following : TcpRun}

/-- How many steps are left, at most. -/
def work
    (setting : Setting)
    (run : TcpRun) :
    Nat :=
  run.connecting *
      ((Echo.initial setting.buf setting.rounds).work setting.buf + 1) +
    (run.conns.map (Echo.work setting.buf)).sum +
    (setting.pairs - run.accepted) +
    (match run.client with
      | .joining => 1
      | .returned _ => 0) +
    (match run.server with
      | .accepting => 2
      | .joining => 1
      | .returned _ => 0)

/-- Less to do at one connection is less to do. -/
theorem sum_work_set_lt
    {buf : List UInt8}
    {conns : List Echo}
    {conn : Nat}
    {echo after : Echo}
    (located : conns[conn]? = some echo)
    (less : after.work buf < echo.work buf) :
    ((conns.set conn after).map (Echo.work buf)).sum <
      (conns.map (Echo.work buf)).sum := by
  obtain ⟨inside, isEcho⟩ := List.getElem?_eq_some_iff.mp located
  have around :
      conns = conns.take conn ++ echo :: conns.drop (conn + 1) := by
    rw [← isEcho, List.getElem_cons_drop, List.take_append_drop]
  rw [List.set_eq_take_append_cons_drop, if_pos inside]
  have total := congrArg (fun all => (all.map (Echo.work buf)).sum) around
  simp only [List.map_append, List.map_cons, List.sum_append, List.sum_cons]
    at total ⊢
  omega

/-- A client fewer that is connecting leaves less to do. -/
theorem pred_mul_lt
    {connecting : Nat}
    (each : Nat)
    (some : 0 < connecting) :
    (connecting - 1) * (each + 1) + each < connecting * (each + 1) := by
  cases connecting with
  | zero =>
      cases some
  | succ fewer =>
      rw [Nat.add_sub_cancel, Nat.succ_mul]
      omega

/-- A client that leaves without a connection leaves less to do. -/
theorem work_fewer_lt
    (some : 0 < run.connecting)
    (fewer : following.connecting = run.connecting - 1)
    (sameConns : following.conns = run.conns)
    (sameAccepted : following.accepted = run.accepted)
    (sameClient : following.client = run.client)
    (sameServer : following.server = run.server) :
    following.work setting < run.work setting := by
  have less :=
    pred_mul_lt ((Echo.initial setting.buf setting.rounds).work setting.buf)
      some
  simp only [work, fewer, sameConns, sameAccepted, sameClient, sameServer]
  omega

/-- An event at a connection leaves less to do. -/
theorem work_set_lt
    (tally : Tally setting run)
    {conn : Nat}
    {action : Role × Event}
    {echo after : Echo}
    (located : run.conns[conn]? = some echo)
    (moves : echo.step setting.limits setting.buf action = some after) :
    work setting { run with conns := run.conns.set conn after } <
      run.work setting := by
  have reachable := tally.conns echo (List.mem_of_getElem? located)
  have less :=
    sum_work_set_lt located
      (AblationEcho.work_lt (.of_reachable reachable) (.of_step moves))
  simp only [work]
  omega

/-- Every step leaves less to do. -/
theorem Transition.work_lt
    {action : Action}
    (tally : Tally setting run)
    (transition : Transition setting run action following) :
    following.work setting < run.work setting := by
  cases transition with
  | connect some _ =>
      have less :=
        pred_mul_lt
          ((Echo.initial setting.buf setting.rounds).work setting.buf) some
      simp only [work, List.map_append, List.map_cons, List.map_nil,
        List.sum_append, List.sum_singleton]
      omega
  | connectFails some =>
      exact work_fewer_lt some rfl rfl rfl rfl rfl
  | refuse some _ =>
      exact work_fewer_lt some rfl rfl rfl rfl rfl
  | dropConnect some _ =>
      exact work_fewer_lt some rfl rfl rfl rfl rfl
  | accept _ notAll _ =>
      simp only [work]
      omega
  | acceptFails loops =>
      simp only [work, loops]
      omega
  | acceptedAll loops _ =>
      simp only [work, loops]
      omega
  | converse located moves =>
      exact work_set_lt tally located moves
  | abort _ located moves =>
      exact work_set_lt tally located moves
  | reset _ _ located moves =>
      exact work_set_lt tally located moves
  | clientOk waits _ _ _ =>
      simp only [work, waits]
      omega
  | clientErr waits _ =>
      simp only [work, waits]
      omega
  | serverOk waits _ =>
      simp only [work, waits]
      omega
  | serverErr waits _ =>
      simp only [work, waits]
      omega

end Work

section Outcome

variable {setting : Setting}
variable {run following : TcpRun}

/-- The accept loop counts on a connection that there will never be. -/
def Short
    (setting : Setting)
    (run : TcpRun) :
    Prop :=
  run.server = .accepting ∧
    run.conns.length + run.connecting < setting.pairs

/-- Nothing but a failing `accept` ends the accept loop then. -/
theorem Short.kept
    {action : Action}
    (short : run.Short setting)
    (tally : Tally setting run)
    (accepts : action ≠ .acceptFails)
    (transition : Transition setting run action following) :
    following.Short setting := by
  obtain ⟨loops, tooFew⟩ := short
  have setKeeps :
      ∀ conn after,
        Short setting { run with conns := run.conns.set conn after } :=
    fun conn after => ⟨loops, by simpa using tooFew⟩
  cases transition with
  | acceptFails _ =>
      exact (accepts rfl).elim
  | connect some _ =>
      refine ⟨loops, ?_⟩
      simp only [List.length_append, List.length_singleton]
      omega
  | connectFails some =>
      exact ⟨loops, by simp only; omega⟩
  | refuse some _ =>
      exact ⟨loops, by simp only; omega⟩
  | dropConnect some _ =>
      exact ⟨loops, by simp only; omega⟩
  | accept _ _ _ =>
      exact ⟨loops, tooFew⟩
  | acceptedAll _ all =>
      have accepted_le := tally.accepted_le
      omega
  | converse _ _ =>
      exact setKeeps _ _
  | abort _ _ _ =>
      exact setKeeps _ _
  | reset _ _ _ _ =>
      exact setKeeps _ _
  | clientOk _ _ _ _ =>
      exact ⟨loops, tooFew⟩
  | clientErr _ _ =>
      exact ⟨loops, tooFew⟩
  | serverOk waits _ =>
      rw [loops] at waits
      cases waits
  | serverErr waits _ =>
      rw [loops] at waits
      cases waits

/-- A run whose accept loop goes on has not returned. -/
theorem Short.pending
    (short : run.Short setting) :
    run.result = none := by
  simp [result, short.1]

/-- No further client connects once all have. -/
theorem Transition.all_connected
    {action : Action}
    (tally : Tally setting run)
    (all : run.conns.length = setting.pairs)
    (transition : Transition setting run action following) :
    following.conns.length = setting.pairs := by
  cases transition with
  | connect some _ =>
      have total_le := tally.total_le
      omega
  | converse _ _ =>
      simpa using all
  | abort _ _ _ =>
      simpa using all
  | reset _ _ _ _ =>
      simpa using all
  | _ =>
      exact all

/-- What a side that has returned without an error tells of the connections. -/
theorem Tally.exchanged
    (tally : Tally setting run)
    (succeeds : run.result = some true) :
    run.conns.length = setting.pairs ∧
      ∀ echo ∈ run.conns,
        echo.toServer.pipe.delivered =
            batches setting.buf setting.rounds ∧
          echo.toClient.pipe.delivered =
            batches setting.buf setting.rounds := by
  obtain ⟨isClient, isServer⟩ :
      run.client = .returned true ∧ run.server = .returned true := by
    cases isClient : run.client <;> cases isServer : run.server <;>
      simp_all [result]
  have accepted_le := tally.accepted_le
  have total_le := tally.total_le
  have all := tally.allAccepted (by simp [isServer]) (by simp [isServer])
  refine ⟨by omega, ?_⟩
  intro echo isConn
  have clientDone := (tally.clientDone isClient).2.2 echo isConn
  have serverDone := tally.serverDone isServer echo isConn
  rcases failed_or_account (tally.conns echo isConn) with failed | account
  · simp [Echo.failed, clientDone, serverDone, Pc.isFailed] at failed
  · refine account.exchanged ?_
    simp [Echo.ended, clientDone, serverDone, Pc.isEnded]

/-- Nothing has failed. -/
structure Calm
    (setting : Setting)
    (run : TcpRun) :
    Prop where
  conns :
    ∀ echo ∈ run.conns,
      Account setting.limits setting.buf setting.rounds echo
  refused : run.refused = 0
  client : run.client ≠ .returned false
  server : run.server ≠ .returned false

namespace Calm

theorem initially (setting : Setting) :
    Calm setting (.initial setting) where
  conns := fun _ isConn => (List.not_mem_nil isConn).elim
  refused := rfl
  client := nofun
  server := nofun

/-- Once the server side has returned there is no connection it did not take. -/
theorem all_accepted
    (calm : Calm setting run)
    (tally : Tally setting run)
    (gone : run.serverGone = true) :
    run.accepted = run.conns.length ∧ run.connecting = 0 := by
  have isServer := returned_of_serverGone gone calm.server
  have all := tally.allAccepted (by simp [isServer]) (by simp [isServer])
  have accepted_le := tally.accepted_le
  have total_le := tally.total_le
  omega

/-- A task that is aborted has returned already, so it does not notice. -/
theorem not_aborted
    (calm : Calm setting run)
    (tally : Tally setting run)
    {role : Role}
    {echo after : Echo}
    {error : EchoError}
    (aborts : run.aborts role = true)
    (isConn : echo ∈ run.conns)
    (moves :
      echo.step setting.limits setting.buf (role, .fault error) =
        some after) :
    False := by
  cases role with
  | client =>
      have returned := returned_of_clientGone aborts calm.client
      have done := (tally.clientDone returned).2.2 echo isConn
      simp [Echo.step, Task.step, Task.awaits, done] at moves
  | server =>
      have returned := returned_of_serverGone aborts calm.server
      have done := tally.serverDone returned echo isConn
      simp [Echo.step, Task.step, Task.awaits, done] at moves

theorem preserved
    {action : Action}
    (calm : Calm setting run)
    (tally : Tally setting run)
    (notFault : action.isFault = false)
    (transition : Transition setting run action following) :
    Calm setting following := by
  cases transition with
  | connectFails _ =>
      cases notFault
  | acceptFails _ =>
      cases notFault
  | connect _ _ =>
      refine { calm with conns := ?_ }
      intro echo isConn
      rcases List.mem_append.mp isConn with isOld | isNew
      · exact calm.conns echo isOld
      · rw [List.mem_singleton.mp isNew]
        exact Account.initially _ _ _
  | refuse some gone =>
      have noneLeft := (calm.all_accepted tally gone).2
      omega
  | dropConnect some gone =>
      have returned := returned_of_clientGone gone calm.client
      exact (tally.client_ne_returned some returned).elim
  | accept _ _ _ =>
      exact { calm with }
  | acceptedAll _ _ =>
      exact { calm with server := nofun }
  | @converse conn role event echo after located moves =>
      refine { calm with conns := ?_ }
      intro other isOther
      rcases List.mem_or_eq_of_mem_set isOther with isOld | rfl
      · exact calm.conns other isOld
      · have account := calm.conns echo (List.mem_of_getElem? located)
        exact account.preserved notFault (.of_step moves)
  | abort aborts located moves =>
      exact
        (calm.not_aborted tally aborts (List.mem_of_getElem? located)
          moves).elim
  | reset dropped gone located _ =>
      have allTaken := (calm.all_accepted tally gone).1
      obtain ⟨inside, _⟩ := List.getElem?_eq_some_iff.mp located
      omega
  | clientOk _ _ _ _ =>
      exact { calm with client := nofun }
  | clientErr _ oneFailed =>
      rcases oneFailed with someRefused | ⟨echo, isConn, failed⟩
      · exact (someRefused calm.refused).elim
      · rw [(calm.conns echo isConn).client.sound.unfailed] at failed
        cases failed
  | serverOk _ _ =>
      exact { calm with server := nofun }
  | serverErr _ oneFailed =>
      obtain ⟨echo, isTaken, failed⟩ := oneFailed
      have isConn := List.mem_of_mem_take isTaken
      rw [(calm.conns echo isConn).server.sound.unfailed] at failed
      cases failed

/-- In a run without faults nothing fails. -/
theorem of_reachable
    (reachable :
      ReachableWhile (step setting) (fun _ action => action.isFault = false)
        (fun start => start = .initial setting) run) :
    Calm setting run := by
  refine reachable.invariant_from (initially setting) ?_
  intro before after action earlier calm notFault taken
  have tally : Tally setting before :=
    .of_reachable (earlier.weaken fun _ => trivial)
  exact calm.preserved tally notFault (.of_step taken)

theorem not_hung
    (calm : Calm setting run) :
    ¬run.Hung setting :=
  fun hung => calm.client hung.1

theorem result_ne
    (calm : Calm setting run) :
    run.result ≠ some false := by
  intro fails
  have client := calm.client
  have server := calm.server
  cases isClient : run.client <;> cases isServer : run.server <;>
    simp_all [result]

end Calm

end Outcome

/--
Whatever happens in a run of `run_tcp`: as long as the function has not returned
and does not hang, some step is possible that is not a fault; every step leaves
less to do; and when the function returns without an error, all pairs have
exchanged all their batches.  Without faults it never hangs and never returns an
error.
-/
theorem run_settles
    (setting : Setting) :
    (∀ run,
      Reachable (step setting) (fun start => start = .initial setting) run →
        (run.result = none → ¬run.Hung setting →
          ∃ action following,
            action.isFault = false ∧
              run.step setting action = some following) ∧
        (∀ action following,
          run.step setting action = some following →
            following.work setting < run.work setting) ∧
        (run.result = some true →
          run.conns.length = setting.pairs ∧
            ∀ echo ∈ run.conns,
              echo.toServer.pipe.delivered =
                  batches setting.buf setting.rounds ∧
                echo.toClient.pipe.delivered =
                  batches setting.buf setting.rounds)) ∧
    ∀ run,
      ReachableWhile (step setting) (fun _ action => action.isFault = false)
          (fun start => start = .initial setting) run →
        ¬run.Hung setting ∧ run.result ≠ some false := by
  constructor
  · intro run reachable
    have tally : Tally setting run := .of_reachable reachable
    refine ⟨canStep_of_not_hung tally, ?_, tally.exchanged⟩
    intro action following taken
    exact (Transition.of_step taken).work_lt tally
  · intro run reachable
    have calm : Calm setting run := .of_reachable reachable
    exact ⟨calm.not_hung, calm.result_ne⟩

/--
A client that fails to connect while the accept loop runs leaves the loop short of
a connection, and then the function does not return, whatever else happens, unless
`accept` fails.  Once all clients have connected the function never hangs.
-/
theorem accept_loop_waits_for_lost_client
    (setting : Setting)
    (run : TcpRun)
    (reachable :
      Reachable (step setting)
        (fun start => start = .initial setting) run) :
    (run.server = .accepting →
      ∀ following,
        run.step setting .connectFails = some following →
          following.Short setting) ∧
    (run.Short setting →
      ∀ later,
        ReachableWhile (step setting) (fun _ action => action ≠ .acceptFails)
            (fun start => start = run) later →
          later.result = none) ∧
    (run.conns.length = setting.pairs →
      ∀ later, Later (step setting) run later → ¬later.Hung setting) := by
  have tally : Tally setting run := .of_reachable reachable
  refine ⟨?_, ?_, ?_⟩
  · intro loops following taken
    have total_le := tally.total_le
    cases Transition.of_step taken with
    | connectFails some =>
        exact ⟨loops, by simp only; omega⟩
  · intro short later afterwards
    have stillShort : later.Short setting := by
      refine afterwards.invariant_from short ?_
      intro before after action earlier short accepts taken
      have tally : Tally setting before :=
        .of_reachable (reachable.trans (earlier.weaken fun _ => trivial))
      exact short.kept tally accepts (.of_step taken)
    exact stillShort.pending
  · intro all later afterwards
    have stillAll : later.conns.length = setting.pairs := by
      induction afterwards with
      | start isRun =>
          rw [isRun]
          exact all
      | next earlier _ taken inductionHypothesis =>
          have tally : Tally setting _ :=
            .of_reachable (reachable.trans earlier)
          exact (Transition.of_step taken).all_connected tally
            inductionHypothesis
    intro hung
    obtain ⟨_, _, _, allTaken, tooFew⟩ := hung
    omega

/-- One pair that exchanges one batch. -/
def narrowSetting : Setting where
  pairs := 1
  rounds := 1
  buf := [0x5a, 0x5a]
  limits := narrowLimits

/-- The tasks of the only connection run between the two loops. -/
def narrowRun : List Action :=
  [.connect, .accept, .acceptedAll] ++
    narrowSchedule.map (fun (role, event) => .converse 0 role event) ++
    [.clientReturns true, .serverReturns true]

/-- Both sides have returned. -/
def narrowResult : TcpRun where
  connecting := 0
  refused := 0
  conns := [narrowEnd]
  accepted := 1
  client := .returned true
  server := .returned true

theorem run_settles_sample :
    narrowResult.result = some true ∧
      ∀ echo ∈ narrowResult.conns,
        echo.toClient.pipe.delivered = batches [0x5a, 0x5a] 1 := by
  have performed :
      run? (step narrowSetting) (.initial narrowSetting) narrowRun =
        some narrowResult := by
    decide
  have reached :
      Reachable (step narrowSetting)
        (fun start => start = .initial narrowSetting) narrowResult :=
    reachable_of_run? (.start rfl) performed
  obtain ⟨anyRun, _⟩ := run_settles narrowSetting
  obtain ⟨_, _, succeeds⟩ := anyRun narrowResult reached
  refine ⟨rfl, ?_⟩
  intro echo isConn
  exact ((succeeds rfl).2 echo isConn).2

/-- The only client could not connect, and the client side has returned. -/
def lostClient : TcpRun where
  connecting := 0
  refused := 1
  conns := []
  accepted := 0
  client := .returned false
  server := .accepting

theorem accept_loop_waits_for_lost_client_sample :
    lostClient.Hung narrowSetting ∧ lostClient.result = none := by
  have performed :
      run? (step narrowSetting) (.initial narrowSetting)
          [.connectFails, .clientReturns false] = some lostClient := by
    decide
  have reached :
      Reachable (step narrowSetting)
        (fun start => start = .initial narrowSetting) lostClient :=
    reachable_of_run? (.start rfl) performed
  obtain ⟨_, neverReturns, _⟩ :=
    accept_loop_waits_for_lost_client narrowSetting lostClient reached
  exact
    ⟨by decide, neverReturns ⟨rfl, by decide⟩ lostClient (.start rfl)⟩

end TcpRun

end AblationRun

end FizzRs
