import FizzRs.AblationCompletion
import Mathlib.Algebra.Ring.Nat

namespace FizzRs

open AblationEcho
open LabelledSystem

/-!
# A run of the ablation benchmark over TCP

`run_tcp` spawns an accept loop on one runtime and `pairs` client tasks on
another one.  The accept loop takes `pairs` connections, gives each to a task of
its own, and then waits for these tasks.  Both sides return at the first error
of a task, which drops the `JoinSet` and aborts the tasks left in it.  The
function waits for the client side first and then for the server side, whatever
the client side returned.

A connection is in the backlog of the listener from the moment the client is
connected.  The accept loop knows nothing of clients that never connect.
-/

namespace AblationRun

/-- The arguments of a run, and the streams it is made with. -/
structure Setting where
  pairs : Nat
  rounds : Nat
  buf : List UInt8
  limits : Limits
  deriving Repr, DecidableEq

/-- The future that `block_on` runs on the client runtime. -/
inductive ClientSide where
  | joining
  | returned (ok : Bool)
  deriving Repr, DecidableEq

/-- The future that is spawned on the server runtime. -/
inductive ServerSide where
  | accepting
  | joining
  | returned (ok : Bool)
  deriving Repr, DecidableEq

/--
A run.  Client tasks are told apart only once they are connected; connections are
listed in the order in which they reached the listener, and the accept loop has
taken the first `accepted` of them.
-/
structure TcpRun where
  connecting : Nat
  refused : Nat
  conns : List Echo
  accepted : Nat
  client : ClientSide
  server : ServerSide
  deriving Repr, DecidableEq

/-- What happens in a run. -/
inductive Action where
  | connect
  | connectFails
  | refuse
  | dropConnect
  | accept
  | acceptFails
  | acceptedAll
  | converse (conn : Nat) (role : Role) (event : Event)
  | abort (conn : Nat) (role : Role)
  | reset (conn : Nat)
  | clientReturns (ok : Bool)
  | serverReturns (ok : Bool)
  deriving Repr, DecidableEq

/-- Something fails that is not a consequence of an earlier failure. -/
def Action.isFault : Action → Bool
  | .connectFails => true
  | .acceptFails => true
  | .converse _ _ event => event.isFault
  | _ => false

namespace TcpRun

/-- The tasks have been spawned. -/
def initial (setting : Setting) : TcpRun where
  connecting := setting.pairs
  refused := 0
  conns := []
  accepted := 0
  client := .joining
  server := .accepting

/-- The client side has left its loop and dropped its tasks. -/
def clientGone (run : TcpRun) : Bool :=
  match run.client with
  | .joining => false
  | .returned _ => true

/-- The server side has left its loop and dropped its tasks and the listener. -/
def serverGone (run : TcpRun) : Bool :=
  match run.server with
  | .returned _ => true
  | _ => false

/-- The tasks of a side are aborted. -/
def aborts (run : TcpRun) : Role → Bool
  | .client => run.clientGone
  | .server => run.serverGone

/-- There is a task of this role at the connection. -/
def hasTask
    (run : TcpRun)
    (conn : Nat) :
    Role → Bool
  | .client => true
  | .server => conn < run.accepted

/-- An event at a connection. -/
def converse
    (setting : Setting)
    (run : TcpRun)
    (conn : Nat)
    (action : Role × Event) :
    Option TcpRun :=
  match run.conns[conn]? with
  | none => none
  | some echo =>
      (echo.step setting.limits setting.buf action).map fun following =>
        { run with conns := run.conns.set conn following }

/-- One step. -/
def step
    (setting : Setting)
    (run : TcpRun) :
    Action → Option TcpRun
  | .connect =>
      if 0 < run.connecting ∧ run.serverGone = false then
        some { run with
          connecting := run.connecting - 1
          conns := run.conns ++ [.initial setting.buf setting.rounds] }
      else
        none
  | .connectFails =>
      if 0 < run.connecting then
        some { run with
          connecting := run.connecting - 1
          refused := run.refused + 1 }
      else
        none
  | .refuse =>
      if 0 < run.connecting ∧ run.serverGone then
        some { run with
          connecting := run.connecting - 1
          refused := run.refused + 1 }
      else
        none
  | .dropConnect =>
      if 0 < run.connecting ∧ run.clientGone then
        some { run with connecting := run.connecting - 1 }
      else
        none
  | .accept =>
      if run.server = .accepting ∧ run.accepted < setting.pairs ∧
          run.accepted < run.conns.length then
        some { run with accepted := run.accepted + 1 }
      else
        none
  | .acceptFails =>
      if run.server = .accepting ∧ run.accepted < setting.pairs then
        some { run with server := .returned false }
      else
        none
  | .acceptedAll =>
      if run.server = .accepting ∧ run.accepted = setting.pairs then
        some { run with server := .joining }
      else
        none
  | .converse conn role event =>
      if run.hasTask conn role then
        run.converse setting conn (role, event)
      else
        none
  | .abort conn role =>
      if run.hasTask conn role ∧ run.aborts role then
        run.converse setting conn (role, .fault (.other "aborted"))
      else
        none
  | .reset conn =>
      if run.accepted ≤ conn ∧ run.serverGone then
        run.converse setting conn (.client, .fault (.other "reset"))
      else
        none
  | .clientReturns true =>
      if run.client = .joining ∧ run.connecting = 0 ∧ run.refused = 0 ∧
          ∀ echo ∈ run.conns, echo.client.pc = .done then
        some { run with client := .returned true }
      else
        none
  | .clientReturns false =>
      if run.client = .joining ∧
          (run.refused ≠ 0 ∨
            ∃ echo ∈ run.conns, echo.client.pc.isFailed = true) then
        some { run with client := .returned false }
      else
        none
  | .serverReturns true =>
      if run.server = .joining ∧
          ∀ echo ∈ run.conns.take run.accepted,
            echo.server.pc = .done then
        some { run with server := .returned true }
      else
        none
  | .serverReturns false =>
      if run.server = .joining ∧
          ∃ echo ∈ run.conns.take run.accepted,
            echo.server.pc.isFailed = true then
        some { run with server := .returned false }
      else
        none

/-- The steps, with their conditions and what they change. -/
inductive Transition
    (setting : Setting)
    (run : TcpRun) :
    Action → TcpRun → Prop where
  | connect :
      0 < run.connecting →
      run.serverGone = false →
      Transition setting run .connect
        { run with
          connecting := run.connecting - 1
          conns := run.conns ++ [.initial setting.buf setting.rounds] }
  | connectFails :
      0 < run.connecting →
      Transition setting run .connectFails
        { run with
          connecting := run.connecting - 1
          refused := run.refused + 1 }
  | refuse :
      0 < run.connecting →
      run.serverGone = true →
      Transition setting run .refuse
        { run with
          connecting := run.connecting - 1
          refused := run.refused + 1 }
  | dropConnect :
      0 < run.connecting →
      run.clientGone = true →
      Transition setting run .dropConnect
        { run with connecting := run.connecting - 1 }
  | accept :
      run.server = .accepting →
      run.accepted < setting.pairs →
      run.accepted < run.conns.length →
      Transition setting run .accept
        { run with accepted := run.accepted + 1 }
  | acceptFails :
      run.server = .accepting →
      Transition setting run .acceptFails
        { run with server := .returned false }
  | acceptedAll :
      run.server = .accepting →
      run.accepted = setting.pairs →
      Transition setting run .acceptedAll { run with server := .joining }
  | converse {conn : Nat} {role : Role} {event : Event}
      {echo following : Echo} :
      run.conns[conn]? = some echo →
      echo.step setting.limits setting.buf (role, event) =
        some following →
      Transition setting run (.converse conn role event)
        { run with conns := run.conns.set conn following }
  | abort {conn : Nat} {role : Role} {echo following : Echo} :
      run.aborts role = true →
      run.conns[conn]? = some echo →
      echo.step setting.limits setting.buf
          (role, .fault (.other "aborted")) = some following →
      Transition setting run (.abort conn role)
        { run with conns := run.conns.set conn following }
  | reset {conn : Nat} {echo following : Echo} :
      run.accepted ≤ conn →
      run.serverGone = true →
      run.conns[conn]? = some echo →
      echo.step setting.limits setting.buf
          (.client, .fault (.other "reset")) = some following →
      Transition setting run (.reset conn)
        { run with conns := run.conns.set conn following }
  | clientOk :
      run.client = .joining →
      run.connecting = 0 →
      run.refused = 0 →
      (∀ echo ∈ run.conns, echo.client.pc = .done) →
      Transition setting run (.clientReturns true)
        { run with client := .returned true }
  | clientErr :
      run.client = .joining →
      (run.refused ≠ 0 ∨
        ∃ echo ∈ run.conns, echo.client.pc.isFailed = true) →
      Transition setting run (.clientReturns false)
        { run with client := .returned false }
  | serverOk :
      run.server = .joining →
      (∀ echo ∈ run.conns.take run.accepted, echo.server.pc = .done) →
      Transition setting run (.serverReturns true)
        { run with server := .returned true }
  | serverErr :
      run.server = .joining →
      (∃ echo ∈ run.conns.take run.accepted,
        echo.server.pc.isFailed = true) →
      Transition setting run (.serverReturns false)
        { run with server := .returned false }

/-- An event at a connection is a step of its conversation. -/
theorem of_converse
    {setting : Setting}
    {run following : TcpRun}
    {conn : Nat}
    {action : Role × Event}
    (taken : run.converse setting conn action = some following) :
    ∃ echo after,
      run.conns[conn]? = some echo ∧
        echo.step setting.limits setting.buf action = some after ∧
        following = { run with conns := run.conns.set conn after } := by
  unfold converse at taken
  split at taken
  · cases taken
  · next echo located =>
      obtain ⟨after, moves, isFollowing⟩ := Option.map_eq_some_iff.mp taken
      exact ⟨echo, after, located, moves, isFollowing.symm⟩

theorem Transition.of_step
    {setting : Setting}
    {run following : TcpRun}
    {action : Action}
    (taken : run.step setting action = some following) :
    Transition setting run action following := by
  unfold step at taken
  split at taken
  all_goals
    split at taken
    case isFalse => cases taken
  case isTrue guard =>
    cases taken
    exact .connect guard.1 guard.2
  case isTrue guard =>
    cases taken
    exact .connectFails guard
  case isTrue guard =>
    cases taken
    exact .refuse guard.1 guard.2
  case isTrue guard =>
    cases taken
    exact .dropConnect guard.1 guard.2
  case isTrue guard =>
    cases taken
    exact .accept guard.1 guard.2.1 guard.2.2
  case isTrue guard =>
    cases taken
    exact .acceptFails guard.1
  case isTrue guard =>
    cases taken
    exact .acceptedAll guard.1 guard.2
  case isTrue guard =>
    obtain ⟨echo, after, located, moves, rfl⟩ := of_converse taken
    exact .converse located moves
  case isTrue guard =>
    obtain ⟨echo, after, located, moves, rfl⟩ := of_converse taken
    exact .abort guard.2 located moves
  case isTrue guard =>
    obtain ⟨echo, after, located, moves, rfl⟩ := of_converse taken
    exact .reset guard.1 guard.2 located moves
  case isTrue guard =>
    cases taken
    exact .clientOk guard.1 guard.2.1 guard.2.2.1 guard.2.2.2
  case isTrue guard =>
    cases taken
    exact .clientErr guard.1 guard.2
  case isTrue guard =>
    cases taken
    exact .serverOk guard.1 guard.2
  case isTrue guard =>
    cases taken
    exact .serverErr guard.1 guard.2

/-- What the function returns: the error of the client side comes first. -/
def result (run : TcpRun) : Option Bool :=
  match run.client, run.server with
  | .returned clientOk, .returned serverOk => some (clientOk && serverOk)
  | _, _ => none

/--
The client side has returned an error, every connection there will ever be has
been accepted, and the accept loop waits for more.
-/
def Hung
    (setting : Setting)
    (run : TcpRun) :
    Prop :=
  run.client = .returned false ∧ run.server = .accepting ∧
    run.connecting = 0 ∧ run.accepted = run.conns.length ∧
    run.accepted < setting.pairs

instance
    (setting : Setting)
    (run : TcpRun) :
    Decidable (run.Hung setting) :=
  inferInstanceAs (Decidable (_ ∧ _))

end TcpRun

end AblationRun

end FizzRs
