import FizzRs.CompletionGate

namespace FizzRs

open LabelledSystem

/-!
# Completion of the echo benchmark

The invariant of the handlers of one side, for every interleaving of their atomic
operations, and what it says about the promise of the side.  The counter is the
number of handlers that have counted, and while the promise is unfulfilled a full
counter means that some handler is about to fulfil it.
-/

namespace CompletionGate

/-- What the place of a handler says about its session and about the gate. -/
def Explained
    (expectedConns : Nat)
    (ends : Nat → SessionEnd)
    (fired : Bool)
    (completed session : Nat) :
    HandlerPc → Prop
  | .running => True
  | .loading result => ends session = .completed result
  | .counting => ends session = .completed .value
  | .exchanging .value =>
      ends session = .completed .value ∧ expectedConns ≤ completed
  | .exchanging (.exception _) => ends session ≠ .completed .value
  | .returned true => ends session = .completed .value
  | .returned false => fired = true

/-- The invariant of one side. -/
structure Consistent
    (expectedConns : Nat)
    (ends : Nat → SessionEnd)
    (gate : CompletionGate) :
    Prop where
  unfulfilled : gate.fired = false → gate.allDone = []
  fulfilled : gate.fired = true → ∃ result, gate.allDone = [result]
  counted : gate.completed = gate.sessions.countP HandlerPc.isCounted
  explained :
    ∀ session pc, gate.sessions[session]? = some pc →
      Explained expectedConns ends gate.fired gate.completed session pc
  valued : .value ∈ gate.allDone → expectedConns ≤ gate.completed
  claimed :
    gate.fired = false →
    0 < expectedConns →
    expectedConns ≤ gate.completed →
    .exchanging .value ∈ gate.sessions

section Invariant

variable
  {side : BenchSide}
  {expectedConns : Nat}
  {ends : Nat → SessionEnd}
  {gate following : CompletionGate}
  {action : Action}

/-- Moving one handler changes the count by what it contributes. -/
theorem countP_set_isCounted
    {sessions : List HandlerPc}
    {session : Nat}
    {before : HandlerPc}
    (located : sessions[session]? = some before)
    (after : HandlerPc) :
    (sessions.set session after).countP HandlerPc.isCounted +
        before.isCounted.toNat =
      sessions.countP HandlerPc.isCounted + after.isCounted.toNat := by
  obtain ⟨inRange, rfl⟩ := List.getElem?_eq_some_iff.mp located
  have positive :
      sessions[session].isCounted = true →
        0 < sessions.countP HandlerPc.isCounted := by
    intro isCounted
    exact List.countP_pos_iff.mpr ⟨_, List.getElem_mem inRange, isCounted⟩
  rw [List.countP_set inRange]
  cases before : sessions[session].isCounted with
  | false =>
      simp [Bool.toNat]
  | true =>
      have := positive before
      simp only [if_true, Bool.toNat_true]
      cases after.isCounted <;> simp <;> omega

/-- The count is the same when the handler contributes as before. -/
theorem countP_set_of_isCounted_eq
    {sessions : List HandlerPc}
    {session : Nat}
    {before after : HandlerPc}
    (located : sessions[session]? = some before)
    (same : after.isCounted = before.isCounted) :
    (sessions.set session after).countP HandlerPc.isCounted =
      sessions.countP HandlerPc.isCounted := by
  have moves := countP_set_isCounted located after
  rw [same] at moves
  exact Nat.add_right_cancel moves

/-- A handler that is not the moved one stays where it is. -/
theorem mem_set_of_ne
    {sessions : List HandlerPc}
    {session : Nat}
    {before kept : HandlerPc}
    (located : sessions[session]? = some before)
    (different : before ≠ kept)
    (after : HandlerPc)
    (member : kept ∈ sessions) :
    kept ∈ sessions.set session after := by
  obtain ⟨position, inRange, rfl⟩ := List.getElem_of_mem member
  have apart : session ≠ position := by
    rintro rfl
    rw [List.getElem?_eq_getElem inRange] at located
    exact different (Option.some.inj located).symm
  rw [← List.getElem_set_ne apart (by simpa using inRange)]
  exact List.getElem_mem _

/-- A handler stays explained while the flag and the counter grow. -/
theorem Explained.mono
    {fired firedLater : Bool}
    {completed completedLater session : Nat}
    {pc : HandlerPc}
    (explained : Explained expectedConns ends fired completed session pc)
    (firedStays : fired = true → firedLater = true)
    (grows : completed ≤ completedLater) :
    Explained expectedConns ends firedLater completedLater session pc := by
  cases pc with
  | running =>
      trivial
  | loading result =>
      exact explained
  | counting =>
      exact explained
  | exchanging result =>
      cases result with
      | value =>
          exact ⟨explained.1, explained.2.trans grows⟩
      | exception what =>
          exact explained
  | returned counted =>
      cases counted with
      | false =>
          exact firedStays explained
      | true =>
          exact explained

/-- Handlers stay explained when one of them moves to an explained place. -/
theorem explained_set
    {fired firedLater : Bool}
    {completed completedLater moved : Nat}
    {sessions : List HandlerPc}
    {after : HandlerPc}
    (explained :
      ∀ session pc, sessions[session]? = some pc →
        Explained expectedConns ends fired completed session pc)
    (firedStays : fired = true → firedLater = true)
    (grows : completed ≤ completedLater)
    (here :
      Explained expectedConns ends firedLater completedLater moved after) :
    ∀ session pc, (sessions.set moved after)[session]? = some pc →
      Explained expectedConns ends firedLater completedLater session pc := by
  intro session pc located
  by_cases same : moved = session
  · subst same
    rw [List.getElem?_set] at located
    split at located
    · split at located
      · obtain rfl := Option.some.inj located
        exact here
      · cases located
    · contradiction
  · rw [List.getElem?_set_ne same] at located
    exact (explained session pc located).mono firedStays grows

/-- The end of a session explains where its handler begins. -/
theorem explained_enter
    (side : BenchSide)
    (fired : Bool)
    (completed session : Nat) :
    Explained expectedConns ends fired completed session
      ((ends session).enter side) := by
  cases ended : ends session <;>
    simp [SessionEnd.enter, Explained, ended]

/-- No handler has been counted before its first atomic operation. -/
theorem isCounted_enter
    (side : BenchSide)
    (sessionEnd : SessionEnd) :
    (sessionEnd.enter side).isCounted = false := by
  cases sessionEnd <;> rfl

/-- A handler that has made its exchange stays counted or uncounted. -/
theorem isCounted_returned
    (result : PromiseResult) :
    (HandlerPc.returned (result = .value)).isCounted =
      (HandlerPc.exchanging result).isCounted := by
  cases result <;> rfl

theorem Transition.unfulfilled
    (transition : Transition side expectedConns ends gate action following)
    (consistent : Consistent expectedConns ends gate) :
    following.fired = false → following.allDone = [] := by
  cases transition <;>
    first
    | exact consistent.unfulfilled
    | (intro unfired; cases unfired)

theorem Transition.fulfilled
    (transition : Transition side expectedConns ends gate action following)
    (consistent : Consistent expectedConns ends gate) :
    following.fired = true → ∃ result, following.allDone = [result] := by
  cases transition with
  | exchangeWon _ unfired =>
      intro _
      exact ⟨_, by rw [consistent.unfulfilled unfired]; rfl⟩
  | acceptErrorWon _ unfired =>
      intro _
      exact ⟨_, by rw [consistent.unfulfilled unfired]; rfl⟩
  | _ => exact consistent.fulfilled

theorem counted_moveTo
    {session : Nat}
    {before after : HandlerPc}
    (counts : gate.completed = gate.sessions.countP HandlerPc.isCounted)
    (located : gate.sessions[session]? = some before)
    (same : after.isCounted = before.isCounted) :
    (gate.moveTo session after).completed =
      (gate.moveTo session after).sessions.countP HandlerPc.isCounted := by
  unfold moveTo
  rw [countP_set_of_isCounted_eq located same]
  exact counts

theorem Transition.counted
    (transition : Transition side expectedConns ends gate action following)
    (consistent : Consistent expectedConns ends gate) :
    following.completed =
      following.sessions.countP HandlerPc.isCounted := by
  have countsBefore := consistent.counted
  cases transition with
  | start =>
      simpa [startSession, HandlerPc.isCounted] using countsBefore
  | finish located =>
      exact counted_moveTo countsBefore located (isCounted_enter side _)
  | loadFired located _ =>
      exact counted_moveTo countsBefore located rfl
  | loadValue located _ =>
      exact counted_moveTo countsBefore located rfl
  | loadException located _ =>
      exact counted_moveTo countsBefore located rfl
  | countLast located _ =>
      rw [countsBefore]
      exact (countP_set_isCounted located (.exchanging .value)).symm
  | countOther located _ =>
      rw [countsBefore]
      exact (countP_set_isCounted located (.returned true)).symm
  | exchangeLost located _ =>
      exact counted_moveTo countsBefore located (isCounted_returned _)
  | exchangeWon located _ =>
      exact countsBefore.trans
        (countP_set_of_isCounted_eq located (isCounted_returned _)).symm
  | acceptErrorLost _ _ =>
      exact countsBefore
  | acceptErrorWon _ _ =>
      exact countsBefore

theorem Transition.explained
    (transition : Transition side expectedConns ends gate action following)
    (consistent : Consistent expectedConns ends gate) :
    ∀ session pc, following.sessions[session]? = some pc →
      Explained expectedConns ends following.fired following.completed
        session pc := by
  have before := consistent.explained
  cases transition with
  | start =>
      intro session pc located
      rw [startSession, List.getElem?_append] at located
      split at located
      · exact before session pc located
      · obtain ⟨_, rfl⟩ := List.getElem?_eq_some_iff.mp located
        simp [Explained]
  | finish located =>
      exact explained_set before id le_rfl (explained_enter side _ _ _)
  | loadFired located fired =>
      exact explained_set before id le_rfl fired
  | loadValue located _ =>
      have ended : ends _ = .completed .value := before _ _ located
      exact explained_set before id le_rfl ended
  | loadException located _ =>
      refine explained_set before id le_rfl ?_
      have ended : ends _ = .completed (.exception _) := before _ _ located
      simp [Explained, ended]
  | countLast located last =>
      exact explained_set before id (Nat.le_succ _)
        ⟨before _ _ located, last.symm.le⟩
  | countOther located _ =>
      exact explained_set before id (Nat.le_succ _) (before _ _ located)
  | @exchangeLost session result located fired =>
      refine explained_set before id le_rfl ?_
      cases result with
      | value => exact (before _ _ located).1
      | exception what => exact fired
  | @exchangeWon session result located _ =>
      refine explained_set before (fun _ => rfl) le_rfl ?_
      cases result with
      | value => exact (before _ _ located).1
      | exception what => rfl
  | acceptErrorLost _ _ =>
      exact before
  | acceptErrorWon _ _ =>
      intro session pc located
      exact (before session pc located).mono (fun _ => rfl) le_rfl

theorem Transition.valued
    (transition : Transition side expectedConns ends gate action following)
    (consistent : Consistent expectedConns ends gate) :
    .value ∈ following.allDone → expectedConns ≤ following.completed := by
  cases transition with
  | countLast _ _ =>
      exact fun member => (consistent.valued member).trans (Nat.le_succ _)
  | countOther _ _ =>
      exact fun member => (consistent.valued member).trans (Nat.le_succ _)
  | exchangeWon located unfired =>
      intro member
      rw [consistent.unfulfilled unfired] at member
      obtain rfl := (List.mem_singleton.mp member)
      exact (consistent.explained _ _ located).2
  | acceptErrorWon _ unfired =>
      intro member
      rw [consistent.unfulfilled unfired] at member
      simp at member
  | _ => exact consistent.valued

theorem Transition.claimed
    (transition : Transition side expectedConns ends gate action following)
    (consistent : Consistent expectedConns ends gate) :
    following.fired = false →
    0 < expectedConns →
    expectedConns ≤ following.completed →
    .exchanging .value ∈ following.sessions := by
  intro unfired positive reached
  cases transition with
  | start =>
      exact List.mem_append_left _
        (consistent.claimed unfired positive reached)
  | finish located =>
      exact mem_set_of_ne located (by simp) _
        (consistent.claimed unfired positive reached)
  | loadFired located fired =>
      exact absurd (fired.symm.trans unfired) (by simp)
  | loadValue located _ =>
      exact mem_set_of_ne located (by simp) _
        (consistent.claimed unfired positive reached)
  | loadException located _ =>
      exact mem_set_of_ne located (by simp) _
        (consistent.claimed unfired positive reached)
  | countLast located _ =>
      obtain ⟨inRange, _⟩ := List.getElem?_eq_some_iff.mp located
      exact List.mem_set inRange _
  | countOther located notLast =>
      have already : expectedConns ≤ gate.completed := by
        have : expectedConns ≤ gate.completed + 1 := reached
        omega
      exact mem_set_of_ne located (by simp) _
        (consistent.claimed unfired positive already)
  | exchangeLost located fired =>
      exact absurd (fired.symm.trans unfired) (by simp)
  | exchangeWon _ _ =>
      cases unfired
  | acceptErrorLost _ _ =>
      exact consistent.claimed unfired positive reached
  | acceptErrorWon _ _ =>
      cases unfired

/-- Every step keeps the invariant. -/
theorem Transition.preserves_consistent
    (transition : Transition side expectedConns ends gate action following)
    (consistent : Consistent expectedConns ends gate) :
    Consistent expectedConns ends following where
  unfulfilled := transition.unfulfilled consistent
  fulfilled := transition.fulfilled consistent
  counted := transition.counted consistent
  explained := transition.explained consistent
  valued := transition.valued consistent
  claimed := transition.claimed consistent

theorem consistent_initial : Consistent expectedConns ends initial where
  unfulfilled := fun _ => rfl
  fulfilled := nofun
  counted := rfl
  explained := nofun
  valued := nofun
  claimed := by
    intro _ positive reached
    exact absurd positive (Nat.not_lt.mpr reached)

/-- Every run keeps the invariant. -/
theorem consistent_of_reachable
    {allowed : CompletionGate → Action → Prop}
    (reachable :
      ReachableWhile (step side expectedConns ends) allowed
        (fun gate => gate = initial) gate) :
    Consistent expectedConns ends gate := by
  refine reachable.invariant_from consistent_initial ?_
  intro _ _ _ _ consistent _ taken
  exact (transition_of_step taken).preserves_consistent consistent

end Invariant

/-- An exception in the promise comes from a session that did not succeed. -/
def Blamed
    (ends : Nat → SessionEnd)
    (gate : CompletionGate) :
    Prop :=
  ∀ what, .exception what ∈ gate.allDone →
    ∃ session < gate.sessions.length, ends session ≠ .completed .value

/-- The acceptor is told of an error only when its promise is fulfilled. -/
def acceptErrorsLate (gate : CompletionGate) : Action → Bool
  | .acceptError _ => gate.fired
  | _ => true

/-- No accept error reaches a client. -/
theorem Transition.acceptErrorsLate_of_client
    {expectedConns : Nat}
    {ends : Nat → SessionEnd}
    {gate following : CompletionGate}
    {action : Action}
    (transition :
      Transition .client expectedConns ends gate action following) :
    gate.acceptErrorsLate action = true := by
  cases transition <;> first | rfl | contradiction

/-- Without an early accept error, some session is to blame for an exception. -/
theorem Transition.preserves_blamed
    {side : BenchSide}
    {expectedConns : Nat}
    {ends : Nat → SessionEnd}
    {gate following : CompletionGate}
    {action : Action}
    (transition : Transition side expectedConns ends gate action following)
    (consistent : Consistent expectedConns ends gate)
    (late : gate.acceptErrorsLate action = true)
    (blamed : gate.Blamed ends) :
    following.Blamed ends := by
  intro what isException
  cases transition with
  | start =>
      obtain ⟨session, inRange, failed⟩ := blamed what isException
      refine ⟨session, ?_, failed⟩
      rw [length_startSession]
      exact Nat.lt_add_right 1 inRange
  | exchangeWon located unfired =>
      rw [consistent.unfulfilled unfired] at isException
      obtain rfl := List.mem_singleton.mp isException
      obtain ⟨inRange, _⟩ := List.getElem?_eq_some_iff.mp located
      refine ⟨_, ?_, consistent.explained _ _ located⟩
      rw [List.length_set]
      exact inRange
  | acceptErrorLost _ _ =>
      exact blamed what isException
  | acceptErrorWon _ unfired =>
      exact absurd (late.symm.trans unfired) (by decide)
  | _ =>
      obtain ⟨session, inRange, failed⟩ := blamed what isException
      exact ⟨session, List.length_set.symm ▸ inRange, failed⟩

/-- The session has completed successfully, and its handler has counted it. -/
def Succeeded
    (ends : Nat → SessionEnd)
    (gate : CompletionGate)
    (session : Nat) :
    Prop :=
  ends session = .completed .value ∧
    ∃ pc, gate.sessions[session]? = some pc ∧ pc.isCounted = true

namespace Consistent

variable
  {expectedConns : Nat}
  {ends : Nat → SessionEnd}
  {gate : CompletionGate}

theorem allDone_length_le_one
    (consistent : Consistent expectedConns ends gate) :
    gate.allDone.length ≤ 1 := by
  cases fired : gate.fired with
  | false =>
      rw [consistent.unfulfilled fired]
      exact Nat.zero_le 1
  | true =>
      obtain ⟨result, isResult⟩ := consistent.fulfilled fired
      rw [isResult]
      exact Nat.le_refl 1

/-- A handler that has counted belongs to a session that succeeded. -/
theorem succeeded_of_isCounted
    (consistent : Consistent expectedConns ends gate)
    {session : Nat}
    {pc : HandlerPc}
    (located : gate.sessions[session]? = some pc)
    (isCounted : pc.isCounted = true) :
    gate.Succeeded ends session := by
  refine ⟨?_, pc, located, isCounted⟩
  have explained := consistent.explained session pc located
  cases pc with
  | exchanging result =>
      cases result with
      | value => exact explained.1
      | exception what => cases isCounted
  | returned counted =>
      cases isCounted
      exact explained
  | running => cases isCounted
  | loading result => cases isCounted
  | counting => cases isCounted

/-- With no more sessions than expected, a full count is a count of all. -/
theorem succeeded_of_full
    (consistent : Consistent expectedConns ends gate)
    (full : expectedConns ≤ gate.completed)
    (noMore : gate.sessions.length ≤ expectedConns)
    {session : Nat}
    (expected : session < expectedConns) :
    gate.Succeeded ends session := by
  rw [consistent.counted] at full
  have atMost := List.countP_le_length (p := HandlerPc.isCounted)
    (l := gate.sessions)
  have all : gate.sessions.countP HandlerPc.isCounted =
      gate.sessions.length := by
    omega
  have inRange : session < gate.sessions.length := by
    omega
  refine consistent.succeeded_of_isCounted
    (List.getElem?_eq_getElem inRange) ?_
  exact List.countP_eq_length.mp all _ (List.getElem_mem inRange)

/-- Before the promise is fulfilled, a handler returns only after counting. -/
theorem isCounted_of_hasReturned
    (consistent : Consistent expectedConns ends gate)
    (unfired : gate.fired = false)
    {pc : HandlerPc}
    (member : pc ∈ gate.sessions)
    (returned : pc.hasReturned = true) :
    pc.isCounted = true := by
  obtain ⟨session, located⟩ := List.mem_iff_getElem?.mp member
  have explained := consistent.explained session pc located
  cases pc with
  | returned counted =>
      cases counted with
      | true => rfl
      | false => exact absurd (unfired.symm.trans explained) (by decide)
  | _ => cases returned

/--
When the expected number of handlers has returned and no other one is under way,
one of them has fulfilled the promise.
-/
theorem fired_of_returned
    (consistent : Consistent expectedConns ends gate)
    (expectsSome : 0 < expectedConns)
    (enough :
      expectedConns ≤ gate.sessions.countP HandlerPc.hasReturned)
    (settled :
      ∀ pc ∈ gate.sessions, pc = .running ∨ pc.hasReturned = true) :
    gate.fired = true := by
  by_contra notFired
  have unfired := eq_false_of_ne_true notFired
  have full : expectedConns ≤ gate.completed := by
    rw [consistent.counted]
    exact enough.trans (List.countP_mono_left fun pc member returned =>
      consistent.isCounted_of_hasReturned unfired member returned)
  -- a full counter leaves a handler at its exchange, which is neither
  have atExchange := consistent.claimed unfired expectsSome full
  exact absurd (settled _ atExchange) (by decide)

end Consistent

/--
However the handlers, the accept errors and the set-up errors of a side
interleave: its promise is fulfilled at most once; it is fulfilled with a value
only after the expected number of sessions has completed successfully, which is
every session if no more were started; and it is fulfilled once the expected number
of sessions has completed and their handlers have returned, if no other handler is
under way.
-/
theorem allDone_aggregated
    (side : BenchSide)
    {expectedConns : Nat}
    (expectsSome : 0 < expectedConns)
    (ends : Nat → SessionEnd)
    {gate : CompletionGate}
    (reachable :
      Reachable (step side expectedConns ends)
        (fun start => start = initial) gate) :
    gate.allDone.length ≤ 1 ∧
    (.value ∈ gate.allDone →
      expectedConns ≤ gate.sessions.countP HandlerPc.isCounted ∧
      (∀ session pc, gate.sessions[session]? = some pc →
        pc.isCounted = true → gate.Succeeded ends session) ∧
      (gate.sessions.length ≤ expectedConns →
        ∀ session < expectedConns, gate.Succeeded ends session)) ∧
    (expectedConns ≤ gate.sessions.countP HandlerPc.hasReturned →
      (∀ pc ∈ gate.sessions, pc = .running ∨ pc.hasReturned = true) →
      gate.allDone ≠ []) := by
  have consistent := consistent_of_reachable reachable
  refine ⟨consistent.allDone_length_le_one, ?_, ?_⟩
  · intro isValue
    have full := consistent.valued isValue
    refine ⟨consistent.counted ▸ full, ?_, ?_⟩
    · intro session pc located isCounted
      exact consistent.succeeded_of_isCounted located isCounted
    · intro noMore session expected
      exact consistent.succeeded_of_full full noMore expected
  · intro enough settled
    have fired := consistent.fired_of_returned expectsSome enough settled
    obtain ⟨result, isResult⟩ := consistent.fulfilled fired
    rw [isResult]
    exact List.cons_ne_nil result []

/-- Two sessions whose handlers take turns. -/
def sampleSchedule : List Action :=
  [.start, .start, .finish 1, .advance 1, .finish 0, .advance 0, .advance 1,
    .advance 0, .advance 0]

/-- The second handler to count fulfils the promise. -/
def sampleGate : CompletionGate where
  fired := true
  completed := 2
  allDone := [.value]
  sessions := [.returned true, .returned true]

theorem allDone_aggregated_sample :
    run? (step .server 2 (fun _ => .completed .value)) initial
        sampleSchedule = some sampleGate ∧
      sampleGate.allDone.length ≤ 1 ∧
      (∀ session < 2,
        sampleGate.Succeeded (fun _ => .completed .value) session) ∧
      sampleGate.allDone ≠ [] := by
  have performed :
      run? (step .server 2 (fun _ => .completed .value)) initial
        sampleSchedule = some sampleGate := by
    decide
  have aggregated :=
    allDone_aggregated .server Nat.two_pos (fun _ => .completed .value)
      (reachable_of_run? (.start rfl) performed)
  exact ⟨performed, aggregated.1,
    (aggregated.2.1 (by decide)).2.2 (by decide),
    aggregated.2.2 (by decide) (by decide)⟩

end CompletionGate

end FizzRs
