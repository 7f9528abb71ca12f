import FizzRs.WriteSide

namespace FizzRs

open LabelledSystem

/-!
# Order of writes and sticky write errors

The event base runs posted functions in order, so the chains passed to the
transport followed by the chains still posted are the accepted buffers.  An
error text is recorded before `writeError` is raised and never withdrawn, so a
call made after that finds the flag up and a recorded text behind it.
-/

@[simp] theorem queuedChains_append
    (first second : List LoopTask) :
    queuedChains (first ++ second) =
      queuedChains first ++ queuedChains second := by
  simp [queuedChains]

@[simp] theorem queuedChains_writeChain
    (chain : List UInt8)
    (later : List LoopTask) :
    queuedChains (.writeChain chain :: later) =
      chain :: queuedChains later := by
  simp [queuedChains, LoopTask.chain?]

@[simp] theorem queuedChains_closeTransport
    (later : List LoopTask) :
    queuedChains (.closeTransport :: later) = queuedChains later :=
  rfl

@[simp] theorem queuedChains_nil :
    queuedChains [] = [] :=
  rfl

namespace WriteSide

/-- Where every accepted buffer is, and what a recorded error leads to. -/
structure WriteAccount (state : WriteSide) : Prop where
  ordered :
    state.chains ++ queuedChains state.tasks =
      acceptedBuffers state.results
  borrowed :
    ∀ call, state.writer.call? = some call →
      state.callerBuffer = call.buffer
  wholeLength :
    ∀ record ∈ state.results, ∀ count,
      record.result = .ready count → count = record.buffer.length
  latestText :
    state.recorded ≠ [] → state.writeErrorMessage ∈ state.recorded
  flagBacked :
    state.writeError = true → state.recorded ≠ []
  callbackBacked :
    .recorded ∈ state.callbacks → state.recorded ≠ []
  callAfterError :
    ∀ call, state.writer.call? = some call →
      call.errorAtCall = true → state.writeError = true
  sawFlag :
    ∀ call, state.writer = .sawError call → state.writeError = true
  clearedBefore :
    ∀ call, state.writer = .cleared call → call.errorAtCall = false
  sticky :
    ∀ record ∈ state.results,
      record.errorAtCall = true →
        ∃ text ∈ state.recorded,
          record.result = .failed ("Write failed: " ++ text)

namespace WriteAccount

/-- Nothing has been written when the handshake completes. -/
theorem initially : WriteAccount initial := by
  constructor <;> simp [initial, acceptedBuffers, WriterPc.call?]

/-- Completing a failed call keeps the account. -/
theorem complete_failed
    {state : WriteSide}
    (account : WriteAccount state)
    {call : WriteCall}
    {message : String}
    (backed :
      call.errorAtCall = true →
        ∃ text ∈ state.recorded, message = "Write failed: " ++ text) :
    WriteAccount (state.complete call (.failed message)) where
  ordered := account.ordered
  borrowed := by simp [complete, WriterPc.call?]
  wholeLength := by
    intro record member count isReady
    rcases List.mem_cons.mp member with isNew | isOld
    · rw [isNew] at isReady
      cases isReady
    · exact account.wholeLength record isOld count isReady
  latestText := account.latestText
  flagBacked := account.flagBacked
  callbackBacked := account.callbackBacked
  callAfterError := by simp [complete, WriterPc.call?]
  sawFlag := by simp [complete]
  clearedBefore := by simp [complete]
  sticky := by
    intro record member afterError
    rcases List.mem_cons.mp member with isNew | isOld
    · rw [isNew] at afterError ⊢
      obtain ⟨text, isRecorded, shape⟩ := backed afterError
      exact ⟨text, isRecorded, by rw [shape]⟩
    · exact account.sticky record isOld afterError

/-- Posting a copy of the caller's bytes keeps the account. -/
theorem post_preserved
    {state : WriteSide}
    (account : WriteAccount state)
    (side : Side)
    {call : WriteCall}
    (here : state.writer = .cleared call) :
    WriteAccount
      (({ state with
          tasks :=
            state.tasks ++
              [LoopTask.writeChain (copyBuffer state.callerBuffer)]
          }).complete
        call (.ready (writeLength side state.callerBuffer))) where
  ordered := by
    have sameBytes : state.callerBuffer = call.buffer :=
      account.borrowed call (by simp [here, WriterPc.call?])
    simp only [complete, acceptedBuffers, queuedChains_append,
      queuedChains_writeChain, queuedChains_nil, copyBuffer]
    rw [← List.append_assoc, account.ordered, sameBytes]
  borrowed := by simp [complete, WriterPc.call?]
  wholeLength := by
    have sameBytes : state.callerBuffer = call.buffer :=
      account.borrowed call (by simp [here, WriterPc.call?])
    intro record member count isReady
    rcases List.mem_cons.mp member with isNew | isOld
    · rw [isNew] at isReady ⊢
      cases isReady
      simp [sameBytes]
    · exact account.wholeLength record isOld count isReady
  latestText := account.latestText
  flagBacked := account.flagBacked
  callbackBacked := account.callbackBacked
  callAfterError := by simp [complete, WriterPc.call?]
  sawFlag := by simp [complete]
  clearedBefore := by simp [complete]
  sticky := by
    intro record member afterError
    rcases List.mem_cons.mp member with isNew | isOld
    · rw [isNew] at afterError
      have before := account.clearedBefore call here
      rw [before] at afterError
      cases afterError
    · exact account.sticky record isOld afterError

/-- Finishing one callback leaves no new callback between its two updates. -/
theorem callbackBacked_set_finished
    {state : WriteSide}
    (account : WriteAccount state)
    {index : Nat}
    (stillRecorded :
      WriteCallbackPc.recorded ∈ state.callbacks.set index .finished) :
    state.recorded ≠ [] := by
  rcases List.mem_or_eq_of_mem_set stillRecorded with isOld | isNew
  · exact account.callbackBacked isOld
  · cases isNew

/-- One atomic step keeps the account. -/
theorem preserved
    {side : Side}
    {state following : WriteSide}
    {action : Action}
    (account : WriteAccount state)
    (transition : Transition side .established state action following) :
    WriteAccount following := by
  cases transition with
  | call buffer _ =>
      exact { account with
        borrowed := by simp [WriterPc.call?]
        callAfterError := by simp [WriterPc.call?]
        sawFlag := by simp
        clearedBefore := by simp }
  | reuseBuffer bytes here =>
      exact { account with
        borrowed := by simp [here, WriterPc.call?] }
  | refuse call message _ rejected =>
      simp at rejected
  | seeError call here raised =>
      have inProgress : state.writer.call? = some call := by
        simp [here, WriterPc.call?]
      exact { account with
        borrowed := by
          simpa [WriterPc.call?] using account.borrowed call inProgress
        callAfterError := fun _ _ _ => raised
        sawFlag := fun _ _ => raised
        clearedBefore := by simp }
  | seeNoError call here notRaised =>
      have inProgress : state.writer.call? = some call := by
        simp [here, WriterPc.call?]
      have before : call.errorAtCall = false := by
        by_contra afterError
        have raised :=
          account.callAfterError call inProgress (by simpa using afterError)
        rw [notRaised] at raised
        cases raised
      exact { account with
        borrowed := by
          simpa [WriterPc.call?] using account.borrowed call inProgress
        callAfterError := by simp [WriterPc.call?, before]
        sawFlag := by simp
        clearedBefore := by simp [before] }
  | fail call here =>
      refine account.complete_failed fun _ => ?_
      have backed :=
        account.flagBacked (account.sawFlag call here)
      exact ⟨state.writeErrorMessage, account.latestText backed, rfl⟩
  | post call here =>
      exact account.post_preserved side here
  | postClose =>
      exact { account with
        ordered := by simpa using account.ordered }
  | runWrite chain later shape =>
      have ordered := account.ordered
      rw [shape] at ordered
      exact { account with
        ordered := by simpa using ordered
        callbackBacked := by simpa using account.callbackBacked }
  | runClose later shape =>
      have ordered := account.ordered
      rw [shape] at ordered
      exact { account with
        ordered := by simpa using ordered }
  | writeSuccess index _ =>
      exact { account with
        callbackBacked := account.callbackBacked_set_finished }
  | writeErr index text _ =>
      exact { account with
        latestText := by simp
        flagBacked := by simp
        callbackBacked := by simp
        sticky := by
          intro record member afterError
          obtain ⟨earlier, isRecorded, shape⟩ :=
            account.sticky record member afterError
          exact ⟨earlier, List.mem_append_left _ isRecorded, shape⟩ }
  | raiseError index here =>
      have backed : state.recorded ≠ [] :=
        account.callbackBacked (List.mem_of_getElem? here)
      exact { account with
        flagBacked := fun _ => backed
        callbackBacked := account.callbackBacked_set_finished
        callAfterError := fun _ _ _ => rfl
        sawFlag := fun _ _ => rfl }

/-- Every reachable write side keeps the account. -/
theorem of_reachable
    {side : Side}
    {state : WriteSide}
    (reachable :
      Reachable (step side .established)
        (fun start => start = initial) state) :
    WriteAccount state := by
  refine reachable.invariant_from ?_ ?_
  · exact initially
  · intro before after action _ account _ taken
    exact account.preserved (.of_step taken)

end WriteAccount

/-- No step withdraws a chain that was passed to the transport. -/
theorem Transition.chains_grow
    {side : Side}
    {header : ConnectionHeader}
    {state following : WriteSide}
    {action : Action}
    (transition : Transition side header state action following) :
    state.chains <+: following.chains := by
  cases transition with
  | runWrite chain later _ =>
      exact List.prefix_append _ _
  | _ =>
      exact List.prefix_rfl

/--
The chains passed to the transport are, in order, the first buffers accepted by
`poll_write`, and only accepted buffers are ever posted; every acceptance
reports the whole length; and a call made after `writeError` was raised fails
with a recorded text.
-/
theorem writes_ordered_errors_sticky
    {side : Side}
    {state : WriteSide}
    (reachable :
      Reachable (step side .established)
        (fun start => start = initial) state) :
    state.chains <+: acceptedBuffers state.results ∧
      state.chains ++ queuedChains state.tasks =
        acceptedBuffers state.results ∧
      (∀ action following,
        state.step side .established action = some following →
        state.chains <+: following.chains) ∧
      (∀ record ∈ state.results, ∀ count,
        record.result = .ready count → count = record.buffer.length) ∧
      ∀ record ∈ state.results,
        record.errorAtCall = true →
          ∃ text ∈ state.recorded,
            record.result = .failed ("Write failed: " ++ text) := by
  have account := WriteAccount.of_reachable reachable
  refine ⟨⟨queuedChains state.tasks, account.ordered⟩, account.ordered,
    ?_, account.wholeLength, account.sticky⟩
  intro action following taken
  exact (Transition.of_step taken).chains_grow

/-- Two writes are accepted, the first fails, and a third call reports it. -/
def sampleWriteSchedule : List Action :=
  [.pollWrite [1, 2], .writerStep, .writerStep, .reuseBuffer [9, 9],
    .pollWrite [3], .writerStep, .writerStep, .runTask, .runTask,
    .writeErr 0 "reset", .writeErrStep 0, .writeSuccess 1,
    .pollWrite [4], .writerStep, .writerStep]

/-- The write side after `sampleWriteSchedule`. -/
def sampleWriteState : WriteSide where
  callerBuffer := [4]
  writeError := true
  writeErrorMessage := "reset"
  tasks := []
  chains := [[1, 2], [3]]
  callbacks := [.finished, .finished]
  writer := .idle
  recorded := ["reset"]
  results :=
    [{ buffer := [4]
       errorAtCall := true
       result := .failed "Write failed: reset" },
      { buffer := [3], errorAtCall := false, result := .ready 1 },
      { buffer := [1, 2], errorAtCall := false, result := .ready 2 }]

theorem writes_ordered_errors_sticky_sample :
    run? (step .client .established) initial sampleWriteSchedule =
        some sampleWriteState ∧
      sampleWriteState.chains <+:
        acceptedBuffers sampleWriteState.results := by
  have performed :
      run? (step .client .established) initial sampleWriteSchedule =
        some sampleWriteState := by
    decide
  exact ⟨performed,
    (writes_ordered_errors_sticky
      (reachable_of_run? (.start rfl) performed)).1⟩

end WriteSide

end FizzRs
