import FizzRs.LabelledSystem

namespace FifoPipe

open LabelledSystem

/-!
# A FIFO pipe with an end

A pipe takes items at one end and hands them out, in order and once each, at the
other.  Its reader is told at most once that the pipe has ended, and gets nothing
afterwards; its writer may keep putting items in that nobody will read.

An implementation is compared with the pipe through three observations: what was
accepted, what was delivered, whether the end was reported.  `matched` is the rule
for that: an implementation step that changes one of them in the allowed way is a
step of the pipe.
-/

/-- What is observed of a pipe. -/
structure Pipe (α : Type) where
  accepted : List α
  delivered : List α
  ended : Bool
  deriving Repr, DecidableEq

namespace Pipe

variable {α : Type}

/-- A pipe nobody has used. -/
def empty : Pipe α where
  accepted := []
  delivered := []
  ended := false

/-- Items go in, items come out, and the reader learns of the end. -/
inductive Action (α : Type) where
  | accept (items : List α)
  | deliver (count : Nat)
  | finish
  deriving Repr, DecidableEq

/-- One step of the pipe. -/
def step
    (pipe : Pipe α) :
    Action α → Option (Pipe α)
  | .accept items =>
      some { pipe with accepted := pipe.accepted ++ items }
  | .deliver count =>
      if pipe.ended = false then
        some { pipe with
          delivered := pipe.accepted.take (pipe.delivered.length + count) }
      else
        none
  | .finish =>
      if pipe.ended = false then
        some { pipe with ended := true }
      else
        none

/-- A pipe hands out a leading part of what it took, at every moment. -/
theorem delivered_prefix
    {pipe : Pipe α}
    (reachable : Reachable step (fun start => start = empty) pipe) :
    pipe.delivered <+: pipe.accepted := by
  induction reachable with
  | start isEmpty =>
      rw [isEmpty]
      exact List.prefix_rfl
  | @next before after action _ _ taken inductionHypothesis =>
      cases action with
      | accept items =>
          cases taken
          exact inductionHypothesis.trans (List.prefix_append _ _)
      | deliver count =>
          simp only [step] at taken
          split at taken
          · cases taken
            exact List.take_prefix _ _
          · cases taken
      | finish =>
          simp only [step] at taken
          split at taken
          · cases taken
            exact inductionHypothesis
          · cases taken

/-- What a pipe has delivered is never taken back. -/
theorem delivered_grows
    {pipe later : Pipe α}
    (reachable : Reachable step (fun start => start = empty) pipe)
    (follows : Later step pipe later) :
    pipe.delivered <+: later.delivered := by
  induction follows with
  | start isPipe =>
      subst isPipe
      exact List.prefix_rfl
  | @next middle final action earlier _ taken inductionHypothesis =>
      have isPrefix := delivered_prefix (reachable.trans earlier)
      cases action with
      | accept items =>
          cases taken
          exact inductionHypothesis
      | deliver count =>
          simp only [step] at taken
          split at taken
          · cases taken
            refine inductionHypothesis.trans ?_
            rw [List.prefix_take_iff]
            exact ⟨isPrefix, Nat.le_add_right _ _⟩
          · cases taken
      | finish =>
          simp only [step] at taken
          split at taken
          · cases taken
            exact inductionHypothesis
          · cases taken

/-- A pipe that has ended delivers nothing more. -/
theorem delivered_frozen
    {pipe later : Pipe α}
    (isEnded : pipe.ended = true)
    (follows : Later step pipe later) :
    later.ended = true ∧ later.delivered = pipe.delivered := by
  induction follows with
  | start isPipe =>
      rw [isPipe]
      exact ⟨isEnded, rfl⟩
  | @next middle final action _ _ taken inductionHypothesis =>
      cases action with
      | accept items =>
          cases taken
          exact inductionHypothesis
      | deliver count =>
          simp [step, inductionHypothesis.1] at taken
      | finish =>
          simp [step, inductionHypothesis.1] at taken

/--
A pipe that carries a known stream: what was accepted and what is still to be
written make up the stream, and so do what was delivered and what is still to be
read.
-/
structure Carries
    (pipe : Pipe α)
    (stream toWrite toRead : List α) :
    Prop where
  accepted : pipe.accepted ++ toWrite = stream
  delivered : pipe.delivered ++ toRead = stream

namespace Carries

variable {pipe : Pipe α} {stream toWrite toRead : List α}

/-- A new pipe carries any stream. -/
theorem ofEmpty
    (stream : List α) :
    (empty : Pipe α).Carries stream stream stream where
  accepted := rfl
  delivered := rfl

/-- The next items of the stream go in. -/
theorem accept
    {items rest : List α}
    (carries : pipe.Carries stream toWrite toRead)
    (next : toWrite = items ++ rest) :
    Carries { pipe with accepted := pipe.accepted ++ items } stream rest
      toRead where
  accepted := by
    rw [← carries.accepted, next, List.append_assoc]
  delivered := carries.delivered

/-- The next items of the stream come out. -/
theorem take_eq
    (carries : pipe.Carries stream toWrite toRead)
    {count : Nat}
    (available : pipe.delivered.length + count ≤ pipe.accepted.length) :
    pipe.accepted.take (pipe.delivered.length + count) =
      pipe.delivered ++ toRead.take count := by
  have shorter :
      pipe.accepted.take (pipe.delivered.length + count) =
        stream.take (pipe.delivered.length + count) := by
    rw [← carries.accepted, List.take_append_of_le_length available]
  rw [shorter, ← carries.delivered, List.take_length_add_append]

/-- What came out is gone from what is still to be read. -/
theorem deliver
    (carries : pipe.Carries stream toWrite toRead)
    {count : Nat}
    (available : pipe.delivered.length + count ≤ pipe.accepted.length) :
    Carries
      { pipe with
        delivered :=
          pipe.accepted.take (pipe.delivered.length + count) }
      stream toWrite (toRead.drop count) where
  accepted := carries.accepted
  delivered := by
    simp only
    rw [carries.take_eq available, List.append_assoc,
      List.take_append_drop]
    exact carries.delivered

/-- How much is in the pipe. -/
theorem length_eq
    (carries : pipe.Carries stream toWrite toRead) :
    pipe.accepted.length + toWrite.length =
      pipe.delivered.length + toRead.length := by
  rw [← List.length_append, ← List.length_append, carries.accepted,
    carries.delivered]

end Carries

/-- The changes of the three observations that are steps of the pipe. -/
inductive Change (before after : Pipe α) : Prop where
  | none :
      after = before →
      Change before after
  | accepted (items : List α) :
      after = { before with accepted := before.accepted ++ items } →
      Change before after
  | delivered (items : List α) :
      after = { before with delivered := before.delivered ++ items } →
      after.delivered <+: after.accepted →
      (before.ended = true → items = []) →
      Change before after
  | finished :
      after = { before with ended := true } →
      Change before after

/-- Every such change is no step or one step of the pipe. -/
theorem Change.matched
    {before after : Pipe α}
    (change : Change before after) :
    after = before ∨ ∃ action, before.step action = some after := by
  cases change with
  | none same =>
      exact .inl same
  | accepted items shape =>
      exact .inr ⟨.accept items, by rw [shape]; rfl⟩
  | delivered items shape isPrefix nothingAfter =>
      by_cases isEnded : before.ended = true
      · refine .inl ?_
        rw [shape, nothingAfter isEnded, List.append_nil]
      · refine .inr ⟨.deliver items.length, ?_⟩
        have bytes :
            before.accepted.take
                (before.delivered.length + items.length) =
              before.delivered ++ items := by
          rw [shape] at isPrefix
          rw [← List.length_append]
          exact (List.prefix_iff_eq_take.mp isPrefix).symm
        simp [step, isEnded, bytes, shape]
  | finished shape =>
      by_cases isEnded : before.ended = true
      · refine .inl ?_
        rw [shape, ← isEnded]
      · refine .inr ⟨.finish, ?_⟩
        simp [step, isEnded, shape]

end Pipe

end FifoPipe
