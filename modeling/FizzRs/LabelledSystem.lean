import Mathlib.Logic.Basic

namespace LabelledSystem

/-!
# Runs of labelled transition systems

A system is given by an executable transition function: `step state action` is
the next state, or `none` when the action is not enabled.  This module fixes
the vocabulary of finite schedules and reachable states, the induction rule
that turns a step lemma into a run lemma, and the projection rule that carries
reachability from a system to an abstraction of it.

Reachability is relative to a condition on steps.  A run meets the condition
when each of its steps does, in the state that the step is taken from.
-/

variable {State Action : Type}

/-- Perform a finite schedule, failing at the first disabled action. -/
def run?
    (step : State → Action → Option State) :
    State → List Action → Option State
  | state, [] => some state
  | state, action :: rest =>
      match step state action with
      | none => none
      | some next => run? step next rest

/-- States reached by runs whose every step meets `allowed`. -/
inductive ReachableWhile
    (step : State → Action → Option State)
    (allowed : State → Action → Prop)
    (initial : State → Prop) :
    State → Prop where
  | start {state : State} :
      initial state →
      ReachableWhile step allowed initial state
  | next {state following : State} {action : Action} :
      ReachableWhile step allowed initial state →
      allowed state action →
      step state action = some following →
      ReachableWhile step allowed initial following

/-- States reached by some run, without a condition on its steps. -/
abbrev Reachable
    (step : State → Action → Option State)
    (initial : State → Prop) :
    State → Prop :=
  ReachableWhile step (fun _ _ => True) initial

/-- States reached from one given state. -/
abbrev Later
    (step : State → Action → Option State)
    (origin : State) :
    State → Prop :=
  Reachable step (fun state => state = origin)

/-- The system that disables every step outside `allowed`. -/
def restrict
    (step : State → Action → Option State)
    (allowed : State → Action → Bool)
    (state : State)
    (action : Action) :
    Option State :=
  if allowed state action then step state action else none

namespace ReachableWhile

variable
  {step : State → Action → Option State}
  {allowed : State → Action → Prop}
  {initial : State → Prop}

/-- The invariant rule: a step lemma gives a run lemma. -/
theorem invariant
    {property : State → Prop}
    (initially : ∀ {state}, initial state → property state)
    (preserved :
      ∀ {state following action},
        ReachableWhile step allowed initial state →
        property state →
        allowed state action →
        step state action = some following →
        property following)
    {state : State}
    (reachable : ReachableWhile step allowed initial state) :
    property state := by
  induction reachable with
  | start begins =>
      exact initially begins
  | next earlier permitted taken inductionHypothesis =>
      exact preserved earlier inductionHypothesis permitted taken

/-- The invariant rule for a system with one initial state. -/
theorem invariant_from
    {origin : State}
    {property : State → Prop}
    (initially : property origin)
    (preserved :
      ∀ {state following action},
        ReachableWhile step allowed (fun start => start = origin) state →
        property state →
        allowed state action →
        step state action = some following →
        property following)
    {state : State}
    (reachable :
      ReachableWhile step allowed (fun start => start = origin) state) :
    property state := by
  refine reachable.invariant ?_ preserved
  intro start isOrigin
  rw [isOrigin]
  exact initially

/-- Weakening the condition on steps keeps every reachable state. -/
theorem weaken
    {weaker : State → Action → Prop}
    (implied : ∀ {state action}, allowed state action → weaker state action)
    {state : State}
    (reachable : ReachableWhile step allowed initial state) :
    ReachableWhile step weaker initial state := by
  induction reachable with
  | start begins =>
      exact .start begins
  | next _ permitted taken inductionHypothesis =>
      exact .next inductionHypothesis (implied permitted) taken

/-- States reached from a reachable state are reachable. -/
theorem trans
    {middle final : State}
    (first : ReachableWhile step allowed initial middle)
    (second :
      ReachableWhile step allowed (fun state => state = middle) final) :
    ReachableWhile step allowed initial final := by
  induction second with
  | start isMiddle =>
      rw [isMiddle]
      exact first
  | next _ permitted taken inductionHypothesis =>
      exact .next inductionHypothesis permitted taken

/--
The projection rule.  When every step of the system is matched, along
`project`, by no step or by one step of the abstraction, reachable states
project to reachable states.
-/
theorem project
    {Abstract AbstractAction : Type}
    {abstractStep : Abstract → AbstractAction → Option Abstract}
    {abstractInitial : Abstract → Prop}
    (abstraction : State → Abstract)
    (initially :
      ∀ {state}, initial state → abstractInitial (abstraction state))
    (matched :
      ∀ {state following action},
        ReachableWhile step allowed initial state →
        step state action = some following →
        abstraction following = abstraction state ∨
          ∃ abstractAction,
            abstractStep (abstraction state) abstractAction =
              some (abstraction following))
    {state : State}
    (reachable : ReachableWhile step allowed initial state) :
    Reachable abstractStep abstractInitial (abstraction state) := by
  induction reachable with
  | start begins =>
      exact .start (initially begins)
  | next earlier _ taken inductionHypothesis =>
      rcases matched earlier taken with same | ⟨abstractAction, follows⟩
      · rw [same]
        exact inductionHypothesis
      · exact .next inductionHypothesis trivial follows

/--
The projection rule for runs under a condition.  Every step that the abstraction
takes meets the abstraction's own condition.
-/
theorem projectWhile
    {Abstract AbstractAction : Type}
    {abstractStep : Abstract → AbstractAction → Option Abstract}
    {abstractAllowed : Abstract → AbstractAction → Prop}
    {abstractInitial : Abstract → Prop}
    (abstraction : State → Abstract)
    (initially :
      ∀ {state}, initial state → abstractInitial (abstraction state))
    (matched :
      ∀ {state following action},
        ReachableWhile step allowed initial state →
        allowed state action →
        step state action = some following →
        abstraction following = abstraction state ∨
          ∃ abstractAction,
            abstractAllowed (abstraction state) abstractAction ∧
              abstractStep (abstraction state) abstractAction =
                some (abstraction following))
    {state : State}
    (reachable : ReachableWhile step allowed initial state) :
    ReachableWhile abstractStep abstractAllowed abstractInitial
      (abstraction state) := by
  induction reachable with
  | start begins =>
      exact .start (initially begins)
  | next earlier permitted taken inductionHypothesis =>
      rcases matched earlier permitted taken with
        same | ⟨abstractAction, meets, follows⟩
      · rw [same]
        exact inductionHypothesis
      · exact .next inductionHypothesis meets follows

end ReachableWhile

/-- Systems that agree on the actions of a schedule perform it alike. -/
theorem run?_congr
    {step other : State → Action → Option State}
    {schedule : List Action}
    (agree :
      ∀ action ∈ schedule, ∀ state, step state action = other state action)
    (first : State) :
    run? step first schedule = run? other first schedule := by
  induction schedule generalizing first with
  | nil =>
      rfl
  | cons action rest inductionHypothesis =>
      simp only [run?]
      rw [agree action List.mem_cons_self first]
      cases other first action with
      | none =>
          rfl
      | some next =>
          apply inductionHypothesis
          intro later member
          exact agree later (List.mem_cons_of_mem _ member)

/-- A successful schedule from a reachable state ends in a reachable state. -/
theorem reachable_of_run?
    {step : State → Action → Option State}
    {initial : State → Prop}
    {first final : State}
    {schedule : List Action}
    (reachable : Reachable step initial first)
    (performed : run? step first schedule = some final) :
    Reachable step initial final := by
  induction schedule generalizing first with
  | nil =>
      simp only [run?, Option.some.injEq] at performed
      subst final
      exact reachable
  | cons action rest inductionHypothesis =>
      unfold run? at performed
      cases taken : step first action with
      | none =>
          simp [taken] at performed
      | some next =>
          simp only [taken] at performed
          exact inductionHypothesis
            (reachable.next trivial taken) performed

/-- A successful schedule of the restricted system meets the condition. -/
theorem reachableWhile_of_run?
    {step : State → Action → Option State}
    {allowed : State → Action → Bool}
    {initial : State → Prop}
    {first final : State}
    {schedule : List Action}
    (reachable :
      ReachableWhile step
        (fun state action => allowed state action = true) initial first)
    (performed :
      run? (restrict step allowed) first schedule = some final) :
    ReachableWhile step
      (fun state action => allowed state action = true) initial final := by
  induction schedule generalizing first with
  | nil =>
      simp only [run?, Option.some.injEq] at performed
      subst final
      exact reachable
  | cons action rest inductionHypothesis =>
      unfold run? at performed
      cases taken : restrict step allowed first action with
      | none =>
          simp [taken] at performed
      | some next =>
          simp only [taken] at performed
          unfold restrict at taken
          split at taken
          · next permitted =>
              exact inductionHypothesis
                (reachable.next permitted taken) performed
          · cases taken

end LabelledSystem
