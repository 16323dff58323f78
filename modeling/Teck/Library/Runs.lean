import Mathlib.Data.List.Basic

namespace Runs

/-!
# Finite runs of labelled partial machines

A machine is a partial function from a state and a label to the next state.
Labels stand for everything the environment chooses: the party that moves and
the answer it gives.  A run is a list of labels, so quantifying over all lists
is quantifying over all interleavings.

`Meets` says that every step of a run satisfies a condition in the state it is
taken from.  `good_iff_meets` is the rule for an exact condition: when one step
keeps a property exactly if the condition holds, a whole run does too.
-/

variable {State Label : Type*}

/-- The state after all labels, if every step is possible. -/
def run?
    (step? : State → Label → Option State) :
    State → List Label → Option State
  | state, [] => some state
  | state, label :: rest =>
      (step? state label).bind fun next => run? step? next rest

/-- Every step of the run meets the condition in the state it starts from. -/
def Meets
    (step? : State → Label → Option State)
    (condition : State → Label → Prop) :
    State → List Label → Prop
  | _, [] => True
  | state, label :: rest =>
      condition state label ∧
        ∀ next, step? state label = some next →
          Meets step? condition next rest

variable {step? : State → Label → Option State}

instance decidableMeets
    {condition : State → Label → Prop}
    [∀ state label, Decidable (condition state label)] :
    ∀ state labels, Decidable (Meets step? condition state labels)
  | _, [] => isTrue trivial
  | state, label :: rest =>
      match stepped : step? state label with
      | none =>
          decidable_of_iff (condition state label)
            (by simp [Meets, stepped])
      | some next =>
          have : Decidable (Meets step? condition next rest) :=
            decidableMeets next rest
          decidable_of_iff
            (condition state label ∧ Meets step? condition next rest)
            (by simp [Meets, stepped])

/-- The run without labels stays where it is. -/
@[simp] theorem run?_nil
    (state : State) :
    run? step? state [] = some state :=
  rfl

/-- A run begins with the step of its first label. -/
theorem run?_cons_eq_some
    {state final : State}
    {label : Label}
    {rest : List Label} :
    run? step? state (label :: rest) = some final ↔
      ∃ next,
        step? state label = some next ∧
          run? step? next rest = some final := by
  simp [run?, Option.bind_eq_some_iff]

/-- Runs compose at the state between them. -/
theorem run?_append_of_eq_some
    {initial middle : State}
    {first : List Label}
    (ran : run? step? initial first = some middle)
    (second : List Label) :
    run? step? initial (first ++ second) = run? step? middle second := by
  induction first generalizing initial with
  | nil =>
      have same : initial = middle := by
        simpa using ran
      rw [List.nil_append, same]
  | cons label rest inductionHypothesis =>
      rcases run?_cons_eq_some.mp ran with ⟨next, stepped, later⟩
      rw [List.cons_append, run?, stepped]
      exact inductionHypothesis later

/-- A run over a concatenation passes through the state between the parts. -/
theorem run?_append_eq_some
    {initial final : State}
    {first second : List Label} :
    run? step? initial (first ++ second) = some final ↔
      ∃ middle,
        run? step? initial first = some middle ∧
          run? step? middle second = some final := by
  induction first generalizing initial with
  | nil =>
      simp
  | cons label rest inductionHypothesis =>
      constructor
      · intro ran
        obtain ⟨next, stepped, later⟩ := run?_cons_eq_some.mp ran
        obtain ⟨middle, reached, last⟩ := inductionHypothesis.mp later
        exact
          ⟨middle, run?_cons_eq_some.mpr ⟨next, stepped, reached⟩, last⟩
      · rintro ⟨middle, ran, last⟩
        obtain ⟨next, stepped, reached⟩ := run?_cons_eq_some.mp ran
        exact
          run?_cons_eq_some.mpr
            ⟨next, stepped, inductionHypothesis.mpr ⟨middle, reached, last⟩⟩

/-- A property kept by every step is kept by every run. -/
theorem invariant_of_run
    {invariant : State → Prop}
    (preserved :
      ∀ {state label next},
        invariant state →
        step? state label = some next →
        invariant next)
    {initial final : State}
    {labels : List Label}
    (holds : invariant initial)
    (ran : run? step? initial labels = some final) :
    invariant final := by
  induction labels generalizing initial with
  | nil =>
      have same : initial = final := by
        simpa using ran
      exact same ▸ holds
  | cons label rest inductionHypothesis =>
      obtain ⟨next, stepped, later⟩ := run?_cons_eq_some.mp ran
      exact inductionHypothesis (preserved holds stepped) later

/-- A property kept by every step with an allowed label. -/
theorem invariant_of_run_of_allowed
    {invariant : State → Prop}
    {allowed : Label → Prop}
    (preserved :
      ∀ {state label next},
        allowed label →
        invariant state →
        step? state label = some next →
        invariant next)
    {initial final : State}
    {labels : List Label}
    (allAllowed : ∀ label ∈ labels, allowed label)
    (holds : invariant initial)
    (ran : run? step? initial labels = some final) :
    invariant final := by
  induction labels generalizing initial with
  | nil =>
      have same : initial = final := by
        simpa using ran
      exact same ▸ holds
  | cons label rest inductionHypothesis =>
      obtain ⟨next, stepped, later⟩ := run?_cons_eq_some.mp ran
      have nextHolds :=
        preserved (allAllowed label (List.mem_cons_self ..)) holds stepped
      exact inductionHypothesis
        (fun label member => allAllowed label (List.mem_cons_of_mem _ member))
        nextHolds later

/--
A property of the labels so far and the state, kept by every step that meets
the condition.
-/
theorem invariant_of_meets
    {invariant : List Label → State → Prop}
    {condition : State → Label → Prop}
    (preserved :
      ∀ {history state label next},
        condition state label →
        invariant history state →
        step? state label = some next →
        invariant (history ++ [label]) next)
    {initial final : State}
    {history labels : List Label}
    (holds : invariant history initial)
    (meets : Meets step? condition initial labels)
    (ran : run? step? initial labels = some final) :
    invariant (history ++ labels) final := by
  induction labels generalizing initial history with
  | nil =>
      have same : initial = final := by
        simpa using ran
      rw [List.append_nil]
      exact same ▸ holds
  | cons label rest inductionHypothesis =>
      obtain ⟨next, stepped, later⟩ := run?_cons_eq_some.mp ran
      have nextHolds := preserved meets.1 holds stepped
      rw [List.append_cons]
      exact inductionHypothesis nextHolds (meets.2 next stepped) later

/--
If one step from an invariant state keeps `good` exactly when the condition
holds, a whole run keeps `good` exactly when all its steps meet the condition.
-/
theorem good_iff_meets
    {invariant good : State → Prop}
    {condition : State → Label → Prop}
    (preserved :
      ∀ {state label next},
        invariant state →
        step? state label = some next →
        invariant next)
    (exactStep :
      ∀ {state label next},
        invariant state →
        step? state label = some next →
        (good next ↔ good state ∧ condition state label))
    {initial final : State}
    {labels : List Label}
    (holds : invariant initial)
    (ran : run? step? initial labels = some final) :
    good final ↔
      good initial ∧ Meets step? condition initial labels := by
  induction labels generalizing initial with
  | nil =>
      have same : initial = final := by
        simpa using ran
      simp [same, Meets]
  | cons label rest inductionHypothesis =>
      obtain ⟨next, stepped, later⟩ := run?_cons_eq_some.mp ran
      rw [inductionHypothesis (preserved holds stepped) later,
        exactStep holds stepped]
      simp [Meets, stepped, and_assoc]

/--
If a step that meets the condition is always possible from an invariant state
and keeps the invariant, a run all of whose steps meet it reaches its end.
-/
theorem exists_run_of_meets
    {invariant : State → Prop}
    {condition : State → Label → Prop}
    (progress :
      ∀ {state label},
        invariant state →
        condition state label →
        ∃ next, step? state label = some next ∧ invariant next)
    {initial : State}
    {labels : List Label}
    (holds : invariant initial)
    (meets : Meets step? condition initial labels) :
    ∃ final,
      run? step? initial labels = some final ∧ invariant final := by
  induction labels generalizing initial with
  | nil =>
      exact ⟨initial, rfl, holds⟩
  | cons label rest inductionHypothesis =>
      obtain ⟨next, stepped, nextHolds⟩ := progress holds meets.1
      obtain ⟨final, later, finalHolds⟩ :=
        inductionHypothesis nextHolds (meets.2 next stepped)
      exact
        ⟨final, run?_cons_eq_some.mpr ⟨next, stepped, later⟩, finalHolds⟩

/-!
## Sequences of calls

A call takes an argument and returns a result or fails.  A law that determines
each result from its own argument, on every state satisfying an invariant,
determines the results of a whole sequence: earlier calls leave no trace.
-/

section Calls

variable {Argument Result Failure : Type*}

/-- Make a list of calls in order and collect their results. -/
def runCalls
    (call : State → Argument → Except Failure (Result × State)) :
    State → List Argument → Except Failure (List Result × State)
  | state, [] => .ok ([], state)
  | state, argument :: rest =>
      match call state argument with
      | .error failure => .error failure
      | .ok (result, next) =>
          match runCalls call next rest with
          | .error failure => .error failure
          | .ok (results, final) => .ok (result :: results, final)

/-- Results given by a law of the argument do not depend on the history. -/
theorem runCalls_of_law
    {call : State → Argument → Except Failure (Result × State)}
    {invariant : State → Prop}
    {law : Argument → Result}
    (lawful :
      ∀ {state}, invariant state →
        ∀ argument, ∃ next,
          call state argument = .ok (law argument, next) ∧
            invariant next)
    {initial : State}
    (holds : invariant initial)
    (arguments : List Argument) :
    ∃ final,
      runCalls call initial arguments =
          .ok (arguments.map law, final) ∧
        invariant final := by
  induction arguments generalizing initial with
  | nil =>
      exact ⟨initial, rfl, holds⟩
  | cons argument rest inductionHypothesis =>
      obtain ⟨next, called, nextHolds⟩ := lawful holds argument
      obtain ⟨final, later, finalHolds⟩ := inductionHypothesis nextHolds
      exact ⟨final, by simp [runCalls, called, later], finalHolds⟩

end Calls

end Runs
