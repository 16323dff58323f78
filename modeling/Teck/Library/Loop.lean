import Mathlib.Data.Nat.Init

namespace Loop

/-!
# Loops whose turns either go on or return

A turn of a loop maps the state to the next state or to a result.  `run`
gives a loop finitely many turns; `Returns` asks for some number that is
enough; `after` is the state reached by turns that all go on.  A loop that
reaches a state and returns from it returns that result, and no other.
-/

variable {State Result : Type*}

/-- Take at most the given number of turns. -/
def run
    (turn : State → State ⊕ Result) :
    Nat → State → Option Result
  | 0, _ => none
  | turns + 1, state =>
      match turn state with
      | .inl next => run turn turns next
      | .inr result => some result

/-- The loop returns the result after finitely many turns. -/
def Returns
    (turn : State → State ⊕ Result)
    (state : State)
    (result : Result) : Prop :=
  ∃ turns, run turn turns state = some result

variable {turn : State → State ⊕ Result}

/-- A loop that has returned is not changed by more turns. -/
theorem run_add
    {turns : Nat}
    {state : State}
    {result : Result}
    (returned : run turn turns state = some result)
    (extra : Nat) :
    run turn (turns + extra) state = some result := by
  induction turns generalizing state with
  | zero =>
      simp [run] at returned
  | succ turns inductionHypothesis =>
      rw [Nat.succ_add]
      simp only [run] at returned ⊢
      cases taken : turn state with
      | inl next =>
          simp only [taken] at returned
          exact inductionHypothesis returned
      | inr early =>
          simpa only [taken] using returned

/-- A loop returns one result. -/
theorem Returns.unique
    {state : State}
    {first second : Result}
    (left : Returns turn state first)
    (right : Returns turn state second) :
    first = second := by
  rcases left with ⟨leftTurns, leftRun⟩
  rcases right with ⟨rightTurns, rightRun⟩
  have leftLong := run_add leftRun rightTurns
  have rightLong := run_add rightRun leftTurns
  rw [Nat.add_comm] at rightLong
  exact Option.some.inj (leftLong.symm.trans rightLong)

/-- A turn that goes on, and then a return. -/
theorem Returns.of_continue
    {state next : State}
    {result : Result}
    (taken : turn state = .inl next)
    (rest : Returns turn next result) :
    Returns turn state result := by
  rcases rest with ⟨turns, returned⟩
  exact ⟨turns + 1, by simpa [run, taken] using returned⟩

/-- A turn that returns. -/
theorem Returns.of_return
    {state : State}
    {result : Result}
    (taken : turn state = .inr result) :
    Returns turn state result :=
  ⟨1, by simp [run, taken]⟩

/-- The state after exactly the given number of turns that all go on. -/
def after
    (turn : State → State ⊕ Result) :
    Nat → State → Option State
  | 0, state => some state
  | count + 1, state =>
      match turn state with
      | .inl next => after turn count next
      | .inr _ => none

/-- No turn leaves the state as it is. -/
@[simp] theorem after_zero
    (state : State) :
    after turn 0 state = some state :=
  rfl

/-- One turn and then the others. -/
theorem after_succ_eq_some
    {count : Nat}
    {state final : State} :
    after turn (count + 1) state = some final ↔
      ∃ next,
        turn state = .inl next ∧
          after turn count next = some final := by
  simp only [after]
  cases taken : turn state with
  | inl next =>
      simp
  | inr result =>
      simp

/-- Turns add up. -/
theorem after_add_eq_some
    {first second : Nat}
    {state final : State} :
    after turn (first + second) state = some final ↔
      ∃ middle,
        after turn first state = some middle ∧
          after turn second middle = some final := by
  induction first generalizing state with
  | zero =>
      simp
  | succ first inductionHypothesis =>
      rw [Nat.succ_add]
      simp only [Nat.succ_eq_add_one, after_succ_eq_some,
        inductionHypothesis]
      constructor
      · rintro ⟨next, taken, middle, before, later⟩
        exact ⟨middle, ⟨next, taken, before⟩, later⟩
      · rintro ⟨middle, ⟨next, taken, before⟩, later⟩
        exact ⟨next, taken, middle, before, later⟩

/-- Known states that each go on to the next are reached one after the other. -/
theorem after_of_states
    {states : Nat → State}
    {count : Nat}
    (continued :
      ∀ index < count,
        turn (states index) = .inl (states (index + 1))) :
    after turn count (states 0) = some (states count) := by
  induction count with
  | zero =>
      rfl
  | succ count inductionHypothesis =>
      have shorter :=
        inductionHypothesis
          (fun index below => continued index (Nat.lt_succ_of_lt below))
      refine after_add_eq_some.mpr ⟨states count, shorter, ?_⟩
      exact after_succ_eq_some.mpr
        ⟨states (count + 1), continued count (Nat.lt_succ_self count), rfl⟩

/-- The loop returns what the first turn that does not go on returns. -/
theorem Returns.of_after
    {count : Nat}
    {state last : State}
    {result : Result}
    (reached : after turn count state = some last)
    (finished : turn last = .inr result) :
    Returns turn state result := by
  induction count generalizing state with
  | zero =>
      have same : state = last := by
        simpa using reached
      exact .of_return (same ▸ finished)
  | succ count inductionHypothesis =>
      obtain ⟨next, taken, later⟩ := after_succ_eq_some.mp reached
      exact .of_continue taken (inductionHypothesis later)

/-- A loop that returns does so from a state that going on leads to. -/
theorem Returns.exists_after
    {state : State}
    {result : Result}
    (returned : Returns turn state result) :
    ∃ count last,
      after turn count state = some last ∧
        turn last = .inr result := by
  rcases returned with ⟨turns, ran⟩
  induction turns generalizing state with
  | zero =>
      simp [run] at ran
  | succ turns inductionHypothesis =>
      simp only [run] at ran
      cases taken : turn state with
      | inl next =>
          simp only [taken] at ran
          rcases inductionHypothesis ran with
            ⟨count, last, reached, finished⟩
          exact ⟨count + 1, last,
            after_succ_eq_some.mpr ⟨next, taken, reached⟩, finished⟩
      | inr early =>
          simp only [taken, Option.some.injEq] at ran
          exact ⟨0, state, rfl, ran ▸ taken⟩

end Loop
