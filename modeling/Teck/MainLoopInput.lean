import Mathlib.Data.Nat.Find
import Teck.MainLoopRun

namespace Teck

/-!
# Stopping the engine by input

`ShouldExit` folds the results of the input systems into the running bit with
`|=`, and `Init` sets that bit.  The stop law below asks that a call in which
every input system answers false ends the loop.  The fold can only set the bit,
so the law holds of a run exactly when no such call is made in it.
-/

variable {K : Type}

/-- Every input system gives the same result in the given call. -/
def Environment.Unanimous
    (environment : Environment K)
    (systems : List TsInput)
    (call : Nat)
    (result : Bool) : Prop :=
  ∀ position < systems.length,
    environment.handleInput call position = result

/-- The window is open and every input system asks to stop. -/
def Environment.StopRequested
    (environment : Environment K)
    (systems : List TsInput)
    (call : Nat) : Prop :=
  environment.shouldClose call = false ∧
    environment.Unanimous systems call false

/--
The stop law of a run from the given engine: the first requested stop ends the
loop without another round, and a unanimous wish to go on is granted.
-/
structure InputCanStop [Add K]
    (environment : Environment K)
    (engine : Engine K) : Prop where
  stops :
    ∀ call state,
      Loop.after (mainLoopTurn environment) call
          (LoopState.start engine) = some state →
      environment.StopRequested engine.inputSystems call →
      (∀ earlier < call,
        ¬ environment.StopRequested engine.inputSystems earlier) →
      (state.engine.shouldExit environment call).1 = true ∧
        ∃ final,
          MainLoopReturns environment engine tkExitSuccess final ∧
            final.trace = state.trace
  continues :
    ∀ call state,
      Loop.after (mainLoopTurn environment) call
          (LoopState.start engine) = some state →
      environment.shouldClose call = false →
      environment.Unanimous engine.inputSystems call true →
      (state.engine.shouldExit environment call).1 = false

/-- No stop is requested while the window has been open from the start. -/
def Environment.NeverStopped
    (environment : Environment K)
    (systems : List TsInput) : Prop :=
  ∀ call,
    (∀ earlier ≤ call, environment.shouldClose earlier = false) →
    ∃ position < systems.length,
      environment.handleInput call position = true

/-- Some system answers true unless all answer false. -/
theorem Environment.not_unanimous_false_iff
    (environment : Environment K)
    (systems : List TsInput)
    (call : Nat) :
    ¬ environment.Unanimous systems call false ↔
      ∃ position < systems.length,
        environment.handleInput call position = true := by
  simp [Environment.Unanimous]

section Runs

variable [AddMonoid K] {environment : Environment K} {engine : Engine K}

/-- While the window is open, no state of the loop makes `ShouldExit` true. -/
theorem shouldExit_of_after
    (initialised : engine.Initialised)
    {call : Nat}
    {state : LoopState K}
    (reached :
      Loop.after (mainLoopTurn environment) call
        (LoopState.start engine) = some state)
    (isOpen : environment.shouldClose call = false) :
    (state.engine.shouldExit environment call).1 = false := by
  have running : state.engine.bRunning = 1#1 := by
    rw [(eq_before_of_after initialised reached).1]
    exact initialised.running
  rw [Engine.shouldExit_of_running isOpen running]

/-- A requested stop that the window does not preempt is ignored. -/
theorem not_inputCanStop
    (initialised : engine.Initialised)
    {call : Nat}
    (isOpen : ∀ earlier ≤ call, environment.shouldClose earlier = false)
    (unanimous : environment.Unanimous engine.inputSystems call false) :
    ¬ InputCanStop environment engine := by
  classical
  intro lawful
  have someRequest :
      ∃ candidate ≤ call,
        environment.StopRequested engine.inputSystems candidate :=
    ⟨call, le_rfl, isOpen call le_rfl, unanimous⟩
  -- The first request is reached, because nothing before it closes the window.
  let first := Nat.find someRequest
  obtain ⟨firstBelow, firstRequested⟩ := Nat.find_spec someRequest
  have nothingEarlier :
      ∀ earlier < first,
        ¬ environment.StopRequested engine.inputSystems earlier := by
    intro earlier below requested
    exact Nat.find_min someRequest below
      ⟨(below.le).trans firstBelow, requested⟩
  have reached :=
    after_of_open initialised
      (fun earlier below => isOpen earlier (below.le.trans firstBelow))
  have exits :=
    (lawful.stops first _ reached firstRequested nothingEarlier).1
  have goesOn := shouldExit_of_after initialised reached firstRequested.1
  rw [exits] at goesOn
  exact Bool.noConfusion goesOn

end Runs

/--
For every list of input systems, the stop law holds of the run from `Init`
exactly when no stop is requested before the window closes.
-/
theorem inputCanStop_iff_neverStopped [AddMonoid K]
    (environment : Environment K)
    (systems : List TsInput)
    (beginPlay : Registry K → Registry K) :
    InputCanStop environment
        (Engine.init beginPlay
          { Engine.create with inputSystems := systems }) ↔
      environment.NeverStopped systems := by
  have initialised :=
    Engine.initialised_init (K := K) systems beginPlay
  constructor
  · intro lawful call isOpen
    by_contra nobodyRuns
    have unanimous : environment.Unanimous systems call false := by
      rw [← environment.not_unanimous_false_iff, not_not] at nobodyRuns
      exact nobodyRuns
    exact not_inputCanStop initialised isOpen unanimous lawful
  · intro neverStopped
    refine ⟨?_, ?_⟩
    · intro call state reached requested _
      have isOpen :
          ∀ earlier ≤ call, environment.shouldClose earlier = false := by
        intro earlier below
        rcases Nat.lt_or_eq_of_le below with isEarlier | isLast
        · exact (eq_before_of_after initialised reached).2 earlier isEarlier
        · exact isLast ▸ requested.1
      exact
        ((environment.not_unanimous_false_iff systems call).mpr
          (neverStopped call isOpen) requested.2).elim
    · intro call state reached isOpen _
      exact shouldExit_of_after initialised reached isOpen

/--
An input system that wants to stop at once, and a window that stays open.
-/
noncomputable def stoppingInput : Environment Int where
  shouldClose := fun _ => false
  handleInput := fun _ _ => false
  viewOrder := fun _ _ _ => default

/-- One input system that answers false in the first call does not stop. -/
theorem not_inputCanStop_stoppingInput :
    ¬ InputCanStop stoppingInput
      (Engine.init id { Engine.create with inputSystems := [{}] }) :=
  @not_inputCanStop _ _ _ _ (Engine.initialised_init [{}] id) 0
    (fun _ _ => rfl) (fun _ _ => rfl)

end Teck
