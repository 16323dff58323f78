import Mathlib.Algebra.Group.Int.Defs
import Mathlib.Data.Nat.Find
import Teck.Engine

namespace Teck

/-!
# Whole runs of the main loop

After `Init` the loop goes on exactly as long as the window stays open.  The
state before each call of `ShouldExit` is known in closed form: so many rounds
of calls have been made, and the registry has drifted by so many rounds.  The
law of a whole run is read off the state in which the window closes.
-/

variable {K : Type}

/-- What `Init` establishes and every round keeps. -/
structure Engine.Initialised (engine : Engine K) : Prop where
  running : engine.bRunning = 1#1
  registered : engine.updateSystems = [.tsPhysics2d]

/-- Whatever input systems there are, `Init` sets the running bit. -/
theorem Engine.initialised_init
    (systems : List TsInput)
    (beginPlay : Registry K → Registry K) :
    (Engine.init beginPlay
      { Engine.create with inputSystems := systems }).Initialised where
  running := rfl
  registered := rfl

variable [AddMonoid K]

/-- The engine after so many updates. -/
def Engine.drift (rounds : Nat) (engine : Engine K) : Engine K :=
  { engine with registry := engine.registry.drift rounds }

namespace LoopState

/-- The state before the given call of `ShouldExit`, window permitting. -/
def before (engine : Engine K) (call : Nat) : LoopState K where
  engine := engine.drift call
  calls := call
  trace := rounds call

/-- No round has been made before the first call. -/
theorem before_zero (engine : Engine K) :
    before engine 0 = start engine := by
  simp [before, start, Engine.drift]

end LoopState

/-- The turn in which the window wants to close is the last. -/
theorem mainLoopTurn_of_close
    {environment : Environment K}
    {state : LoopState K}
    (closes : environment.shouldClose state.calls = true) :
    mainLoopTurn environment state = .inr (tkExitSuccess, state) := by
  simp [mainLoopTurn, Engine.shouldExit_of_close closes]

/-- While the window is open, one turn is one round of calls and of drift. -/
theorem mainLoopTurn_of_open
    {environment : Environment K}
    {engine : Engine K}
    (initialised : engine.Initialised)
    {call : Nat}
    (isOpen : environment.shouldClose call = false) :
    mainLoopTurn environment (LoopState.before engine call) =
      .inl (LoopState.before engine (call + 1)) := by
  have goesOn :
      (engine.drift call).shouldExit environment call =
        (false, engine.drift call) :=
    Engine.shouldExit_of_running isOpen initialised.running
  have registered :
      (engine.drift call).updateSystems = [.tsPhysics2d] :=
    initialised.registered
  have updated :
      (engine.drift call).update environment call =
        engine.drift (call + 1) := by
    rw [Engine.update_eq_drift environment call registered]
    simp [Engine.drift, Registry.drift_drift]
  simp [mainLoopTurn, LoopState.before, goesOn, LoopState.pollEvents,
    LoopState.update, LoopState.render, updated, rounds_succ]

/-- While the window stays open, every turn is a round. -/
theorem after_of_open
    {environment : Environment K}
    {engine : Engine K}
    (initialised : engine.Initialised)
    {count : Nat}
    (isOpen : ∀ call < count, environment.shouldClose call = false) :
    Loop.after (mainLoopTurn environment) count (LoopState.start engine) =
      some (LoopState.before engine count) := by
  rw [← LoopState.before_zero]
  exact Loop.after_of_states fun call below =>
    mainLoopTurn_of_open initialised (isOpen call below)

/-- The loop returns in the call in which the window first wants to close. -/
theorem mainLoopReturns_of_close
    {environment : Environment K}
    {engine : Engine K}
    (initialised : engine.Initialised)
    {count : Nat}
    (closes : environment.shouldClose count = true)
    (isOpen : ∀ call < count, environment.shouldClose call = false) :
    MainLoopReturns environment engine tkExitSuccess
      (LoopState.before engine count) :=
  Loop.Returns.of_after (after_of_open initialised isOpen)
    (mainLoopTurn_of_close closes)

/-! ## Termination -/

/-- A state of the loop is the one its number of turns determines. -/
theorem eq_before_of_after
    {environment : Environment K}
    {engine : Engine K}
    (initialised : engine.Initialised)
    {call : Nat}
    {state : LoopState K}
    (reached :
      Loop.after (mainLoopTurn environment) call
        (LoopState.start engine) = some state) :
    state = LoopState.before engine call ∧
      ∀ earlier < call, environment.shouldClose earlier = false := by
  induction call generalizing state with
  | zero =>
      rw [Loop.after_zero, Option.some.injEq] at reached
      exact ⟨reached ▸ (LoopState.before_zero engine).symm, by simp⟩
  | succ call inductionHypothesis =>
      rcases Loop.after_add_eq_some.mp reached with ⟨middle, before, last⟩
      rcases inductionHypothesis before with ⟨middleShape, earlierOpen⟩
      subst middleShape
      have lastOpen : environment.shouldClose call = false := by
        by_contra closes
        rcases Loop.after_succ_eq_some.mp last with ⟨next, taken, -⟩
        rw [mainLoopTurn_of_close
          (by simpa [LoopState.before] using closes)] at taken
        exact Sum.inr_ne_inl taken
      have allOpen :
          ∀ earlier < call + 1, environment.shouldClose earlier = false := by
        intro earlier below
        rcases Nat.lt_succ_iff_lt_or_eq.mp below with isEarlier | isLast
        · exact earlierOpen earlier isEarlier
        · exact isLast ▸ lastOpen
      exact ⟨Option.some.inj
        (reached.symm.trans (after_of_open initialised allOpen)), allOpen⟩

/-- The loop returns exactly if the window wants to close in some call. -/
theorem mainLoopReturns_iff_closes
    {environment : Environment K}
    {engine : Engine K}
    (initialised : engine.Initialised) :
    (∃ status final, MainLoopReturns environment engine status final) ↔
      ∃ call, environment.shouldClose call = true := by
  classical
  constructor
  · rintro ⟨status, final, returned⟩
    rcases returned.exists_after with ⟨call, last, reached, finished⟩
    refine ⟨call, ?_⟩
    by_contra isOpen
    rw [(eq_before_of_after initialised reached).1,
      mainLoopTurn_of_open initialised (by simpa using isOpen)] at finished
    exact Sum.inl_ne_inr finished
  · intro closes
    have isOpen :
        ∀ call < Nat.find closes, environment.shouldClose call = false := by
      intro call below
      simpa using Nat.find_min closes below
    exact ⟨tkExitSuccess, LoopState.before engine (Nat.find closes),
      mainLoopReturns_of_close initialised (Nat.find_spec closes) isOpen⟩

/-- The loop has one return statement. -/
theorem mainLoopReturns_status
    {environment : Environment K}
    {engine : Engine K}
    {status : Int}
    {final : LoopState K}
    (returned : MainLoopReturns environment engine status final) :
    status = tkExitSuccess := by
  rcases returned.exists_after with ⟨call, last, -, finished⟩
  unfold mainLoopTurn at finished
  dsimp only at finished
  split at finished
  · exact (Prod.mk.inj (Sum.inr.inj finished)).1.symm
  · exact (Sum.inl_ne_inr finished).elim

/--
`Run` returns exactly if the window wants to close in some call, and then with
`TK_SUCCESS`.
-/
theorem runReturns_iff_closes
    (environment : Environment K)
    (beginPlay : Registry K → Registry K)
    (status : Int) :
    (∃ final, RunReturns environment beginPlay status final) ↔
      status = tkSuccess ∧
        ∃ call, environment.shouldClose call = true := by
  have loopReturns :
      (∃ status final,
          MainLoopReturns environment (Engine.create.init beginPlay)
            status final) ↔
        ∃ call, environment.shouldClose call = true :=
    mainLoopReturns_iff_closes (Engine.initialised_init [] beginPlay)
  constructor
  · rintro ⟨final, mainLoop, returned, rfl⟩
    refine ⟨?_, loopReturns.mp ⟨mainLoop, final, returned⟩⟩
    rw [mainLoopReturns_status returned]
    rfl
  · rintro ⟨rfl, closes⟩
    rcases loopReturns.mpr closes with ⟨mainLoop, final, returned⟩
    refine ⟨final, mainLoop, returned, ?_⟩
    rw [mainLoopReturns_status returned]
    rfl

/--
The motion a run is meant to compute: so many velocity steps for every entity
with both components, and nothing else.
-/
structure Registry.MovedBy
    (count : Nat)
    (first last : Registry K) : Prop where
  alive : last.alive = first.alive
  rects : last.rects = first.rects
  physics : last.physics = first.physics
  moved :
    ∀ entity physics transform,
      first.physics entity = some physics →
      first.transforms entity = some transform →
      last.transforms entity =
        some
          { transform with
            position := transform.position + count • physics.velocity }
  still :
    ∀ entity,
      first.physics entity = none ∨ first.transforms entity = none →
      last.transforms entity = first.transforms entity

/-- Drifting moves what has a velocity and a place, and nothing else. -/
theorem Registry.movedBy_drift
    (count : Nat)
    (registry : Registry K) :
    registry.MovedBy count (registry.drift count) where
  alive := rfl
  rects := rfl
  physics := rfl
  moved := by
    intro entity physics transform moves placed
    rw [Registry.drift_transforms_of_physics moves, placed]
    rfl
  still := by
    intro entity missing
    rcases missing with still | placeless
    · exact Registry.drift_transforms_of_still still count
    · simp [Registry.drift, placeless]

/--
Whole-run law of the main loop: when the window first wants to close in call
`count`, the loop makes exactly `count` rounds and returns `TK_EXIT_SUCCESS`,
every entity with both components has moved by `count` velocities and nothing
else has changed.  The view orders leave no trace: a run that differs in them
only ends with the same registry.
-/
theorem mainLoop_moves_by_rounds
    (environment : Environment K)
    (registry : Registry K)
    (count : Nat)
    (closes : environment.shouldClose count = true)
    (isOpen : ∀ call < count, environment.shouldClose call = false) :
    ∃ final,
      MainLoopReturns environment
          (Engine.create.init fun _ => registry) tkExitSuccess final ∧
        final.trace = rounds count ∧
        registry.MovedBy count final.engine.registry ∧
        ∀ other : Environment K,
          other.shouldClose = environment.shouldClose →
          ∀ status otherFinal,
            MainLoopReturns other
                (Engine.create.init fun _ => registry) status otherFinal →
              otherFinal.engine.registry = final.engine.registry := by
  let engine : Engine K := Engine.create.init fun _ => registry
  have initialised : engine.Initialised :=
    Engine.initialised_init [] fun _ => registry
  refine ⟨LoopState.before engine count,
    mainLoopReturns_of_close initialised closes isOpen, rfl,
    registry.movedBy_drift count, ?_⟩
  intro other sameAnswers status otherFinal otherReturns
  have expected :
      MainLoopReturns other engine tkExitSuccess
        (LoopState.before engine count) :=
    mainLoopReturns_of_close initialised
      (sameAnswers ▸ closes) (sameAnswers ▸ isOpen)
  have same := otherReturns.unique expected
  exact congrArg (fun result => result.2.engine.registry) same

/--
Entities with all three components (7), without a rectangle (2), that cannot
move (5), and without a place (9).
-/
def mixedRegistry : Registry Int where
  alive := {2, 5, 7, 9}
  transforms := fun entity =>
    if entity = 7 then some ⟨⟨1, 2⟩, 0, 1⟩
    else if entity = 2 then some ⟨⟨0, 10⟩, 3, 2⟩
    else if entity = 5 then some ⟨⟨-4, 6⟩, 0, 1⟩
    else none
  rects := fun entity =>
    if entity = 7 ∨ entity = 5 then some ⟨.rect, ⟨1, 1⟩⟩ else none
  physics := fun entity =>
    if entity = 7 then some ⟨⟨3, 4⟩, 0⟩
    else if entity = 2 then some ⟨⟨-1, 0⟩, 5⟩
    else if entity = 9 then some ⟨⟨8, 8⟩, 0⟩
    else none
  slotsDistinct := by
    intro first firstAlive second secondAlive
    simp only [Finset.coe_insert, Finset.coe_singleton,
      Set.mem_insert_iff, Set.mem_singleton_iff] at firstAlive secondAlive
    rcases firstAlive with rfl | rfl | rfl | rfl <;>
      rcases secondAlive with rfl | rfl | rfl | rfl <;>
        decide
  transformsAlive := by
    intro entity held
    by_contra absent
    simp_all
  rectsAlive := by
    intro entity held
    by_contra absent
    simp_all
  physicsAlive := by
    intro entity held
    by_contra absent
    simp_all

/-- A window that wants to close in the third call. -/
noncomputable def closingWindow : Environment Int where
  shouldClose := fun call => call == 2
  handleInput := fun _ _ => true
  viewOrder := fun _ _ _ => default

/-- Two rounds move two of the entities and leave the others in place. -/
theorem mainLoop_moves_mixed :
    ∃ final,
      MainLoopReturns closingWindow
          (Engine.create.init fun _ => mixedRegistry)
          tkExitSuccess final ∧
        final.trace = rounds 2 ∧
        final.engine.registry.transforms 7 =
          some ⟨⟨7, 10⟩, 0, 1⟩ ∧
        final.engine.registry.transforms 2 =
          some ⟨⟨-2, 10⟩, 3, 2⟩ ∧
        final.engine.registry.transforms 5 =
          some ⟨⟨-4, 6⟩, 0, 1⟩ ∧
        final.engine.registry.transforms 9 = none ∧
        final.engine.registry.physics 9 = some ⟨⟨8, 8⟩, 0⟩ := by
  obtain ⟨final, returned, trace, moved, -⟩ :=
    mainLoop_moves_by_rounds closingWindow mixedRegistry 2
      rfl (by decide)
  refine ⟨final, returned, trace, ?_, ?_, ?_, ?_, ?_⟩
  · exact moved.moved 7 ⟨⟨3, 4⟩, 0⟩ ⟨⟨1, 2⟩, 0, 1⟩ rfl rfl
  · exact moved.moved 2 ⟨⟨-1, 0⟩, 5⟩ ⟨⟨0, 10⟩, 3, 2⟩ rfl rfl
  · exact moved.still 5 (Or.inl rfl)
  · exact moved.still 9 (Or.inr rfl)
  · rw [moved.physics]
    rfl

end Teck
