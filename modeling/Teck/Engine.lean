import Teck.Physics
import Teck.Library.Loop

namespace Teck

/-!
# The engine and its main loop

`tkEngine::Init` registers one physics system and starts the engine;
`MainLoop` asks `ShouldExit` before every round and otherwise polls events,
updates and renders.  Everything the loop is told from outside is collected in
`Environment`: the window's answers, the input systems' results and the orders
in which views enumerate.
-/

variable {K : Type}

/-- A `tsInput` object; it has no state of its own. -/
structure TsInput where
  deriving DecidableEq, Repr

/-- A `tkScene` object; it has no state of its own. -/
structure TkScene where
  deriving DecidableEq, Repr

/-- The update systems that `Init` can register. -/
inductive TkUpdateSystem where
  | tsPhysics2d
  deriving DecidableEq, Repr

/-- What the calls of one run are answered from outside the engine. -/
structure Environment (K : Type) where
  /-- `Window.ShouldClose()` in the given call of `ShouldExit`. -/
  shouldClose : Nat → Bool
  /-- `HandleInput()` of the system at a position, in the given call. -/
  handleInput : Nat → Nat → Bool
  /-- The enumeration an update system's view produces in the given round. -/
  viewOrder :
    Nat → Nat → ∀ registry : Registry K,
      Enumeration registry.physicsView

/-- The fields of `tkEngine`, with the registry its systems share. -/
structure Engine (K : Type) where
  /-- The one-bit field `u32 bRunning : 1`. -/
  bRunning : BitVec 1
  loadedScenes : List TkScene
  inputSystems : List TsInput
  updateSystems : List TkUpdateSystem
  registry : Registry K

namespace Engine

/-- The engine that the constructor makes: nothing runs yet. -/
def create : Engine K where
  bRunning := 0#1
  loadedScenes := []
  inputSystems := []
  updateSystems := []
  registry := Registry.empty

/--
`tkEngine::Init`.  The scene's `BeginPlay` only changes the registry, and the
renderer's `Init` changes nothing that the engine reads.
-/
def init
    (beginPlay : Registry K → Registry K)
    (engine : Engine K) : Engine K :=
  { engine with
    bRunning := 1#1
    updateSystems := engine.updateSystems ++ [.tsPhysics2d]
    registry := beginPlay engine.registry
    loadedScenes := engine.loadedScenes ++ [{}] }

/-- The loop of `ShouldExit` over the input systems, from a given position. -/
def pollInputs
    (environment : Environment K)
    (call : Nat) :
    Nat → List TsInput → BitVec 1 → BitVec 1
  | _, [], bRunning => bRunning
  | position, _ :: rest, bRunning =>
      pollInputs environment call (position + 1) rest
        (bRunning ||| BitVec.ofBool (environment.handleInput call position))

/-- `tkEngine::ShouldExit`, with the engine it leaves behind. -/
def shouldExit
    (environment : Environment K)
    (call : Nat)
    (engine : Engine K) : Bool × Engine K :=
  if environment.shouldClose call then
    (true, engine)
  else
    let bRunning :=
      pollInputs environment call 0 engine.inputSystems engine.bRunning
    (bRunning == 0#1, { engine with bRunning := bRunning })

/-- Each registered system updates, with the view order of its position. -/
def updateFrom [Add K]
    (environment : Environment K)
    (round : Nat) :
    Nat → List TkUpdateSystem → Registry K → Registry K
  | _, [], registry => registry
  | position, .tsPhysics2d :: rest, registry =>
      updateFrom environment round (position + 1) rest
        (TsPhysics2d.update registry
          (environment.viewOrder round position registry))

/-- `tkEngine::Update`: every update system once, in order. -/
def update [Add K]
    (environment : Environment K)
    (round : Nat)
    (engine : Engine K) : Engine K :=
  { engine with
    registry :=
      updateFrom environment round 0
        engine.updateSystems engine.registry }

end Engine

/-- The parts of a round of the main loop. -/
inductive EngineEvent where
  | pollEvents
  | update
  | render
  deriving DecidableEq, Repr

/-- The engine in its loop, the number of calls made and what was done. -/
structure LoopState (K : Type) where
  engine : Engine K
  calls : Nat
  trace : List EngineEvent

namespace LoopState

/-- The main loop before its first call of `ShouldExit`. -/
def start (engine : Engine K) : LoopState K where
  engine := engine
  calls := 0
  trace := []

/-- `tkEngine::PollEvents`; the window keeps what it polls. -/
def pollEvents (state : LoopState K) : LoopState K :=
  { state with trace := state.trace ++ [.pollEvents] }

/-- The update of one round, with the round's view orders. -/
def update [Add K]
    (environment : Environment K)
    (state : LoopState K) : LoopState K :=
  { state with
    engine := state.engine.update environment state.calls
    trace := state.trace ++ [.update] }

/-- `tkRenderer::Render`; it leaves engine and registry alone. -/
def render (state : LoopState K) : LoopState K :=
  { state with trace := state.trace ++ [.render] }

end LoopState

/-- One evaluation of `while(!ShouldExit())` with the body, if it is entered. -/
def mainLoopTurn [Add K]
    (environment : Environment K)
    (state : LoopState K) :
    LoopState K ⊕ (Int × LoopState K) :=
  let answer := state.engine.shouldExit environment state.calls
  let asked := { state with engine := answer.2 }
  if answer.1 then
    .inr (tkExitSuccess, asked)
  else
    let rendered := ((asked.pollEvents).update environment).render
    .inl { rendered with calls := state.calls + 1 }

/-- `tkEngine::MainLoop` returns the given status in the given state. -/
def MainLoopReturns [Add K]
    (environment : Environment K)
    (engine : Engine K)
    (status : Int)
    (final : LoopState K) : Prop :=
  Loop.Returns (mainLoopTurn environment)
    (LoopState.start engine) (status, final)

/--
`tkEngine::Run` returns the given status in the given state.  `Create` and
`Init` have returned `TK_SUCCESS` by then.
-/
def RunReturns [Add K]
    (environment : Environment K)
    (beginPlay : Registry K → Registry K)
    (status : Int)
    (final : LoopState K) : Prop :=
  ∃ mainLoop,
    MainLoopReturns environment (Engine.create.init beginPlay)
        mainLoop final ∧
      status =
        tkAttempt tkSuccess
          (tkAttempt tkSuccess (tkAttempt mainLoop tkSuccess))

/-- What so many whole rounds do. -/
def rounds (count : Nat) : List EngineEvent :=
  (List.replicate count [.pollEvents, .update, .render]).flatten

/-- No rounds do nothing. -/
@[simp] theorem rounds_zero : rounds 0 = [] := rfl

/-- A round comes after the rounds before it. -/
theorem rounds_succ (count : Nat) :
    rounds (count + 1) =
      rounds count ++ [.pollEvents, .update, .render] := by
  simp [rounds, List.replicate_succ']

namespace Engine

/-- A result of the input systems can only set the running bit. -/
theorem pollInputs_of_running
    (environment : Environment K)
    (call position : Nat)
    (systems : List TsInput) :
    pollInputs environment call position systems 1#1 = 1#1 := by
  induction systems generalizing position with
  | nil =>
      rfl
  | cons system rest inductionHypothesis =>
      have stillSet :
          1#1 ||| BitVec.ofBool (environment.handleInput call position) =
            1#1 := by
        cases environment.handleInput call position <;> rfl
      rw [pollInputs, stillSet]
      exact inductionHypothesis (position + 1)

/-- A window that wants to close ends the loop. -/
theorem shouldExit_of_close
    {environment : Environment K}
    {call : Nat}
    (closes : environment.shouldClose call = true)
    (engine : Engine K) :
    engine.shouldExit environment call = (true, engine) := by
  simp [shouldExit, closes]

/-- While the window is open, the running bit keeps the loop going. -/
theorem shouldExit_of_running
    {environment : Environment K}
    {call : Nat}
    (isOpen : environment.shouldClose call = false)
    {engine : Engine K}
    (running : engine.bRunning = 1#1) :
    engine.shouldExit environment call = (false, engine) := by
  cases engine with
  | mk bRunning loadedScenes inputSystems updateSystems registry =>
      subst running
      simp [shouldExit, isOpen, pollInputs_of_running]

/-- With the one registered system, an update is one round of drift. -/
theorem update_eq_drift [AddMonoid K]
    (environment : Environment K)
    (round : Nat)
    {engine : Engine K}
    (registered : engine.updateSystems = [.tsPhysics2d]) :
    engine.update environment round =
      { engine with registry := engine.registry.drift 1 } := by
  simp [update, registered, updateFrom, TsPhysics2d.update_eq_drift]

end Engine

end Teck
