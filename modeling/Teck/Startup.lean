import Teck.Engine
import Teck.Library.Runs

namespace Teck

/-!
# Start-up: the engine thread and the callbacks of `GetDevice`

Three parties take steps.  The engine thread works off the calls of
`tkEngine::Init` and of the rounds of `MainLoop`, in the order of the source.
The adapter callback and the device callback are invoked once each, at any
point after their requests, and run to their end before the thread goes on.
Labels say which party moves and what it is answered, so a list of labels is
one order of delivery with one choice of statuses.
-/

/-- What a non-null `WGPUAdapter` or `WGPUDevice` refers to. -/
abbrev Handle := Nat

/-- What the adapter callback can be told. -/
inductive RequestAdapterStatus where
  | success
  | instanceDropped
  | unavailable
  | error
  | unknown
  deriving DecidableEq, Repr

/-- What the device callback can be told. -/
inductive RequestDeviceStatus where
  | success
  | instanceDropped
  | error
  | unknown
  deriving DecidableEq, Repr

/-- What a callback is invoked with; only a success brings a handle. -/
structure Answer
    {Status : Type}
    (success : Status) where
  status : Status
  handle : Option Handle
  agree : handle.isSome ↔ status = success
  deriving DecidableEq, Repr

/-- A failure brings no handle. -/
theorem Answer.handle_eq_none
    {Status : Type}
    {success : Status}
    {answer : Answer success}
    (failure : answer.status ≠ success) :
    answer.handle = none := by
  rw [← Option.not_isSome_iff_eq_none, answer.agree]
  exact failure

/-- A success brings a handle. -/
theorem Answer.handle_ne_none
    {Status : Type}
    {success : Status}
    {answer : Answer success}
    (succeeded : answer.status = success) :
    answer.handle ≠ none := by
  rw [← Option.isSome_iff_ne_none, answer.agree]
  exact succeeded

/-- What the adapter callback is invoked with. -/
abbrev AdapterAnswer := Answer RequestAdapterStatus.success

/-- What the device callback is invoked with. -/
abbrev DeviceAnswer := Answer RequestDeviceStatus.success

/-- The methods that the callbacks call on the adapter. -/
inductive AdapterMethod where
  | requestDevice
  deriving DecidableEq, Repr

/-- The methods of `wDevice` that the renderer calls. -/
inductive DeviceMethod where
  | setUncapturedErrorCallback
  | createSwapChain
  | createBuffer
  | getQueue
  | createBindGroupLayout
  | createBindGroup
  | createTexture
  | createSampler
  | createShaderModule
  | createPipelineLayout
  | createRenderPipeline
  | createCommandEncoder
  deriving DecidableEq, Repr

/-- The functions of the renderer that need a device. -/
inductive GraphicsFunction where
  | setupSwapChain
  | setupLineVertexBuffer
  | setupLineIndexBuffer
  | setupMVPUniformsBuffer
  | setupLineBindGroup
  | setupDepthStencil
  | setupSampler
  | setupLinePipeline
  | setupBuffers
  | render
  deriving DecidableEq, Repr

/-- The calls that use neither request nor device. -/
inductive HostCall where
  | beginPlay
  | createInstance
  | generateLines
  | createSurfaceForWindow
  | readTextFile
  | registerRenderSystem
  | pollEvents
  | update
  | present
  | processEvents
  deriving DecidableEq, Repr

/-- A call of the engine thread. -/
inductive EngineAction where
  | host (call : HostCall)
  | requestAdapter
  | enter (function : GraphicsFunction)
  | device (method : DeviceMethod)
  deriving DecidableEq, Repr

/-- What the parties do, as far as handles are concerned. -/
inductive Event where
  | adapterAnswered (answer : AdapterAnswer)
  | logError (message : String)
  | adapterMethod (method : AdapterMethod) (adapter : Option Handle)
  | deviceAnswered (answer : DeviceAnswer)
  | callbackMethod (method : DeviceMethod) (device : Option Handle)
  | deviceStored (device : Option Handle)
  | entered (function : GraphicsFunction)
  | deviceMethod (method : DeviceMethod) (device : Option Handle)
  deriving DecidableEq, Repr

namespace Startup

/-! ## The calls of the engine thread -/

/-- A function that calls the given methods of `wDevice`. -/
def graphics
    (function : GraphicsFunction)
    (methods : List DeviceMethod) : List EngineAction :=
  .enter function :: methods.map .device

/-- `tkRenderer::SetupSwapChain`. -/
def setupSwapChain : List EngineAction :=
  graphics .setupSwapChain [.createSwapChain]

/--
`tkRenderer::SetupLineVertexBuffer`, which gets the queue for each write.
-/
def setupLineVertexBuffer : List EngineAction :=
  graphics .setupLineVertexBuffer
    (.createBuffer :: List.replicate 4 .getQueue)

/-- `tkRenderer::SetupLineIndexBuffer`. -/
def setupLineIndexBuffer : List EngineAction :=
  graphics .setupLineIndexBuffer [.createBuffer, .getQueue]

/-- `tkRenderer::SetupMVPUniformsBuffer`. -/
def setupMVPUniformsBuffer : List EngineAction :=
  graphics .setupMVPUniformsBuffer [.createBuffer]

/-- `tkRenderer::SetupLineBindGroup`. -/
def setupLineBindGroup : List EngineAction :=
  graphics .setupLineBindGroup [.createBindGroupLayout, .createBindGroup]

/-- `tkRenderer::SetupDepthStencil`. -/
def setupDepthStencil : List EngineAction :=
  graphics .setupDepthStencil [.createTexture]

/-- `tkRenderer::SetupSampler`. -/
def setupSampler : List EngineAction :=
  graphics .setupSampler [.createSampler]

/-- `tkRenderer::SetupLinePipeline`, which reads its shader first. -/
def setupLinePipeline : List EngineAction :=
  [.enter .setupLinePipeline, .host .readTextFile,
    .device .createShaderModule, .device .createPipelineLayout,
    .device .createRenderPipeline]

/-- `tkRenderer::SetupPipelines`. -/
def setupPipelines : List EngineAction := setupLinePipeline

/-- `tsRender2d::SetupBuffers`, of the system that `InitGraphics` makes. -/
def setupBuffers : List EngineAction :=
  graphics .setupBuffers [.createBuffer]

/-- `tkRenderer::InitGraphics`. -/
def initGraphics : List EngineAction :=
  setupSwapChain ++ setupLineVertexBuffer ++ setupLineIndexBuffer ++
    setupMVPUniformsBuffer ++ setupLineBindGroup ++ setupDepthStencil ++
    setupSampler ++ setupPipelines ++ setupBuffers ++
    [.host .registerRenderSystem]

/-- `tkRenderer::Init`; `GetDevice` is its one asynchronous request. -/
def rendererInit : List EngineAction :=
  [.host .createInstance, .host .generateLines, .requestAdapter,
    .host .createSurfaceForWindow] ++ initGraphics

/-- `tkEngine::Init`. -/
def engineInit : List EngineAction :=
  .host .beginPlay :: rendererInit

/-- `tkRenderer::Render`. -/
def render : List EngineAction :=
  graphics .render [.createCommandEncoder, .getQueue, .getQueue] ++
    [.host .present, .host .processEvents]

/-- The body of the loop of `tkEngine::MainLoop`. -/
def mainLoopBody : List EngineAction :=
  [.host .pollEvents, .host .update] ++ render

/-! ## The step relation -/

/-- Whether a request was made and its callback invoked. -/
inductive RequestState where
  | notIssued
  | pending
  | answered
  deriving DecidableEq, Repr

/-- `main` can return, or a callback can call `exit`. -/
inductive ProcessState where
  | running
  | returned
  | exited (code : Int)
  deriving DecidableEq, Repr

/-- What is left to do, the requests, `wDevice` and what has happened. -/
structure State where
  todo : List EngineAction
  process : ProcessState
  adapterRequest : RequestState
  deviceRequest : RequestState
  wDevice : Option Handle
  trace : List Event
  deriving DecidableEq, Repr

/-- Nothing has been done and no request made. -/
def start : State where
  todo := engineInit
  process := .running
  adapterRequest := .notIssued
  deviceRequest := .notIssued
  wDevice := none
  trace := []

namespace State

/-- Append events to the trace. -/
def record
    (events : List Event)
    (state : State) : State :=
  { state with trace := state.trace ++ events }

/-- One call of the engine thread; a device method is called on `wDevice`. -/
def perform
    (state : State) : EngineAction → State
  | .host _ => state
  | .requestAdapter => { state with adapterRequest := .pending }
  | .enter function => state.record [.entered function]
  | .device method => state.record [.deviceMethod method state.wDevice]

/--
The callback given to `RequestAdapter`.  `tkLogError` ends in an assertion,
which builds with `NDEBUG` leave out; this is such a build, so that the process
exits.  With the assertion it aborts instead, and no call follows either.
-/
def adapterCallback
    (answer : AdapterAnswer)
    (state : State) : State :=
  let answered :=
    { state.record [.adapterAnswered answer] with
      adapterRequest := .answered }
  if answer.status ≠ .success then
    { answered.record [.logError "Failed to acquire adapter"] with
      process := .exited 0 }
  else
    { answered.record [.adapterMethod .requestDevice answer.handle] with
      deviceRequest := .pending }

/--
The callback given to `RequestDevice`.  It does not look at the status.  What a
method does on a null handle is undefined; the run records the call and goes
on.
-/
def deviceCallback
    (answer : DeviceAnswer)
    (state : State) : State :=
  { state.record
      [.deviceAnswered answer,
        .callbackMethod .setUncapturedErrorCallback answer.handle,
        .deviceStored answer.handle] with
    deviceRequest := .answered
    wDevice := answer.handle }

end State

/-- The party that moves, and what it is answered. -/
inductive Label where
  | engine
  | shouldExit (shouldClose : Bool)
  | adapterCallback (answer : AdapterAnswer)
  | deviceCallback (answer : DeviceAnswer)
  deriving DecidableEq, Repr

/--
The engine thread makes its next call, or asks `ShouldExit` when a round is
done.  A pending callback can be invoked until the process exits, also after
`main` has returned.
-/
def step?
    (state : State) : Label → Option State
  | .engine =>
      match state.process, state.todo with
      | .running, action :: rest =>
          some ({ state with todo := rest }.perform action)
      | _, _ => none
  | .shouldExit shouldClose =>
      match state.process, state.todo with
      | .running, [] =>
          if shouldClose then
            some { state with process := .returned }
          else
            some { state with todo := mainLoopBody }
      | _, _ => none
  | .adapterCallback answer =>
      match state.process, state.adapterRequest with
      | .exited _, _ => none
      | _, .pending => some (state.adapterCallback answer)
      | _, _ => none
  | .deviceCallback answer =>
      match state.process, state.deviceRequest with
      | .exited _, _ => none
      | _, .pending => some (state.deviceCallback answer)
      | _, _ => none

/--
Once `Init` has set the running bit, `ShouldExit` only passes on the window's
answer, which is what its label carries.
-/
theorem shouldExit_eq_shouldClose
    {K : Type}
    {engine : Engine K}
    (running : engine.bRunning = 1#1)
    (environment : Environment K)
    (call : Nat) :
    engine.shouldExit environment call =
      (environment.shouldClose call, engine) := by
  cases answer : environment.shouldClose call with
  | false =>
      exact Engine.shouldExit_of_running answer running
  | true =>
      exact Engine.shouldExit_of_close answer engine

/-! ## What a step can be -/

namespace State

/-- A failed adapter request ends the process. -/
theorem adapterCallback_of_failure
    {answer : AdapterAnswer}
    (failure : answer.status ≠ .success)
    (state : State) :
    state.adapterCallback answer =
      { state with
        process := .exited 0
        adapterRequest := .answered
        trace :=
          state.trace ++
            [.adapterAnswered answer,
              .logError "Failed to acquire adapter"] } := by
  simp [adapterCallback, record, failure]

/-- A successful adapter request asks for the device. -/
theorem adapterCallback_of_success
    {answer : AdapterAnswer}
    (succeeded : answer.status = .success)
    (state : State) :
    state.adapterCallback answer =
      { state with
        adapterRequest := .answered
        deviceRequest := .pending
        trace :=
          state.trace ++
            [.adapterAnswered answer,
              .adapterMethod .requestDevice answer.handle] } := by
  simp [adapterCallback, record, succeeded]

end State

/-- The engine thread makes the first of the calls that it has to make. -/
theorem step?_engine
    {state next : State}
    (stepped : step? state .engine = some next) :
    ∃ action rest,
      state.process = .running ∧
        state.todo = action :: rest ∧
        next = { state with todo := rest }.perform action := by
  simp only [step?] at stepped
  split at stepped
  · rename_i action rest running shape
    exact ⟨action, rest, running, shape, (Option.some.inj stepped).symm⟩
  · cases stepped

/-- Asking `ShouldExit` leaves trace, requests and device alone. -/
theorem step?_shouldExit
    {state next : State}
    {shouldClose : Bool}
    (stepped : step? state (.shouldExit shouldClose) = some next) :
    state.process = .running ∧
      ∃ todo process,
        .requestAdapter ∉ todo ∧
          next = { state with todo := todo, process := process } := by
  simp only [step?] at stepped
  split at stepped
  · rename_i running shape
    refine ⟨running, ?_⟩
    split at stepped
    · exact ⟨state.todo, .returned, by simp [shape],
        (Option.some.inj stepped).symm⟩
    · exact ⟨mainLoopBody, state.process, by decide,
        (Option.some.inj stepped).symm⟩
  · cases stepped

/-- The adapter callback is invoked once, for a request that is pending. -/
theorem step?_adapterCallback
    {state next : State}
    {answer : AdapterAnswer}
    (stepped : step? state (.adapterCallback answer) = some next) :
    (∀ code, state.process ≠ .exited code) ∧
      state.adapterRequest = .pending ∧
      next = state.adapterCallback answer := by
  simp only [step?] at stepped
  split at stepped
  · cases stepped
  · rename_i pending alive
    exact ⟨alive, pending, (Option.some.inj stepped).symm⟩
  · cases stepped

/-- The device callback is invoked once, for a request that is pending. -/
theorem step?_deviceCallback
    {state next : State}
    {answer : DeviceAnswer}
    (stepped : step? state (.deviceCallback answer) = some next) :
    (∀ code, state.process ≠ .exited code) ∧
      state.deviceRequest = .pending ∧
      next = state.deviceCallback answer := by
  simp only [step?] at stepped
  split at stepped
  · cases stepped
  · rename_i pending alive
    exact ⟨alive, pending, (Option.some.inj stepped).symm⟩
  · cases stepped

end Startup

end Teck
