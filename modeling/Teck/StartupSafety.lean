import Teck.Library.TraceSafety
import Teck.StartupInvariant

namespace Teck.Startup

/-!
# No graphics call without a device

A trace of start-up is safe when no method is called on a null handle, when
`wDevice` is used only after a device acquired with a success has been stored
in it, and when nothing of the graphics runs after a failed request.  A run is
safe exactly if the device request is answered before each use of `wDevice`
and every device callback brings a success.
-/

/-- The device was acquired with a success and stored. -/
def AcquiredAndStored
    (earlier : List Event)
    (device : Option Handle) : Prop :=
  ∃ answer : DeviceAnswer,
    answer.status = .success ∧
      device = answer.handle ∧
      device ≠ none ∧
      .deviceAnswered answer ∈ earlier ∧
      .deviceStored device ∈ earlier

/-- What an event requires of the events before it. -/
def Admissible
    (earlier : List Event) : Event → Prop
  | .adapterMethod _ adapter => adapter ≠ none
  | .callbackMethod _ device => device ≠ none
  | .entered _ => ∀ event ∈ earlier, ¬ Failed event
  | .deviceMethod _ device =>
      (∀ event ∈ earlier, ¬ Failed event) ∧
        AcquiredAndStored earlier device
  | _ => True

/-- Every event of the trace was admissible when it happened. -/
def NoCallWithoutDevice (state : State) : Prop :=
  TraceSafety.Safe Admissible state.trace

/-- The next call of the engine thread is one of `wDevice`. -/
def usesDevice (state : State) : Bool :=
  match state.todo with
  | .device _ :: _ => true
  | _ => false

/--
The engine thread uses `wDevice` only after the device request has been
answered, and the answer is a success.
-/
def DeviceInTime (state : State) : Label → Prop
  | .engine => usesDevice state = true → state.deviceRequest = .answered
  | .deviceCallback answer => answer.status = .success
  | _ => True

instance : ∀ state label, Decidable (DeviceInTime state label)
  | _, .engine => inferInstanceAs (Decidable (_ = _ → _ = _))
  | _, .shouldExit _ => inferInstanceAs (Decidable True)
  | _, .adapterCallback _ => inferInstanceAs (Decidable True)
  | _, .deviceCallback _ => inferInstanceAs (Decidable (_ = _))

/-! ## What a safe trace says about the state -/

/-- A device method on a null handle is not safe. -/
theorem not_safe_of_null_device
    {state : State}
    {method : DeviceMethod}
    (called : .deviceMethod method none ∈ state.trace) :
    ¬ NoCallWithoutDevice state := by
  intro safe
  obtain ⟨earlier, -, answer, -, -, present, -, -⟩ :=
    safe.admissible_of_mem called
  exact present rfl

/-- A callback that calls a method of a null handle is not safe. -/
theorem not_safe_of_null_callback
    {state : State}
    {method : DeviceMethod}
    (called : .callbackMethod method none ∈ state.trace) :
    ¬ NoCallWithoutDevice state := by
  intro safe
  obtain ⟨earlier, present⟩ := safe.admissible_of_mem called
  exact present rfl

/-- While the thread runs safely, no request has failed. -/
theorem not_failed_of_safe
    {state : State}
    (recorded : Recorded state)
    (safe : NoCallWithoutDevice state)
    (running : state.process = .running) :
    ∀ event ∈ state.trace, ¬ Failed event := by
  intro event member failed
  have alive : ∀ code, state.process ≠ .exited code := by
    simp [running]
  have called := recorded.called_of_failed alive member failed
  exact not_safe_of_null_callback called safe

/-- With a safe trace, `wDevice` is usable exactly once it is answered. -/
theorem acquiredAndStored_iff
    {state : State}
    (recorded : Recorded state)
    (safe : NoCallWithoutDevice state) :
    AcquiredAndStored state.trace state.wDevice ↔
      state.deviceRequest = .answered := by
  constructor
  · rintro ⟨answer, -, -, present, -, -⟩
    by_contra unanswered
    apply present
    exact recorded.unset unanswered
  · intro answered
    obtain ⟨answer, device, wasAnswered, called, wasStored⟩ :=
      recorded.stored answered
    obtain ⟨earlier, present⟩ := safe.admissible_of_mem called
    have succeeded : answer.status = .success := by
      by_contra failure
      apply present
      exact Answer.handle_eq_none failure
    exact ⟨answer, succeeded, device, device ▸ present, wasAnswered,
      device ▸ wasStored⟩

/-! ## The exact condition -/

/-- A call of the engine thread keeps a trace safe exactly if it is in time. -/
theorem perform_safe_iff
    {state : State}
    {action : EngineAction}
    {rest : List EngineAction}
    (recorded : Recorded state)
    (running : state.process = .running)
    (shape : state.todo = action :: rest) :
    NoCallWithoutDevice ({ state with todo := rest }.perform action) ↔
      NoCallWithoutDevice state ∧ DeviceInTime state .engine := by
  simp only [DeviceInTime, usesDevice, shape]
  cases action with
  | host call =>
      simp only [Bool.false_eq_true, false_implies, and_true]
      rfl
  | requestAdapter =>
      simp only [Bool.false_eq_true, false_implies, and_true]
      rfl
  | enter function =>
      simp only [Bool.false_eq_true, false_implies, and_true]
      apply TraceSafety.safe_concat.trans
      apply and_iff_left_of_imp
      intro safe
      have noFailure : ∀ event ∈ state.trace, ¬ Failed event :=
        not_failed_of_safe recorded safe running
      exact noFailure
  | device method =>
      simp only [forall_const]
      apply TraceSafety.safe_concat.trans
      apply and_congr_right
      intro safe
      have noFailure : ∀ event ∈ state.trace, ¬ Failed event :=
        not_failed_of_safe recorded safe running
      have usable :
          AcquiredAndStored state.trace state.wDevice ↔
            state.deviceRequest = .answered :=
        acquiredAndStored_iff recorded safe
      exact (and_iff_right noFailure).trans usable

/-- The adapter callback checks its status and never makes a trace unsafe. -/
theorem adapterCallback_safe_iff
    (state : State)
    (answer : AdapterAnswer) :
    NoCallWithoutDevice (state.adapterCallback answer) ↔
      NoCallWithoutDevice state := by
  unfold NoCallWithoutDevice
  by_cases succeeded : answer.status = .success
  · rw [State.adapterCallback_of_success succeeded,
      TraceSafety.safe_append_cons, TraceSafety.safe_concat,
      TraceSafety.safe_concat]
    simp [Admissible, Answer.handle_ne_none succeeded]
  · rw [State.adapterCallback_of_failure succeeded,
      TraceSafety.safe_append_cons, TraceSafety.safe_concat,
      TraceSafety.safe_concat]
    simp [Admissible]

/-- The device callback keeps a trace safe exactly on a success. -/
theorem deviceCallback_safe_iff
    (state : State)
    (answer : DeviceAnswer) :
    NoCallWithoutDevice (state.deviceCallback answer) ↔
      NoCallWithoutDevice state ∧ answer.status = .success := by
  have present : answer.handle ≠ none ↔ answer.status = .success :=
    ⟨fun isPresent => by
      by_contra failure
      apply isPresent
      exact Answer.handle_eq_none failure,
    Answer.handle_ne_none⟩
  rw [← present]
  unfold NoCallWithoutDevice State.deviceCallback State.record
  rw [TraceSafety.safe_append_cons, TraceSafety.safe_append_cons,
    TraceSafety.safe_concat, TraceSafety.safe_concat,
    TraceSafety.safe_concat]
  simp [Admissible]

/-- Of the answers, only the failed device request can break safety. -/
theorem step_safe_iff
    {state next : State}
    {label : Label}
    (recorded : Recorded state)
    (stepped : step? state label = some next) :
    NoCallWithoutDevice next ↔
      NoCallWithoutDevice state ∧ DeviceInTime state label := by
  cases label with
  | engine =>
      obtain ⟨action, rest, running, shape, rfl⟩ := step?_engine stepped
      exact perform_safe_iff recorded running shape
  | shouldExit shouldClose =>
      obtain ⟨-, todo, process, -, rfl⟩ := step?_shouldExit stepped
      exact (and_true _).symm ▸ Iff.rfl
  | adapterCallback answer =>
      obtain ⟨-, -, rfl⟩ := step?_adapterCallback stepped
      exact (and_true _).symm ▸ adapterCallback_safe_iff state answer
  | deviceCallback answer =>
      obtain ⟨-, -, rfl⟩ := step?_deviceCallback stepped
      exact deviceCallback_safe_iff state answer

/-- From any consistent state, a run stays safe exactly if it is in time. -/
theorem safe_iff_inTime_of_consistent
    {initial final : State}
    {labels : List Label}
    (consistent : Consistent initial)
    (ran : Runs.run? step? initial labels = some final) :
    NoCallWithoutDevice final ↔
      NoCallWithoutDevice initial ∧
        Runs.Meets step? DeviceInTime initial labels := by
  have exactStep :
      ∀ {state label next},
        Consistent state →
        step? state label = some next →
        (NoCallWithoutDevice next ↔
          NoCallWithoutDevice state ∧ DeviceInTime state label) :=
    fun consistent stepped => step_safe_iff consistent.recorded stepped
  exact Runs.good_iff_meets Consistent.step exactStep consistent ran

/-- Nothing has happened yet. -/
theorem noCallWithoutDevice_start : NoCallWithoutDevice start :=
  TraceSafety.safe_nil

/--
Whatever the order of delivery and the statuses: a run of start-up and frames
is safe exactly if each of its uses of `wDevice` comes after the answer to the
device request, and that answer is a success.
-/
theorem noCallWithoutDevice_iff_inTime
    {labels : List Label}
    {final : State}
    (ran : Runs.run? step? start labels = some final) :
    NoCallWithoutDevice final ↔
      Runs.Meets step? DeviceInTime start labels := by
  rw [safe_iff_inTime_of_consistent consistent_start ran]
  exact and_iff_right noCallWithoutDevice_start

/-! ## The adapter's side -/

/-- An exit ends the run, also for the callbacks still pending. -/
theorem step?_of_exited
    {state : State}
    {code : Int}
    (exited : state.process = .exited code)
    (label : Label) :
    step? state label = none := by
  cases label <;> simp [step?, exited]

/-- No step calls a method of a null adapter. -/
theorem adapterMethod_present_step
    {state next : State}
    {label : Label}
    (present :
      ∀ method, .adapterMethod method none ∉ state.trace)
    (stepped : step? state label = some next)
    (method : AdapterMethod) :
    .adapterMethod method none ∉ next.trace := by
  cases label with
  | engine =>
      obtain ⟨action, rest, -, -, rfl⟩ := step?_engine stepped
      cases action <;>
        simp [State.perform, State.record, present]
  | shouldExit shouldClose =>
      obtain ⟨-, todo, process, -, rfl⟩ := step?_shouldExit stepped
      exact present method
  | adapterCallback answer =>
      obtain ⟨-, -, rfl⟩ := step?_adapterCallback stepped
      by_cases succeeded : answer.status = .success
      · simp [State.adapterCallback_of_success succeeded, present,
          (Answer.handle_ne_none succeeded).symm]
      · simp [State.adapterCallback_of_failure succeeded, present]
  | deviceCallback answer =>
      obtain ⟨-, -, rfl⟩ := step?_deviceCallback stepped
      simp [State.deviceCallback, State.record, present]

/--
The callback that checks its status never calls a method of a null adapter, in
no run.
-/
theorem adapterMethod_present
    {labels : List Label}
    {final : State}
    (ran : Runs.run? step? start labels = some final)
    (method : AdapterMethod) :
    .adapterMethod method none ∉ final.trace := by
  have kept :
      ∀ {state label next},
        (∀ method, .adapterMethod method none ∉ state.trace) →
        step? state label = some next →
        ∀ method, .adapterMethod method none ∉ next.trace :=
    fun present stepped => adapterMethod_present_step present stepped
  exact Runs.invariant_of_run kept (by simp [start]) ran method

/-! ## Running with a device -/

/-- The engine thread runs with a device that was acquired in time. -/
structure Served (state : State) : Prop where
  running : state.process = .running
  answered : state.deviceRequest = .answered
  consistent : Consistent state
  safe : NoCallWithoutDevice state

/-- A served engine thread can make its next call and stays served. -/
theorem Served.engine
    {state : State}
    {action : EngineAction}
    {rest : List EngineAction}
    (served : Served state)
    (shape : state.todo = action :: rest) :
    ∃ next,
      step? state .engine = some next ∧
        Served next ∧
        next.todo = rest := by
  have stepped :
      step? state .engine =
        some ({ state with todo := rest }.perform action) := by
    simp only [step?, served.running, shape]
  refine ⟨_, stepped, ?_, ?_⟩
  · exact {
      running := by cases action <;> exact served.running
      answered := by cases action <;> exact served.answered
      consistent := served.consistent.step stepped
      safe := (step_safe_iff served.consistent.recorded stepped).mpr
        ⟨served.safe, fun _ => served.answered⟩ }
  · cases action <;> rfl

/-- A served engine thread works off everything it has to do. -/
theorem Served.workOff
    {state : State}
    (served : Served state) :
    ∃ final,
      Runs.run? step? state
          (List.replicate state.todo.length .engine) = some final ∧
        Served final ∧
        final.todo = [] := by
  generalize shape : state.todo = todo
  induction todo generalizing state with
  | nil =>
      exact ⟨state, rfl, served, shape⟩
  | cons action rest inductionHypothesis =>
      rcases served.engine shape with ⟨next, stepped, nextServed, nextShape⟩
      rcases inductionHypothesis nextServed nextShape with
        ⟨final, ran, finalServed, nothingLeft⟩
      refine ⟨final, ?_, finalServed, nothingLeft⟩
      exact Runs.run?_cons_eq_some.mpr ⟨next, stepped, ran⟩

/-- The window stays open for one more round, which is worked off. -/
def round : List Label :=
  .shouldExit false :: List.replicate mainLoopBody.length .engine

/-- The window stays open for so many rounds and then wants to close. -/
def roundsThenClose : Nat → List Label
  | 0 => [.shouldExit true]
  | rounds + 1 => round ++ roundsThenClose rounds

/-- A served engine thread makes its rounds safely and returns. -/
theorem Served.returns
    {state : State}
    (served : Served state)
    (idle : state.todo = [])
    (rounds : Nat) :
    ∃ final,
      Runs.run? step? state (roundsThenClose rounds) = some final ∧
        final.process = .returned ∧
        NoCallWithoutDevice final := by
  induction rounds generalizing state with
  | zero =>
      refine ⟨{ state with process := .returned }, ?_, rfl, served.safe⟩
      simp [roundsThenClose, Runs.run?, step?, served.running, idle]
  | succ rounds inductionHypothesis =>
      let entered : State := { state with todo := mainLoopBody }
      have stepped : step? state (.shouldExit false) = some entered := by
        simp [step?, served.running, idle, entered]
      have enteredServed : Served entered := {
        running := served.running
        answered := served.answered
        consistent := served.consistent.step stepped
        safe := served.safe }
      rcases enteredServed.workOff with ⟨next, ran, nextServed, nextIdle⟩
      rcases inductionHypothesis nextServed nextIdle with
        ⟨final, later, returned, safe⟩
      refine ⟨final, ?_, returned, safe⟩
      have roundRan :
          Runs.run? step? state round = some next :=
        Runs.run?_cons_eq_some.mpr ⟨entered, stepped, ran⟩
      rw [roundsThenClose, Runs.run?_append_of_eq_some roundRan, later]

/-! ## Three schedules -/

/-- Both callbacks are invoked inside `GetDevice`, and both bring a handle. -/
def eagerStart : List Label :=
  List.replicate 4 .engine ++
    [.adapterCallback ⟨.success, some 1, by decide⟩,
      .deviceCallback ⟨.success, some 2, by decide⟩]

/-- After it the engine thread works off `Init` and makes so many rounds. -/
def eagerSchedule (rounds : Nat) : List Label :=
  eagerStart ++
    (List.replicate (engineInit.length - 4) .engine ++
      roundsThenClose rounds)

/-- With both callbacks inside the call, any number of rounds is safe. -/
theorem eagerSchedule_returns (rounds : Nat) :
    ∃ final,
      Runs.run? step? start (eagerSchedule rounds) = some final ∧
        final.process = .returned ∧
        NoCallWithoutDevice final := by
  have checked :
      (Runs.run? step? start eagerStart).any fun state =>
        state.process = .running ∧ state.deviceRequest = .answered ∧
          state.todo.length = engineInit.length - 4 := by
    decide
  obtain ⟨state, ran, stateChecked⟩ := (Option.any_eq_true _ _).mp checked
  obtain ⟨running, answered, workLeft⟩ := of_decide_eq_true stateChecked
  have safe : NoCallWithoutDevice state :=
    (safe_iff_inTime_of_consistent consistent_start ran).mpr
      ⟨noCallWithoutDevice_start, by decide⟩
  have served : Served state :=
    ⟨running, answered, consistent_of_run ran, safe⟩
  rcases served.workOff with ⟨idle, worked, idleServed, nothingLeft⟩
  rcases idleServed.returns nothingLeft rounds with
    ⟨final, later, returned, finalSafe⟩
  refine ⟨final, ?_, returned, finalSafe⟩
  rw [workLeft] at worked
  rw [eagerSchedule, Runs.run?_append_of_eq_some ran,
    Runs.run?_append_of_eq_some worked, later]

/-- Both callbacks inside `GetDevice`, and one round. -/
theorem noCallWithoutDevice_eager :
    ∃ final,
      Runs.run? step? start (eagerSchedule 1) = some final ∧
        NoCallWithoutDevice final := by
  obtain ⟨final, ran⟩ :=
    Option.isSome_iff_exists.mp
      (show (Runs.run? step? start (eagerSchedule 1)).isSome by decide)
  exact ⟨final, ran, (noCallWithoutDevice_iff_inTime ran).mpr (by decide)⟩

/-- No callback is invoked before `CreateSwapChain`. -/
def lateSchedule : List Label :=
  List.replicate 7 .engine

/-- The device callback is invoked with an error. -/
def refusedSchedule : List Label :=
  List.replicate 4 .engine ++
    [.adapterCallback ⟨.success, some 1, by decide⟩,
      .deviceCallback ⟨.error, none, by decide⟩]

/--
With late callbacks `wDevice` is used before it is set; with a failed device
request the callback calls a method on a null device.
-/
theorem not_noCallWithoutDevice :
    (∃ final,
        Runs.run? step? start lateSchedule = some final ∧
          .deviceMethod .createSwapChain none ∈ final.trace ∧
          ¬ NoCallWithoutDevice final) ∧
      ∃ final,
        Runs.run? step? start refusedSchedule = some final ∧
          .callbackMethod .setUncapturedErrorCallback none ∈ final.trace ∧
          ¬ NoCallWithoutDevice final := by
  constructor
  · obtain ⟨final, ran, called⟩ :=
      Option.any_eq_true _ _ |>.mp
        (show (Runs.run? step? start lateSchedule).any
            (.deviceMethod .createSwapChain none ∈ ·.trace) by decide)
    have used := of_decide_eq_true called
    exact ⟨final, ran, used, not_safe_of_null_device used⟩
  · obtain ⟨final, ran, called⟩ :=
      Option.any_eq_true _ _ |>.mp
        (show (Runs.run? step? start refusedSchedule).any
            (.callbackMethod .setUncapturedErrorCallback none ∈ ·.trace)
          by decide)
    have used := of_decide_eq_true called
    exact ⟨final, ran, used, not_safe_of_null_callback used⟩

end Teck.Startup
