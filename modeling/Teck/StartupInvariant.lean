import Teck.Startup

namespace Teck.Startup

/-!
# What every run of start-up keeps

Two invariants hold in every state that can be reached, whatever the order of
delivery and the statuses.  The requests are made in order: the adapter's once
and by the engine thread, the device's from the adapter callback.  And the
trace records how `wDevice` came about: an answered request has left its
answer, its call and its store behind, and a failed one has ended the process
or left a call on a null device.
-/

/-- A callback was invoked with a status other than success. -/
def Failed : Event → Prop
  | .adapterAnswered answer => answer.status ≠ .success
  | .deviceAnswered answer => answer.status ≠ .success
  | _ => False

/-! ## The order of the requests -/

/-- The adapter is requested once, and the device only from its callback. -/
structure Ordered (state : State) : Prop where
  once : state.todo.count .requestAdapter ≤ 1
  unissued :
    .requestAdapter ∈ state.todo → state.adapterRequest = .notIssued
  nested :
    state.adapterRequest ≠ .answered → state.deviceRequest = .notIssued

/-- The adapter is requested once in `Init`, and nothing has been yet. -/
theorem ordered_start : Ordered start where
  once := by decide
  unissued := fun _ => rfl
  nested := fun _ => rfl

/-- A call of the engine thread keeps the order of the requests. -/
theorem Ordered.perform
    {state : State}
    {action : EngineAction}
    {rest : List EngineAction}
    (ordered : Ordered state)
    (shape : state.todo = action :: rest) :
    Ordered ({ state with todo := rest }.perform action) := by
  have once := ordered.once
  have unissued := ordered.unissued
  rw [shape] at once unissued
  have restOnce : rest.count .requestAdapter ≤ 1 :=
    le_trans List.count_le_count_cons once
  have restUnissued :
      .requestAdapter ∈ rest → state.adapterRequest = .notIssued :=
    fun member => unissued (List.mem_cons_of_mem _ member)
  cases action with
  | requestAdapter =>
      have noneLeft : .requestAdapter ∉ rest := by
        rw [List.count_cons_self] at once
        exact List.count_eq_zero.mp (by omega)
      have issuedNow : state.adapterRequest = .notIssued :=
        unissued List.mem_cons_self
      exact {
        once := restOnce
        unissued := fun member => (noneLeft member).elim
        nested := fun _ => ordered.nested (by simp [issuedNow]) }
  | host call =>
      exact ⟨restOnce, restUnissued, ordered.nested⟩
  | enter function =>
      exact ⟨restOnce, restUnissued, ordered.nested⟩
  | device method =>
      exact ⟨restOnce, restUnissued, ordered.nested⟩

/-- A step keeps the order of the requests. -/
theorem Ordered.step
    {state next : State}
    {label : Label}
    (ordered : Ordered state)
    (stepped : step? state label = some next) :
    Ordered next := by
  cases label with
  | engine =>
      obtain ⟨action, rest, -, shape, rfl⟩ := step?_engine stepped
      exact ordered.perform shape
  | shouldExit shouldClose =>
      obtain ⟨-, todo, process, noRequest, rfl⟩ :=
        step?_shouldExit stepped
      exact {
        once := by simp [List.count_eq_zero.mpr noRequest]
        unissued := fun member => (noRequest member).elim
        nested := ordered.nested }
  | adapterCallback answer =>
      obtain ⟨-, pending, rfl⟩ := step?_adapterCallback stepped
      have requested : .requestAdapter ∉ state.todo := by
        intro member
        simp [ordered.unissued member] at pending
      by_cases succeeded : answer.status = .success
      · rw [State.adapterCallback_of_success succeeded]
        exact ⟨ordered.once, fun member => (requested member).elim, by simp⟩
      · rw [State.adapterCallback_of_failure succeeded]
        exact ⟨ordered.once, fun member => (requested member).elim, by simp⟩
  | deviceCallback answer =>
      obtain ⟨-, pending, rfl⟩ := step?_deviceCallback stepped
      have adapterAnswered : state.adapterRequest = .answered := by
        by_contra unanswered
        simp [ordered.nested unanswered] at pending
      exact {
        once := ordered.once
        unissued := ordered.unissued
        nested := fun unanswered => (unanswered adapterAnswered).elim }

/-! ## The state and its trace -/

/-- How the requests and `wDevice` are recorded in the trace. -/
structure Recorded (state : State) : Prop where
  unset : state.deviceRequest ≠ .answered → state.wDevice = none
  stored :
    state.deviceRequest = .answered →
      ∃ answer : DeviceAnswer,
        state.wDevice = answer.handle ∧
          .deviceAnswered answer ∈ state.trace ∧
          .callbackMethod .setUncapturedErrorCallback answer.handle ∈
            state.trace ∧
          .deviceStored answer.handle ∈ state.trace
  failed :
    ∀ event ∈ state.trace,
      Failed event →
        (∃ code, state.process = .exited code) ∨
          .callbackMethod .setUncapturedErrorCallback none ∈ state.trace

/-- Nothing has been recorded yet. -/
theorem recorded_start : Recorded start where
  unset := fun _ => rfl
  stored := by simp [start]
  failed := by simp [start]

/-- While the process is alive, a failure leaves an unsafe call behind. -/
theorem Recorded.called_of_failed
    {state : State}
    (recorded : Recorded state)
    (alive : ∀ code, state.process ≠ .exited code)
    {event : Event}
    (member : event ∈ state.trace)
    (failed : Failed event) :
    .callbackMethod .setUncapturedErrorCallback none ∈ state.trace := by
  rcases recorded.failed event member failed with exited | called
  · rcases exited with ⟨code, isExited⟩
    exact (alive code isExited).elim
  · exact called

/-- Steps other than the device callback only have to account for failures. -/
theorem Recorded.of_extension
    {state next : State}
    (events : List Event)
    (recorded : Recorded state)
    (alive : ∀ code, state.process ≠ .exited code)
    (sameDevice : next.wDevice = state.wDevice)
    (sameRequest :
      next.deviceRequest = .answered ↔ state.deviceRequest = .answered)
    (extended : next.trace = state.trace ++ events)
    (accounted :
      ∀ event ∈ events,
        Failed event → ∃ code, next.process = .exited code) :
    Recorded next where
  unset := by
    intro unanswered
    rw [sameDevice]
    apply recorded.unset
    intro answered
    exact unanswered (sameRequest.mpr answered)
  stored := by
    intro answered
    obtain ⟨answer, device, wasAnswered, called, wasStored⟩ :=
      recorded.stored (sameRequest.mp answered)
    rw [sameDevice, extended]
    exact ⟨answer, device, List.mem_append_left _ wasAnswered,
      List.mem_append_left _ called, List.mem_append_left _ wasStored⟩
  failed := by
    intro event member failed
    rw [extended] at member ⊢
    rcases List.mem_append.mp member with earlier | fresh
    · have called := recorded.called_of_failed alive earlier failed
      exact .inr (List.mem_append_left _ called)
    · exact .inl (accounted event fresh failed)

/-- The adapter callback records its failure, and then exits. -/
theorem Recorded.adapterCallback
    {state : State}
    {answer : AdapterAnswer}
    (recorded : Recorded state)
    (ordered : Ordered state)
    (alive : ∀ code, state.process ≠ .exited code)
    (pending : state.adapterRequest = .pending) :
    Recorded (state.adapterCallback answer) := by
  have notRequested : state.deviceRequest = .notIssued :=
    ordered.nested (by simp [pending])
  by_cases succeeded : answer.status = .success
  · rw [State.adapterCallback_of_success succeeded]
    exact recorded.of_extension
      [.adapterAnswered answer, .adapterMethod .requestDevice answer.handle]
      alive rfl (by simp [notRequested]) rfl
      (by simp [Failed, succeeded])
  · rw [State.adapterCallback_of_failure succeeded]
    exact recorded.of_extension
      [.adapterAnswered answer, .logError "Failed to acquire adapter"]
      alive rfl Iff.rfl rfl (by simp)

/-- The device callback records its answer, its call and its store. -/
theorem Recorded.deviceCallback
    {state : State}
    (recorded : Recorded state)
    (alive : ∀ code, state.process ≠ .exited code)
    (answer : DeviceAnswer) :
    Recorded (state.deviceCallback answer) where
  unset := by
    intro unanswered
    exact (unanswered rfl).elim
  stored := by
    intro _
    exact ⟨answer, rfl, by simp [State.deviceCallback, State.record]⟩
  failed := by
    intro event member failed
    right
    rcases List.mem_append.mp member with earlier | fresh
    · have called := recorded.called_of_failed alive earlier failed
      exact List.mem_append_left _ called
    · simp only [List.mem_cons, List.not_mem_nil, or_false] at fresh
      rcases fresh with isAnswer | isCall | isStore
      -- A failed answer has no handle, and the callback calls its method.
      · subst isAnswer
        have noHandle : answer.handle = none :=
          Answer.handle_eq_none failed
        simp [State.deviceCallback, State.record, noHandle]
      · subst isCall
        exact failed.elim
      · subst isStore
        exact failed.elim

/-- A step records what it does. -/
theorem Recorded.step
    {state next : State}
    {label : Label}
    (recorded : Recorded state)
    (ordered : Ordered state)
    (stepped : step? state label = some next) :
    Recorded next := by
  cases label with
  | engine =>
      obtain ⟨action, rest, running, -, rfl⟩ := step?_engine stepped
      have alive : ∀ code, state.process ≠ .exited code := by
        simp [running]
      cases action with
      | host call =>
          exact recorded.of_extension [] alive rfl Iff.rfl
            (by simp [State.perform]) (by simp)
      | requestAdapter =>
          exact recorded.of_extension [] alive rfl Iff.rfl
            (by simp [State.perform]) (by simp)
      | enter function =>
          exact recorded.of_extension [.entered function] alive rfl
            Iff.rfl rfl (by simp [Failed])
      | device method =>
          exact recorded.of_extension
            [.deviceMethod method state.wDevice] alive rfl Iff.rfl rfl
            (by simp [Failed])
  | shouldExit shouldClose =>
      obtain ⟨running, todo, process, -, rfl⟩ := step?_shouldExit stepped
      exact recorded.of_extension [] (by simp [running]) rfl Iff.rfl
        (by simp) (by simp)
  | adapterCallback answer =>
      obtain ⟨alive, pending, rfl⟩ := step?_adapterCallback stepped
      exact recorded.adapterCallback ordered alive pending
  | deviceCallback answer =>
      obtain ⟨alive, -, rfl⟩ := step?_deviceCallback stepped
      exact recorded.deviceCallback alive answer

/-- Both invariants together. -/
structure Consistent (state : State) : Prop where
  ordered : Ordered state
  recorded : Recorded state

/-- Both invariants hold at the start. -/
theorem consistent_start : Consistent start :=
  ⟨ordered_start, recorded_start⟩

/-- A step keeps both invariants. -/
theorem Consistent.step
    {state next : State}
    {label : Label}
    (consistent : Consistent state)
    (stepped : step? state label = some next) :
    Consistent next :=
  ⟨consistent.ordered.step stepped,
    consistent.recorded.step consistent.ordered stepped⟩

/-- Every reachable state is consistent. -/
theorem consistent_of_run
    {labels : List Label}
    {final : State}
    (ran : Runs.run? step? start labels = some final) :
    Consistent final :=
  Runs.invariant_of_run Consistent.step consistent_start ran

end Teck.Startup
