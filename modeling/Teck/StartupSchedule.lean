import Teck.StartupSafety

namespace Teck.Startup

/-!
# Which schedules are safe

Whether a run is safe can be read off its labels: every device callback must
bring a success, and one must come before the engine thread calls
`CreateSwapChain`, its first use of `wDevice`.
-/

/-- The calls of the engine thread before that of `CreateSwapChain`. -/
def callsBeforeSwapChain : Nat :=
  engineInit.idxOf (.device .createSwapChain)

example : callsBeforeSwapChain = 6 := by
  decide

/-- The condition on the order of delivery and the statuses alone. -/
structure DeviceFirst (labels : List Label) : Prop where
  succeeds :
    ∀ answer, .deviceCallback answer ∈ labels → answer.status = .success
  first :
    ∀ earlier later,
      labels = earlier ++ .engine :: later →
      earlier.count .engine = callsBeforeSwapChain →
      ∃ answer, .deviceCallback answer ∈ earlier

/-- What one more label adds to the condition. -/
def AddsTo (history : List Label) : Label → Prop
  | .engine =>
      history.count .engine = callsBeforeSwapChain →
      ∃ answer, .deviceCallback answer ∈ history
  | .deviceCallback answer => answer.status = .success
  | _ => True

/-- No label, no condition. -/
theorem deviceFirst_nil : DeviceFirst [] where
  succeeds := by simp
  first := by simp

/-- A schedule is judged one label at a time. -/
theorem deviceFirst_concat
    {history : List Label}
    {label : Label} :
    DeviceFirst (history ++ [label]) ↔
      DeviceFirst history ∧ AddsTo history label := by
  constructor
  · intro deviceFirst
    refine ⟨⟨?_, ?_⟩, ?_⟩
    · exact fun answer member =>
        deviceFirst.succeeds answer (List.mem_append_left _ member)
    · intro earlier later shape
      exact deviceFirst.first earlier (later ++ [label]) (by simp [shape])
    · cases label with
      | engine =>
          exact deviceFirst.first history [] rfl
      | deviceCallback answer =>
          exact deviceFirst.succeeds answer (by simp)
      | shouldExit shouldClose =>
          trivial
      | adapterCallback answer =>
          trivial
  · rintro ⟨deviceFirst, adds⟩
    constructor
    · intro answer member
      rcases List.mem_append.mp member with old | new
      · exact deviceFirst.succeeds answer old
      · obtain rfl := (List.mem_singleton.mp new).symm
        exact adds
    · intro earlier later shape
      rcases List.eq_nil_or_concat later with isLast | ⟨before, last, isInner⟩
      · subst isLast
        obtain ⟨sameHistory, sameLabel⟩ := List.append_inj' shape rfl
        obtain rfl : label = .engine := List.singleton_inj.mp sameLabel
        exact sameHistory ▸ adds
      · subst isInner
        have innerShape :
            history ++ [label] = (earlier ++ .engine :: before) ++ [last] := by
          simpa using shape
        exact
          deviceFirst.first earlier before
            (List.append_inj' innerShape rfl).1

/-- How far the engine thread and the device request are after a history. -/
structure Counted
    (history : List Label)
    (state : State) : Prop where
  answered :
    state.deviceRequest = .answered ↔
      ∃ answer, .deviceCallback answer ∈ history
  todo :
    history.count .engine ≤ callsBeforeSwapChain →
    state.todo = engineInit.drop (history.count .engine)

/-- At the start no call has been made. -/
theorem counted_start : Counted [] start where
  answered := by simp [start]
  todo := fun _ => rfl

/-- While calls before `CreateSwapChain` are left, the thread has work to do. -/
theorem Counted.todo_ne_nil
    {history : List Label}
    {state : State}
    (counted : Counted history state)
    (few : history.count .engine ≤ callsBeforeSwapChain) :
    state.todo ≠ [] := by
  have inside : callsBeforeSwapChain < engineInit.length := by
    decide
  rw [counted.todo few, Ne, List.drop_eq_nil_iff]
  exact Nat.not_le_of_lt (few.trans_lt inside)

/-- A step counts its own label. -/
theorem Counted.step
    {history : List Label}
    {state next : State}
    {label : Label}
    (ordered : Ordered state)
    (counted : Counted history state)
    (stepped : step? state label = some next) :
    Counted (history ++ [label]) next := by
  cases label with
  | engine =>
      obtain ⟨action, rest, -, shape, rfl⟩ := step?_engine stepped
      have sameRequest :
          ({ state with todo := rest }.perform action).deviceRequest =
            state.deviceRequest := by
        cases action <;> rfl
      have newTodo :
          ({ state with todo := rest }.perform action).todo = rest := by
        cases action <;> rfl
      constructor
      · rw [sameRequest, counted.answered]
        simp
      · intro few
        rw [List.count_append, List.count_singleton_self] at few ⊢
        have before := counted.todo (Nat.le_of_succ_le few)
        rw [newTodo, ← List.tail_drop, ← before, shape, List.tail_cons]
  | shouldExit shouldClose =>
      obtain ⟨-, todo, process, -, rfl⟩ := step?_shouldExit stepped
      constructor
      · rw [counted.answered]
        simp
      · intro few
        have same :
            (history ++ [Label.shouldExit shouldClose]).count .engine =
              history.count .engine := by
          simp [List.count_append]
        rw [same] at few
        -- the thread only asks when it has nothing else to do
        have idle : state.todo = [] := by
          simp only [step?] at stepped
          split at stepped
          · rename_i nothing
            exact nothing
          · cases stepped
        exact absurd idle (counted.todo_ne_nil few)
  | adapterCallback answer =>
      obtain ⟨-, pending, rfl⟩ := step?_adapterCallback stepped
      have notIssued : state.deviceRequest = .notIssued :=
        ordered.nested (by simp [pending])
      have noCallback : ¬ ∃ answer, Label.deviceCallback answer ∈ history := by
        rw [← counted.answered, notIssued]
        simp
      have sameTodo : (state.adapterCallback answer).todo = state.todo := by
        simp only [State.adapterCallback]
        split <;> rfl
      constructor
      · have unanswered :
            (state.adapterCallback answer).deviceRequest ≠ .answered := by
          simp only [State.adapterCallback]
          split <;> simp [State.record, notIssued]
        simp only [unanswered, false_iff]
        simpa using noCallback
      · intro few
        rw [sameTodo]
        simpa [List.count_append] using
          counted.todo (by simpa [List.count_append] using few)
  | deviceCallback answer =>
      obtain ⟨-, -, rfl⟩ := step?_deviceCallback stepped
      constructor
      · simp [State.deviceCallback]
      · intro few
        simpa [List.count_append, State.deviceCallback, State.record] using
          counted.todo (by simpa [List.count_append] using few)

/-- No earlier call of the engine thread uses `wDevice`. -/
theorem not_device_of_lt
    {index : Nat}
    (early : index < callsBeforeSwapChain)
    {method : DeviceMethod}
    {rest : List EngineAction} :
    engineInit.drop index ≠ .device method :: rest := by
  have noDevice :
      ∀ index < callsBeforeSwapChain,
        (engineInit.drop index).head? ≠ some (.device method) := by
    cases method <;> decide
  intro shape
  apply noDevice index early
  rw [shape, List.head?_cons]

/-- After the call of `CreateSwapChain` the request has been answered. -/
def AnsweredByThen
    (history : List Label)
    (state : State) : Prop :=
  callsBeforeSwapChain < history.count .engine →
  state.deviceRequest = .answered

/-- In time is what the labels say, once the device came first so far. -/
theorem deviceInTime_iff_addsTo
    {history : List Label}
    {state : State}
    (counted : Counted history state)
    (answeredByThen : AnsweredByThen history state)
    (label : Label) :
    DeviceInTime state label ↔ AddsTo history label := by
  cases label with
  | engine =>
      simp only [DeviceInTime, AddsTo]
      rw [counted.answered]
      rcases Nat.lt_trichotomy (history.count .engine) callsBeforeSwapChain
        with early | now | late
      · have unused : usesDevice state = false := by
          rw [usesDevice, counted.todo early.le]
          split
          · rename_i shape
            exact absurd shape (not_device_of_lt early)
          · rfl
        simp [unused, early.ne]
      · have uses : usesDevice state = true := by
          rw [usesDevice, counted.todo now.le, now]
          rfl
        simp [uses, now]
      · have answered := counted.answered.mp (answeredByThen late)
        simp [answered]
  | shouldExit shouldClose =>
      exact Iff.rfl
  | adapterCallback answer =>
      exact Iff.rfl
  | deviceCallback answer =>
      exact Iff.rfl

/-- The request stays answered, and is when `CreateSwapChain` is called. -/
theorem AnsweredByThen.step
    {history : List Label}
    {state next : State}
    {label : Label}
    (counted : Counted history state)
    (nextCounted : Counted (history ++ [label]) next)
    (answeredByThen : AnsweredByThen history state)
    (adds : AddsTo history label) :
    AnsweredByThen (history ++ [label]) next := by
  intro late
  rw [nextCounted.answered]
  have known :
      (∃ answer, Label.deviceCallback answer ∈ history) →
        ∃ answer, Label.deviceCallback answer ∈ history ++ [label] :=
    fun ⟨answer, member⟩ => ⟨answer, List.mem_append_left _ member⟩
  apply known
  by_cases before : callsBeforeSwapChain < history.count .engine
  · exact counted.answered.mp (answeredByThen before)
  · cases label with
    | engine =>
        rw [List.count_append, List.count_singleton_self] at late
        exact adds (Nat.le_antisymm (Nat.le_of_not_lt before)
          (Nat.le_of_lt_succ late))
    | shouldExit shouldClose =>
        exact absurd late (by simpa [List.count_append] using before)
    | adapterCallback answer =>
        exact absurd late (by simpa [List.count_append] using before)
    | deviceCallback answer =>
        exact absurd late (by simpa [List.count_append] using before)

/--
A run is safe exactly if every device callback is a success and one of them
comes before the engine thread's call of `CreateSwapChain`.
-/
theorem noCallWithoutDevice_iff_deviceFirst
    {labels : List Label}
    {final : State}
    (ran : Runs.run? step? start labels = some final) :
    NoCallWithoutDevice final ↔ DeviceFirst labels := by
  have judged :
      Counted labels final ∧
        (DeviceFirst labels → AnsweredByThen labels final) ∧
          (NoCallWithoutDevice final ↔ DeviceFirst labels) := by
    induction labels using List.reverseRecOn generalizing final with
    | nil =>
        obtain rfl : start = final := by
          simpa using ran
        refine ⟨counted_start, fun _ late => ?_, ?_⟩
        · cases late
        · exact iff_of_true noCallWithoutDevice_start deviceFirst_nil
    | append_singleton history label inductionHypothesis =>
        obtain ⟨state, reached, last⟩ := Runs.run?_append_eq_some.mp ran
        obtain ⟨next, stepped, ended⟩ := Runs.run?_cons_eq_some.mp last
        obtain rfl : next = final := by
          simpa using ended
        obtain ⟨counted, answeredByThen, safe⟩ := inductionHypothesis reached
        have consistent := consistent_of_run reached
        have nextCounted := counted.step consistent.ordered stepped
        refine ⟨nextCounted, ?_, ?_⟩
        · intro deviceFirst
          obtain ⟨before, adds⟩ := deviceFirst_concat.mp deviceFirst
          exact (answeredByThen before).step counted nextCounted adds
        · rw [step_safe_iff consistent.recorded stepped, safe,
            deviceFirst_concat]
          apply and_congr_right
          intro deviceFirst
          exact
            deviceInTime_iff_addsTo counted (answeredByThen deviceFirst) label
  exact judged.2.2

end Teck.Startup
