import Mathlib.Data.List.ReduceOption
import Teck.Dawn.EventManager

namespace Teck.Dawn

/-!
# What the steps of the event manager can do

No step takes back what an event waits for, what has completed or who has been
called; and what is referred to after a step was referred to before, or is the
event that the step made.
-/

/-! ## Events only advance -/

namespace CompletionData

/-- The data of an event before and after any steps. -/
def Becomes (before after : CompletionData) : Prop :=
  after = before ∨ after = before.signal

/-- Nothing has happened to the data. -/
theorem Becomes.refl (data : CompletionData) : data.Becomes data :=
  Or.inl rfl

/-- Signaling twice is signaling once. -/
@[simp] theorem signal_signal
    (data : CompletionData) :
    data.signal.signal = data.signal := by
  cases data <;> rfl

/-- Signaling changes no queue. -/
@[simp] theorem queue?_signal
    (data : CompletionData) :
    data.signal.queue? = data.queue? := by
  cases data <;> rfl

/-- Data that becomes other data becomes what that becomes. -/
theorem Becomes.trans
    {first middle last : CompletionData}
    (earlier : first.Becomes middle)
    (later : middle.Becomes last) :
    first.Becomes last := by
  rcases earlier with rfl | rfl
  · exact later
  · rcases later with rfl | rfl
    · exact Or.inr rfl
    · exact Or.inr (signal_signal first)

/-- The queue that is waited on never changes. -/
theorem Becomes.queue?_eq
    {before after : CompletionData}
    (becomes : before.Becomes after) :
    after.queue? = before.queue? := by
  rcases becomes with rfl | rfl
  · rfl
  · exact queue?_signal before

/-- The serial that is waited for never changes. -/
theorem Becomes.eq_of_queueAndSerial
    {queue completionSerial : Nat}
    {after : CompletionData}
    (becomes :
      (queueAndSerial queue completionSerial).Becomes after) :
    after = queueAndSerial queue completionSerial := by
  rcases becomes with rfl | rfl <;> rfl

end CompletionData

namespace EventManager

variable {manager next : EventManager}

/-- How the events, serials and lost queues may change. -/
structure Advances (before after : EventManager) : Prop where
  event :
    ∀ {handle : Nat} {event : TrackedEvent},
      before.events[handle]? = some event →
      ∃ later : TrackedEvent,
        after.events[handle]? = some later ∧
          later.mCallbackMode = event.mCallbackMode ∧
            event.mCompletionData.Becomes later.mCompletionData
  completedSerial :
    ∀ queue, before.completedSerial queue ≤ after.completedSerial queue
  lost :
    ∀ queue, before.lost queue = true → after.lost queue = true

namespace Advances

/-- Doing nothing advances nothing. -/
theorem refl (manager : EventManager) : Advances manager manager where
  event := fun {_ event} found =>
    ⟨event, found, rfl, CompletionData.Becomes.refl _⟩
  completedSerial := fun _ => le_rfl
  lost := fun _ wasLost => wasLost

/-- Advances follow each other. -/
theorem trans
    {first middle last : EventManager}
    (earlier : Advances first middle)
    (later : Advances middle last) :
    Advances first last where
  event := by
    intro handle event found
    obtain ⟨between, foundBetween, sameMode, becomes⟩ := earlier.event found
    obtain ⟨final, foundFinal, finalMode, finalBecomes⟩ :=
      later.event foundBetween
    exact
      ⟨final, foundFinal, finalMode.trans sameMode, becomes.trans finalBecomes⟩
  completedSerial := fun queue =>
    (earlier.completedSerial queue).trans (later.completedSerial queue)
  lost := fun queue wasLost => later.lost queue (earlier.lost queue wasLost)

/-- A step that leaves events, serials and queues as they are. -/
theorem of_eq
    {before after : EventManager}
    (sameEvents : after.events = before.events)
    (sameSerial : after.completedSerial = before.completedSerial)
    (sameLost : after.lost = before.lost) :
    Advances before after where
  event := fun {_ event} found =>
    ⟨event, by rw [sameEvents, found], rfl, CompletionData.Becomes.refl _⟩
  completedSerial := fun queue => by rw [sameSerial]
  lost := fun queue wasLost => by rw [sameLost, wasLost]

/-- One event is replaced by a later version of it. -/
theorem of_set
    {before after : EventManager}
    {handle : Nat}
    {event changed : TrackedEvent}
    (found : before.events[handle]? = some event)
    (sameMode : changed.mCallbackMode = event.mCallbackMode)
    (becomes : event.mCompletionData.Becomes changed.mCompletionData)
    (events : after.events = before.events.set handle changed)
    (sameSerial : after.completedSerial = before.completedSerial)
    (sameLost : after.lost = before.lost) :
    Advances before after where
  event := by
    intro other otherEvent otherFound
    by_cases same : handle = other
    · subst same
      obtain rfl : event = otherEvent := by
        simpa [found] using otherFound
      have inside : handle < before.events.length :=
        (List.getElem?_eq_some_iff.mp found).1
      refine ⟨changed, ?_, sameMode, becomes⟩
      rw [events, List.getElem?_set_self inside]
    · refine ⟨otherEvent, ?_, rfl, CompletionData.Becomes.refl _⟩
      rw [events, List.getElem?_set_ne same, otherFound]
  completedSerial := fun queue => by rw [sameSerial]
  lost := fun queue wasLost => by rw [sameLost, wasLost]

end Advances

/-! ## Completing an event -/

section EnsureComplete

variable (manager) (handle : Nat) (completionType : EventCompletionType)

/-- Completing changes the flag of one event and the log, nothing else. -/
theorem ensureComplete_cases :
    manager.ensureComplete handle completionType = manager ∨
      ∃ event,
        manager.events[handle]? = some event ∧
          event.mCompleted = false ∧
            manager.ensureComplete handle completionType =
              { manager with
                events :=
                  manager.events.set handle { event with mCompleted := true }
                callbacks :=
                  manager.callbacks ++ [(handle, completionType)] } := by
  cases found : manager.events[handle]? with
  | none =>
      simp [ensureComplete, found]
  | some event =>
      cases flag : event.mCompleted with
      | true =>
          simp [ensureComplete, found, flag]
      | false =>
          simp [ensureComplete, found, flag]

/-- Completing leaves the map as it is. -/
@[simp] theorem ensureComplete_mEvents :
    (manager.ensureComplete handle completionType).mEvents =
      manager.mEvents := by
  rcases ensureComplete_cases manager handle completionType with
    same | ⟨_, _, _, same⟩ <;> rw [same]

/-- Completing leaves the references as they are. -/
@[simp] theorem ensureComplete_references :
    (manager.ensureComplete handle completionType).references =
      manager.references := by
  rcases ensureComplete_cases manager handle completionType with
    same | ⟨_, _, _, same⟩ <;> rw [same]

/-- Completing leaves the calls under way as they are. -/
@[simp] theorem ensureComplete_calls :
    (manager.ensureComplete handle completionType).calls =
      manager.calls := by
  rcases ensureComplete_cases manager handle completionType with
    same | ⟨_, _, _, same⟩ <;> rw [same]

/-- Completing leaves the serials as they are. -/
@[simp] theorem ensureComplete_completedSerial :
    (manager.ensureComplete handle completionType).completedSerial =
      manager.completedSerial := by
  rcases ensureComplete_cases manager handle completionType with
    same | ⟨_, _, _, same⟩ <;> rw [same]

/-- Completing loses no queue. -/
@[simp] theorem ensureComplete_lost :
    (manager.ensureComplete handle completionType).lost = manager.lost := by
  rcases ensureComplete_cases manager handle completionType with
    same | ⟨_, _, _, same⟩ <;> rw [same]

/-- Completing takes no identifier. -/
@[simp] theorem ensureComplete_mNextFutureID :
    (manager.ensureComplete handle completionType).mNextFutureID =
      manager.mNextFutureID := by
  rcases ensureComplete_cases manager handle completionType with
    same | ⟨_, _, _, same⟩ <;> rw [same]

/-- Completing makes no event. -/
@[simp] theorem length_events_ensureComplete :
    (manager.ensureComplete handle completionType).events.length =
      manager.events.length := by
  rcases ensureComplete_cases manager handle completionType with
    same | ⟨_, _, _, same⟩ <;> simp [same]

/-- Completing changes nothing that is referred to. -/
@[simp] theorem refersTo_ensureComplete :
    (manager.ensureComplete handle completionType).refersTo =
      manager.refersTo := by
  funext other
  simp [refersTo]

/-- What is logged by completing an event. -/
theorem callbacks_ensureComplete :
    ∃ called,
      (manager.ensureComplete handle completionType).callbacks =
          manager.callbacks ++ called ∧
        ∀ callback ∈ called, callback = (handle, completionType) := by
  rcases ensureComplete_cases manager handle completionType with
    same | ⟨_, _, _, same⟩
  · exact ⟨[], by simp [same], by simp⟩
  · exact ⟨[(handle, completionType)], by simp [same], by simp⟩

/-- Completing only sets a flag. -/
theorem advances_ensureComplete :
    Advances manager (manager.ensureComplete handle completionType) := by
  rcases ensureComplete_cases manager handle completionType with
    same | ⟨event, found, _, same⟩
  · rw [same]
    exact Advances.refl manager
  · rw [same]
    refine Advances.of_set found ?_ ?_ rfl rfl rfl
    · rfl
    · exact CompletionData.Becomes.refl _

end EnsureComplete

/-! ## Destroying events -/

/-- An event that is referred to is kept, another is completed as shut down. -/
theorem destroy_cases
    (manager : EventManager)
    (handle : Nat) :
    manager.refersTo handle = true ∧ manager.destroy handle = manager ∨
      manager.refersTo handle = false ∧
        manager.destroy handle = manager.ensureComplete handle .Shutdown := by
  cases referred : manager.refersTo handle with
  | true =>
      simp [destroy, referred]
  | false =>
      simp [destroy, referred]

/-- A property that destroying one unreferenced event keeps. -/
theorem destroyUnreferenced_induction
    {property : EventManager → Prop}
    (holds : property manager)
    (keeps :
      ∀ {current : EventManager} {handle : Nat},
        property current →
        current.refersTo handle = false →
        property (current.ensureComplete handle .Shutdown)) :
    property manager.destroyUnreferenced := by
  have all :
      ∀ (handles : List Nat) (current : EventManager),
        property current → property (handles.foldl destroy current) := by
    intro handles
    induction handles with
    | nil =>
        intro current currentHolds
        exact currentHolds
    | cons handle rest inductionHypothesis =>
        intro current currentHolds
        apply inductionHypothesis
        rcases destroy_cases current handle with
          ⟨_, same⟩ | ⟨unreferenced, same⟩
        · rw [same]
          exact currentHolds
        · rw [same]
          exact keeps currentHolds unreferenced
  exact all _ manager holds

/-- Destroying only sets flags. -/
theorem advances_destroyUnreferenced
    (manager : EventManager) :
    Advances manager manager.destroyUnreferenced :=
  destroyUnreferenced_induction (Advances.refl manager)
    fun {current handle} advanced _ =>
      advanced.trans (advances_ensureComplete current handle .Shutdown)

/-- Destroying only completes events that nothing refers to. -/
structure OnlyDestroys (before after : EventManager) : Prop where
  mEvents : after.mEvents = before.mEvents
  references : after.references = before.references
  calls : after.calls = before.calls
  completedSerial : after.completedSerial = before.completedSerial
  lost : after.lost = before.lost
  mNextFutureID : after.mNextFutureID = before.mNextFutureID
  length : after.events.length = before.events.length
  refersTo : after.refersTo = before.refersTo
  callbacks :
    ∃ called,
      after.callbacks = before.callbacks ++ called ∧
        ∀ callback ∈ called,
          callback.2 = .Shutdown ∧ before.refersTo callback.1 = false

/-- Destroying changes flags and the log, nothing else. -/
theorem onlyDestroys_destroyUnreferenced
    (manager : EventManager) :
    OnlyDestroys manager manager.destroyUnreferenced := by
  apply destroyUnreferenced_induction
  · exact
      ⟨rfl, rfl, rfl, rfl, rfl, rfl, rfl, rfl, [], by simp, by simp⟩
  · intro current handle same unreferenced
    refine
      ⟨by simp [same.mEvents], by simp [same.references],
        by simp [same.calls], by simp [same.completedSerial],
        by simp [same.lost], by simp [same.mNextFutureID],
        by simp [same.length], by simp [same.refersTo], ?_⟩
    obtain ⟨called, log, calls⟩ := same.callbacks
    obtain ⟨more, moreLog, fresh⟩ :=
      callbacks_ensureComplete current handle .Shutdown
    refine ⟨called ++ more, ?_, ?_⟩
    · rw [moreLog, log, List.append_assoc]
    · intro callback member
      rcases List.mem_append.mp member with old | new
      · exact calls callback old
      · rw [fresh callback new, ← same.refersTo]
        exact ⟨rfl, unreferenced⟩

/-! ## What the operations change -/

/-- Giving an identifier changes neither mode nor data. -/
theorem advances_assignFutureID
    {handle : Nat}
    {event : TrackedEvent}
    (found : manager.events[handle]? = some event) :
    Advances manager (manager.assignFutureID handle event) := by
  refine Advances.of_set found ?_ ?_ rfl rfl rfl
  · rfl
  · exact CompletionData.Becomes.refl _

/-- Signaling is what may happen to the data. -/
theorem advances_signal
    {handle : Nat}
    {event : TrackedEvent}
    (found : manager.events[handle]? = some event) :
    Advances manager (manager.signal handle event) := by
  refine Advances.of_set found ?_ ?_ rfl rfl rfl
  · rfl
  · exact Or.inr rfl

/--
`TrackEvent` completes a spontaneous event that is ready, or goes on to the
map.
-/
theorem checkTracked_cases
    (manager : EventManager)
    (index : Nat)
    (future : TrackedFuture)
    (event : TrackedEvent) :
    (event.mCallbackMode = .AllowSpontaneous ∧
        manager.isComplete event.mCompletionData = true ∧
          manager.checkTracked index future event =
            manager.setCall index (.calling [future.event] [])) ∨
      manager.checkTracked index future event =
        manager.setCall index (.inserting future) := by
  simp only [checkTracked]
  split
  · rename_i ready
    exact Or.inl ⟨ready.1, ready.2, rfl⟩
  · exact Or.inr rfl

/-- `SetFutureReady` untracks and completes a spontaneous event, or returns. -/
theorem finishSetFutureReady_cases
    (manager : EventManager)
    (index handle : Nat)
    (event : TrackedEvent) :
    (event.mFutureID ≠ kNullFutureID ∧
        event.mCallbackMode = .AllowSpontaneous ∧
          manager.finishSetFutureReady index handle event =
            (manager.untrack [event.mFutureID]).setCall index
              (.calling [handle] [])) ∨
      manager.finishSetFutureReady index handle event =
        manager.setCall index (.calling [] []) := by
  simp only [finishSetFutureReady]
  split
  · exact Or.inr rfl
  · rename_i isTracked
    split
    · rename_i spontaneous
      exact Or.inl ⟨isTracked, spontaneous, rfl⟩
    · exact Or.inr rfl

/-- Polling raises serials and may lose queues. -/
theorem advances_poll
    (manager : EventManager)
    (answer : PollAnswer)
    (futures : List TrackedFuture) :
    Advances manager (manager.poll answer futures) where
  event := fun {_ event} found =>
    ⟨event, found, rfl, CompletionData.Becomes.refl _⟩
  completedSerial := by
    intro queue
    simp only [poll]
    split
    · exact le_max_left ..
    · exact le_rfl
  lost := by
    intro queue wasLost
    simp [poll, wasLost]

/-- Polling is told of every ready future. -/
@[simp] theorem reportedFutures_zero
    (manager : EventManager)
    (answer : PollAnswer)
    (futures : List TrackedFuture) :
    manager.reportedFutures answer futures 0 =
      manager.readyFutures answer futures := by
  simp [reportedFutures]

/-- What a call to `ProcessPollEvents` does up to its callbacks. -/
theorem processPollEvents_cases
    (manager : EventManager)
    (answer : PollAnswer)
    (iteration : List TrackedFuture) :
    let futures := iteration.filter manager.isPollable
    let ready := manager.readyFutures answer futures
    futures = [] ∧
        (manager.processPollEvents answer iteration).2 = manager ∨
      ready = [] ∧
          (manager.processPollEvents answer iteration).2 =
            manager.poll answer futures ∨
        (manager.processPollEvents answer iteration).2 =
          ((manager.poll answer futures).untrack
              ((prepareReadyCallbacks ready).map
                TrackedFuture.futureID)).addCall
            (.calling
              ((prepareReadyCallbacks ready).map TrackedFuture.event)
              []) := by
  intro futures ready
  by_cases no_futures : futures = []
  · left
    refine ⟨no_futures, ?_⟩
    simp only [processPollEvents]
    rw [if_pos no_futures]
  · right
    simp only [processPollEvents, waitImpl, Nat.lt_irrefl, false_and,
      ↓reduceIte, reportedFutures_zero]
    rw [if_neg no_futures]
    by_cases none_ready : ready = []
    · left
      rw [if_pos none_ready, if_pos rfl]
      exact ⟨none_ready, rfl⟩
    · right
      rw [if_neg none_ready, if_neg (by simp)]

/-- What `WaitAny` does from its wait up to its callbacks. -/
theorem finishWait_cases
    (manager : EventManager)
    (index : Nat)
    (futures : List TrackedFuture)
    (timeout : Nat)
    (answer : PollAnswer) :
    let ready := manager.reportedFutures answer futures timeout
    (manager.finishWait index futures timeout answer).2.2 =
        manager.setCall index (.calling [] []) ∨
      (manager.finishWait index futures timeout answer).2.2 =
          (manager.poll answer futures).setCall index (.calling [] []) ∨
        (manager.finishWait index futures timeout answer).2.2 =
          ((manager.poll answer futures).untrack
              ((prepareReadyCallbacks ready).map
                TrackedFuture.futureID)).setCall index
            (.calling
              ((prepareReadyCallbacks ready).map TrackedFuture.event)
              (futures.map TrackedFuture.event)) := by
  intro ready
  by_cases mixed : 0 < timeout ∧ manager.mixedSources futures = true
  · left
    simp [finishWait, waitImpl, mixed]
  · right
    simp only [finishWait, waitImpl]
    rw [if_neg mixed]
    by_cases none_ready : ready = []
    · left
      dsimp only
      rw [if_pos none_ready, if_pos (by simp)]
    · right
      dsimp only
      rw [if_neg none_ready, if_neg (by simp)]

/-- `WaitAny` returns, or waits for futures that it was given. -/
theorem waitAny_cases
    (manager : EventManager)
    (events : List TrackedFuture)
    (infos : List FutureID)
    (timeout : Nat) :
    (manager.waitAny events infos timeout).2 = manager ∨
      ∃ futures : List TrackedFuture,
        (∀ future ∈ futures,
          future ∈ events ∧ future.futureID ∈ infos) ∧
        (manager.waitAny events infos timeout).2 =
          manager.addCall (.waiting futures timeout) := by
  simp only [waitAny]
  repeat' split
  · exact Or.inl rfl
  · exact Or.inl rfl
  · exact Or.inl rfl
  · exact Or.inl rfl
  · right
    refine ⟨_, ?_, rfl⟩
    intro future member
    rw [List.reduceOption_mem_iff, List.mem_map] at member
    obtain ⟨futureID, asked, found⟩ := member
    have same : future.futureID = futureID := by
      simpa using List.find?_some found
    exact ⟨List.mem_of_find?_eq_some found, same ▸ asked⟩

/-- Sorting keeps the ready futures. -/
theorem mem_prepareReadyCallbacks
    {ready : List TrackedFuture}
    {future : TrackedFuture} :
    future ∈ prepareReadyCallbacks ready ↔ future ∈ ready := by
  simp [prepareReadyCallbacks]

/-- The ready futures are among those asked about. -/
theorem mem_of_mem_readyFutures
    {answer : PollAnswer}
    {futures : List TrackedFuture}
    {future : TrackedFuture}
    (member : future ∈ manager.readyFutures answer futures) :
    future ∈ futures :=
  (List.mem_filter.mp member).1

/-- A wait is told only of ready futures. -/
theorem mem_readyFutures_of_reported
    {answer : PollAnswer}
    {futures : List TrackedFuture}
    {timeout : Nat}
    {future : TrackedFuture}
    (member : future ∈ manager.reportedFutures answer futures timeout) :
    future ∈ manager.readyFutures answer futures :=
  (List.mem_filter.mp member).1

/-! ## Steps -/

/-- What a step does before unreferenced events are destroyed. -/
inductive Performs (manager : EventManager) :
    Label → EventManager → Prop where
  | create
      (mCallbackMode : CallbackMode)
      (mCompletionData : CompletionData) :
      Performs manager (.create mCallbackMode mCompletionData)
        (manager.create mCallbackMode mCompletionData)
  | addReference
      {handle : Nat}
      (held : handle ∈ manager.references) :
      Performs manager (.addReference handle)
        { manager with references := handle :: manager.references }
  | release
      {handle : Nat}
      (held : handle ∈ manager.references) :
      Performs manager (.release handle)
        { manager with references := manager.references.erase handle }
  | trackEvent
      {handle : Nat}
      {event : TrackedEvent}
      (found : manager.events[handle]? = some event)
      (held : handle ∈ manager.references)
      (untracked : event.mFutureID = kNullFutureID) :
      Performs manager (.trackEvent handle)
        (manager.trackEvent handle event).2
  | setFutureReady
      {handle : Nat}
      {event : TrackedEvent}
      (found : manager.events[handle]? = some event)
      (held : handle ∈ manager.references) :
      Performs manager (.setFutureReady handle)
        (manager.setFutureReady handle event)
  | advance
      (queue serial : Nat) :
      Performs manager (.advance queue serial)
        { manager with
          completedSerial :=
            Function.update manager.completedSerial queue
              (max (manager.completedSerial queue) serial) }
  | processPollEvents
      {answer : PollAnswer}
      {iteration events : List TrackedFuture}
      (map : manager.mEvents = some events)
      (iterates : iteration.Perm events) :
      Performs manager (.processPollEvents answer iteration)
        (manager.processPollEvents answer iteration).2
  | waitAny
      {infos : List FutureID}
      {timeout : Nat}
      {events : List TrackedFuture}
      (map : manager.mEvents = some events) :
      Performs manager (.waitAny infos timeout)
        (manager.waitAny events infos timeout).2
  | finishWait
      {index : Nat}
      {answer : PollAnswer}
      {futures : List TrackedFuture}
      {timeout : Nat}
      (underWay : manager.calls[index]? = some (.waiting futures timeout)) :
      Performs manager (.finishWait index answer)
        (manager.finishWait index futures timeout answer).2.2
  | checkTracked
      {index : Nat}
      {future : TrackedFuture}
      {event : TrackedEvent}
      (underWay : manager.calls[index]? = some (.tracking future))
      (found : manager.events[future.event]? = some event) :
      Performs manager (.proceed index)
        (manager.checkTracked index future event)
  | insertTracked
      {index : Nat}
      {future : TrackedFuture}
      (underWay : manager.calls[index]? = some (.inserting future)) :
      Performs manager (.proceed index)
        (manager.insertTracked index future)
  | finishSetFutureReady
      {index handle : Nat}
      {event : TrackedEvent}
      (underWay : manager.calls[index]? = some (.signaled handle))
      (found : manager.events[handle]? = some event) :
      Performs manager (.proceed index)
        (manager.finishSetFutureReady index handle event)
  | callNext
      {index handle : Nat}
      {rest others : List Nat}
      (underWay :
        manager.calls[index]? = some (.calling (handle :: rest) others)) :
      Performs manager (.proceed index)
        ((manager.ensureComplete handle .Ready).setCall index
          (.calling rest others))
  | callReturns
      {index : Nat}
      {others : List Nat}
      (underWay : manager.calls[index]? = some (.calling [] others)) :
      Performs manager (.proceed index)
        (manager.setCall index (.calling [] []))
  | shutDown :
      Performs manager .shutDown manager.shutDown

/-- A step that is possible does one of these. -/
theorem performs_of_perform
    {label : Label}
    (performed : manager.perform? label = some next) :
    Performs manager label next := by
  cases label with
  | create mCallbackMode mCompletionData =>
      cases performed
      exact .create mCallbackMode mCompletionData
  | addReference handle =>
      simp only [perform?, Option.ite_none_right_eq_some] at performed
      obtain ⟨held, same⟩ := performed
      cases same
      exact .addReference held
  | release handle =>
      simp only [perform?, Option.ite_none_right_eq_some] at performed
      obtain ⟨held, same⟩ := performed
      cases same
      exact .release held
  | trackEvent handle =>
      cases found : manager.events[handle]? with
      | none =>
          simp [perform?, found] at performed
      | some event =>
          simp only [perform?, found, Option.ite_none_right_eq_some]
            at performed
          obtain ⟨⟨held, untracked⟩, same⟩ := performed
          cases same
          exact .trackEvent found held untracked
  | setFutureReady handle =>
      cases found : manager.events[handle]? with
      | none =>
          simp [perform?, found] at performed
      | some event =>
          simp only [perform?, found, Option.ite_none_right_eq_some]
            at performed
          obtain ⟨held, same⟩ := performed
          cases same
          exact .setFutureReady found held
  | advance queue serial =>
      cases performed
      exact .advance queue serial
  | processPollEvents answer iteration =>
      cases map : manager.mEvents with
      | none =>
          simp [perform?, map] at performed
      | some events =>
          simp only [perform?, map, Option.ite_none_right_eq_some]
            at performed
          obtain ⟨iterates, same⟩ := performed
          cases same
          exact .processPollEvents map iterates
  | waitAny infos timeout =>
      cases map : manager.mEvents with
      | none =>
          simp [perform?, map] at performed
      | some events =>
          simp only [perform?, map, Option.ite_none_right_eq_some]
            at performed
          obtain ⟨_, same⟩ := performed
          cases same
          exact .waitAny map
  | finishWait index answer =>
      simp only [perform?] at performed
      split at performed
      · rename_i futures timeout underWay
        cases performed
        exact .finishWait underWay
      · cases performed
  | proceed index =>
      simp only [perform?, proceed?] at performed
      split at performed
      · rename_i future underWay
        obtain ⟨event, found, same⟩ := Option.map_eq_some_iff.mp performed
        cases same
        exact .checkTracked underWay found
      · rename_i future underWay
        cases performed
        exact .insertTracked underWay
      · rename_i handle underWay
        obtain ⟨event, found, same⟩ := Option.map_eq_some_iff.mp performed
        cases same
        exact .finishSetFutureReady underWay found
      · rename_i handle rest others underWay
        cases performed
        exact .callNext underWay
      · rename_i others underWay
        cases performed
        exact .callReturns underWay
      · cases performed
  | shutDown =>
      cases performed
      exact .shutDown

/-! ## References -/

/-- The futures in the map, if there is one. -/
def tracked (manager : EventManager) : List TrackedFuture :=
  manager.mEvents.getD []

/-- An event is referred to by the map, a caller or a call. -/
theorem refersTo_iff
    {handle : Nat} :
    manager.refersTo handle = true ↔
      (∃ future ∈ manager.tracked, future.event = handle) ∨
        handle ∈ manager.references ∨
          ∃ call ∈ manager.calls, handle ∈ call.refersTo := by
  cases map : manager.mEvents with
  | none =>
      simp [refersTo, tracked, map]
  | some futures =>
      simp [refersTo, tracked, map, or_assoc]

/-- Untracking keeps the other futures in their order. -/
theorem tracked_untrack
    (manager : EventManager)
    (futureIDs : List FutureID) :
    (manager.untrack futureIDs).tracked =
      manager.tracked.filter fun future =>
        future.futureID ∉ futureIDs := by
  cases map : manager.mEvents <;> simp [tracked, untrack, map]

/-- Nothing but the new future enters the map, if there is one. -/
theorem tracked_emplace_subset
    (manager : EventManager)
    (future : TrackedFuture) :
    (manager.emplace future).tracked ⊆ manager.tracked ++ [future] := by
  cases map : manager.mEvents <;> simp [tracked, emplace, map]

/-- What a step may refer to. -/
structure RefersWithin (before after : EventManager) : Prop where
  tracked :
    ∀ future ∈ after.tracked, before.refersTo future.event = true
  references :
    ∀ handle ∈ after.references, before.refersTo handle = true
  calls :
    ∀ call ∈ after.calls, ∀ handle ∈ call.refersTo,
      before.refersTo handle = true

/-- What is referred to after such a step was referred to before. -/
theorem RefersWithin.refersTo
    {before after : EventManager}
    (within : RefersWithin before after)
    {handle : Nat}
    (refers : after.refersTo handle = true) :
    before.refersTo handle = true := by
  rcases refersTo_iff.mp refers with
    ⟨future, member, rfl⟩ | held | ⟨call, underWay, member⟩
  · exact within.tracked future member
  · exact within.references handle held
  · exact within.calls call underWay handle member

/-- The map refers to its events. -/
theorem refersTo_of_tracked
    {future : TrackedFuture}
    (member : future ∈ manager.tracked) :
    manager.refersTo future.event = true :=
  refersTo_iff.mpr (Or.inl ⟨future, member, rfl⟩)

/-- A caller refers to the events it holds. -/
theorem refersTo_of_reference
    {handle : Nat}
    (held : handle ∈ manager.references) :
    manager.refersTo handle = true :=
  refersTo_iff.mpr (Or.inr (Or.inl held))

/-- A call under way refers to the events it keeps. -/
theorem refersTo_of_call
    {call : CallUnderWay}
    {handle : Nat}
    (underWay : call ∈ manager.calls)
    (member : handle ∈ call.refersTo) :
    manager.refersTo handle = true :=
  refersTo_iff.mpr (Or.inr (Or.inr ⟨call, underWay, member⟩))

namespace RefersWithin

/-- Doing nothing refers to nothing new. -/
theorem refl (manager : EventManager) : RefersWithin manager manager where
  tracked := fun _ member => refersTo_of_tracked member
  references := fun _ held => refersTo_of_reference held
  calls := fun _ underWay _ member => refersTo_of_call underWay member

/-- Nothing new is referred to when the parts only lose entries. -/
theorem of_subset
    {before middle after : EventManager}
    (within : RefersWithin before middle)
    (tracked : after.tracked ⊆ middle.tracked)
    (references : after.references ⊆ middle.references)
    (calls : after.calls = middle.calls) :
    RefersWithin before after where
  tracked := fun future member => within.tracked future (tracked member)
  references := fun handle held => within.references handle (references held)
  calls := by
    rw [calls]
    exact within.calls

/-- Untracking refers to nothing new. -/
theorem untrack
    {before after : EventManager}
    (within : RefersWithin before after)
    (futureIDs : List FutureID) :
    RefersWithin before (after.untrack futureIDs) := by
  refine within.of_subset ?_ (List.Subset.refl _) rfl
  intro future member
  rw [tracked_untrack] at member
  exact (List.mem_filter.mp member).1

/-- A new call may keep what was referred to. -/
theorem addCall
    {before after : EventManager}
    (within : RefersWithin before after)
    {call : CallUnderWay}
    (callWithin :
      ∀ handle ∈ call.refersTo, before.refersTo handle = true) :
    RefersWithin before (after.addCall call) where
  tracked := within.tracked
  references := within.references
  calls := by
    intro other member handle referred
    rcases List.mem_append.mp member with old | new
    · exact within.calls other old handle referred
    · rw [List.mem_singleton] at new
      subst new
      exact callWithin handle referred

/-- A call that goes on may keep what was referred to. -/
theorem setCall
    {before after : EventManager}
    (within : RefersWithin before after)
    {index : Nat}
    {call : CallUnderWay}
    (callWithin :
      ∀ handle ∈ call.refersTo, before.refersTo handle = true) :
    RefersWithin before (after.setCall index call) where
  tracked := within.tracked
  references := within.references
  calls := by
    intro other member handle referred
    rcases List.mem_or_eq_of_mem_set member with old | rfl
    · exact within.calls other old handle referred
    · exact callWithin handle referred

/-- Polling the queues changes no reference. -/
theorem poll
    (manager : EventManager)
    (answer : PollAnswer)
    (futures : List TrackedFuture) :
    RefersWithin manager (manager.poll answer futures) :=
  (refl manager).of_subset (List.Subset.refl _) (List.Subset.refl _) rfl

/-- Completing an event changes no reference. -/
theorem ensureComplete
    {before after : EventManager}
    (within : RefersWithin before after)
    (handle : Nat)
    (completionType : EventCompletionType) :
    RefersWithin before (after.ensureComplete handle completionType) := by
  refine within.of_subset ?_ ?_ ?_
  · simp [EventManager.tracked]
  · simp
  · simp

end RefersWithin

/-- The reference that the caller gave up is now kept by the call. -/
theorem refersWithin_trackEvent
    {handle : Nat}
    (event : TrackedEvent)
    (held : handle ∈ manager.references) :
    RefersWithin manager (manager.trackEvent handle event).2 := by
  have assigned :
      RefersWithin manager (manager.assignFutureID handle event) :=
    (RefersWithin.refl manager).of_subset (List.Subset.refl _)
      List.erase_subset rfl
  apply assigned.addCall
  intro other member
  obtain rfl := List.mem_singleton.mp member
  exact refersTo_of_reference held

/-- The reference that the call kept is now kept by the map. -/
theorem refersWithin_insertTracked
    {index : Nat}
    {future : TrackedFuture}
    (underWay : manager.calls[index]? = some (.inserting future)) :
    RefersWithin manager (manager.insertTracked index future) := by
  have unchanged := RefersWithin.refl manager
  have emplaced : RefersWithin manager (manager.emplace future) := by
    refine ⟨?_, unchanged.references, unchanged.calls⟩
    intro other member
    rcases List.mem_append.mp (tracked_emplace_subset manager future member)
      with old | new
    · exact refersTo_of_tracked old
    · obtain rfl := List.mem_singleton.mp new
      apply refersTo_of_call (List.mem_of_getElem? underWay)
      exact List.mem_singleton_self _
  apply emplaced.setCall
  simp [CallUnderWay.refersTo]

/-- What is referred to was referred to before, or was made by the step. -/
theorem refersTo_of_performs
    {label : Label}
    (performs : Performs manager label next)
    {handle : Nat}
    (refers : next.refersTo handle = true) :
    manager.refersTo handle = true ∨
      handle = manager.events.length ∧ handle < next.events.length := by
  have unchanged := RefersWithin.refl manager
  cases performs with
  | create mCallbackMode mCompletionData =>
      rcases refersTo_iff.mp refers with inMap | held | inCall
      · exact Or.inl (refersTo_iff.mpr (Or.inl inMap))
      · rcases List.mem_append.mp held with old | new
        · exact Or.inl (refersTo_of_reference old)
        · right
          rw [List.mem_singleton] at new
          simp [create, new]
      · exact Or.inl (refersTo_iff.mpr (Or.inr (Or.inr inCall)))
  | addReference held =>
      left
      apply RefersWithin.refersTo _ refers
      refine ⟨unchanged.tracked, ?_, unchanged.calls⟩
      intro other member
      rcases List.mem_cons.mp member with rfl | old
      · exact refersTo_of_reference held
      · exact refersTo_of_reference old
  | release held =>
      left
      apply RefersWithin.refersTo _ refers
      exact
        unchanged.of_subset (List.Subset.refl _) List.erase_subset rfl
  | @trackEvent handle event found held untracked =>
      exact Or.inl ((refersWithin_trackEvent event held).refersTo refers)
  | @setFutureReady handle event found held =>
      left
      have signaled : RefersWithin manager (manager.signal handle event) :=
        unchanged.of_subset (List.Subset.refl _) (List.Subset.refl _) rfl
      refine RefersWithin.refersTo (signaled.addCall ?_) refers
      intro other member
      obtain rfl := List.mem_singleton.mp member
      exact refersTo_of_reference held
  | advance queue serial =>
      exact Or.inl refers
  | @processPollEvents answer iteration events map iterates =>
      left
      rcases processPollEvents_cases manager answer iteration with
        ⟨_, same⟩ | ⟨_, same⟩ | same
      · rw [same] at refers
        exact refers
      · rw [same] at refers
        exact refers
      · rw [same] at refers
        refine
          RefersWithin.refersTo
            (((RefersWithin.poll ..).untrack _).addCall ?_) refers
        intro other member
        simp only [CallUnderWay.refersTo, List.append_nil, List.mem_map,
          mem_prepareReadyCallbacks] at member
        obtain ⟨future, ready, rfl⟩ := member
        have iterated : future ∈ iteration :=
          (List.mem_filter.mp (mem_of_mem_readyFutures ready)).1
        apply refersTo_of_tracked
        simpa [tracked, map] using iterates.mem_iff.mp iterated
  | @waitAny infos timeout events map =>
      left
      rcases waitAny_cases manager events infos timeout with
        same | ⟨futures, found, same⟩
      · rw [same] at refers
        exact refers
      · rw [same] at refers
        refine RefersWithin.refersTo (unchanged.addCall ?_) refers
        intro other member
        obtain ⟨future, waited, rfl⟩ := List.mem_map.mp member
        apply refersTo_of_tracked
        simpa [tracked, map] using (found future waited).1
  | @finishWait index answer futures timeout underWay =>
      left
      have waited :
          ∀ future ∈ futures, manager.refersTo future.event = true := by
        intro future member
        exact
          refersTo_of_call (List.mem_of_getElem? underWay)
            (List.mem_map_of_mem member)
      have polled := RefersWithin.poll manager answer futures
      rcases finishWait_cases manager index futures timeout answer with
        same | same | same
      · rw [same] at refers
        refine RefersWithin.refersTo (unchanged.setCall ?_) refers
        simp [CallUnderWay.refersTo]
      · rw [same] at refers
        refine RefersWithin.refersTo (polled.setCall ?_) refers
        simp [CallUnderWay.refersTo]
      · rw [same] at refers
        refine
          RefersWithin.refersTo ((polled.untrack _).setCall ?_) refers
        intro other member
        rcases List.mem_append.mp member with completable | waiting
        · obtain ⟨future, ready, rfl⟩ := List.mem_map.mp completable
          rw [mem_prepareReadyCallbacks] at ready
          apply waited
          exact mem_of_mem_readyFutures (mem_readyFutures_of_reported ready)
        · obtain ⟨future, inFutures, rfl⟩ := List.mem_map.mp waiting
          exact waited future inFutures
  | @checkTracked index future event underWay found =>
      left
      have kept : manager.refersTo future.event = true := by
        apply refersTo_of_call (List.mem_of_getElem? underWay)
        exact List.mem_singleton_self _
      rcases checkTracked_cases manager index future event with
        ⟨_, _, same⟩ | same
      · rw [same] at refers
        refine RefersWithin.refersTo (unchanged.setCall ?_) refers
        simpa [CallUnderWay.refersTo] using kept
      · rw [same] at refers
        refine RefersWithin.refersTo (unchanged.setCall ?_) refers
        simpa [CallUnderWay.refersTo] using kept
  | insertTracked underWay =>
      exact Or.inl ((refersWithin_insertTracked underWay).refersTo refers)
  | @finishSetFutureReady index handle event underWay found =>
      left
      have kept : manager.refersTo handle = true := by
        apply refersTo_of_call (List.mem_of_getElem? underWay)
        exact List.mem_singleton_self _
      rcases finishSetFutureReady_cases manager index handle event with
        ⟨_, _, same⟩ | same
      · rw [same] at refers
        refine
          RefersWithin.refersTo ((unchanged.untrack _).setCall ?_) refers
        simpa [CallUnderWay.refersTo] using kept
      · rw [same] at refers
        refine RefersWithin.refersTo (unchanged.setCall ?_) refers
        simp [CallUnderWay.refersTo]
  | @callNext index handle rest others underWay =>
      left
      have called := unchanged.ensureComplete handle .Ready
      refine RefersWithin.refersTo (called.setCall ?_) refers
      intro other member
      apply refersTo_of_call (List.mem_of_getElem? underWay)
      exact List.mem_cons_of_mem _ member
  | callReturns underWay =>
      left
      refine RefersWithin.refersTo (unchanged.setCall ?_) refers
      simp [CallUnderWay.refersTo]
  | shutDown =>
      left
      apply RefersWithin.refersTo _ refers
      refine unchanged.of_subset ?_ (List.Subset.refl _) rfl
      simp [tracked, shutDown]

/-- A step performs its label and then destroys what nothing refers to. -/
theorem performs_of_step
    {label : Label}
    (stepped : manager.step? label = some next) :
    ∃ performed,
      Performs manager label performed ∧
        next = performed.destroyUnreferenced := by
  obtain ⟨performed, eq, same⟩ := Option.map_eq_some_iff.mp stepped
  exact ⟨performed, performs_of_perform eq, same.symm⟩

/-- Events only advance before unreferenced ones are destroyed. -/
theorem advances_of_performs
    {label : Label}
    (performs : Performs manager label next) :
    Advances manager next := by
  cases performs with
  | create mCallbackMode mCompletionData =>
      constructor
      · intro handle event found
        have inside : handle < manager.events.length :=
          (List.getElem?_eq_some_iff.mp found).1
        refine ⟨event, ?_, rfl, CompletionData.Becomes.refl _⟩
        rw [create, List.getElem?_append_left inside, found]
      · exact fun _ => le_rfl
      · exact fun _ wasLost => wasLost
  | addReference held =>
      exact Advances.of_eq rfl rfl rfl
  | release held =>
      exact Advances.of_eq rfl rfl rfl
  | trackEvent found held untracked =>
      exact
        (advances_assignFutureID found).trans (Advances.of_eq rfl rfl rfl)
  | setFutureReady found held =>
      exact (advances_signal found).trans (Advances.of_eq rfl rfl rfl)
  | advance queue serial =>
      constructor
      · exact fun {_ event} found =>
          ⟨event, found, rfl, CompletionData.Becomes.refl _⟩
      · intro other
        by_cases same : other = queue
        · subst same
          simp
        · simp [Function.update_of_ne same]
      · exact fun _ wasLost => wasLost
  | @processPollEvents answer iteration _ map iterates =>
      have polled :=
        advances_poll manager answer (iteration.filter manager.isPollable)
      rcases processPollEvents_cases manager answer iteration with
        ⟨_, same⟩ | ⟨_, same⟩ | same
      · rw [same]
        exact Advances.refl manager
      · rw [same]
        exact polled
      · rw [same]
        exact polled.trans (Advances.of_eq rfl rfl rfl)
  | @waitAny infos timeout events map =>
      rcases waitAny_cases manager events infos timeout with
        same | ⟨_, _, same⟩
      · rw [same]
        exact Advances.refl manager
      · rw [same]
        exact Advances.of_eq rfl rfl rfl
  | @finishWait index answer futures timeout underWay =>
      have polled := advances_poll manager answer futures
      rcases finishWait_cases manager index futures timeout answer with
        same | same | same
      · rw [same]
        exact Advances.of_eq rfl rfl rfl
      · rw [same]
        exact polled.trans (Advances.of_eq rfl rfl rfl)
      · rw [same]
        exact polled.trans (Advances.of_eq rfl rfl rfl)
  | @checkTracked index future event underWay found =>
      rcases checkTracked_cases manager index future event with
        ⟨_, _, same⟩ | same
      · rw [same]
        exact Advances.of_eq rfl rfl rfl
      · rw [same]
        exact Advances.of_eq rfl rfl rfl
  | insertTracked underWay =>
      exact Advances.of_eq rfl rfl rfl
  | @finishSetFutureReady index handle event underWay found =>
      rcases finishSetFutureReady_cases manager index handle event with
        ⟨_, _, same⟩ | same
      · rw [same]
        exact Advances.of_eq rfl rfl rfl
      · rw [same]
        exact Advances.of_eq rfl rfl rfl
  | @callNext index handle _ _ underWay =>
      exact
        (advances_ensureComplete manager handle .Ready).trans
          (Advances.of_eq rfl rfl rfl)
  | callReturns underWay =>
      exact Advances.of_eq rfl rfl rfl
  | shutDown =>
      exact Advances.of_eq rfl rfl rfl

/-- Events only advance. -/
theorem advances_of_step
    {label : Label}
    (stepped : manager.step? label = some next) :
    Advances manager next := by
  obtain ⟨performed, performs, rfl⟩ := performs_of_step stepped
  exact
    (advances_of_performs performs).trans
      (advances_destroyUnreferenced performed)

end EventManager

end Teck.Dawn
