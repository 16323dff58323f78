import Teck.Dawn.EventSteps
import Teck.Library.Runs

namespace Teck.Dawn

/-!
# Callbacks of events

The callback of an event is called exactly once.  It is called with `Ready`
only after the event has settled, with `Shutdown` only when nothing refers to
the event any more, and it has been called when nothing refers to the event.
-/

/-- The events that a call under way is about to complete. -/
def CallUnderWay.due : CallUnderWay → List Nat
  | tracking _ => []
  | inserting _ => []
  | signaled _ => []
  | waiting _ _ => []
  | calling completable _ => completable

/-- A call refers to the events that it completes. -/
theorem CallUnderWay.refersTo_of_due
    {call : CallUnderWay}
    {handle : Nat}
    (isDue : handle ∈ call.due) :
    handle ∈ call.refersTo := by
  cases call with
  | tracking future =>
      cases isDue
  | inserting future =>
      cases isDue
  | signaled other =>
      cases isDue
  | waiting futures timeout =>
      cases isDue
  | calling completable others =>
      exact List.mem_append_left _ isDue

namespace EventManager

variable {manager next : EventManager}

/-! ## Once -/

/-- The callback of the event was called, as its flag says. -/
def isCompleted (manager : EventManager) (handle : Nat) : Bool :=
  (manager.events[handle]?).any TrackedEvent.mCompleted

/-- The handles whose callbacks were called, in the order of the calls. -/
def calledBack (manager : EventManager) : List Nat :=
  manager.callbacks.map Prod.fst

/-- The flags of the events say whose callbacks were called. -/
structure Logged (manager : EventManager) : Prop where
  nodup : manager.calledBack.Nodup
  mem_iff :
    ∀ handle,
      handle ∈ manager.calledBack ↔ manager.isCompleted handle = true

namespace Logged

/-- A step that changes neither a flag nor the log. -/
theorem of_same
    (logged : Logged manager)
    (sameLog : next.callbacks = manager.callbacks)
    (sameFlags :
      ∀ handle, next.isCompleted handle = manager.isCompleted handle) :
    Logged next where
  nodup := by
    rw [calledBack, sameLog]
    exact logged.nodup
  mem_iff := by
    intro handle
    rw [calledBack, sameLog, sameFlags]
    exact logged.mem_iff handle

/-- A step that changes neither an event nor the log. -/
theorem of_same_events
    (logged : Logged manager)
    (sameLog : next.callbacks = manager.callbacks)
    (sameEvents : next.events = manager.events) :
    Logged next :=
  logged.of_same sameLog fun handle => by
    rw [isCompleted, isCompleted, sameEvents]

/-- One event changes, but not its flag. -/
theorem of_set
    (logged : Logged manager)
    {handle : Nat}
    {event changed : TrackedEvent}
    (found : manager.events[handle]? = some event)
    (sameLog : next.callbacks = manager.callbacks)
    (events : next.events = manager.events.set handle changed)
    (sameFlag : changed.mCompleted = event.mCompleted) :
    Logged next := by
  apply logged.of_same sameLog
  intro other
  have inside : handle < manager.events.length :=
    (List.getElem?_eq_some_iff.mp found).1
  by_cases same : handle = other
  · subst same
    rw [isCompleted, isCompleted, events, List.getElem?_set_self inside,
      found]
    exact sameFlag
  · rw [isCompleted, isCompleted, events, List.getElem?_set_ne same]

/-- Completing an event logs it once and sets its flag. -/
theorem ensureComplete
    (logged : Logged manager)
    (handle : Nat)
    (completionType : EventCompletionType) :
    Logged (manager.ensureComplete handle completionType) := by
  rcases ensureComplete_cases manager handle completionType with
    same | ⟨event, found, flag, same⟩
  · rw [same]
    exact logged
  · have inside : handle < manager.events.length :=
      (List.getElem?_eq_some_iff.mp found).1
    have absent : handle ∉ manager.calledBack := by
      rw [logged.mem_iff]
      simp [isCompleted, found, flag]
    rw [same]
    constructor
    · simp only [calledBack, List.map_append, List.map_cons, List.map_nil]
      exact
        List.Nodup.append logged.nodup (List.nodup_singleton handle)
          (by simpa [calledBack] using absent)
    · intro other
      by_cases isHandle : handle = other
      · subst isHandle
        simp [calledBack, isCompleted, inside]
      · have unchanged := logged.mem_iff other
        simp only [calledBack, isCompleted] at unchanged ⊢
        rw [List.getElem?_set_ne isHandle, ← unchanged]
        simp [Ne.symm isHandle]

end Logged

/-- After completing an event its flag is set. -/
theorem isCompleted_ensureComplete
    {handle : Nat}
    (inside : handle < manager.events.length)
    (completionType : EventCompletionType) :
    (manager.ensureComplete handle completionType).isCompleted handle =
      true := by
  cases flag : (manager.events[handle]).mCompleted with
  | true =>
      simp [EventManager.ensureComplete, isCompleted, inside, flag]
  | false =>
      simp [EventManager.ensureComplete, isCompleted, inside, flag]

/-- What a step does keeps flags and log in step. -/
theorem Logged.of_performs
    {label : Label}
    (performs : Performs manager label next)
    (logged : Logged manager) :
    Logged next := by
  cases performs with
  | create mCallbackMode mCompletionData =>
      have sameLog :
          (manager.create mCallbackMode mCompletionData).callbacks =
            manager.callbacks :=
        rfl
      apply logged.of_same sameLog
      intro handle
      rcases Nat.lt_trichotomy handle manager.events.length with
        old | new | beyond
      · simp only [isCompleted, create]
        rw [List.getElem?_append_left old]
      · simp [isCompleted, create, new]
      · simp only [isCompleted, create]
        rw [List.getElem?_eq_none beyond.le, List.getElem?_eq_none]
        simpa using Nat.succ_le_of_lt beyond
  | addReference held =>
      exact logged.of_same_events rfl rfl
  | release held =>
      exact logged.of_same_events rfl rfl
  | @trackEvent handle event found held untracked =>
      have assigned : Logged (manager.assignFutureID handle event) :=
        logged.of_set found rfl rfl rfl
      exact assigned.of_same_events rfl rfl
  | @setFutureReady handle event found held =>
      have signaled : Logged (manager.signal handle event) :=
        logged.of_set found rfl rfl rfl
      exact signaled.of_same_events rfl rfl
  | advance queue serial =>
      exact logged.of_same_events rfl rfl
  | @processPollEvents answer iteration events map iterates =>
      rcases processPollEvents_cases manager answer iteration with
        ⟨_, same⟩ | ⟨_, same⟩ | same
      · rw [same]
        exact logged
      · rw [same]
        exact logged.of_same_events rfl rfl
      · rw [same]
        exact logged.of_same_events rfl rfl
  | @waitAny infos timeout events map =>
      rcases waitAny_cases manager events infos timeout with
        same | ⟨_, _, same⟩
      · rw [same]
        exact logged
      · rw [same]
        exact logged.of_same_events rfl rfl
  | @finishWait index answer futures timeout underWay =>
      rcases finishWait_cases manager index futures timeout answer with
        same | same | same
      · rw [same]
        exact logged.of_same_events rfl rfl
      · rw [same]
        exact logged.of_same_events rfl rfl
      · rw [same]
        exact logged.of_same_events rfl rfl
  | @checkTracked index future event underWay found =>
      rcases checkTracked_cases manager index future event with
        ⟨_, _, same⟩ | same
      · rw [same]
        exact logged.of_same_events rfl rfl
      · rw [same]
        exact logged.of_same_events rfl rfl
  | insertTracked underWay =>
      exact logged.of_same_events rfl rfl
  | @finishSetFutureReady index handle event underWay found =>
      rcases finishSetFutureReady_cases manager index handle event with
        ⟨_, _, same⟩ | same
      · rw [same]
        exact logged.of_same_events rfl rfl
      · rw [same]
        exact logged.of_same_events rfl rfl
  | @callNext index handle rest others underWay =>
      exact (logged.ensureComplete handle .Ready).of_same_events rfl rfl
  | callReturns underWay =>
      exact logged.of_same_events rfl rfl
  | shutDown =>
      exact logged.of_same_events rfl rfl

/-- Destroying events keeps flags and log in step. -/
theorem Logged.destroyUnreferenced
    (logged : Logged manager) :
    Logged manager.destroyUnreferenced :=
  destroyUnreferenced_induction logged
    fun {_ handle} currentLogged _ =>
      currentLogged.ensureComplete handle .Shutdown

/-! ## Only settled events are ready -/

/--
The event has been signaled, its serial has completed or its queue is lost; a
spontaneous one may also have been announced by `SetFutureReady`.
-/
def Settled
    (announced : Nat → Prop)
    (manager : EventManager)
    (handle : Nat) : Prop :=
  ∃ event,
    manager.events[handle]? = some event ∧
      (manager.isComplete event.mCompletionData = true ∨
        event.mCompletionData.queue?.any manager.lost = true ∨
          event.mCallbackMode = .AllowSpontaneous ∧ announced handle)

/-- What an event waited for stays complete. -/
theorem Advances.isComplete
    (advances : Advances manager next)
    {before after : CompletionData}
    (becomes : before.Becomes after)
    (complete : manager.isComplete before = true) :
    next.isComplete after = true := by
  cases before with
  | systemEvent mSignaled isProgressing =>
      rcases becomes with rfl | rfl
      · exact complete
      · rfl
  | queueAndSerial queue completionSerial =>
      rw [becomes.eq_of_queueAndSerial]
      simp only [EventManager.isComplete, decide_eq_true_eq] at complete ⊢
      exact complete.trans (advances.completedSerial queue)

/-- An event that has settled stays settled. -/
theorem Settled.of_advances
    {announced : Nat → Prop}
    {handle : Nat}
    (settled : Settled announced manager handle)
    (advances : Advances manager next) :
    Settled announced next handle := by
  obtain ⟨event, found, reason⟩ := settled
  obtain ⟨later, foundLater, sameMode, becomes⟩ := advances.event found
  refine ⟨later, foundLater, ?_⟩
  rcases reason with complete | wasLost | ⟨spontaneous, told⟩
  · exact Or.inl (advances.isComplete becomes complete)
  · right
    left
    rw [becomes.queue?_eq]
    obtain ⟨queue, isQueue, queueLost⟩ := (Option.any_eq_true ..).mp wasLost
    exact
      (Option.any_eq_true ..).mpr
        ⟨queue, isQueue, advances.lost queue queueLost⟩
  · exact Or.inr (Or.inr ⟨sameMode.trans spontaneous, told⟩)

/-- The call completes settled events, and has signaled an announced one. -/
def MayComplete
    (announced : Nat → Prop)
    (manager : EventManager) : CallUnderWay → Prop
  | .calling completable _ =>
      ∀ handle ∈ completable, Settled announced manager handle
  | .signaled handle => announced handle
  | _ => True

/-- A call that may complete its events may still do so. -/
theorem MayComplete.of_advances
    {announced : Nat → Prop}
    {call : CallUnderWay}
    (may : MayComplete announced manager call)
    (advances : Advances manager next) :
    MayComplete announced next call := by
  cases call with
  | calling completable others =>
      exact fun handle isDue => (may handle isDue).of_advances advances
  | signaled handle =>
      exact may
  | tracking future =>
      trivial
  | inserting future =>
      trivial
  | waiting futures timeout =>
      trivial

/-- Every event called `Ready`, or about to be, has settled. -/
structure Warranted
    (announced : Nat → Prop)
    (manager : EventManager) : Prop where
  called :
    ∀ handle,
      (handle, .Ready) ∈ manager.callbacks →
      Settled announced manager handle
  calls : ∀ call ∈ manager.calls, MayComplete announced manager call

namespace Warranted

variable {announced : Nat → Prop}

/-- Nothing is called, and only settled events become due. -/
theorem of_advances
    (warranted : Warranted announced manager)
    (advances : Advances manager next)
    (sameLog : next.callbacks = manager.callbacks)
    (calls :
      ∀ call ∈ next.calls,
        call ∈ manager.calls ∨ MayComplete announced next call) :
    Warranted announced next where
  called := by
    intro handle member
    rw [sameLog] at member
    exact (warranted.called handle member).of_advances advances
  calls := by
    intro call member
    rcases calls call member with old | may
    · exact (warranted.calls call old).of_advances advances
    · exact may

/-- Completing an event as `Ready` needs that it has settled. -/
theorem ensureComplete
    (warranted : Warranted announced manager)
    {handle : Nat}
    {completionType : EventCompletionType}
    (settled :
      completionType = .Ready → Settled announced manager handle) :
    Warranted announced (manager.ensureComplete handle completionType) := by
  have advances := advances_ensureComplete manager handle completionType
  obtain ⟨called, log, fresh⟩ :=
    callbacks_ensureComplete manager handle completionType
  constructor
  · intro other member
    rw [log] at member
    rcases List.mem_append.mp member with old | new
    · exact (warranted.called other old).of_advances advances
    · obtain ⟨rfl, rfl⟩ := Prod.mk.inj (fresh _ new)
      exact (settled rfl).of_advances advances
  · intro call member
    rw [ensureComplete_calls] at member
    exact (warranted.calls call member).of_advances advances

/-- What a call finds ready has settled. -/
theorem settled_of_mem_readyFutures
    {answer : PollAnswer}
    {futures : List TrackedFuture}
    {future : TrackedFuture}
    (ready : future ∈ manager.readyFutures answer futures) :
    Settled announced (manager.poll answer futures) future.event := by
  have found_ready := (List.mem_filter.mp ready).2
  simp only [isReady, completionData?, Option.any_map, Option.any_eq_true,
    Bool.or_eq_true] at found_ready
  obtain ⟨event, found, complete | failed⟩ := found_ready
  · exact ⟨event, found, Or.inl complete⟩
  · refine ⟨event, found, Or.inr (Or.inl ?_)⟩
    obtain ⟨queue, isQueue, queueFailed⟩ := failed
    refine (Option.any_eq_true ..).mpr ⟨queue, isQueue, ?_⟩
    simp [poll, queueFailed]

/-- A call goes on with settled events. -/
theorem setCall
    (warranted : Warranted announced manager)
    {index : Nat}
    {call : CallUnderWay}
    (may : MayComplete announced manager call) :
    Warranted announced (manager.setCall index call) := by
  have advances : Advances manager (manager.setCall index call) :=
    Advances.of_eq rfl rfl rfl
  apply warranted.of_advances advances rfl
  intro other member
  rcases List.mem_or_eq_of_mem_set member with old | rfl
  · exact Or.inl old
  · exact Or.inr (may.of_advances advances)

/-- A call begins with settled events. -/
theorem addCall
    (warranted : Warranted announced manager)
    {call : CallUnderWay}
    (may : MayComplete announced manager call) :
    Warranted announced (manager.addCall call) := by
  have advances : Advances manager (manager.addCall call) :=
    Advances.of_eq rfl rfl rfl
  apply warranted.of_advances advances rfl
  intro other member
  rcases List.mem_append.mp member with old | new
  · exact Or.inl old
  · obtain rfl := List.mem_singleton.mp new
    exact Or.inr (may.of_advances advances)

/-- Polling the queues completes nothing. -/
theorem poll
    (warranted : Warranted announced manager)
    (answer : PollAnswer)
    (futures : List TrackedFuture) :
    Warranted announced (manager.poll answer futures) :=
  warranted.of_advances (advances_poll ..) rfl fun _ => Or.inl

/-- Untracking completes nothing. -/
theorem untrack
    (warranted : Warranted announced manager)
    (futureIDs : List FutureID) :
    Warranted announced (manager.untrack futureIDs) :=
  warranted.of_advances (Advances.of_eq rfl rfl rfl) rfl fun _ => Or.inl

/-- What a step does calls only settled events. -/
theorem of_performs
    {label : Label}
    (performs : Performs manager label next)
    (told : ∀ handle, label = .setFutureReady handle → announced handle)
    (warranted : Warranted announced manager) :
    Warranted announced next := by
  have advances := advances_of_performs performs
  cases performs with
  | create mCallbackMode mCompletionData =>
      exact warranted.of_advances advances rfl fun _ => Or.inl
  | addReference held =>
      exact warranted.of_advances advances rfl fun _ => Or.inl
  | release held =>
      exact warranted.of_advances advances rfl fun _ => Or.inl
  | @trackEvent handle event found held untracked =>
      have assigned :
          Warranted announced (manager.assignFutureID handle event) :=
        warranted.of_advances (advances_assignFutureID found) rfl
          fun _ => Or.inl
      exact assigned.addCall trivial
  | @setFutureReady handle event found held =>
      have signaled : Warranted announced (manager.signal handle event) :=
        warranted.of_advances (advances_signal found) rfl fun _ => Or.inl
      exact signaled.addCall (told handle rfl)
  | advance queue serial =>
      exact warranted.of_advances advances rfl fun _ => Or.inl
  | @processPollEvents answer iteration events map iterates =>
      have polled :=
        warranted.poll answer (iteration.filter manager.isPollable)
      rcases processPollEvents_cases manager answer iteration with
        ⟨_, same⟩ | ⟨_, same⟩ | same
      · rw [same]
        exact warranted
      · rw [same]
        exact polled
      · rw [same]
        apply (polled.untrack _).addCall
        intro handle isDue
        obtain ⟨future, ready, rfl⟩ := List.mem_map.mp isDue
        rw [mem_prepareReadyCallbacks] at ready
        exact settled_of_mem_readyFutures ready
  | @waitAny infos timeout events map =>
      rcases waitAny_cases manager events infos timeout with
        same | ⟨_, _, same⟩
      · rw [same]
        exact warranted
      · rw [same]
        exact warranted.addCall trivial
  | @finishWait index answer futures timeout underWay =>
      have polled := warranted.poll answer futures
      rcases finishWait_cases manager index futures timeout answer with
        same | same | same
      · rw [same]
        exact warranted.setCall (by simp [MayComplete])
      · rw [same]
        exact polled.setCall (by simp [MayComplete])
      · rw [same]
        apply (polled.untrack _).setCall
        intro handle isDue
        obtain ⟨future, ready, rfl⟩ := List.mem_map.mp isDue
        rw [mem_prepareReadyCallbacks] at ready
        exact
          settled_of_mem_readyFutures (mem_readyFutures_of_reported ready)
  | @checkTracked index future event underWay found =>
      rcases checkTracked_cases manager index future event with
        ⟨_, isComplete, same⟩ | same
      · rw [same]
        apply warranted.setCall
        intro handle isDue
        obtain rfl := List.mem_singleton.mp isDue
        exact ⟨event, found, Or.inl isComplete⟩
      · rw [same]
        exact warranted.setCall trivial
  | @insertTracked index future underWay =>
      have emplaced : Warranted announced (manager.emplace future) :=
        warranted.of_advances (Advances.of_eq rfl rfl rfl) rfl
          fun _ => Or.inl
      exact emplaced.setCall (by simp [MayComplete])
  | @finishSetFutureReady index handle event underWay found =>
      have wasAnnounced : announced handle :=
        warranted.calls _ (List.mem_of_getElem? underWay)
      rcases finishSetFutureReady_cases manager index handle event with
        ⟨_, spontaneous, same⟩ | same
      · rw [same]
        apply (warranted.untrack _).setCall
        intro other isDue
        obtain rfl := List.mem_singleton.mp isDue
        exact ⟨event, found, Or.inr (Or.inr ⟨spontaneous, wasAnnounced⟩)⟩
      · rw [same]
        exact warranted.setCall (by simp [MayComplete])
  | @callNext index handle rest others underWay =>
      have settled :
          ∀ other ∈ handle :: rest, Settled announced manager other :=
        warranted.calls _ (List.mem_of_getElem? underWay)
      have called :
          Warranted announced (manager.ensureComplete handle .Ready) :=
        warranted.ensureComplete fun _ => settled handle (List.mem_cons_self ..)
      apply called.setCall
      intro other isDue
      exact
        (settled other (List.mem_cons_of_mem _ isDue)).of_advances
          (advances_ensureComplete ..)
  | callReturns underWay =>
      exact warranted.setCall (by simp [MayComplete])
  | shutDown =>
      exact warranted.of_advances advances rfl fun _ => Or.inl

end Warranted

/-! ## Never forgotten -/

/-- A step only calls `Ready` callbacks before it destroys events. -/
theorem callbacks_of_performs
    {label : Label}
    (performs : Performs manager label next) :
    ∃ called,
      next.callbacks = manager.callbacks ++ called ∧
        ∀ callback ∈ called, callback.2 = .Ready := by
  have quiet :
      ∃ called,
        manager.callbacks = manager.callbacks ++ called ∧
          ∀ callback ∈ called, callback.2 = EventCompletionType.Ready :=
    ⟨[], by simp, by simp⟩
  have completes :
      ∀ (current : EventManager) (handle : Nat),
        current.callbacks = manager.callbacks →
        ∃ called,
          (current.ensureComplete handle .Ready).callbacks =
              manager.callbacks ++ called ∧
            ∀ callback ∈ called, callback.2 = EventCompletionType.Ready := by
    intro current handle same
    obtain ⟨called, log, fresh⟩ :=
      callbacks_ensureComplete current handle .Ready
    refine ⟨called, by rw [log, same], ?_⟩
    intro callback member
    rw [fresh callback member]
  cases performs with
  | create mCallbackMode mCompletionData =>
      exact quiet
  | addReference held =>
      exact quiet
  | release held =>
      exact quiet
  | trackEvent found held untracked =>
      exact quiet
  | setFutureReady found held =>
      exact quiet
  | advance queue serial =>
      exact quiet
  | @processPollEvents answer iteration events map iterates =>
      rcases processPollEvents_cases manager answer iteration with
        ⟨_, same⟩ | ⟨_, same⟩ | same <;> rw [same] <;> exact quiet
  | @waitAny infos timeout events map =>
      rcases waitAny_cases manager events infos timeout with
        same | ⟨_, _, same⟩ <;> rw [same] <;> exact quiet
  | @finishWait index answer futures timeout underWay =>
      rcases finishWait_cases manager index futures timeout answer with
        same | same | same <;> rw [same] <;> exact quiet
  | @checkTracked index future event underWay found =>
      rcases checkTracked_cases manager index future event with
        ⟨_, _, same⟩ | same <;> rw [same] <;> exact quiet
  | insertTracked underWay =>
      exact quiet
  | @finishSetFutureReady index handle event underWay found =>
      rcases finishSetFutureReady_cases manager index handle event with
        ⟨_, _, same⟩ | same <;> rw [same] <;> exact quiet
  | @callNext index handle rest others underWay =>
      exact completes manager handle rfl
  | callReturns underWay =>
      exact quiet
  | shutDown =>
      exact quiet

/-- An event stays completed when another one is. -/
theorem isCompleted_of_ensureComplete
    {handle other : Nat}
    {completionType : EventCompletionType}
    (completed : manager.isCompleted handle = true) :
    (manager.ensureComplete other completionType).isCompleted handle =
      true := by
  by_cases same : other = handle
  · subst same
    apply isCompleted_ensureComplete
    obtain ⟨event, found, _⟩ := (Option.any_eq_true ..).mp completed
    exact (List.getElem?_eq_some_iff.mp found).1
  · rcases ensureComplete_cases manager other completionType with
      unchanged | ⟨_, _, _, changed⟩
    · rw [unchanged]
      exact completed
    · rw [changed, isCompleted, List.getElem?_set_ne same]
      exact completed

/-- An event that nothing refers to has been completed once it is destroyed. -/
theorem isCompleted_destroyUnreferenced
    {handle : Nat}
    (inside : handle < manager.events.length)
    (unreferenced : manager.refersTo handle = false) :
    manager.destroyUnreferenced.isCompleted handle = true := by
  have all :
      ∀ (handles : List Nat) (current : EventManager),
        current.events.length = manager.events.length →
        current.refersTo = manager.refersTo →
        handle ∈ handles ∨ current.isCompleted handle = true →
        (handles.foldl destroy current).isCompleted handle = true := by
    intro handles
    induction handles with
    | nil =>
        intro current _ _ either
        simpa using either
    | cons first rest inductionHypothesis =>
        intro current sameLength sameRefers either
        rw [List.foldl_cons]
        rcases destroy_cases current first with
          ⟨referred, same⟩ | ⟨_, same⟩
        · rw [same]
          apply inductionHypothesis current sameLength sameRefers
          refine either.imp_left fun member => ?_
          rcases List.mem_cons.mp member with isFirst | inRest
          · rw [← isFirst, sameRefers, unreferenced] at referred
            cases referred
          · exact inRest
        · rw [same]
          apply inductionHypothesis
          · rw [length_events_ensureComplete, sameLength]
          · rw [refersTo_ensureComplete, sameRefers]
          · rcases either with member | completed
            · rcases List.mem_cons.mp member with isFirst | inRest
              · right
                rw [← isFirst]
                apply isCompleted_ensureComplete
                rw [sameLength]
                exact inside
              · exact Or.inl inRest
            · exact Or.inr (isCompleted_of_ensureComplete completed)
  apply all _ manager rfl rfl
  exact Or.inl (List.mem_range.mpr inside)

/-- What is not referred to has been called back, and no event is revived. -/
structure Released (manager : EventManager) : Prop where
  inside :
    ∀ handle,
      manager.refersTo handle = true → handle < manager.events.length
  called :
    ∀ handle < manager.events.length,
      manager.refersTo handle = true ∨ handle ∈ manager.calledBack
  shutdown :
    ∀ handle,
      (handle, .Shutdown) ∈ manager.callbacks →
      manager.refersTo handle = false

/-- Only events that were made are called back. -/
theorem Logged.lt_length
    (logged : Logged manager)
    {handle : Nat}
    (member : handle ∈ manager.calledBack) :
    handle < manager.events.length := by
  have completed := (logged.mem_iff handle).mp member
  obtain ⟨event, found, _⟩ := (Option.any_eq_true ..).mp completed
  exact (List.getElem?_eq_some_iff.mp found).1

/-- No event is unmade. -/
theorem Advances.length_le
    (advances : Advances manager next) :
    manager.events.length ≤ next.events.length := by
  by_contra shorter
  have last : next.events.length < manager.events.length :=
    Nat.lt_of_not_le shorter
  obtain ⟨later, found, _⟩ :=
    advances.event (List.getElem?_eq_getElem last)
  exact absurd (List.getElem?_eq_some_iff.mp found).1 (Nat.lt_irrefl _)

/-- A step calls back what it stops referring to. -/
theorem Released.of_step
    {label : Label}
    (stepped : manager.step? label = some next)
    (logged : Logged manager)
    (released : Released manager) :
    Released next := by
  obtain ⟨performed, performs, rfl⟩ := performs_of_step stepped
  have same := onlyDestroys_destroyUnreferenced performed
  have nextLogged := (Logged.of_performs performs logged).destroyUnreferenced
  constructor
  · intro handle refers
    rw [same.refersTo] at refers
    rw [same.length]
    rcases refersTo_of_performs performs refers with before | ⟨_, inside⟩
    · exact
        (released.inside handle before).trans_le
          (advances_of_performs performs).length_le
    · exact inside
  · intro handle inside
    rw [same.length] at inside
    rw [same.refersTo]
    cases referred : performed.refersTo handle with
    | true =>
        exact Or.inl rfl
    | false =>
        right
        rw [nextLogged.mem_iff]
        exact isCompleted_destroyUnreferenced inside referred
  · intro handle member
    rw [same.refersTo]
    obtain ⟨_, log, unreferenced⟩ := same.callbacks
    rw [log] at member
    rcases List.mem_append.mp member with before | new
    · obtain ⟨_, performedLog, allReady⟩ :=
        callbacks_of_performs performs
      rw [performedLog] at before
      rcases List.mem_append.mp before with old | ready
      · have wasInside : handle < manager.events.length :=
          logged.lt_length (List.mem_map_of_mem old)
        have wasReleased := released.shutdown handle old
        cases refers : performed.refersTo handle with
        | true =>
            rcases refersTo_of_performs performs refers with
              revived | ⟨isNew, _⟩
            · rw [wasReleased] at revived
              cases revived
            · exact absurd wasInside (by simp [isNew])
        | false =>
            rfl
      · cases allReady _ ready
    · exact (unreferenced _ new).2

/-! ## Runs -/

/-- The invariant of the callbacks. -/
structure Accounted
    (announced : Nat → Prop)
    (manager : EventManager) : Prop where
  logged : Logged manager
  warranted : Warranted announced manager
  released : Released manager

/-- A new manager has called nothing back. -/
theorem accounted_new
    (announced : Nat → Prop)
    (timedWaitAnyEnable : Bool) :
    Accounted announced (new timedWaitAnyEnable) where
  logged := ⟨by simp [calledBack, new], by simp [calledBack, isCompleted, new]⟩
  warranted := ⟨by simp [new], by simp [new]⟩
  released := ⟨by simp [refersTo, new], by simp [new], by simp [new]⟩

/-- Destroying events calls none of them `Ready`. -/
theorem Warranted.destroyUnreferenced
    {announced : Nat → Prop}
    (warranted : Warranted announced manager) :
    Warranted announced manager.destroyUnreferenced := by
  apply destroyUnreferenced_induction warranted
  intro current handle currentWarranted _
  apply currentWarranted.ensureComplete
  intro isReady
  cases isReady

/-- A step keeps the invariant of the callbacks. -/
theorem Accounted.of_step
    {announced : Nat → Prop}
    {label : Label}
    (told : ∀ handle, label = .setFutureReady handle → announced handle)
    (accounted : Accounted announced manager)
    (stepped : manager.step? label = some next) :
    Accounted announced next := by
  have released := accounted.released.of_step stepped accounted.logged
  obtain ⟨performed, performs, rfl⟩ := performs_of_step stepped
  exact
    ⟨(accounted.logged.of_performs performs).destroyUnreferenced,
      (accounted.warranted.of_performs performs told).destroyUnreferenced,
      released⟩

/-- What every run does with the callbacks of its events. -/
structure CallsBackOnce
    (labels : List Label)
    (manager : EventManager) : Prop where
  once : manager.calledBack.Nodup
  notForgotten :
    ∀ handle < manager.events.length,
      manager.refersTo handle = true ∨ handle ∈ manager.calledBack
  ready :
    ∀ handle,
      (handle, .Ready) ∈ manager.callbacks →
      Settled (fun told => .setFutureReady told ∈ labels) manager handle
  shutdown :
    ∀ handle,
      (handle, .Shutdown) ∈ manager.callbacks →
      manager.refersTo handle = false

/--
However calls of several threads, callbacks and completions interleave, every
event is called back once, and only after it has settled or was dropped.
-/
theorem callsBackOnce_of_run
    {timedWaitAnyEnable : Bool}
    {labels : List Label}
    {final : EventManager}
    (ran :
      Runs.run? step? (new timedWaitAnyEnable) labels = some final) :
    CallsBackOnce labels final := by
  have accounted :
      Accounted (fun told => .setFutureReady told ∈ labels) final := by
    apply
      Runs.invariant_of_run_of_allowed
        (fun {_ label _} inLabels holds stepped =>
          Accounted.of_step
            (fun handle same => by
              rw [← same]
              exact inLabels)
            holds stepped)
        (fun label member => member)
        (accounted_new _ timedWaitAnyEnable) ran
  exact
    ⟨accounted.logged.nodup, accounted.released.called,
      accounted.warranted.called, accounted.released.shutdown⟩

/--
Work on a queue is polled while another thread tracks a spontaneous event; a
third announces that one before it is in the map.
-/
def announcedMeanwhile : List Label :=
  [.create .AllowProcessEvents (.queueAndSerial 0 1),
    .create .AllowSpontaneous (.systemEvent false true),
    .create .WaitAnyOnly (.systemEvent false true),
    .trackEvent 0,
    .addReference 1,
    .trackEvent 1,
    .proceed 1,
    .proceed 0,
    .proceed 0,
    .trackEvent 2,
    .proceed 2,
    .proceed 2,
    .advance 0 1,
    .processPollEvents ⟨fun _ => 0, fun _ => false, fun _ => true⟩
      [⟨3, 2⟩, ⟨1, 0⟩],
    .setFutureReady 1,
    .proceed 4,
    .proceed 4,
    .proceed 1,
    .proceed 3,
    .shutDown]

/-- The spontaneous event is called first, the forgotten one last. -/
theorem callsBackOnce_of_run_announcedMeanwhile :
    ∃ final,
      Runs.run? step? (new false) announcedMeanwhile = some final ∧
        final.callbacks = [(1, .Ready), (0, .Ready), (2, .Shutdown)] ∧
          CallsBackOnce announcedMeanwhile final := by
  have ran :
      (Runs.run? step? (new false) announcedMeanwhile).map callbacks =
        some [(1, .Ready), (0, .Ready), (2, .Shutdown)] := by
    decide +kernel
  obtain ⟨final, reached, log⟩ := Option.map_eq_some_iff.mp ran
  exact ⟨final, reached, log, callsBackOnce_of_run reached⟩

end EventManager

end Teck.Dawn
