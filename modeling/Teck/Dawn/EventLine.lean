import Teck.Dawn.EventCallbacks
import Teck.Dawn.EventIdentifiers
import Teck.Library.Delivery

namespace Teck.Dawn

/-!
# The line of a queue

The events of a queue that are completed by polling stand in a line: first
those in the map, last one that `TrackEvent` has still to put there.  A poll
takes events from the front of the line and calls them.  `InLine` says that
they move on in the order in which they were tracked; this module has the steps
that do not disturb the line.
-/

/-- The future that a call to `TrackEvent` has still to put into the map. -/
def CallUnderWay.inserts : CallUnderWay → List TrackedFuture
  | tracking future => [future]
  | inserting future => [future]
  | signaled _ => []
  | waiting _ _ => []
  | calling _ _ => []

/-- What a call inserts is among its futures. -/
theorem CallUnderWay.mem_futures_of_inserts
    {call : CallUnderWay}
    {future : TrackedFuture}
    (member : future ∈ call.inserts) :
    future ∈ call.futures := by
  cases call with
  | tracking own =>
      exact member
  | inserting own =>
      exact member
  | signaled handle =>
      cases member
  | waiting futures timeout =>
      cases member
  | calling completable others =>
      cases member

namespace EventManager

variable {manager next : EventManager}

/-! ## Polled events and their serials -/

/-- An event of a queue that is completed by polling. -/
def polledOn (manager : EventManager) (queue handle : Nat) : Bool :=
  (manager.events[handle]?).any fun event =>
    event.mCallbackMode = .AllowProcessEvents ∧
      event.mCompletionData.queue? = some queue

/-- The serial an event waits for, if it waits for one. -/
def serialOf (manager : EventManager) (handle : Nat) : Nat :=
  match (manager.events[handle]?).map TrackedEvent.mCompletionData with
  | some (.queueAndSerial _ completionSerial) => completionSerial
  | _ => 0

/-- How an event is completed never changes. -/
theorem polledOn_of_advances
    (advances : Advances manager next)
    {handle : Nat}
    (inside : handle < manager.events.length)
    (queue : Nat) :
    next.polledOn queue handle = manager.polledOn queue handle := by
  have found := List.getElem?_eq_getElem inside
  obtain ⟨later, foundLater, sameMode, becomes⟩ := advances.event found
  rw [polledOn, polledOn, found, foundLater, Option.any_some,
    Option.any_some, sameMode, becomes.queue?_eq]

/-- The serial that an event waits for never changes. -/
theorem serialOf_of_advances
    (advances : Advances manager next)
    {handle : Nat}
    (inside : handle < manager.events.length) :
    next.serialOf handle = manager.serialOf handle := by
  have found := List.getElem?_eq_getElem inside
  obtain ⟨later, foundLater, _, becomes⟩ := advances.event found
  simp only [serialOf, found, foundLater, Option.map_some]
  rcases becomes with same | same
  · rw [same]
  · rw [same]
    cases manager.events[handle].mCompletionData <;> rfl

/-- A spontaneous event is not completed by polling alone. -/
theorem polledOn_of_spontaneous
    {handle : Nat}
    {event : TrackedEvent}
    (found : manager.events[handle]? = some event)
    (spontaneous : event.mCallbackMode = .AllowSpontaneous)
    (queue : Nat) :
    manager.polledOn queue handle = false := by
  rw [polledOn, found, Option.any_some, spontaneous]
  rfl

/-- A polled event is ready when its serial has completed or its queue failed. -/
theorem isReady_of_polledOn
    {queue : Nat}
    {future : TrackedFuture}
    (isPolled : manager.polledOn queue future.event = true)
    (failed : Nat → Bool) :
    manager.isReady failed future =
      (decide
          (manager.serialOf future.event ≤ manager.completedSerial queue) ||
        failed queue) := by
  obtain ⟨event, found, onQueue⟩ := (Option.any_eq_true ..).mp isPolled
  obtain ⟨_, isQueue⟩ := of_decide_eq_true onQueue
  cases data : event.mCompletionData with
  | systemEvent mSignaled isProgressing =>
      rw [data] at isQueue
      cases isQueue
  | queueAndSerial other completionSerial =>
      rw [data] at isQueue
      obtain rfl : other = queue := Option.some.inj isQueue
      simp [isReady, completionData?, serialOf, found, data, isComplete,
        CompletionData.queue?]

/-- Polling may complete a polled event. -/
theorem isPollable_of_polledOn
    {queue : Nat}
    {future : TrackedFuture}
    (isPolled : manager.polledOn queue future.event = true) :
    manager.isPollable future = true := by
  obtain ⟨event, found, onQueue⟩ := (Option.any_eq_true ..).mp isPolled
  obtain ⟨isMode, _⟩ := of_decide_eq_true onQueue
  simp [isPollable, found, isMode]

/-- A poll takes the polled events whose serials it finds completed. -/
theorem takes_of_polledOn
    {queue : Nat}
    {future : TrackedFuture}
    (isPolled : manager.polledOn queue future.event = true)
    {answer : PollAnswer}
    {iteration : List TrackedFuture} :
    let futures := iteration.filter manager.isPollable
    manager.takes answer iteration future =
      (decide
          (manager.serialOf future.event ≤
            (manager.poll answer futures).completedSerial queue) ||
        manager.waitFails answer futures queue) := by
  intro futures
  have polledLater :
      (manager.poll answer futures).polledOn queue future.event = true :=
    isPolled
  rw [takes, isPollable_of_polledOn isPolled, Bool.true_and,
    isReady_of_polledOn polledLater]
  rfl

/-! ## Parts of the calls under way -/

section Parts

variable {Part : Type}

/-- Some part of what each call under way has still to do. -/
def parts
    (manager : EventManager)
    (part : CallUnderWay → List Part) : List (List Part) :=
  manager.calls.map part

/-- A call that goes on replaces its part. -/
theorem parts_setCall
    (manager : EventManager)
    (part : CallUnderWay → List Part)
    (index : Nat)
    (call : CallUnderWay) :
    (manager.setCall index call).parts part =
      (manager.parts part).set index (part call) := by
  rw [parts, parts, setCall, List.map_set]

/-- A new call adds its part. -/
theorem parts_addCall
    (manager : EventManager)
    (part : CallUnderWay → List Part)
    (call : CallUnderWay) :
    (manager.addCall call).parts part =
      manager.parts part ++ [part call] := by
  rw [parts, parts, addCall, List.map_append, List.map_singleton]

/-- The part of a call under way. -/
theorem getD_parts
    {index : Nat}
    {call : CallUnderWay}
    (underWay : manager.calls[index]? = some call)
    (part : CallUnderWay → List Part) :
    (manager.parts part).getD index [] = part call := by
  rw [List.getD_eq_getElem?_getD, parts, List.getElem?_map, underWay]
  rfl

/-- A call that goes on with the same part changes none. -/
theorem parts_setCall_of_same
    {part : CallUnderWay → List Part}
    {index : Nat}
    {old call : CallUnderWay}
    (underWay : manager.calls[index]? = some old)
    (same : part call = part old) :
    (manager.setCall index call).parts part = manager.parts part := by
  have found : (manager.parts part)[index]? = some (part call) := by
    rw [parts, List.getElem?_map, underWay, Option.map_some, same]
  obtain ⟨inside, isPart⟩ := List.getElem?_eq_some_iff.mp found
  rw [parts_setCall, ← isPart, List.set_getElem_self]

end Parts

/-- The polled events that each call under way has still to call. -/
def loads
    (manager : EventManager)
    (polled : Nat → Bool) : List (List Nat) :=
  manager.parts fun call => call.due.filter polled

/-- The polled events that each call under way has still to put in. -/
def arrivals
    (manager : EventManager)
    (polled : Nat → Bool) : List (List TrackedFuture) :=
  manager.parts fun call =>
    call.inserts.filter fun future => polled future.event

/-! ## The line -/

/-- The polled events in the map, then those to be put in, if there is a map. -/
def lineOf
    (manager : EventManager)
    (polled : Nat → Bool) : List TrackedFuture :=
  if manager.mEvents = none then
    []
  else
    (manager.tracked.filter fun future => polled future.event) ++
      (manager.arrivals polled).flatten

/-- Without a map there is no line. -/
theorem lineOf_of_none
    (map : manager.mEvents = none)
    (polled : Nat → Bool) :
    manager.lineOf polled = [] :=
  if_pos map

/-- The line while there is a map. -/
theorem lineOf_of_some
    {futures : List TrackedFuture}
    (map : manager.mEvents = some futures)
    (polled : Nat → Bool) :
    manager.lineOf polled =
      (manager.tracked.filter fun future => polled future.event) ++
        (manager.arrivals polled).flatten :=
  if_neg (by simp [map])

/-- The line is determined by the polled events of the map and the arrivals. -/
theorem lineOf_congr
    {polled : Nat → Bool}
    (sameMap : next.mEvents = none ↔ manager.mEvents = none)
    (sameTracked :
      (next.tracked.filter fun future => polled future.event) =
        manager.tracked.filter fun future => polled future.event)
    (sameArrivals :
      (next.arrivals polled).flatten = (manager.arrivals polled).flatten) :
    next.lineOf polled = manager.lineOf polled := by
  cases map : manager.mEvents with
  | none =>
      rw [lineOf_of_none map, lineOf_of_none (sameMap.mpr map)]
  | some futures =>
      have nextMap : next.mEvents ≠ none := by
        rw [Ne, sameMap, map]
        simp
      rw [lineOf_of_some map, lineOf, if_neg nextMap, sameTracked,
        sameArrivals]

/-- The events in line are polled ones of known futures. -/
theorem knows_of_mem_lineOf
    {polled : Nat → Bool}
    {future : TrackedFuture}
    (member : future ∈ manager.lineOf polled) :
    manager.knows future ∧ polled future.event = true := by
  rw [lineOf] at member
  split at member
  · cases member
  · rcases List.mem_append.mp member with inMap | arriving
    · obtain ⟨isTracked, isPolled⟩ := List.mem_filter.mp inMap
      exact ⟨Or.inl isTracked, isPolled⟩
    · obtain ⟨load, inCalls, inLoad⟩ := List.mem_flatten.mp arriving
      obtain ⟨call, underWay, rfl⟩ := List.mem_map.mp inCalls
      obtain ⟨inserts, isPolled⟩ := List.mem_filter.mp inLoad
      exact
        ⟨Or.inr
            ⟨call, underWay, CallUnderWay.mem_futures_of_inserts inserts⟩,
          isPolled⟩

/-- The handles called back as `Ready`, in the order of the calls. -/
def readied (manager : EventManager) : List Nat :=
  (manager.callbacks.filter fun callback =>
    callback.2 = .Ready).map Prod.fst

/-- The events that `TrackEvent` gave identifiers in a run, in their order. -/
def trackedHandles (labels : List Label) : List Nat :=
  labels.filterMap fun
    | .trackEvent handle => some handle
    | _ => none

/-- What a longer run tracks is added at the end. -/
theorem trackedHandles_append
    (first second : List Label) :
    trackedHandles (first ++ second) =
      trackedHandles first ++ trackedHandles second :=
  List.filterMap_append

/-- The futures that a call waits for. -/
def waitsFor (manager : EventManager) (future : TrackedFuture) : Prop :=
  ∃ futures timeout,
    CallUnderWay.waiting futures timeout ∈ manager.calls ∧ future ∈ futures

/-- A future that is waited for is known. -/
theorem knows_of_waitsFor
    {future : TrackedFuture}
    (waits : manager.waitsFor future) :
    manager.knows future := by
  obtain ⟨futures, timeout, member, inFutures⟩ := waits
  exact Or.inr ⟨_, member, inFutures⟩

/-- A call that goes on and is no wait waits for nothing new. -/
theorem waitsFor_of_setCall
    {index : Nat}
    {call : CallUnderWay}
    (noWait : ∀ futures timeout, call ≠ .waiting futures timeout)
    {future : TrackedFuture}
    (waits : (manager.setCall index call).waitsFor future) :
    manager.waitsFor future := by
  obtain ⟨futures, timeout, member, inFutures⟩ := waits
  rcases List.mem_or_eq_of_mem_set member with old | new
  · exact ⟨futures, timeout, old, inFutures⟩
  · exact absurd new.symm (noWait futures timeout)

/-- The polled events of a queue are kept in the order of their tracking. -/
structure InLine
    (polled : Nat → Bool)
    (serial : Nat → Nat)
    (history : List Label)
    (manager : EventManager) : Prop where
  known :
    ∀ handle ∈ trackedHandles history,
      manager.idOf handle ≠ kNullFutureID
  once : (trackedHandles history).Nodup
  sorted :
    (manager.lineOf polled).Pairwise fun earlier later =>
      earlier.futureID < later.futureID ∧
        serial earlier.event ≤ serial later.event
  arrivesAlone : ∃ index, Delivery.Alone (manager.arrivals polled) index
  calledAlone : ∃ index, Delivery.Alone (manager.loads polled) index
  waits :
    ∀ future, manager.waitsFor future → polled future.event = false
  order :
    ∃ dropped,
      Delivery.InOrder
          ((trackedHandles history).filter polled)
          (manager.readied.filter polled)
          (manager.loads polled).flatten
          ((manager.lineOf polled).map TrackedFuture.event)
          dropped ∧
        (manager.mEvents ≠ none → dropped = [])

/-! ## Callbacks -/

/-- The first callback of an event is logged. -/
theorem readied_ensureComplete_of_fresh
    {handle : Nat}
    (inside : handle < manager.events.length)
    (fresh : manager.isCompleted handle = false) :
    (manager.ensureComplete handle .Ready).readied =
      manager.readied ++ [handle] := by
  have found := List.getElem?_eq_getElem inside
  have flag : manager.events[handle].mCompleted = false := by
    rwa [isCompleted, found, Option.any_some] at fresh
  simp [ensureComplete, found, flag, readied]

/-- The callback of an event that is not polled calls no polled one. -/
theorem filter_readied_ensureComplete
    {polled : Nat → Bool}
    {handle : Nat}
    (unpolled : polled handle = false) :
    (manager.ensureComplete handle .Ready).readied.filter polled =
      manager.readied.filter polled := by
  rcases ensureComplete_cases manager handle .Ready with
    same | ⟨event, found, flag, same⟩
  · rw [same]
  · simp [same, readied, unpolled]

/-- Destroying an event calls nothing `Ready`. -/
theorem readied_ensureComplete_shutdown
    (manager : EventManager)
    (handle : Nat) :
    (manager.ensureComplete handle .Shutdown).readied = manager.readied := by
  rcases ensureComplete_cases manager handle .Shutdown with
    same | ⟨event, found, flag, same⟩
  · rw [same]
  · simp [same, readied]

/-! ## Steps that do not disturb the line -/

namespace InLine

variable
  {polled : Nat → Bool}
  {serial : Nat → Nat}
  {history : List Label}

/-- A new manager has an empty line. -/
theorem new
    (timedWaitAnyEnable : Bool) :
    InLine polled serial [] (new timedWaitAnyEnable) where
  known := by simp [trackedHandles]
  once := by simp [trackedHandles]
  sorted := by
    simp [lineOf, tracked, arrivals, parts, EventManager.new]
  arrivesAlone :=
    ⟨0, by simp [Delivery.Alone, arrivals, parts, EventManager.new]⟩
  calledAlone :=
    ⟨0, by simp [Delivery.Alone, loads, parts, EventManager.new]⟩
  waits := by simp [waitsFor, EventManager.new]
  order := by
    refine ⟨[], ?_, fun _ => rfl⟩
    simp [Delivery.InOrder, trackedHandles, readied, loads, lineOf, tracked,
      arrivals, parts, EventManager.new]

/-- A label that tracks nothing. -/
theorem quiet
    (line : InLine polled serial history manager)
    {label : Label}
    (isQuiet : trackedHandles [label] = []) :
    InLine polled serial (history ++ [label]) manager := by
  have sameHistory :
      trackedHandles (history ++ [label]) = trackedHandles history := by
    rw [trackedHandles_append, isQuiet, List.append_nil]
  refine
    ⟨?_, ?_, line.sorted, line.arrivesAlone, line.calledAlone, line.waits,
      ?_⟩
  · rw [sameHistory]
    exact line.known
  · rw [sameHistory]
    exact line.once
  · rw [sameHistory]
    exact line.order

/-- A change that the line of the queue does not notice. -/
theorem frame
    (line : InLine polled serial history manager)
    (ids : next.idOf = manager.idOf)
    (sameLine : next.lineOf polled = manager.lineOf polled)
    (sameMap : next.mEvents = none ↔ manager.mEvents = none)
    (arrivesAlone : ∃ index, Delivery.Alone (next.arrivals polled) index)
    (calledAlone : ∃ index, Delivery.Alone (next.loads polled) index)
    (sameLoads :
      (next.loads polled).flatten = (manager.loads polled).flatten)
    (waits : ∀ future, next.waitsFor future → polled future.event = false)
    (sameReadied :
      next.readied.filter polled = manager.readied.filter polled) :
    InLine polled serial history next where
  known := by
    rw [ids]
    exact line.known
  once := line.once
  sorted := by
    rw [sameLine]
    exact line.sorted
  arrivesAlone := arrivesAlone
  calledAlone := calledAlone
  waits := waits
  order := by
    rw [sameLine, sameLoads, sameReadied]
    obtain ⟨dropped, order, kept⟩ := line.order
    exact ⟨dropped, order, fun isMap => kept (mt sameMap.mpr isMap)⟩

/-- The map, the calls and the log stay as they are. -/
theorem of_same
    (line : InLine polled serial history manager)
    (ids : next.idOf = manager.idOf)
    (sameMap : next.mEvents = manager.mEvents)
    (sameCalls : next.calls = manager.calls)
    (sameReadied :
      next.readied.filter polled = manager.readied.filter polled) :
    InLine polled serial history next := by
  have arrivals : next.arrivals polled = manager.arrivals polled := by
    rw [EventManager.arrivals, EventManager.arrivals, parts, parts, sameCalls]
  have loads : next.loads polled = manager.loads polled := by
    rw [EventManager.loads, EventManager.loads, parts, parts, sameCalls]
  refine line.frame ids ?_ ?_ ?_ ?_ ?_ ?_ sameReadied
  · apply lineOf_congr
    · rw [sameMap]
    · rw [tracked, tracked, sameMap]
    · rw [arrivals]
  · rw [sameMap]
  · rw [arrivals]
    exact line.arrivesAlone
  · rw [loads]
    exact line.calledAlone
  · rw [loads]
  · intro future waits
    rw [waitsFor, sameCalls] at waits
    exact line.waits future waits

/-- A call begins that completes and inserts no polled event. -/
theorem addCall
    (line : InLine polled serial history manager)
    {call : CallUnderWay}
    (noLoad : call.due.filter polled = [])
    (noArrival :
      (call.inserts.filter fun future => polled future.event) = [])
    (waits :
      ∀ futures timeout,
        call = .waiting futures timeout →
        ∀ future ∈ futures, polled future.event = false) :
    InLine polled serial history (manager.addCall call) := by
  have arrivals :
      (manager.addCall call).arrivals polled =
        manager.arrivals polled ++ [[]] := by
    rw [EventManager.arrivals, parts_addCall, noArrival]
    rfl
  have loads :
      (manager.addCall call).loads polled = manager.loads polled ++ [[]] := by
    rw [EventManager.loads, parts_addCall, noLoad]
    rfl
  refine line.frame rfl ?_ Iff.rfl ?_ ?_ ?_ ?_ rfl
  · refine lineOf_congr Iff.rfl rfl ?_
    rw [arrivals]
    simp
  · rw [arrivals]
    obtain ⟨index, alone⟩ := line.arrivesAlone
    exact ⟨index, alone.append_nil⟩
  · rw [loads]
    obtain ⟨index, alone⟩ := line.calledAlone
    exact ⟨index, alone.append_nil⟩
  · rw [loads]
    simp
  · rintro future ⟨futures, timeout, member, inFutures⟩
    rcases List.mem_append.mp member with old | new
    · exact line.waits future ⟨futures, timeout, old, inFutures⟩
    · have isWait := (List.mem_singleton.mp new).symm
      exact waits futures timeout isWait future inFutures

/-- A call goes on that keeps what polled events it completes and inserts. -/
theorem setCall
    (line : InLine polled serial history manager)
    {index : Nat}
    {old call : CallUnderWay}
    (underWay : manager.calls[index]? = some old)
    (sameLoad : call.due.filter polled = old.due.filter polled)
    (sameArrival :
      (call.inserts.filter fun future => polled future.event) =
        old.inserts.filter fun future => polled future.event)
    (noWait : ∀ futures timeout, call ≠ .waiting futures timeout) :
    InLine polled serial history (manager.setCall index call) := by
  have arrivals :
      (manager.setCall index call).arrivals polled =
        manager.arrivals polled :=
    parts_setCall_of_same underWay sameArrival
  have loads :
      (manager.setCall index call).loads polled = manager.loads polled :=
    parts_setCall_of_same underWay sameLoad
  refine line.frame rfl ?_ Iff.rfl ?_ ?_ ?_ ?_ rfl
  · refine lineOf_congr Iff.rfl rfl ?_
    rw [arrivals]
  · rw [arrivals]
    exact line.arrivesAlone
  · rw [loads]
    exact line.calledAlone
  · rw [loads]
  · exact fun future waits =>
      line.waits future (waitsFor_of_setCall noWait waits)

/-- Futures of which none is polled are untracked. -/
theorem untrack
    (line : InLine polled serial history manager)
    {futureIDs : List FutureID}
    (unpolled :
      ∀ future ∈ manager.tracked,
        future.futureID ∈ futureIDs → polled future.event = false) :
    InLine polled serial history (manager.untrack futureIDs) := by
  have sameMap :
      (manager.untrack futureIDs).mEvents = none ↔ manager.mEvents = none :=
    Option.map_eq_none_iff
  refine
    line.frame rfl ?_ sameMap line.arrivesAlone line.calledAlone rfl
      line.waits rfl
  refine lineOf_congr sameMap ?_ rfl
  rw [tracked_untrack, List.filter_filter]
  apply List.filter_congr
  intro future member
  by_cases isUntracked : future.futureID ∈ futureIDs
  · simp [isUntracked, unpolled future member isUntracked]
  · simp [isUntracked]

/-- An event that is not polled is called. -/
theorem ensureComplete
    (line : InLine polled serial history manager)
    {handle : Nat}
    (unpolled : polled handle = false) :
    InLine polled serial history (manager.ensureComplete handle .Ready) := by
  apply line.of_same
  · exact idOf_ensureComplete ..
  · exact ensureComplete_mEvents ..
  · exact ensureComplete_calls ..
  · exact filter_readied_ensureComplete unpolled

/-- Destroying events calls none of them `Ready`. -/
theorem destroyUnreferenced
    (line : InLine polled serial history manager) :
    InLine polled serial history manager.destroyUnreferenced := by
  apply destroyUnreferenced_induction line
  intro current handle currentLine _
  apply currentLine.of_same
  · exact idOf_ensureComplete ..
  · exact ensureComplete_mEvents ..
  · exact ensureComplete_calls ..
  · rw [readied_ensureComplete_shutdown]

end InLine

end EventManager

end Teck.Dawn
