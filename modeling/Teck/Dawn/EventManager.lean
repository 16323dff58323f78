import Mathlib.Data.List.Sort
import Mathlib.Logic.Function.Basic

namespace Teck.Dawn

/-!
# The event manager

`EventManager` tracks the asynchronous operations of an instance and calls
their callbacks: at once, when events are polled, or when they are waited for.
Its map is locked while it is read or changed, and while `ShutDown` drops it,
but not while polls, waits and `SetFutureReady` call callbacks or while
`TrackEvent` gives an identifier.  So each call under way is kept with what it
has still to do, and every section of it is a step of its own: calls from
other threads or from the callbacks themselves come in between.

An event is named by its place in `events`.  It is destroyed, and its callback
called with `Shutdown` if it was not before, once nothing refers to it.
-/

/-- Identifiers of tracked events; the counter starts at one. -/
abbrev FutureID := Nat

/-- What an event has before it is tracked. -/
def kNullFutureID : FutureID := 0

/-- How many futures one wait with a timeout takes. -/
def kTimedWaitAnyMaxCountDefault : Nat := 64

/-- When the callback of an event may be called. -/
inductive CallbackMode where
  | WaitAnyOnly
  | AllowProcessEvents
  | AllowSpontaneous
  deriving DecidableEq, Repr

/-- Why the callback of an event is called. -/
inductive EventCompletionType where
  | Ready
  | Shutdown
  deriving DecidableEq, Repr

/-- What `WaitAny` returns. -/
inductive WaitStatus where
  | Success
  | TimedOut
  | UnsupportedTimeout
  | UnsupportedCount
  | UnsupportedMixedSources
  deriving DecidableEq, Repr

/-- What an event waits for; each event has a `SystemEvent` of its own. -/
inductive CompletionData where
  | systemEvent (mSignaled isProgressing : Bool)
  | queueAndSerial (queue completionSerial : Nat)
  deriving DecidableEq, Repr

namespace CompletionData

/-- The queue that is waited on, if it is one. -/
def queue? : CompletionData → Option Nat
  | systemEvent _ _ => none
  | queueAndSerial queue _ => some queue

/-- Polling again may find the event complete. -/
def isProgressing : CompletionData → Bool
  | systemEvent _ isProgressing => isProgressing
  | queueAndSerial _ _ => true

/-- What `SetFutureReady` does; it sets the serial of a copy. -/
def signal : CompletionData → CompletionData
  | systemEvent _ isProgressing => systemEvent true isProgressing
  | queueAndSerial queue completionSerial =>
      queueAndSerial queue completionSerial

end CompletionData

/-- An asynchronous operation; `mCompleted` says its callback was called. -/
structure TrackedEvent where
  mCallbackMode : CallbackMode
  mFutureID : FutureID
  mCompletionData : CompletionData
  mCompleted : Bool
  deriving DecidableEq, Repr

/-- An entry of the map, or of the futures that are waited for. -/
structure TrackedFuture where
  futureID : FutureID
  event : Nat
  deriving DecidableEq, Repr

/-- A call that has not returned, with the events it refers to. -/
inductive CallUnderWay where
  /-- `TrackEvent` has given the event its identifier. -/
  | tracking (future : TrackedFuture)
  /-- `TrackEvent` has still to put the event into the map. -/
  | inserting (future : TrackedFuture)
  /-- `SetFutureReady` has signaled the event, which its caller refers to. -/
  | signaled (handle : Nat)
  /-- `WaitAny` has found its futures. -/
  | waiting (futures : List TrackedFuture) (timeout : Nat)
  /-- Callbacks are called; after the last one nothing is left to do. -/
  | calling (completable others : List Nat)
  deriving DecidableEq, Repr

/-- The events that a call under way keeps. -/
def CallUnderWay.refersTo : CallUnderWay → List Nat
  | tracking future => [future.event]
  | inserting future => [future.event]
  | signaled handle => [handle]
  | waiting futures _ => futures.map TrackedFuture.event
  | calling completable others => completable ++ others

/--
How devices and system answer while they are waited for.  Of the signaled
system events a wait reports all (POSIX) or one (Windows).
-/
structure PollAnswer where
  completedSerial : Nat → Nat
  failed : Nat → Bool
  reported : Nat → Bool

/--
The manager, with the events that were made, the references that callers hold,
the calls under way, what the queues have completed and the log of callbacks.
-/
structure EventManager where
  mTimedWaitAnyEnable : Bool
  mTimedWaitAnyMaxCount : Nat
  mNextFutureID : FutureID
  mEvents : Option (List TrackedFuture)
  events : List TrackedEvent
  references : List Nat
  calls : List CallUnderWay
  completedSerial : Nat → Nat
  lost : Nat → Bool
  callbacks : List (Nat × EventCompletionType)

namespace EventManager

/-- The manager that `Initialize` sets up. -/
def new (timedWaitAnyEnable : Bool) : EventManager where
  mTimedWaitAnyEnable := timedWaitAnyEnable
  mTimedWaitAnyMaxCount := kTimedWaitAnyMaxCountDefault
  mNextFutureID := 1
  mEvents := some []
  events := []
  references := []
  calls := []
  completedSerial := fun _ => 0
  lost := fun _ => false
  callbacks := []

/-! ## Events -/

/-- Something refers to the event. -/
def refersTo (manager : EventManager) (handle : Nat) : Bool :=
  manager.mEvents.any (fun futures =>
      futures.any fun future => future.event = handle) ||
    handle ∈ manager.references ||
    manager.calls.any fun call => handle ∈ call.refersTo

/-- Call the callback of an event unless it was called before. -/
def ensureComplete
    (manager : EventManager)
    (handle : Nat)
    (completionType : EventCompletionType) : EventManager :=
  match manager.events[handle]? with
  | none => manager
  | some event =>
      if event.mCompleted then
        manager
      else
        { manager with
          events := manager.events.set handle { event with mCompleted := true }
          callbacks := manager.callbacks ++ [(handle, completionType)] }

/-- `~TrackedEvent` of an event nothing refers to. -/
def destroy (manager : EventManager) (handle : Nat) : EventManager :=
  if manager.refersTo handle then manager
  -- The header speaks of an `Unknown` status; the destructors pass this one.
  else manager.ensureComplete handle .Shutdown

/-- Destroy every event that nothing refers to any more. -/
def destroyUnreferenced (manager : EventManager) : EventManager :=
  (List.range manager.events.length).foldl destroy manager

/-- Make an event, which the caller refers to. -/
def create
    (manager : EventManager)
    (mCallbackMode : CallbackMode)
    (mCompletionData : CompletionData) : EventManager :=
  { manager with
    events :=
      manager.events ++
        [⟨mCallbackMode, kNullFutureID, mCompletionData, false⟩]
    references := manager.references ++ [manager.events.length] }

/-! ## Tracking -/

/-- The event has completed already. -/
def isComplete (manager : EventManager) : CompletionData → Bool
  | .systemEvent mSignaled _ => mSignaled
  | .queueAndSerial queue completionSerial =>
      completionSerial ≤ manager.completedSerial queue

/-- Take the next identifier; the caller's reference is moved. -/
def assignFutureID
    (manager : EventManager)
    (handle : Nat)
    (event : TrackedEvent) : EventManager :=
  { manager with
    mNextFutureID := manager.mNextFutureID + 1
    events :=
      manager.events.set handle
        { event with mFutureID := manager.mNextFutureID }
    references := manager.references.erase handle }

/-- Put a future into the map, if there is one. -/
def emplace
    (manager : EventManager)
    (future : TrackedFuture) : EventManager :=
  { manager with
    mEvents := manager.mEvents.map fun futures => futures ++ [future] }

/-- Begin a call. -/
def addCall (manager : EventManager) (call : CallUnderWay) : EventManager :=
  { manager with calls := manager.calls ++ [call] }

/-- What a call under way has still to do is now `call`. -/
def setCall
    (manager : EventManager)
    (index : Nat)
    (call : CallUnderWay) : EventManager :=
  { manager with calls := manager.calls.set index call }

/-- `TrackEvent` as far as the identifier that it returns. -/
def trackEvent
    (manager : EventManager)
    (handle : Nat)
    (event : TrackedEvent) : FutureID × EventManager :=
  let futureID := manager.mNextFutureID
  ( futureID,
    (manager.assignFutureID handle event).addCall
      (.tracking ⟨futureID, handle⟩) )

/-- `TrackEvent` goes on: a spontaneous event that is ready completes now. -/
def checkTracked
    (manager : EventManager)
    (index : Nat)
    (future : TrackedFuture)
    (event : TrackedEvent) : EventManager :=
  if event.mCallbackMode = .AllowSpontaneous ∧
      manager.isComplete event.mCompletionData then
    manager.setCall index (.calling [future.event] [])
  else
    manager.setCall index (.inserting future)

/-- `TrackEvent` puts its event into the map, which it locks for this. -/
def insertTracked
    (manager : EventManager)
    (index : Nat)
    (future : TrackedFuture) : EventManager :=
  (manager.emplace future).setCall index (.calling [] [])

/-- `events->erase` for each of the futures, if there is a map. -/
def untrack
    (manager : EventManager)
    (futureIDs : List FutureID) : EventManager :=
  { manager with
    mEvents :=
      manager.mEvents.map fun futures =>
        futures.filter fun future => future.futureID ∉ futureIDs }

/-- Signal the system event of an event, if it waits for one. -/
def signal
    (manager : EventManager)
    (handle : Nat)
    (event : TrackedEvent) : EventManager :=
  { manager with
    events :=
      manager.events.set handle
        { event with mCompletionData := event.mCompletionData.signal } }

/-- `SetFutureReady` as far as its signal. -/
def setFutureReady
    (manager : EventManager)
    (handle : Nat)
    (event : TrackedEvent) : EventManager :=
  (manager.signal handle event).addCall (.signaled handle)

/--
`SetFutureReady` goes on: an event that has no identifier yet will complete
when it is tracked, a spontaneous one is untracked and completes now.
-/
def finishSetFutureReady
    (manager : EventManager)
    (index handle : Nat)
    (event : TrackedEvent) : EventManager :=
  if event.mFutureID = kNullFutureID then
    manager.setCall index (.calling [] [])
  else if event.mCallbackMode = .AllowSpontaneous then
    (manager.untrack [event.mFutureID]).setCall index (.calling [handle] [])
  else
    manager.setCall index (.calling [] [])

/-! ## Waiting -/

/-- What a future waits for. -/
def completionData?
    (manager : EventManager)
    (future : TrackedFuture) : Option CompletionData :=
  (manager.events[future.event]?).map TrackedEvent.mCompletionData

/-- The serials that the futures of a queue wait for. -/
def waitSerials
    (manager : EventManager)
    (futures : List TrackedFuture)
    (queue : Nat) : List Nat :=
  futures.filterMap fun future =>
    match manager.completionData? future with
    | some (.queueAndSerial other completionSerial) =>
        if other = queue then some completionSerial else none
    | _ => none

/-- Whether the completed serial of a queue is asked for. -/
def asksFor
    (manager : EventManager)
    (futures : List TrackedFuture)
    (queue : Nat) : Bool :=
  (manager.waitSerials futures queue).min?.any fun lowestWaitSerial =>
    manager.completedSerial queue < lowestWaitSerial

/-- Submitting or waiting for the serials of a queue fails. -/
def waitFails
    (manager : EventManager)
    (answer : PollAnswer)
    (futures : List TrackedFuture)
    (queue : Nat) : Bool :=
  manager.asksFor futures queue && answer.failed queue

/-- What `WaitQueueSerialsImpl` finds out about the queues of the futures. -/
def poll
    (manager : EventManager)
    (answer : PollAnswer)
    (futures : List TrackedFuture) : EventManager :=
  { manager with
    completedSerial := fun queue =>
      if manager.asksFor futures queue then
        max (manager.completedSerial queue) (answer.completedSerial queue)
      else
        manager.completedSerial queue
    lost := fun queue =>
      manager.lost queue || manager.waitFails answer futures queue }

/-- Ready to complete; if waiting for a queue failed, all its futures are. -/
def isReady
    (manager : EventManager)
    (failed : Nat → Bool)
    (future : TrackedFuture) : Bool :=
  (manager.completionData? future).any fun completionData =>
    manager.isComplete completionData || completionData.queue?.any failed

/-- The futures that are ready once the queues have been polled. -/
def readyFutures
    (manager : EventManager)
    (answer : PollAnswer)
    (futures : List TrackedFuture) : List TrackedFuture :=
  futures.filter
    ((manager.poll answer futures).isReady
      (manager.waitFails answer futures))

/--
The ready futures that a wait is told of.  Polling sees every signaled system
event; `WaitAnySystemEvent` leaves it to the system which ones it reports.
-/
def reportedFutures
    (manager : EventManager)
    (answer : PollAnswer)
    (futures : List TrackedFuture)
    (timeout : Nat) : List TrackedFuture :=
  (manager.readyFutures answer futures).filter fun future =>
    timeout = 0 ||
      ((manager.completionData? future).bind CompletionData.queue?).isSome ||
      answer.reported future.event

/-- The futures do not all wait for system events or for one queue. -/
def mixedSources
    (manager : EventManager)
    (futures : List TrackedFuture) : Bool :=
  let sources :=
    futures.map fun future =>
      (manager.completionData? future).bind CompletionData.queue?
  sources.any fun source => sources.head? ≠ some source

/-- `WaitImpl`, with the futures that are ready. -/
def waitImpl
    (manager : EventManager)
    (answer : PollAnswer)
    (futures : List TrackedFuture)
    (timeout : Nat) : WaitStatus × List TrackedFuture × EventManager :=
  if 0 < timeout ∧ manager.mixedSources futures then
    (.UnsupportedMixedSources, [], manager)
  else
    let ready := manager.reportedFutures answer futures timeout
    ( if ready = [] then .TimedOut else .Success,
      ready,
      manager.poll answer futures )

/-- The ready futures in the order in which they were created. -/
def prepareReadyCallbacks
    (ready : List TrackedFuture) : List TrackedFuture :=
  ready.insertionSort fun first second => first.futureID ≤ second.futureID

/-- Polling may complete the event. -/
def isPollable (manager : EventManager) (future : TrackedFuture) : Bool :=
  (manager.events[future.event]?).any fun event =>
    event.mCallbackMode ≠ .WaitAnyOnly

/-- `ProcessPollEvents`, with the map as the hash map iterates over it. -/
def processPollEvents
    (manager : EventManager)
    (answer : PollAnswer)
    (iteration : List TrackedFuture) : Bool × EventManager :=
  let futures := iteration.filter manager.isPollable
  let hasProgressingEvents :=
    futures.any fun future =>
      (manager.completionData? future).any CompletionData.isProgressing
  if futures = [] then
    (false, manager)
  else
    let (waitStatus, ready, polled) := manager.waitImpl answer futures 0
    if waitStatus = .TimedOut then
      (hasProgressingEvents, polled)
    else
      let completable := prepareReadyCallbacks ready
      ( ready.length ≠ futures.length && hasProgressingEvents,
        (polled.untrack (completable.map TrackedFuture.futureID)).addCall
          (.calling (completable.map TrackedFuture.event) []) )

/--
`WaitAny` as far as its lookup.  If it returns then, its result is the status
and the `completed` flags, where it has set them.
-/
def waitAny
    (manager : EventManager)
    (events : List TrackedFuture)
    (infos : List FutureID)
    (timeout : Nat) : Option (WaitStatus × Option (List Bool)) × EventManager :=
  if 0 < timeout ∧ manager.mTimedWaitAnyEnable = false then
    (some (.UnsupportedTimeout, none), manager)
  else if 0 < timeout ∧ infos.length > manager.mTimedWaitAnyMaxCount then
    (some (.UnsupportedCount, none), manager)
  else if infos = [] then
    (some (.Success, none), manager)
  else
    let found :=
      infos.map fun futureID =>
        events.find? fun future => future.futureID = futureID
    if found.any Option.isNone then
      (some (.Success, some (found.map Option.isNone)), manager)
    else
      (none, manager.addCall (.waiting found.reduceOption timeout))

/-- `WaitAny` from its wait on, for one of the calls under way. -/
def finishWait
    (manager : EventManager)
    (index : Nat)
    (futures : List TrackedFuture)
    (timeout : Nat)
    (answer : PollAnswer) : WaitStatus × List Bool × EventManager :=
  let (waitStatus, ready, polled) := manager.waitImpl answer futures timeout
  if waitStatus ≠ .Success then
    ( waitStatus,
      futures.map fun _ => false,
      polled.setCall index (.calling [] []) )
  else
    let completable := prepareReadyCallbacks ready
    ( .Success,
      futures.map fun future => future ∈ ready,
      (polled.untrack (completable.map TrackedFuture.futureID)).setCall index
        (.calling (completable.map TrackedFuture.event)
          (futures.map TrackedFuture.event)) )

/-- The next section of a call under way, or its return. -/
def proceed?
    (manager : EventManager)
    (index : Nat) : Option EventManager :=
  match manager.calls[index]? with
  | some (.tracking future) =>
      (manager.events[future.event]?).map
        (manager.checkTracked index future)
  | some (.inserting future) =>
      some (manager.insertTracked index future)
  | some (.signaled handle) =>
      (manager.events[handle]?).map
        (manager.finishSetFutureReady index handle)
  | some (.calling (handle :: rest) others) =>
      some
        ((manager.ensureComplete handle .Ready).setCall index
          (.calling rest others))
  | some (.calling [] _) =>
      some (manager.setCall index (.calling [] []))
  | _ => none

/-- The map is dropped; callbacks of its events come with it. -/
def shutDown (manager : EventManager) : EventManager :=
  { manager with mEvents := none }

/-! ## Runs -/

/-- What the threads can do: a call begins, goes on or is answered. -/
inductive Label where
  | create (mCallbackMode : CallbackMode) (mCompletionData : CompletionData)
  | addReference (handle : Nat)
  | release (handle : Nat)
  | trackEvent (handle : Nat)
  | setFutureReady (handle : Nat)
  | advance (queue serial : Nat)
  | processPollEvents (answer : PollAnswer) (iteration : List TrackedFuture)
  | waitAny (infos : List FutureID) (timeout : Nat)
  | finishWait (index : Nat) (answer : PollAnswer)
  | proceed (index : Nat)
  | shutDown

/-- One step of some thread; a call is made with references the caller has. -/
def perform? (manager : EventManager) : Label → Option EventManager
  | .create mCallbackMode mCompletionData =>
      some (manager.create mCallbackMode mCompletionData)
  | .addReference handle =>
      if handle ∈ manager.references then
        some { manager with references := handle :: manager.references }
      else
        none
  | .release handle =>
      if handle ∈ manager.references then
        some { manager with references := manager.references.erase handle }
      else
        none
  | .trackEvent handle =>
      match manager.events[handle]? with
      | none => none
      | some event =>
          if handle ∈ manager.references ∧
              event.mFutureID = kNullFutureID then
            some (manager.trackEvent handle event).2
          else
            none
  | .setFutureReady handle =>
      match manager.events[handle]? with
      | none => none
      | some event =>
          if handle ∈ manager.references then
            some (manager.setFutureReady handle event)
          else
            none
  | .advance queue serial =>
      some
        { manager with
          completedSerial :=
            Function.update manager.completedSerial queue
              (max (manager.completedSerial queue) serial) }
  | .processPollEvents answer iteration =>
      match manager.mEvents with
      | none => none
      | some events =>
          if iteration.Perm events then
            some (manager.processPollEvents answer iteration).2
          else
            none
  | .waitAny infos timeout =>
      match manager.mEvents with
      | none => none
      | some events =>
          if ∀ futureID ∈ infos,
              futureID ≠ kNullFutureID ∧ futureID < manager.mNextFutureID then
            some (manager.waitAny events infos timeout).2
          else
            none
  | .finishWait index answer =>
      match manager.calls[index]? with
      | some (.waiting futures timeout) =>
          some (manager.finishWait index futures timeout answer).2.2
      | _ => none
  | .proceed index => manager.proceed? index
  | .shutDown => some manager.shutDown

/-- A step, after which what nothing refers to any more is destroyed. -/
def step? (manager : EventManager) (label : Label) : Option EventManager :=
  (manager.perform? label).map destroyUnreferenced

end EventManager

end Teck.Dawn
