import Teck.Dawn.EventSteps

namespace Teck.Dawn

/-!
# Identifiers of events

An event keeps the identifier that `TrackEvent` gave it, and no two events
have the same.  So sorting by identifiers undoes whatever order the hash map
has: a poll calls the ready ones of any futures that are tracked in the order
of their identifiers in that order, and untracks just them.
-/

/-- The futures that a call under way inserts or waits for. -/
def CallUnderWay.futures : CallUnderWay → List TrackedFuture
  | tracking future => [future]
  | inserting future => [future]
  | signaled _ => []
  | waiting futures _ => futures
  | calling _ _ => []

namespace EventManager

variable {manager next : EventManager}

/-! ## Identifiers -/

/-- The identifier of an event, null before it is tracked. -/
def idOf (manager : EventManager) (handle : Nat) : FutureID :=
  (manager.events[handle]?).elim kNullFutureID TrackedEvent.mFutureID

/-- The identifier of an event that was made. -/
theorem idOf_of_found
    {handle : Nat}
    {event : TrackedEvent}
    (found : manager.events[handle]? = some event) :
    manager.idOf handle = event.mFutureID := by
  rw [idOf, found, Option.elim_some]

/-- An event is replaced by one with the same identifier. -/
theorem idOf_of_set
    {handle : Nat}
    {event changed : TrackedEvent}
    (found : manager.events[handle]? = some event)
    (events : next.events = manager.events.set handle changed)
    (same : changed.mFutureID = event.mFutureID) :
    next.idOf = manager.idOf := by
  funext other
  have inside : handle < manager.events.length :=
    (List.getElem?_eq_some_iff.mp found).1
  by_cases isHandle : handle = other
  · subst isHandle
    rw [idOf_of_found found, idOf, events, List.getElem?_set_self inside,
      Option.elim_some, same]
  · rw [idOf, idOf, events, List.getElem?_set_ne isHandle]

/-- Completing an event changes no identifier. -/
@[simp] theorem idOf_ensureComplete
    (manager : EventManager)
    (handle : Nat)
    (completionType : EventCompletionType) :
    (manager.ensureComplete handle completionType).idOf = manager.idOf := by
  rcases ensureComplete_cases manager handle completionType with
    same | ⟨event, found, _, same⟩
  · rw [same]
  · rw [same]
    exact idOf_of_set found rfl rfl

/-- A new event has no identifier, as events not made yet have none. -/
theorem idOf_create
    (manager : EventManager)
    (mCallbackMode : CallbackMode)
    (mCompletionData : CompletionData) :
    (manager.create mCallbackMode mCompletionData).idOf = manager.idOf := by
  funext handle
  simp only [idOf, create]
  rcases Nat.lt_trichotomy handle manager.events.length with
    old | new | beyond
  · rw [List.getElem?_append_left old]
  · simp [new]
  · rw [List.getElem?_eq_none beyond.le, List.getElem?_eq_none]
    simpa using Nat.succ_le_of_lt beyond

/-- Tracking changes the identifier of one event. -/
theorem idOf_assignFutureID
    {handle : Nat}
    {event : TrackedEvent}
    (found : manager.events[handle]? = some event) :
    (manager.assignFutureID handle event).idOf =
      Function.update manager.idOf handle manager.mNextFutureID := by
  funext other
  have inside : handle < manager.events.length :=
    (List.getElem?_eq_some_iff.mp found).1
  by_cases isHandle : handle = other
  · subst isHandle
    simp [idOf, assignFutureID, inside]
  · rw [Function.update_of_ne (Ne.symm isHandle)]
    simp only [idOf, assignFutureID]
    rw [List.getElem?_set_ne isHandle]

/-! ## Known futures -/

/-- The futures that are tracked, or that a call under way has. -/
def knows (manager : EventManager) (future : TrackedFuture) : Prop :=
  future ∈ manager.tracked ∨
    ∃ call ∈ manager.calls, future ∈ call.futures

/-- A new call may have futures that were known. -/
theorem knows_of_addCall
    {call : CallUnderWay}
    (callKnows : ∀ future ∈ call.futures, manager.knows future)
    {future : TrackedFuture}
    (known : (manager.addCall call).knows future) :
    manager.knows future := by
  rcases known with isTracked | ⟨other, member, inCall⟩
  · exact Or.inl isTracked
  · rcases List.mem_append.mp member with old | new
    · exact Or.inr ⟨other, old, inCall⟩
    · obtain rfl := List.mem_singleton.mp new
      exact callKnows future inCall

/-- A call that goes on may have futures that were known. -/
theorem knows_of_setCall
    {index : Nat}
    {call : CallUnderWay}
    (callKnows : ∀ future ∈ call.futures, manager.knows future)
    {future : TrackedFuture}
    (known : (manager.setCall index call).knows future) :
    manager.knows future := by
  rcases known with isTracked | ⟨other, member, inCall⟩
  · exact Or.inl isTracked
  · rcases List.mem_or_eq_of_mem_set member with old | rfl
    · exact Or.inr ⟨other, old, inCall⟩
    · exact callKnows future inCall

/-- Untracking makes no future known. -/
theorem knows_of_untrack
    {futureIDs : List FutureID}
    {future : TrackedFuture}
    (known : (manager.untrack futureIDs).knows future) :
    manager.knows future := by
  refine known.imp_left fun isTracked => ?_
  rw [tracked_untrack] at isTracked
  exact (List.mem_filter.mp isTracked).1

/-- Completing an event makes no future known. -/
theorem knows_ensureComplete
    {handle : Nat}
    {completionType : EventCompletionType}
    {future : TrackedFuture} :
    (manager.ensureComplete handle completionType).knows future ↔
      manager.knows future := by
  simp [knows, tracked]

/-- The call that knows the future puts it into the map. -/
theorem knows_of_insertTracked
    {index : Nat}
    {future other : TrackedFuture}
    (underWay : manager.calls[index]? = some (.inserting future))
    (known : (manager.insertTracked index future).knows other) :
    manager.knows other := by
  have emplaced : (manager.emplace future).knows other :=
    knows_of_setCall (by simp [CallUnderWay.futures]) known
  rcases emplaced with isTracked | inCall
  · rcases List.mem_append.mp
        (tracked_emplace_subset manager future isTracked) with old | new
    · exact Or.inl old
    · right
      exact ⟨_, List.mem_of_getElem? underWay, new⟩
  · exact Or.inr inCall

/-- Events have distinct identifiers, and known futures have theirs. -/
structure Identified (manager : EventManager) : Prop where
  positive : kNullFutureID < manager.mNextFutureID
  fresh : ∀ handle, manager.idOf handle < manager.mNextFutureID
  distinct :
    ∀ {first second},
      manager.idOf first = manager.idOf second →
      manager.idOf first ≠ kNullFutureID →
      first = second
  ofKnown :
    ∀ future,
      manager.knows future →
      manager.idOf future.event = future.futureID ∧
        future.futureID ≠ kNullFutureID

namespace Identified

/-- A new manager knows no future. -/
theorem new
    (timedWaitAnyEnable : Bool) :
    Identified (new timedWaitAnyEnable) where
  positive := Nat.zero_lt_one
  fresh := by
    intro handle
    simp [idOf, EventManager.new, kNullFutureID]
  distinct := by
    intro first second _ tracked
    simp [idOf, EventManager.new] at tracked
  ofKnown := by simp [knows, tracked, EventManager.new]

/-- A step that gives no identifier and makes no future known. -/
theorem of_knows
    (identified : Identified manager)
    (sameIds : next.idOf = manager.idOf)
    (sameNext : next.mNextFutureID = manager.mNextFutureID)
    (knows : ∀ future, next.knows future → manager.knows future) :
    Identified next where
  positive := by
    rw [sameNext]
    exact identified.positive
  fresh := by
    rw [sameIds, sameNext]
    exact identified.fresh
  distinct := by
    rw [sameIds]
    exact identified.distinct
  ofKnown := by
    rw [sameIds]
    exact fun future known => identified.ofKnown future (knows future known)

/-- Known futures with the same identifier are the same. -/
theorem eq_of_futureID_eq
    (identified : Identified manager)
    {first second : TrackedFuture}
    (firstKnown : manager.knows first)
    (secondKnown : manager.knows second)
    (same : first.futureID = second.futureID) :
    first = second := by
  obtain ⟨firstId, notNull⟩ := identified.ofKnown first firstKnown
  obtain ⟨secondId, _⟩ := identified.ofKnown second secondKnown
  have sameEvent : first.event = second.event := by
    apply identified.distinct
    · rw [firstId, secondId, same]
    · rw [firstId]
      exact notNull
  cases first
  cases second
  simp_all

/-- A new call may have futures that were known. -/
theorem addCall
    (identified : Identified manager)
    {call : CallUnderWay}
    (callKnows : ∀ future ∈ call.futures, manager.knows future) :
    Identified (manager.addCall call) :=
  identified.of_knows rfl rfl fun _ => knows_of_addCall callKnows

/-- A call that goes on may have futures that were known. -/
theorem setCall
    (identified : Identified manager)
    {index : Nat}
    {call : CallUnderWay}
    (callKnows : ∀ future ∈ call.futures, manager.knows future) :
    Identified (manager.setCall index call) :=
  identified.of_knows rfl rfl fun _ => knows_of_setCall callKnows

/-- Calling callbacks needs no future. -/
theorem setCalling
    (identified : Identified manager)
    (index : Nat)
    (completable others : List Nat) :
    Identified (manager.setCall index (.calling completable others)) :=
  identified.setCall (by simp [CallUnderWay.futures])

/-- Untracking makes no future known. -/
theorem untrack
    (identified : Identified manager)
    (futureIDs : List FutureID) :
    Identified (manager.untrack futureIDs) :=
  identified.of_knows rfl rfl fun _ => knows_of_untrack

/-- Polling the queues makes no future known. -/
theorem poll
    (identified : Identified manager)
    (answer : PollAnswer)
    (futures : List TrackedFuture) :
    Identified (manager.poll answer futures) :=
  identified.of_knows rfl rfl fun _ => id

/-- Completing an event gives no identifier. -/
theorem ensureComplete
    (identified : Identified manager)
    (handle : Nat)
    (completionType : EventCompletionType) :
    Identified (manager.ensureComplete handle completionType) := by
  refine identified.of_knows (idOf_ensureComplete ..) ?_ ?_
  · simp
  · exact fun future known => knows_ensureComplete.mp known

/-- A known future is older than the next identifier. -/
theorem lt_mNextFutureID
    (identified : Identified manager)
    {future : TrackedFuture}
    (known : manager.knows future) :
    future.futureID < manager.mNextFutureID := by
  have isId := (identified.ofKnown future known).1
  exact isId ▸ identified.fresh future.event

/-- An event without identifier gets the next one. -/
theorem assign
    (identified : Identified manager)
    {handle : Nat}
    {event : TrackedEvent}
    (found : manager.events[handle]? = some event)
    (untracked : event.mFutureID = kNullFutureID) :
    Identified (manager.assignFutureID handle event) := by
  have wasNull : manager.idOf handle = kNullFutureID := by
    rw [idOf_of_found found, untracked]
  have kept :
      ∀ {other : Nat} {futureID : FutureID},
        manager.idOf other = futureID ∧ futureID ≠ kNullFutureID →
        (manager.assignFutureID handle event).idOf other = futureID ∧
          futureID ≠ kNullFutureID := by
    rintro other futureID ⟨isId, notNull⟩
    refine ⟨?_, notNull⟩
    rw [idOf_assignFutureID found, Function.update_of_ne, isId]
    rintro rfl
    exact notNull (isId.symm.trans wasNull)
  constructor
  · exact Nat.lt_succ_of_lt identified.positive
  · intro other
    rw [idOf_assignFutureID found]
    by_cases isHandle : other = handle
    · subst isHandle
      rw [Function.update_self]
      exact Nat.lt_succ_self _
    · rw [Function.update_of_ne isHandle]
      exact Nat.lt_succ_of_lt (identified.fresh other)
  · intro first second
    rw [idOf_assignFutureID found]
    by_cases isFirst : first = handle
    · by_cases isSecond : second = handle
      · exact fun _ _ => isFirst.trans isSecond.symm
      · rw [isFirst, Function.update_self, Function.update_of_ne isSecond]
        intro same
        exact absurd same.symm (identified.fresh second).ne
    · by_cases isSecond : second = handle
      · rw [isSecond, Function.update_self, Function.update_of_ne isFirst]
        intro same
        exact absurd same (identified.fresh first).ne
      · rw [Function.update_of_ne isFirst, Function.update_of_ne isSecond]
        exact identified.distinct
  · exact fun future known => kept (identified.ofKnown future known)

/-- `TrackEvent` knows the future with the identifier that it gave. -/
theorem trackEvent
    (identified : Identified manager)
    {handle : Nat}
    {event : TrackedEvent}
    (found : manager.events[handle]? = some event)
    (untracked : event.mFutureID = kNullFutureID) :
    Identified (manager.trackEvent handle event).2 := by
  have assigned := identified.assign found untracked
  refine
    ⟨assigned.positive, assigned.fresh, assigned.distinct, ?_⟩
  rintro future (isTracked | ⟨call, member, inCall⟩)
  · exact assigned.ofKnown future (Or.inl isTracked)
  · rcases List.mem_append.mp member with old | new
    · exact assigned.ofKnown future (Or.inr ⟨call, old, inCall⟩)
    · obtain rfl := List.mem_singleton.mp new
      obtain rfl := List.mem_singleton.mp inCall
      refine ⟨?_, identified.positive.ne'⟩
      have ids := idOf_assignFutureID found
      exact (congrFun ids handle).trans (Function.update_self ..)

/-- What a step does keeps identifiers distinct. -/
theorem of_performs
    {label : Label}
    (performs : Performs manager label next)
    (identified : Identified manager) :
    Identified next := by
  cases performs with
  | create mCallbackMode mCompletionData =>
      exact identified.of_knows (idOf_create ..) rfl fun _ => id
  | addReference held =>
      exact identified.of_knows rfl rfl fun _ => id
  | release held =>
      exact identified.of_knows rfl rfl fun _ => id
  | trackEvent found held untracked =>
      exact identified.trackEvent found untracked
  | @setFutureReady handle event found held =>
      have signaled : Identified (manager.signal handle event) :=
        identified.of_knows (idOf_of_set found rfl rfl) rfl fun _ => id
      exact signaled.addCall (by simp [CallUnderWay.futures])
  | advance queue serial =>
      exact identified.of_knows rfl rfl fun _ => id
  | @processPollEvents answer iteration events map iterates =>
      have polled :=
        identified.poll answer (iteration.filter manager.isPollable)
      rcases processPollEvents_cases manager answer iteration with
        ⟨_, same⟩ | ⟨_, same⟩ | same
      · rw [same]
        exact identified
      · rw [same]
        exact polled
      · rw [same]
        exact (polled.untrack _).addCall (by simp [CallUnderWay.futures])
  | @waitAny infos timeout events map =>
      rcases waitAny_cases manager events infos timeout with
        same | ⟨futures, found, same⟩
      · rw [same]
        exact identified
      · rw [same]
        apply identified.addCall
        intro future waited
        left
        simpa [tracked, map] using (found future waited).1
  | @finishWait index answer futures timeout underWay =>
      have polled := identified.poll answer futures
      rcases finishWait_cases manager index futures timeout answer with
        same | same | same
      · rw [same]
        exact identified.setCalling ..
      · rw [same]
        exact polled.setCalling ..
      · rw [same]
        exact (polled.untrack _).setCalling ..
  | @checkTracked index future event underWay found =>
      rcases checkTracked_cases manager index future event with
        ⟨_, _, same⟩ | same
      · rw [same]
        exact identified.setCalling ..
      · rw [same]
        apply identified.setCall
        intro other member
        exact Or.inr ⟨_, List.mem_of_getElem? underWay, member⟩
  | insertTracked underWay =>
      refine identified.of_knows rfl rfl ?_
      exact fun other known => knows_of_insertTracked underWay known
  | @finishSetFutureReady index handle event underWay found =>
      rcases finishSetFutureReady_cases manager index handle event with
        ⟨_, _, same⟩ | same
      · rw [same]
        exact (identified.untrack _).setCalling ..
      · rw [same]
        exact identified.setCalling ..
  | @callNext index handle rest others underWay =>
      exact (identified.ensureComplete handle .Ready).setCalling ..
  | callReturns underWay =>
      exact identified.setCalling ..
  | shutDown =>
      refine identified.of_knows rfl rfl ?_
      intro future known
      refine known.imp_left fun isTracked => ?_
      simp [tracked, shutDown] at isTracked

/-- Destroying events gives no identifier. -/
theorem destroyUnreferenced
    (identified : Identified manager) :
    Identified manager.destroyUnreferenced :=
  destroyUnreferenced_induction identified
    fun {_ handle} currentIdentified _ =>
      currentIdentified.ensureComplete handle .Shutdown

end Identified

/-! ## What a poll takes -/

/--
Of futures that are tracked in the order of their identifiers, the ready ones
are called in that order, whatever the order of the hash map.
-/
theorem Identified.filter_prepareReadyCallbacks
    (identified : Identified manager)
    {iteration : List TrackedFuture}
    (iterates : iteration.Perm manager.tracked)
    (ready : TrackedFuture → Bool)
    {chosen : TrackedFuture → Bool}
    (sorted :
      (manager.tracked.filter chosen).Pairwise fun earlier later =>
        earlier.futureID < later.futureID) :
    (prepareReadyCallbacks (iteration.filter ready)).filter chosen =
      (manager.tracked.filter chosen).filter ready := by
  have called :
      ((prepareReadyCallbacks (iteration.filter ready)).filter
        chosen).Pairwise fun first second =>
          first.futureID ≤ second.futureID :=
    (List.pairwise_insertionSort ..).filter chosen
  have inLine :
      ((manager.tracked.filter chosen).filter ready).Pairwise
        fun first second => first.futureID ≤ second.futureID :=
    (sorted.filter ready).imp fun lower => lower.le
  have permuted :
      ((prepareReadyCallbacks (iteration.filter ready)).filter chosen).Perm
        ((manager.tracked.filter chosen).filter ready) := by
    have taken :
        (prepareReadyCallbacks (iteration.filter ready)).Perm
          (manager.tracked.filter ready) :=
      (List.perm_insertionSort ..).trans (iterates.filter ready)
    have swapped :
        (manager.tracked.filter ready).filter chosen =
          (manager.tracked.filter chosen).filter ready := by
      rw [List.filter_filter, List.filter_filter]
      exact List.filter_congr fun _ _ => Bool.and_comm ..
    exact swapped ▸ taken.filter chosen
  have isTracked :
      ∀ future ∈ (manager.tracked.filter chosen).filter ready,
        manager.knows future := by
    intro future member
    exact Or.inl (List.mem_filter.mp (List.mem_filter.mp member).1).1
  apply List.Perm.eq_of_pairwise _ called inLine permuted
  intro first second firstMember secondMember lower upper
  apply identified.eq_of_futureID_eq
  · exact isTracked first (permuted.mem_iff.mp firstMember)
  · exact isTracked second secondMember
  · exact Nat.le_antisymm lower upper

/-- Just the ready futures are untracked. -/
theorem Identified.tracked_untrack_ready
    (identified : Identified manager)
    {iteration : List TrackedFuture}
    (iterates : iteration.Perm manager.tracked)
    (ready : TrackedFuture → Bool) :
    (manager.untrack
        ((prepareReadyCallbacks (iteration.filter ready)).map
          TrackedFuture.futureID)).tracked =
      manager.tracked.filter fun future => !ready future := by
  rw [tracked_untrack]
  apply List.filter_congr
  intro future member
  cases isReady : ready future with
  | true =>
      have taken :
          future.futureID ∈
            (prepareReadyCallbacks (iteration.filter ready)).map
              TrackedFuture.futureID := by
        apply List.mem_map_of_mem
        rw [mem_prepareReadyCallbacks, List.mem_filter]
        exact ⟨iterates.mem_iff.mpr member, isReady⟩
      simp only [Bool.not_true, decide_eq_false_iff_not, not_not]
      exact taken
  | false =>
      have notTaken :
          future.futureID ∉
            (prepareReadyCallbacks (iteration.filter ready)).map
              TrackedFuture.futureID := by
        intro taken
        obtain ⟨other, isTaken, same⟩ := List.mem_map.mp taken
        rw [mem_prepareReadyCallbacks, List.mem_filter] at isTaken
        obtain ⟨iterated, otherReady⟩ := isTaken
        have isOther : other = future :=
          identified.eq_of_futureID_eq
            (Or.inl (iterates.mem_iff.mp iterated)) (Or.inl member) same
        rw [isOther, isReady] at otherReady
        cases otherReady
      simp only [Bool.not_false, decide_eq_true_eq]
      exact notTaken

/-- The futures that a poll untracks and calls. -/
def takes
    (manager : EventManager)
    (answer : PollAnswer)
    (iteration : List TrackedFuture)
    (future : TrackedFuture) : Bool :=
  let futures := iteration.filter manager.isPollable
  manager.isPollable future &&
    (manager.poll answer futures).isReady
      (manager.waitFails answer futures) future

/-- The futures that a poll finds ready are those it takes. -/
theorem readyFutures_eq_filter_takes
    (manager : EventManager)
    (answer : PollAnswer)
    (iteration : List TrackedFuture) :
    manager.readyFutures answer (iteration.filter manager.isPollable) =
      iteration.filter (manager.takes answer iteration) := by
  rw [readyFutures, List.filter_filter]
  apply List.filter_congr
  intro future _
  exact Bool.and_comm ..

end EventManager

end Teck.Dawn
