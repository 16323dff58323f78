import Teck.Dawn.EventLine

namespace Teck.Dawn

/-!
# The order of callbacks

Events of a queue that are completed by polling are called back in the order
in which they were tracked, as the promise ordering of WebGPU asks for.  This
needs that serials do not decrease, that one event has been put into the map
before the next is tracked, and that one poll has made its callbacks before
the next: no lock ensures the last two.
-/

namespace EventManager

variable {manager next : EventManager}

/-! ## Orderly calls -/

/--
The serials of a queue do not decrease and its events are tracked one after
the other; a poll starts when its events are not being called, and they are
not waited for.
-/
def Orderly (queue : Nat) (manager : EventManager) : Label → Prop
  | .trackEvent handle =>
      manager.polledOn queue handle = true →
        (∀ future ∈ manager.tracked,
          manager.polledOn queue future.event = true →
          manager.serialOf future.event ≤ manager.serialOf handle) ∧
        ∀ call ∈ manager.calls, ∀ future ∈ call.inserts,
          manager.polledOn queue future.event = false
  | .processPollEvents _ _ =>
      ∀ call ∈ manager.calls, ∀ handle ∈ call.due,
        manager.polledOn queue handle = false
  | .waitAny infos _ =>
      ∀ future ∈ manager.tracked,
        future.futureID ∈ infos →
        manager.polledOn queue future.event = false
  | _ => True

instance
    (queue : Nat)
    (manager : EventManager)
    (label : Label) :
    Decidable (Orderly queue manager label) := by
  cases label <;> unfold Orderly <;> infer_instance

/-- The polled events and serials of a queue, fixed for the known events. -/
structure Agrees
    (queue : Nat)
    (polled : Nat → Bool)
    (serial : Nat → Nat)
    (manager : EventManager) : Prop where
  polled :
    ∀ handle < manager.events.length,
      polled handle = manager.polledOn queue handle
  serial :
    ∀ handle < manager.events.length,
      serial handle = manager.serialOf handle

/-- A future that is tracked or in a call is one of an event. -/
theorem Identified.inside
    (identified : Identified manager)
    {future : TrackedFuture}
    (known : manager.knows future) :
    future.event < manager.events.length := by
  obtain ⟨isId, notNull⟩ := identified.ofKnown future known
  by_contra outside
  apply notNull
  rw [← isId, idOf, List.getElem?_eq_none (Nat.le_of_not_lt outside),
    Option.elim_none]

namespace Agrees

variable
  {queue : Nat}
  {polled : Nat → Bool}
  {serial : Nat → Nat}

/-- A spontaneous event is not one of the polled ones. -/
theorem of_spontaneous
    (agrees : Agrees queue polled serial manager)
    {handle : Nat}
    {event : TrackedEvent}
    (found : manager.events[handle]? = some event)
    (spontaneous : event.mCallbackMode = .AllowSpontaneous) :
    polled handle = false := by
  have inside : handle < manager.events.length :=
    (List.getElem?_eq_some_iff.mp found).1
  rw [agrees.polled handle inside]
  exact polledOn_of_spontaneous found spontaneous queue

/-- No polled event arrives when another one is tracked. -/
theorem arrivals_eq_nil
    (agrees : Agrees queue polled serial manager)
    (identified : Identified manager)
    (noneInserted :
      ∀ call ∈ manager.calls, ∀ future ∈ call.inserts,
        manager.polledOn queue future.event = false) :
    (manager.arrivals polled).flatten = [] := by
  rw [List.flatten_eq_nil_iff]
  intro arrival member
  obtain ⟨call, underWay, rfl⟩ := List.mem_map.mp member
  rw [List.filter_eq_nil_iff]
  intro future inserts
  have known : manager.knows future :=
    Or.inr ⟨call, underWay, CallUnderWay.mem_futures_of_inserts inserts⟩
  rw [agrees.polled _ (identified.inside known),
    noneInserted call underWay future inserts]
  exact Bool.false_ne_true

/-- No polled event is being called when a poll starts. -/
theorem loads_eq_nil
    (agrees : Agrees queue polled serial manager)
    (released : Released manager)
    (noneDue :
      ∀ call ∈ manager.calls, ∀ handle ∈ call.due,
        manager.polledOn queue handle = false) :
    (manager.loads polled).flatten = [] := by
  rw [List.flatten_eq_nil_iff]
  intro load member
  obtain ⟨call, underWay, rfl⟩ := List.mem_map.mp member
  rw [List.filter_eq_nil_iff]
  intro handle isDue
  have inside : handle < manager.events.length := by
    apply released.inside
    apply refersTo_of_call underWay
    exact CallUnderWay.refersTo_of_due isDue
  rw [agrees.polled handle inside, noneDue call underWay handle isDue]
  exact Bool.false_ne_true

end Agrees

/-! ## Steps of the line -/

namespace InLine

variable
  {queue : Nat}
  {polled : Nat → Bool}
  {serial : Nat → Nat}
  {history : List Label}

/-- An event that gets an identifier steps up to the end of the line. -/
theorem trackEvent
    (line : InLine polled serial history manager)
    (identified : Identified manager)
    (agrees : Agrees queue polled serial manager)
    {handle : Nat}
    {event : TrackedEvent}
    (found : manager.events[handle]? = some event)
    (untracked : event.mFutureID = kNullFutureID)
    (orderly : Orderly queue manager (.trackEvent handle)) :
    InLine polled serial (history ++ [.trackEvent handle])
      (manager.trackEvent handle event).2 := by
  have inside : handle < manager.events.length :=
    (List.getElem?_eq_some_iff.mp found).1
  have wasNull : manager.idOf handle = kNullFutureID := by
    rw [idOf_of_found found, untracked]
  have isNew : handle ∉ trackedHandles history :=
    fun member => line.known handle member wasNull
  have tracks :
      trackedHandles (history ++ [.trackEvent handle]) =
        trackedHandles history ++ [handle] :=
    trackedHandles_append ..
  let future : TrackedFuture := ⟨manager.mNextFutureID, handle⟩
  let after := (manager.trackEvent handle event).2
  have ids :
      after.idOf =
        Function.update manager.idOf handle manager.mNextFutureID :=
    idOf_assignFutureID found
  have loads : after.loads polled = manager.loads polled ++ [[]] :=
    parts_addCall ..
  have arrivals :
      after.arrivals polled =
        manager.arrivals polled ++
          [[future].filter fun future => polled future.event] :=
    parts_addCall ..
  -- while another event of the queue is being put in, none is tracked
  have noArrivals :
      polled handle = true → (manager.arrivals polled).flatten = [] := by
    intro isPolled
    rw [agrees.polled handle inside] at isPolled
    exact agrees.arrivals_eq_nil identified (orderly isPolled).2
  have sameMap : after.mEvents = manager.mEvents := rfl
  have behind :
      ∀ earlier ∈ manager.lineOf polled,
        polled handle = true →
        earlier.futureID < manager.mNextFutureID ∧
          serial earlier.event ≤ serial handle := by
    intro earlier member isPolled
    obtain ⟨known, earlierPolled⟩ := knows_of_mem_lineOf member
    refine ⟨identified.lt_mNextFutureID known, ?_⟩
    have isTracked : earlier ∈ manager.tracked := by
      rw [lineOf, noArrivals isPolled, List.append_nil] at member
      split at member
      · cases member
      · exact (List.mem_filter.mp member).1
    have earlierInside := identified.inside known
    rw [agrees.polled _ earlierInside] at earlierPolled
    rw [agrees.polled handle inside] at isPolled
    rw [agrees.serial _ earlierInside, agrees.serial handle inside]
    exact (orderly isPolled).1 earlier isTracked earlierPolled
  have newLine :
      ∀ {futures : List TrackedFuture},
        manager.mEvents = some futures →
        after.lineOf polled =
          manager.lineOf polled ++
            [future].filter fun future => polled future.event := by
    intro futures map
    rw [lineOf_of_some (sameMap.trans map), lineOf_of_some map, arrivals,
      List.flatten_append, List.flatten_singleton, List.append_assoc]
    rfl
  obtain ⟨dropped, order, kept⟩ := line.order
  constructor
  · intro other member
    rw [tracks, List.mem_append, List.mem_singleton] at member
    rw [ids]
    by_cases isHandle : other = handle
    · rw [isHandle, Function.update_self]
      exact identified.positive.ne'
    · rw [Function.update_of_ne isHandle]
      exact line.known other (member.resolve_right isHandle)
  · rw [tracks]
    exact
      List.Nodup.append line.once (List.nodup_singleton handle)
        (by simpa using isNew)
  · cases map : manager.mEvents with
    | none =>
        rw [lineOf_of_none (sameMap.trans map)]
        exact List.Pairwise.nil
    | some futures =>
        rw [newLine map, List.pairwise_append]
        refine
          ⟨line.sorted, (List.pairwise_singleton ..).filter _, ?_⟩
        intro earlier earlierMember later laterMember
        obtain ⟨isLast, laterPolled⟩ := List.mem_filter.mp laterMember
        obtain rfl := List.mem_singleton.mp isLast
        exact behind earlier earlierMember laterPolled
  · rw [arrivals]
    cases isPolled : polled handle with
    | true =>
        exact ⟨_, Delivery.alone_append (noArrivals isPolled)⟩
    | false =>
        obtain ⟨index, alone⟩ := line.arrivesAlone
        have nothing :
            ([future].filter fun future => polled future.event) = [] := by
          simp [future, isPolled]
        rw [nothing]
        exact ⟨index, alone.append_nil⟩
  · rw [loads]
    obtain ⟨index, alone⟩ := line.calledAlone
    exact ⟨index, alone.append_nil⟩
  · rintro other ⟨futures, timeout, member, inFutures⟩
    rcases List.mem_append.mp member with old | new
    · exact line.waits other ⟨futures, timeout, old, inFutures⟩
    · cases List.mem_singleton.mp new
  · have sameLoads :
        (after.loads polled).flatten = (manager.loads polled).flatten := by
      rw [loads]
      simp
    have sent :
        (trackedHandles (history ++ [.trackEvent handle])).filter polled =
          (trackedHandles history).filter polled ++
            [handle].filter polled := by
      rw [tracks, List.filter_append]
    have sameReadied : after.readied = manager.readied := rfl
    rw [sameLoads, sent, sameReadied]
    cases map : manager.mEvents with
    | none =>
        rw [lineOf_of_none map] at order
        refine ⟨dropped ++ [handle].filter polled, ?_, ?_⟩
        · rw [lineOf_of_none (sameMap.trans map)]
          cases isPolled : polled handle with
          | true =>
              simpa [isPolled] using order.send_dropped
          | false =>
              simpa [isPolled] using order
        · exact fun isMap => absurd (sameMap.trans map) isMap
    | some futures =>
        have noneDropped : dropped = [] := kept (by simp [map])
        subst noneDropped
        refine ⟨[], ?_, fun _ => rfl⟩
        rw [newLine map, List.map_append]
        cases isPolled : polled handle with
        | true =>
            simpa [isPolled, future] using order.send
        | false =>
            simpa [isPolled, future] using order

/-- `TrackEvent` completes a spontaneous event, or keeps its place in line. -/
theorem checkTracked
    (line : InLine polled serial history manager)
    (agrees : Agrees queue polled serial manager)
    {index : Nat}
    {future : TrackedFuture}
    {event : TrackedEvent}
    (underWay : manager.calls[index]? = some (.tracking future))
    (found : manager.events[future.event]? = some event) :
    InLine polled serial history
      (manager.checkTracked index future event) := by
  rcases checkTracked_cases manager index future event with
    ⟨spontaneous, _, same⟩ | same
  · have unpolled := agrees.of_spontaneous found spontaneous
    rw [same]
    apply line.setCall underWay
    · simp [CallUnderWay.due, unpolled]
    · simp [CallUnderWay.inserts, unpolled]
    · simp
  · rw [same]
    apply line.setCall underWay
    · rfl
    · rfl
    · simp

/-- The event at the end of the line is put into the map. -/
theorem insertTracked
    (line : InLine polled serial history manager)
    {index : Nat}
    {future : TrackedFuture}
    (underWay : manager.calls[index]? = some (.inserting future)) :
    InLine polled serial history (manager.insertTracked index future) := by
  let after := manager.insertTracked index future
  have emplaced :
      (manager.emplace future).calls[index]? = some (.inserting future) :=
    underWay
  have arrivals :
      after.arrivals polled = (manager.arrivals polled).set index [] :=
    parts_setCall ..
  have loads : after.loads polled = manager.loads polled := by
    apply parts_setCall_of_same emplaced
    rfl
  have sameMap : after.mEvents = none ↔ manager.mEvents = none :=
    Option.map_eq_none_iff
  have arriving :
      (manager.arrivals polled).getD index [] =
        [future].filter fun future => polled future.event :=
    getD_parts underWay _
  -- the event of the call is the only one that is being put in
  have alone :
      ∃ only,
        Delivery.Alone (after.arrivals polled) only ∧
          (manager.arrivals polled).flatten =
            ([future].filter fun future => polled future.event) ++
              (after.arrivals polled).flatten := by
    obtain ⟨only, isAlone⟩ := line.arrivesAlone
    rw [arrivals]
    cases isPolled : polled future.event with
    | true =>
        have isOnly : index = only := by
          apply isAlone.eq_of_ne_nil
          rw [arriving]
          simp [isPolled]
        subst isOnly
        have inside : index < (manager.arrivals polled).length := by
          rw [EventManager.arrivals, parts, List.length_map]
          exact (List.getElem?_eq_some_iff.mp underWay).1
        refine ⟨index, isAlone.set, ?_⟩
        rw [isAlone.flatten, isAlone.set.flatten, arriving]
        simp [List.getD_eq_getElem?_getD, List.getElem?_set_self inside]
    | false =>
        have unchanged :
            (manager.arrivals polled).set index [] =
              manager.arrivals polled := by
          rw [← arrivals]
          apply parts_setCall_of_same emplaced
          simp [CallUnderWay.inserts, isPolled]
        rw [unchanged]
        exact ⟨only, isAlone, by simp [isPolled]⟩
  obtain ⟨only, isAlone, arrived⟩ := alone
  have sameLine : after.lineOf polled = manager.lineOf polled := by
    cases map : manager.mEvents with
    | none =>
        rw [lineOf_of_none map, lineOf_of_none (sameMap.mpr map)]
    | some futures =>
        have newMap : after.mEvents = some (futures ++ [future]) := by
          simp [after, EventManager.insertTracked, EventManager.setCall,
            emplace, map]
        rw [lineOf_of_some newMap, lineOf_of_some map, arrived, tracked,
          tracked, newMap, map, Option.getD_some, Option.getD_some,
          List.filter_append, List.append_assoc]
  refine line.frame rfl sameLine sameMap ⟨only, isAlone⟩ ?_ ?_ ?_ rfl
  · rw [loads]
    exact line.calledAlone
  · rw [loads]
  · intro other waits
    exact line.waits other (waitsFor_of_setCall (by simp) waits)

/-- The events that `SetFutureReady` untracks and completes are not in line. -/
theorem finishSetFutureReady
    (line : InLine polled serial history manager)
    (identified : Identified manager)
    (agrees : Agrees queue polled serial manager)
    {index handle : Nat}
    {event : TrackedEvent}
    (underWay : manager.calls[index]? = some (.signaled handle))
    (found : manager.events[handle]? = some event) :
    InLine polled serial history
      (manager.finishSetFutureReady index handle event) := by
  rcases finishSetFutureReady_cases manager index handle event with
    ⟨_, spontaneous, same⟩ | same
  · have unpolled := agrees.of_spontaneous found spontaneous
    have untracked :
        ∀ future ∈ manager.tracked,
          future.futureID ∈ [event.mFutureID] →
          polled future.event = false := by
      intro future member isId
      obtain ⟨futureId, notNull⟩ := identified.ofKnown future (Or.inl member)
      have isEvent : future.event = handle := by
        apply identified.distinct
        · rw [futureId, List.mem_singleton.mp isId, idOf_of_found found]
        · rw [futureId]
          exact notNull
      rw [isEvent]
      exact unpolled
    have stillUnderWay :
        (manager.untrack [event.mFutureID]).calls[index]? =
          some (.signaled handle) :=
      underWay
    rw [same]
    apply (line.untrack untracked).setCall stillUnderWay
    · simp [CallUnderWay.due, unpolled]
    · rfl
    · simp
  · rw [same]
    apply line.setCall underWay
    · rfl
    · rfl
    · simp

/-- The event that a call makes its next callback for has not been called. -/
theorem isCompleted_of_due
    (line : InLine polled serial history manager)
    (logged : Logged manager)
    (released : Released manager)
    {handle : Nat}
    (refers : manager.refersTo handle = true)
    (isLoaded : handle ∈ (manager.loads polled).flatten) :
    manager.isCompleted handle = false := by
  have isPolled : polled handle = true := by
    obtain ⟨load, member, inLoad⟩ := List.mem_flatten.mp isLoaded
    obtain ⟨call, _, rfl⟩ := List.mem_map.mp member
    exact (List.mem_filter.mp inLoad).2
  obtain ⟨dropped, order, _⟩ := line.order
  have notReadied :=
    order.not_delivered_of_transit (line.once.filter polled) isLoaded
  by_contra completed
  rw [Bool.not_eq_false, ← logged.mem_iff] at completed
  obtain ⟨⟨other, completionType⟩, called, rfl⟩ := List.mem_map.mp completed
  cases completionType with
  | Ready =>
      apply notReadied
      rw [List.mem_filter, readied, List.mem_map]
      refine ⟨⟨_, List.mem_filter.mpr ⟨called, ?_⟩, rfl⟩, isPolled⟩
      simp
  | Shutdown =>
      rw [released.shutdown other called] at refers
      cases refers

/-- A call delivers the first of its polled events. -/
theorem callNext
    (line : InLine polled serial history manager)
    (logged : Logged manager)
    (released : Released manager)
    {index handle : Nat}
    {rest others : List Nat}
    (underWay :
      manager.calls[index]? = some (.calling (handle :: rest) others)) :
    InLine polled serial history
      ((manager.ensureComplete handle .Ready).setCall index
        (.calling rest others)) := by
  have stillUnderWay :
      (manager.ensureComplete handle .Ready).calls[index]? =
        some (.calling (handle :: rest) others) := by
    rw [ensureComplete_calls]
    exact underWay
  cases isPolled : polled handle with
  | false =>
      apply (line.ensureComplete isPolled).setCall stillUnderWay
      · simp [CallUnderWay.due, isPolled]
      · rfl
      · simp
  | true =>
      let after :=
        (manager.ensureComplete handle .Ready).setCall index
          (.calling rest others)
      have loaded :
          (manager.loads polled).getD index [] =
            handle :: rest.filter polled := by
        rw [loads, getD_parts underWay]
        exact List.filter_cons_of_pos isPolled
      have newLoads :
          after.loads polled =
            (manager.loads polled).set index (rest.filter polled) := by
        rw [loads, parts_setCall, parts, ensureComplete_calls]
        rfl
      obtain ⟨only, alone⟩ := line.calledAlone
      have isOnly : index = only := by
        apply alone.eq_of_ne_nil
        rw [loaded]
        simp
      subst isOnly
      have isLoad :
          (manager.loads polled).flatten =
            handle :: rest.filter polled := by
        rw [alone.flatten, loaded]
      have nextLoad :
          (after.loads polled).flatten = rest.filter polled := by
        rw [newLoads, alone.set.flatten, List.getD_eq_getElem?_getD,
          List.getElem?_set_self]
        · rfl
        · rw [loads, parts, List.length_map]
          exact (List.getElem?_eq_some_iff.mp underWay).1
      have sameArrivals :
          after.arrivals polled = manager.arrivals polled := by
        have same :
            after.arrivals polled =
              (manager.ensureComplete handle .Ready).arrivals polled :=
          parts_setCall_of_same stillUnderWay rfl
        rw [same, arrivals, arrivals, parts, parts, ensureComplete_calls]
      have refers : manager.refersTo handle = true := by
        apply refersTo_of_call (List.mem_of_getElem? underWay)
        exact List.mem_append_left _ (List.mem_cons_self ..)
      have fresh :=
        line.isCompleted_of_due logged released refers (by simp [isLoad])
      have sameMap : after.mEvents = manager.mEvents :=
        ensureComplete_mEvents ..
      have sameLine : after.lineOf polled = manager.lineOf polled := by
        apply lineOf_congr
        · rw [sameMap]
        · rw [tracked, tracked, sameMap]
        · rw [sameArrivals]
      have called :
          after.readied.filter polled =
            manager.readied.filter polled ++ [handle] := by
        have more :=
          readied_ensureComplete_of_fresh (released.inside handle refers)
            fresh
        have sameReadied :
            after.readied = (manager.ensureComplete handle .Ready).readied :=
          rfl
        rw [sameReadied, more, List.filter_append,
          List.filter_cons_of_pos isPolled, List.filter_nil]
      obtain ⟨dropped, order, kept⟩ := line.order
      constructor
      · intro other member
        have ids : after.idOf = manager.idOf := idOf_ensureComplete ..
        rw [ids]
        exact line.known other member
      · exact line.once
      · rw [sameLine]
        exact line.sorted
      · rw [sameArrivals]
        exact line.arrivesAlone
      · rw [newLoads]
        exact ⟨index, alone.set⟩
      · intro future waits
        have waited := waitsFor_of_setCall (by simp) waits
        rw [waitsFor, ensureComplete_calls] at waited
        exact line.waits future waited
      · refine ⟨dropped, ?_, ?_⟩
        · rw [sameLine, nextLoad, called]
          rw [isLoad] at order
          exact order.deliver
        · rw [sameMap]
          exact kept

/-- The ready events of the queue are at the front of the map's part. -/
theorem filter_takes
    (line : InLine polled serial history manager)
    (identified : Identified manager)
    (agrees : Agrees queue polled serial manager)
    {futures : List TrackedFuture}
    (map : manager.mEvents = some futures)
    (answer : PollAnswer)
    (iteration : List TrackedFuture) :
    let waiting :=
      manager.tracked.filter fun future => polled future.event
    waiting =
      waiting.filter (manager.takes answer iteration) ++
        waiting.filter fun future =>
          !manager.takes answer iteration future := by
  apply Delivery.filter_append_filter_not
  have sorted := line.sorted
  rw [lineOf_of_some map] at sorted
  refine (List.pairwise_append.mp sorted).1.imp_of_mem ?_
  intro earlier later earlierMember laterMember inOrder laterTaken
  obtain ⟨earlierTracked, earlierPolled⟩ := List.mem_filter.mp earlierMember
  obtain ⟨laterTracked, laterPolled⟩ := List.mem_filter.mp laterMember
  have earlierInside := identified.inside (Or.inl earlierTracked)
  have laterInside := identified.inside (Or.inl laterTracked)
  have serials := inOrder.2
  rw [agrees.polled _ earlierInside] at earlierPolled
  rw [agrees.polled _ laterInside] at laterPolled
  rw [agrees.serial _ earlierInside, agrees.serial _ laterInside] at serials
  rw [takes_of_polledOn laterPolled] at laterTaken
  rw [takes_of_polledOn earlierPolled]
  rw [Bool.or_eq_true, decide_eq_true_eq] at laterTaken ⊢
  exact laterTaken.imp_left fun completed => serials.trans completed

/-- A poll takes the ready events of the queue from the front of its line. -/
theorem processPollEvents
    (line : InLine polled serial history manager)
    (identified : Identified manager)
    (released : Released manager)
    (agrees : Agrees queue polled serial manager)
    {answer : PollAnswer}
    {iteration futures : List TrackedFuture}
    (map : manager.mEvents = some futures)
    (iterates : iteration.Perm futures)
    (orderly :
      Orderly queue manager (.processPollEvents answer iteration)) :
    InLine polled serial history
      (manager.processPollEvents answer iteration).2 := by
  rcases processPollEvents_cases manager answer iteration with
    ⟨_, same⟩ | ⟨_, same⟩ | same
  · rw [same]
    exact line
  · rw [same]
    exact line.of_same rfl rfl rfl rfl
  · have iteratesTracked : iteration.Perm manager.tracked := by
      rwa [tracked, map, Option.getD_some]
    rw [readyFutures_eq_filter_takes] at same
    let takes := manager.takes answer iteration
    let waiting := manager.tracked.filter fun future => polled future.event
    let after := (manager.processPollEvents answer iteration).2
    have newTracked :
        after.tracked = manager.tracked.filter fun future => !takes future := by
      have untracked := congrArg tracked same
      exact
        untracked.trans
          (identified.tracked_untrack_ready iteratesTracked takes)
    have newMap : after.mEvents ≠ none := by
      have untracked := congrArg mEvents same
      simp [after, untracked, EventManager.untrack, EventManager.addCall,
        poll, map]
    have sortedLine := line.sorted
    rw [lineOf_of_some map] at sortedLine
    have sorted :
        waiting.Pairwise fun earlier later =>
          earlier.futureID < later.futureID :=
      (List.pairwise_append.mp sortedLine).1.imp And.left
    have taken :
        (prepareReadyCallbacks (iteration.filter takes)).filter
            (fun future => polled future.event) =
          waiting.filter takes :=
      identified.filter_prepareReadyCallbacks iteratesTracked takes sorted
    have kept :
        (after.tracked.filter fun future => polled future.event) =
          waiting.filter fun future => !takes future := by
      rw [newTracked, List.filter_filter, List.filter_filter]
      exact List.filter_congr fun _ _ => Bool.and_comm ..
    have newArrivals :
        after.arrivals polled = manager.arrivals polled ++ [[]] := by
      have added := congrArg (arrivals · polled) same
      exact added.trans (parts_addCall ..)
    have newLoads :
        after.loads polled =
          manager.loads polled ++
            [(waiting.filter takes).map TrackedFuture.event] := by
      have added := congrArg (loads · polled) same
      refine (added.trans (parts_addCall ..)).trans ?_
      rw [← taken, CallUnderWay.due, List.filter_map]
      rfl
    have noLoads := agrees.loads_eq_nil released orderly
    have split :
        manager.lineOf polled = waiting.filter takes ++ after.lineOf polled := by
      rw [lineOf_of_some map, lineOf, if_neg newMap, kept, newArrivals,
        List.flatten_append, ← List.append_assoc,
        ← line.filter_takes identified agrees map answer iteration]
      simp
    obtain ⟨dropped, order, keptAll⟩ := line.order
    constructor
    · intro other member
      have ids := congrArg idOf same
      have sameIds : after.idOf = manager.idOf := ids
      rw [sameIds]
      exact line.known other member
    · exact line.once
    · have sortedAll := line.sorted
      rw [split] at sortedAll
      exact (List.pairwise_append.mp sortedAll).2.1
    · rw [newArrivals]
      obtain ⟨index, alone⟩ := line.arrivesAlone
      exact ⟨index, alone.append_nil⟩
    · rw [newLoads]
      exact ⟨_, Delivery.alone_append noLoads⟩
    · intro future waits
      have sameCalls := congrArg calls same
      obtain ⟨waited, timeout, member, inFutures⟩ := waits
      rw [sameCalls] at member
      rcases List.mem_append.mp member with old | new
      · exact line.waits future ⟨waited, timeout, old, inFutures⟩
      · cases List.mem_singleton.mp new
    · have sameReadied : after.readied = manager.readied := by
        have called := congrArg readied same
        exact called
      refine ⟨dropped, ?_, fun _ => keptAll (by simp [map])⟩
      rw [sameReadied, newLoads, List.flatten_append,
        List.flatten_singleton]
      apply order.collect
      rw [split, List.map_append]

/-- A wait is for events that are not in line. -/
theorem waitAny
    (line : InLine polled serial history manager)
    (identified : Identified manager)
    (agrees : Agrees queue polled serial manager)
    {infos : List FutureID}
    {timeout : Nat}
    {events : List TrackedFuture}
    (map : manager.mEvents = some events)
    (orderly : Orderly queue manager (.waitAny infos timeout)) :
    InLine polled serial history
      (manager.waitAny events infos timeout).2 := by
  rcases waitAny_cases manager events infos timeout with
    same | ⟨futures, found, same⟩
  · rw [same]
    exact line
  · rw [same]
    apply line.addCall
    · rfl
    · rfl
    · intro others otherTimeout isWait future waits
      obtain ⟨rfl, rfl⟩ := CallUnderWay.waiting.inj isWait
      have isTracked : future ∈ manager.tracked := by
        simpa [tracked, map] using (found future waits).1
      rw [agrees.polled _ (identified.inside (Or.inl isTracked))]
      exact orderly future isTracked (found future waits).2

/-- What a wait completes is not in the line. -/
theorem finishWait
    (line : InLine polled serial history manager)
    (identified : Identified manager)
    {index : Nat}
    {answer : PollAnswer}
    {futures : List TrackedFuture}
    {timeout : Nat}
    (underWay : manager.calls[index]? = some (.waiting futures timeout)) :
    InLine polled serial history
      (manager.finishWait index futures timeout answer).2.2 := by
  have waited : ∀ future ∈ futures, manager.waitsFor future :=
    fun future member =>
      ⟨futures, timeout, List.mem_of_getElem? underWay, member⟩
  have polledLine :
      InLine polled serial history (manager.poll answer futures) :=
    line.of_same rfl rfl rfl rfl
  have stillUnderWay :
      (manager.poll answer futures).calls[index]? =
        some (.waiting futures timeout) :=
    underWay
  rcases finishWait_cases manager index futures timeout answer with
    same | same | same
  · rw [same]
    exact line.setCall underWay rfl rfl (by simp)
  · rw [same]
    exact polledLine.setCall stillUnderWay rfl rfl (by simp)
  · rw [same]
    have readyWaits :
        ∀ future ∈
            prepareReadyCallbacks
              (manager.reportedFutures answer futures timeout),
          manager.waitsFor future := by
      intro future member
      rw [mem_prepareReadyCallbacks] at member
      apply waited
      exact mem_of_mem_readyFutures (mem_readyFutures_of_reported member)
    have unpolled :
        ∀ future ∈ manager.tracked,
          future.futureID ∈
              (prepareReadyCallbacks
                (manager.reportedFutures answer futures timeout)).map
                  TrackedFuture.futureID →
            polled future.event = false := by
      intro future member isReady
      obtain ⟨other, otherReady, sameId⟩ := List.mem_map.mp isReady
      have otherWaits := readyWaits other otherReady
      rw [identified.eq_of_futureID_eq (Or.inl member)
        (knows_of_waitsFor otherWaits) sameId.symm]
      exact line.waits other otherWaits
    apply (polledLine.untrack unpolled).setCall stillUnderWay
    · rw [CallUnderWay.due, CallUnderWay.due, List.filter_nil,
        List.filter_eq_nil_iff]
      intro handle isDue
      obtain ⟨future, member, rfl⟩ := List.mem_map.mp isDue
      rw [line.waits future (readyWaits future member)]
      exact Bool.false_ne_true
    · rfl
    · simp

/-- Without its map the manager drops the line. -/
theorem shutDown
    (line : InLine polled serial history manager) :
    InLine polled serial history manager.shutDown := by
  obtain ⟨dropped, order, _⟩ := line.order
  have noLine : manager.shutDown.lineOf polled = [] := lineOf_of_none rfl _
  refine
    ⟨line.known, line.once, ?_, line.arrivesAlone, line.calledAlone,
      line.waits, ?_⟩
  · rw [noLine]
    exact List.Pairwise.nil
  · rw [noLine]
    exact ⟨_, order.drop, fun isMap => absurd rfl isMap⟩

/-- Every orderly step keeps the line. -/
theorem of_performs
    {label : Label}
    (performs : Performs manager label next)
    (orderly : Orderly queue manager label)
    (agrees : Agrees queue polled serial manager)
    (logged : Logged manager)
    (released : Released manager)
    (identified : Identified manager)
    (line : InLine polled serial history manager) :
    InLine polled serial (history ++ [label]) next := by
  cases performs with
  | create mCallbackMode mCompletionData =>
      have created :
          InLine polled serial history
            (manager.create mCallbackMode mCompletionData) :=
        line.of_same (idOf_create ..) rfl rfl rfl
      exact created.quiet rfl
  | addReference held =>
      exact (line.quiet rfl).of_same rfl rfl rfl rfl
  | release held =>
      exact (line.quiet rfl).of_same rfl rfl rfl rfl
  | trackEvent found held untracked =>
      exact line.trackEvent identified agrees found untracked orderly
  | @setFutureReady handle event found held =>
      have signaled :
          InLine polled serial history (manager.signal handle event) :=
        line.of_same (idOf_of_set found rfl rfl) rfl rfl rfl
      have began :
          InLine polled serial history
            (manager.setFutureReady handle event) :=
        signaled.addCall rfl rfl (by simp)
      exact began.quiet rfl
  | advance queue serial =>
      exact (line.quiet rfl).of_same rfl rfl rfl rfl
  | processPollEvents map iterates =>
      have taken :=
        line.processPollEvents identified released agrees map iterates
          orderly
      exact taken.quiet rfl
  | waitAny map =>
      exact (line.waitAny identified agrees map orderly).quiet rfl
  | finishWait underWay =>
      exact (line.finishWait identified underWay).quiet rfl
  | checkTracked underWay found =>
      exact (line.checkTracked agrees underWay found).quiet rfl
  | insertTracked underWay =>
      exact (line.insertTracked underWay).quiet rfl
  | finishSetFutureReady underWay found =>
      have finished :=
        line.finishSetFutureReady identified agrees underWay found
      exact finished.quiet rfl
  | callNext underWay =>
      exact (line.callNext logged released underWay).quiet rfl
  | @callReturns index others underWay =>
      have returned :
          InLine polled serial history
            (manager.setCall index (.calling [] [])) :=
        line.setCall underWay rfl rfl (by simp)
      exact returned.quiet rfl
  | shutDown =>
      exact line.shutDown.quiet rfl

/-- Only the polled events and serials of known events matter. -/
theorem congr
    (line : InLine polled serial history manager)
    (logged : Logged manager)
    (released : Released manager)
    (identified : Identified manager)
    {nextPolled : Nat → Bool}
    {nextSerial : Nat → Nat}
    (samePolled :
      ∀ handle < manager.events.length, nextPolled handle = polled handle)
    (sameSerial :
      ∀ handle < manager.events.length, nextSerial handle = serial handle) :
    InLine nextPolled nextSerial history manager := by
  have inHistory :
      (trackedHandles history).filter nextPolled =
        (trackedHandles history).filter polled := by
    apply List.filter_congr
    intro handle member
    apply samePolled
    by_contra outside
    apply line.known handle member
    rw [idOf, List.getElem?_eq_none (Nat.le_of_not_lt outside),
      Option.elim_none]
  have inReadied :
      manager.readied.filter nextPolled = manager.readied.filter polled := by
    apply List.filter_congr
    intro handle member
    apply samePolled
    obtain ⟨callback, called, rfl⟩ := List.mem_map.mp member
    apply logged.lt_length
    exact List.mem_map_of_mem (List.mem_filter.mp called).1
  have inTracked :
      (manager.tracked.filter fun future => nextPolled future.event) =
        manager.tracked.filter fun future => polled future.event := by
    apply List.filter_congr
    exact fun future member =>
      samePolled _ (identified.inside (Or.inl member))
  have inArrivals :
      manager.arrivals nextPolled = manager.arrivals polled := by
    apply List.map_congr_left
    intro call underWay
    apply List.filter_congr
    intro future member
    apply samePolled
    apply identified.inside
    exact
      Or.inr ⟨call, underWay, CallUnderWay.mem_futures_of_inserts member⟩
  have inLine : manager.lineOf nextPolled = manager.lineOf polled := by
    rw [lineOf, lineOf, inTracked, inArrivals]
  have inLoads : manager.loads nextPolled = manager.loads polled := by
    apply List.map_congr_left
    intro call underWay
    apply List.filter_congr
    intro handle isDue
    apply samePolled
    apply released.inside
    exact refersTo_of_call underWay (CallUnderWay.refersTo_of_due isDue)
  refine ⟨line.known, line.once, ?_, ?_, ?_, ?_, ?_⟩
  · rw [inLine]
    refine line.sorted.imp_of_mem ?_
    intro earlier later earlierMember laterMember ordered
    have earlierKnown := (knows_of_mem_lineOf earlierMember).1
    have laterKnown := (knows_of_mem_lineOf laterMember).1
    rw [sameSerial _ (identified.inside earlierKnown),
      sameSerial _ (identified.inside laterKnown)]
    exact ordered
  · rw [inArrivals]
    exact line.arrivesAlone
  · rw [inLoads]
    exact line.calledAlone
  · intro future waits
    rw [samePolled _ (identified.inside (knows_of_waitsFor waits))]
    exact line.waits future waits
  · rw [inHistory, inReadied, inLine, inLoads]
    exact line.order

end InLine

/-! ## Runs -/

/-- The invariant of the order of callbacks. -/
structure Ordered
    (queue : Nat)
    (history : List Label)
    (manager : EventManager) : Prop where
  logged : Logged manager
  released : Released manager
  identified : Identified manager
  line :
    InLine (manager.polledOn queue) manager.serialOf history manager

/-- An orderly step keeps the invariant of the order of callbacks. -/
theorem Ordered.of_step
    {queue : Nat}
    {history : List Label}
    {label : Label}
    (orderly : Orderly queue manager label)
    (ordered : Ordered queue history manager)
    (stepped : manager.step? label = some next) :
    Ordered queue (history ++ [label]) next := by
  have released := ordered.released.of_step stepped ordered.logged
  have advances := advances_of_step stepped
  have agrees :
      Agrees queue (next.polledOn queue) next.serialOf manager :=
    ⟨fun _ inside => polledOn_of_advances advances inside queue,
      fun _ inside => serialOf_of_advances advances inside⟩
  have line :=
    ordered.line.congr ordered.logged ordered.released ordered.identified
      agrees.polled agrees.serial
  obtain ⟨performed, performs, rfl⟩ := performs_of_step stepped
  exact
    ⟨(ordered.logged.of_performs performs).destroyUnreferenced,
      released,
      (ordered.identified.of_performs performs).destroyUnreferenced,
      (line.of_performs performs orderly agrees ordered.logged
        ordered.released ordered.identified).destroyUnreferenced⟩

/--
The callbacks of the polled events of a queue are called in the order in which
the events were tracked, and none is passed over.
-/
theorem readied_prefix_of_tracked
    {queue : Nat}
    {timedWaitAnyEnable : Bool}
    {labels : List Label}
    {final : EventManager}
    (ran :
      Runs.run? step? (new timedWaitAnyEnable) labels = some final)
    (orderly :
      Runs.Meets step? (Orderly queue) (new timedWaitAnyEnable) labels) :
    final.readied.filter (final.polledOn queue) <+:
      (trackedHandles labels).filter (final.polledOn queue) := by
  have initially : Ordered queue [] (new timedWaitAnyEnable) := by
    have accounted := accounted_new (fun _ => True) timedWaitAnyEnable
    exact
      ⟨accounted.logged, accounted.released, Identified.new _, InLine.new _⟩
  have ordered : Ordered queue ([] ++ labels) final :=
    Runs.invariant_of_meets Ordered.of_step initially orderly ran
  obtain ⟨dropped, order, _⟩ := ordered.line.order
  exact order.delivered_prefix

/--
Three events of a queue, two of them tracked while polls that find them in
other orders are under way, and one of another queue that is put in late.
-/
def twoPolls : List Label :=
  [.create .AllowProcessEvents (.queueAndSerial 0 1),
    .create .AllowProcessEvents (.queueAndSerial 0 2),
    .create .AllowProcessEvents (.queueAndSerial 0 2),
    .create .AllowProcessEvents (.queueAndSerial 1 1),
    .trackEvent 0,
    .trackEvent 3,
    .proceed 0,
    .proceed 0,
    .trackEvent 2,
    .advance 0 1,
    .processPollEvents ⟨fun _ => 0, fun _ => false, fun _ => true⟩
      [⟨1, 0⟩],
    .proceed 2,
    .proceed 2,
    .trackEvent 1,
    .proceed 3,
    .proceed 4,
    .proceed 4,
    .proceed 1,
    .proceed 1,
    .processPollEvents ⟨fun _ => 2, fun _ => false, fun _ => true⟩
      [⟨4, 1⟩, ⟨2, 3⟩, ⟨3, 2⟩],
    .proceed 5,
    .proceed 5]

/-- The callbacks of the first queue follow their tracking. -/
theorem readied_prefix_of_tracked_twoPolls :
    ∃ final,
      Runs.run? step? (new false) twoPolls = some final ∧
        final.readied = [0, 3, 2] ∧
          final.readied.filter (final.polledOn 0) <+:
            (trackedHandles twoPolls).filter (final.polledOn 0) := by
  have ran :
      (Runs.run? step? (new false) twoPolls).map readied =
        some [0, 3, 2] := by
    decide +kernel
  have orderly : Runs.Meets step? (Orderly 0) (new false) twoPolls := by
    decide +kernel
  obtain ⟨final, reached, isReadied⟩ := Option.map_eq_some_iff.mp ran
  exact
    ⟨final, reached, isReadied, readied_prefix_of_tracked reached orderly⟩

/--
Two threads track events of one queue, and a poll comes in between: the event
that has the later identifier is called first.
-/
example :
    (Runs.run? step? (new false)
      [.create .AllowProcessEvents (.queueAndSerial 0 1),
        .create .AllowProcessEvents (.queueAndSerial 0 1),
        .trackEvent 0,
        .trackEvent 1,
        .proceed 1,
        .proceed 1,
        .advance 0 1,
        .processPollEvents ⟨fun _ => 0, fun _ => false, fun _ => true⟩
          [⟨2, 1⟩],
        .proceed 2,
        .proceed 0,
        .proceed 0,
        .processPollEvents ⟨fun _ => 0, fun _ => false, fun _ => true⟩
          [⟨1, 0⟩],
        .proceed 3]).map readied = some [1, 0] := by
  decide +kernel

end EventManager

end Teck.Dawn
