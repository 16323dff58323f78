import Teck.Dawn.UploadQueueInvariant

namespace Teck.Dawn

/-!
# Staged uploads refine immediate writes

Whatever the GPU does when, the queue's buffers and everything drawn are those
of a queue that performs a prefix of the application's calls at once, in the
order they were made.  Submitting and letting the GPU finish performs all of
them and leaves no staging memory in use, unless a staging buffer could not be
created: then the device is lost and the prefix is all that is ever performed.
-/

variable {Target : Type*} [DecidableEq Target]
variable {buffers : Target → GpuBuffer}

namespace UploadQueue

/-- The calls a label makes on the queue. -/
def Label.calls : Label Target → List (QueueCall Target)
  | .writeBuffer _ target bufferOffset data =>
      [.write target bufferOffset data]
  | .submitInternal commandCount =>
      List.replicate commandCount QueueCall.commandBuffer
  | .tick => []
  | .checkPassedSerials => []
  | .executeNext => []

/-- No staging buffer the label asks for fails to be created. -/
def Label.Creates : Label Target → Prop
  | .writeBuffer created _ _ _ => created = true
  | .submitInternal _ => True
  | .tick => True
  | .checkPassedSerials => True
  | .executeNext => True

/-- A call that passes validation and is not empty. -/
def effective
    (buffers : Target → GpuBuffer) :
    QueueCall Target → Bool
  | .write target bufferOffset data =>
      ValidWriteBuffer (buffers target) bufferOffset data.length ∧
        data.length ≠ 0
  | .commandBuffer => true

omit [DecidableEq Target] in
/-- Submitting accepts no call. -/
@[simp] theorem accepted_submitPendingCommands
    (queue : UploadQueue Target) :
    queue.submitPendingCommands.accepted = queue.accepted := by
  unfold submitPendingCommands
  split <;> rfl

omit [DecidableEq Target] in
/-- Passing serials accepts no call. -/
@[simp] theorem accepted_checkPassedSerials
    (queue : UploadQueue Target) :
    queue.checkPassedSerials.accepted = queue.accepted := by
  unfold checkPassedSerials
  split <;> rfl

/-- Losing the device accepts no call. -/
@[simp] theorem accepted_handleError
    (queue : UploadQueue Target) :
    queue.handleError.accepted = queue.accepted := by
  simp [handleError, waitForIdleForDestruction, assumeCommandsComplete]

/-- The device is lost once an error has been handled. -/
@[simp] theorem isLost_handleError
    (queue : UploadQueue Target) :
    queue.handleError.isLost = true := by
  unfold handleError waitForIdleForDestruction checkPassedSerials
  split <;> rfl

omit [DecidableEq Target] in
/-- Submitting does not lose the device. -/
@[simp] theorem isLost_submitPendingCommands
    (queue : UploadQueue Target) :
    queue.submitPendingCommands.isLost = queue.isLost := by
  unfold submitPendingCommands
  split <;> rfl

omit [DecidableEq Target] in
/-- Passing serials does not lose the device. -/
@[simp] theorem isLost_checkPassedSerials
    (queue : UploadQueue Target) :
    queue.checkPassedSerials.isLost = queue.isLost := by
  unfold checkPassedSerials
  split <;> rfl

/-- An upload is accepted, or the device is lost over its staging buffer. -/
theorem accepted_uploadData
    (queue : UploadQueue Target)
    (created : Bool)
    (target : Target)
    (bufferOffset : Nat)
    {data : List UInt8}
    (filled : data.length ≠ 0) :
    (queue.uploadData created target bufferOffset data).accepted =
        queue.accepted ++ [.write target bufferOffset data] ∧
      (queue.uploadData created target bufferOffset data).isLost =
        queue.isLost ∨
    (queue.uploadData created target bufferOffset data).accepted =
        queue.accepted ∧
      (queue.uploadData created target bufferOffset data).isLost = true ∧
      created = false := by
  unfold uploadData
  rw [if_neg filled]
  split
  · rename_i uploader refused
    refine .inr ⟨by simp, by simp, ?_⟩
    cases created with
    | false =>
        rfl
    | true =>
        have allocated :
            (queue.mDynamicUploader.allocate true data.length
              queue.getPendingCommandSerial
              kCopyBufferToBufferOffsetAlignment).1.isSome = true :=
          DynamicUploader.allocate_isSome
        simp [refused] at allocated
  · exact .inl ⟨rfl, rfl⟩

/--
One step of a running queue accepts the effective calls of its label, unless it
loses the device, which only a staging buffer not created can do.
-/
theorem accepted_step
    {queue next : UploadQueue Target}
    {label : Label Target}
    (consistent : queue.Consistent buffers)
    (stepped : queue.step? label = some next) :
    next.accepted =
          queue.accepted ++ label.calls.filter (effective buffers) ∧
        next.isLost = false ∨
      next.accepted = queue.accepted ∧
        next.isLost = true ∧
        ¬label.Creates := by
  have alive := consistent.alive
  cases label with
  | writeBuffer created target bufferOffset data =>
      obtain rfl := Option.some.inj stepped
      have sameValid :
          ValidWriteBuffer (queue.memory.buffers target) bufferOffset
              data.length ↔
            ValidWriteBuffer (buffers target) bufferOffset data.length :=
        validWriteBuffer_iff_of_sameShape consistent.sameShape
      by_cases valid :
        ValidWriteBuffer (buffers target) bufferOffset data.length
      · by_cases filled : data.length = 0
        · refine .inl ⟨?_, ?_⟩ <;>
            simp [writeBuffer, uploadData, Label.calls, effective, filled,
              alive]
        · have outcome :=
            accepted_uploadData queue created target bufferOffset filled
          simpa [writeBuffer, sameValid, valid, Label.calls, effective,
            filled, alive, Label.Creates] using outcome
      · simp [writeBuffer, sameValid, valid, Label.calls, effective, alive]
  | submitInternal commandCount =>
      obtain rfl := Option.some.inj stepped
      have allEffective :
          (List.replicate commandCount
              QueueCall.commandBuffer).filter (effective buffers) =
          List.replicate commandCount QueueCall.commandBuffer :=
        List.filter_replicate_of_pos rfl
      simp [submitInternal, alive, submitImpl, Label.calls, allEffective]
  | tick =>
      obtain rfl := Option.some.inj stepped
      unfold tick
      split <;> simp [deallocateUploads, Label.calls, alive]
  | checkPassedSerials =>
      obtain rfl := Option.some.inj stepped
      simp [Label.calls, alive]
  | executeNext =>
      rw [step?, executeNext?] at stepped
      split at stepped
      · simp at stepped
      · obtain rfl := Option.some.inj stepped
        simp [Label.calls, alive]
      · obtain rfl := Option.some.inj stepped
        simp [Label.calls, alive]

/-- The effective ones of the calls that some labels make. -/
def effectiveCalls
    (buffers : Target → GpuBuffer)
    (labels : List (Label Target)) : List (QueueCall Target) :=
  (labels.flatMap Label.calls).filter (effective buffers)

/-- A run accepts its effective calls, up to the loss of the device. -/
structure Accepts
    (buffers : Target → GpuBuffer)
    (labels : List (Label Target))
    (queue final : UploadQueue Target) : Prop where
  front :
    ∃ taken,
      taken <+: effectiveCalls buffers labels ∧
        final.accepted = queue.accepted ++ taken
  whole :
    final.isLost = false →
      final.accepted = queue.accepted ++ effectiveCalls buffers labels
  lost :
    final.isLost = true →
      queue.isLost = true ∨ ∃ label ∈ labels, ¬label.Creates

omit [DecidableEq Target] in
/-- Nothing is accepted any more once the device is lost. -/
theorem Accepts.of_lost
    {labels : List (Label Target)}
    {queue final : UploadQueue Target}
    (lost : final.isLost = true)
    (accepted : final.accepted = queue.accepted)
    (why : queue.isLost = true ∨ ∃ label ∈ labels, ¬label.Creates) :
    Accepts buffers labels queue final where
  front := ⟨[], List.nil_prefix, by simp [accepted]⟩
  whole := by simp [lost]
  lost := fun _ => why

/-- Along a run the queue accepts the calls of its labels, until it is lost. -/
theorem accepts_of_run
    {labels : List (Label Target)}
    {queue final : UploadQueue Target}
    (sizesInWord : ∀ target, (buffers target).memory.size + 4 ≤ 2 ^ 64)
    (kept : queue.Kept buffers)
    (ran : Runs.run? step? queue labels = some final) :
    Accepts buffers labels queue final := by
  induction labels generalizing queue with
  | nil =>
      obtain rfl : queue = final := by
        simpa using ran
      exact
        { front := ⟨[], List.nil_prefix, by simp⟩
          whole := fun _ => by simp [effectiveCalls]
          lost := .inl }
  | cons label rest inductionHypothesis =>
      cases kept with
      | lost stopped =>
          obtain rfl := stopped.run_eq ran
          exact .of_lost stopped.lost rfl (.inl stopped.lost)
      | running consistent =>
          obtain ⟨next, stepped, later⟩ := Runs.run?_cons_eq_some.mp ran
          have kept : next.Kept buffers :=
            Kept.step sizesInWord (.running consistent) stepped
          have remaining := inductionHypothesis kept later
          rcases accepted_step consistent stepped with
            ⟨accepted, alive⟩ | ⟨accepted, lost, fails⟩
          · have parts :
                effectiveCalls buffers (label :: rest) =
                  label.calls.filter (effective buffers) ++
                    effectiveCalls buffers rest := by
              simp [effectiveCalls]
            obtain ⟨taken, front, more⟩ := remaining.front
            refine ⟨⟨_, parts ▸ (List.prefix_append_right_inj _).mpr front,
              ?_⟩, fun finalAlive => ?_, fun finalLost => ?_⟩
            · rw [more, accepted, List.append_assoc]
            · rw [remaining.whole finalAlive, accepted, parts,
                List.append_assoc]
            · rcases remaining.lost finalLost with nextLost | failed
              · simp [alive] at nextLost
              · obtain ⟨other, member, fails⟩ := failed
                exact .inr ⟨other, List.mem_cons_of_mem _ member, fails⟩
          · cases kept with
            | running consistentNext =>
                exact absurd consistentNext.alive (by simp [lost])
            | lost stopped =>
                obtain rfl := stopped.run_eq later
                exact .of_lost lost accepted
                  (.inr ⟨label, List.mem_cons_self .., fails⟩)

end UploadQueue

/-! ## Calls without effect -/

/-- Performing a call keeps sizes and usages. -/
theorem sameShape_perform
    {memory : DeviceMemory Target}
    (same : SameShape memory.buffers buffers)
    (call : QueueCall Target) :
    SameShape (memory.perform call).buffers buffers := by
  cases call with
  | commandBuffer =>
      exact same
  | write written bufferOffset data =>
      intro target
      by_cases here : target = written
      · subst here
        simpa [DeviceMemory.perform] using same target
      · simpa [DeviceMemory.perform, here] using same target

/-- A call without effect leaves the immediate queue as it is. -/
theorem perform_of_not_effective
    {memory : DeviceMemory Target}
    {call : QueueCall Target}
    (same : SameShape memory.buffers buffers)
    (ineffective : UploadQueue.effective buffers call = false) :
    memory.perform call = memory := by
  cases call with
  | commandBuffer =>
      simp [UploadQueue.effective] at ineffective
  | write target bufferOffset data =>
      have unchanged :
          writeBuffer (memory.buffers target) bufferOffset data =
            memory.buffers target := by
        by_cases valid :
          ValidWriteBuffer (memory.buffers target) bufferOffset data.length
        · rw [validWriteBuffer_iff_of_sameShape same] at valid
          have nothing : data = [] := by
            simpa [UploadQueue.effective, valid] using ineffective
          rw [nothing, writeBuffer_nil]
        · rw [writeBuffer, if_neg valid]
      simp [DeviceMemory.perform, unchanged]

/-- Performing the effective calls only makes no difference. -/
theorem foldl_perform_filter
    {calls : List (QueueCall Target)}
    {memory : DeviceMemory Target}
    (same : SameShape memory.buffers buffers) :
    (calls.filter (UploadQueue.effective buffers)).foldl
        DeviceMemory.perform memory =
      calls.foldl DeviceMemory.perform memory := by
  induction calls generalizing memory with
  | nil =>
      rfl
  | cons call rest inductionHypothesis =>
      by_cases takesEffect : UploadQueue.effective buffers call = true
      · rw [List.filter_cons_of_pos takesEffect, List.foldl_cons,
          List.foldl_cons, inductionHypothesis (sameShape_perform same call)]
      · rw [List.filter_cons_of_neg takesEffect, List.foldl_cons,
          perform_of_not_effective same (by simpa using takesEffect),
          inductionHypothesis same]

namespace UploadQueue

/--
In every interleaving, the buffers and what was drawn are those of a queue
that performs a prefix of the application's calls at once.
-/
theorem memory_refines_immediate
    {labels : List (Label Target)}
    {final : UploadQueue Target}
    (sizesInWord : ∀ target, (buffers target).memory.size + 4 ≤ 2 ^ 64)
    (ran : Runs.run? step? (new buffers) labels = some final) :
    ∃ done,
      done <+: labels.flatMap Label.calls ∧
        final.memory =
          done.foldl DeviceMemory.perform
            { buffers := buffers, drawn := [] } := by
  obtain ⟨performed, front, reached⟩ :=
    (kept_of_run sizesInWord ran).exists_initialPart
  obtain ⟨taken, acceptedFront, accepted⟩ :=
    (accepts_of_run sizesInWord (.running (consistent_new buffers))
      ran).front
  rw [accepted, show (new buffers).accepted = [] from rfl,
    List.nil_append] at front
  obtain ⟨done, taken, rfl⟩ :=
    List.prefix_filter_iff.mp (front.trans acceptedFront)
  refine ⟨done, taken, ?_⟩
  rw [reached]
  exact foldl_perform_filter fun _ => ⟨rfl, rfl⟩

/-! ## Draining the queue -/

/-- Units of work the GPU has left, a signal for each list included. -/
def unitsLeft (queue : UploadQueue Target) : Nat :=
  (queue.executing.map fun list => list.commands.length + 1).sum

/-- What the GPU does not change while it executes. -/
structure OnlyExecutes (queue next : UploadQueue Target) : Prop where
  lost : next.isLost = queue.isLost
  uploader : next.mDynamicUploader = queue.mDynamicUploader
  submitted : next.mLastSubmittedSerial = queue.mLastSubmittedSerial
  completed : next.mCompletedSerial = queue.mCompletedSerial
  pending : next.mPendingCommands = queue.mPendingCommands
  needsSubmit : next.mNeedsSubmit = queue.mNeedsSubmit
  accepted : next.accepted = queue.accepted

omit [DecidableEq Target] in
/-- Executions follow each other. -/
theorem OnlyExecutes.trans
    {first second third : UploadQueue Target}
    (before : OnlyExecutes first second)
    (after : OnlyExecutes second third) :
    OnlyExecutes first third where
  lost := after.lost.trans before.lost
  uploader := after.uploader.trans before.uploader
  submitted := after.submitted.trans before.submitted
  completed := after.completed.trans before.completed
  pending := after.pending.trans before.pending
  needsSubmit := after.needsSubmit.trans before.needsSubmit
  accepted := after.accepted.trans before.accepted

/-- One unit of work less is left. -/
theorem executeNext_of_unitsLeft
    {queue : UploadQueue Target}
    {units : Nat}
    (left : queue.unitsLeft = units + 1) :
    ∃ next,
      queue.executeNext? = some next ∧
        next.unitsLeft = units ∧
        OnlyExecutes queue next := by
  unfold unitsLeft at left
  cases shape : queue.executing with
  | nil =>
      simp [shape] at left
  | cons list rest =>
      rcases list with ⟨serial, _ | ⟨command, commands⟩⟩
      · rw [shape, List.map_cons, List.sum_cons, List.length_nil] at left
        refine ⟨{ queue with executing := rest, mFence := serial },
          by simp [executeNext?, shape], ?_,
          ⟨rfl, rfl, rfl, rfl, rfl, rfl, rfl⟩⟩
        simp only [unitsLeft]
        omega
      · rw [shape, List.map_cons, List.sum_cons, List.length_cons] at left
        refine
          ⟨{ queue with
              executing := ⟨serial, commands⟩ :: rest
              memory := queue.memory.execute queue.staging command },
            by simp [executeNext?, shape], ?_,
            ⟨rfl, rfl, rfl, rfl, rfl, rfl, rfl⟩⟩
        simp only [unitsLeft, List.map_cons, List.sum_cons]
        omega

/-- The GPU can always finish what it was handed. -/
theorem run_executeNext
    (queue : UploadQueue Target) :
    ∃ final,
      Runs.run? step? queue
            (List.replicate queue.unitsLeft .executeNext) =
          some final ∧
        final.executing = [] ∧
        OnlyExecutes queue final := by
  generalize left : queue.unitsLeft = units
  induction units generalizing queue with
  | zero =>
      refine ⟨queue, rfl, ?_, ⟨rfl, rfl, rfl, rfl, rfl, rfl, rfl⟩⟩
      cases shape : queue.executing with
      | nil =>
          rfl
      | cons list rest =>
          simp [unitsLeft, shape] at left
  | succ units inductionHypothesis =>
      obtain ⟨next, executed, remaining, frame⟩ :=
        executeNext_of_unitsLeft left
      obtain ⟨final, ran, finished, laterFrame⟩ :=
        inductionHypothesis next remaining
      refine ⟨final, ?_, finished, frame.trans laterFrame⟩
      exact Runs.run?_cons_eq_some.mpr ⟨next, executed, ran⟩

omit [DecidableEq Target] in
/-- A tick that learns of a new signal and has nothing to submit. -/
theorem tick_of_signalled
    {queue : UploadQueue Target}
    (alive : queue.isLost = false)
    (unsignalled : queue.mCompletedSerial < queue.mFence)
    (submitted : queue.mFence ≤ queue.mLastSubmittedSerial)
    (nothing : queue.mNeedsSubmit = false) :
    queue.tick =
      { queue with
        mCompletedSerial := queue.mFence
        mDynamicUploader :=
          queue.mDynamicUploader.deallocate queue.mFence } := by
  have scheduled : queue.hasScheduledCommands = true := by
    simp [hasScheduledCommands, unsignalled.trans_le submitted]
  simp [tick, alive, scheduled, checkPassedSerials, unsignalled,
    submitPendingCommands, nothing, deallocateUploads]

/--
From any reachable state with the device alive, submitting and letting the GPU
finish performs every call made so far, and the next tick leaves one empty ring
of staging memory.
-/
theorem drains
    {labels : List (Label Target)}
    {queue : UploadQueue Target}
    (sizesInWord : ∀ target, (buffers target).memory.size + 4 ≤ 2 ^ 64)
    (ran : Runs.run? step? (new buffers) labels = some queue)
    (alive : queue.isLost = false) :
    ∃ units final,
      Runs.run? step? queue
            (.submitInternal 0 ::
              (List.replicate units .executeNext ++ [.tick])) =
          some final ∧
        final.memory =
          (labels.flatMap Label.calls).foldl DeviceMemory.perform
            { buffers := buffers, drawn := [] } ∧
        (∃ ring,
          final.mDynamicUploader.mRingBuffers = [ring] ∧
            ring.mAllocator.empty = true) ∧
        final.mDynamicUploader.mReleasedStagingBuffers.empty = true := by
  have consistent := (kept_of_run sizesInWord ran).consistent alive
  have accepted :=
    (accepts_of_run sizesInWord (.running (consistent_new buffers))
      ran).whole alive
  obtain ⟨idle, executed, finished, frame⟩ :=
    run_executeNext (queue.submitImpl 0)
  have idleAlive : idle.isLost = false := by
    rw [frame.lost]
    simpa [submitImpl] using alive
  have idleKept : idle.Kept buffers :=
    Runs.invariant_of_run
      (fun kept stepped => kept.step sizesInWord stepped)
      (.running (consistent.submitImpl 0)) executed
  have idleConsistent := idleKept.consistent idleAlive
  have allSubmitted := idleConsistent.submitted
  rw [finished, List.length_nil, Nat.add_zero] at allSubmitted
  have submitted : idle.mLastSubmittedSerial = queue.mLastSubmittedSerial + 1 :=
    frame.submitted
  have signalled : idle.mCompletedSerial < idle.mFence := by
    have completed := consistent.completed
    have behind := consistent.submitted
    have same : idle.mCompletedSerial = queue.mCompletedSerial :=
      frame.completed
    omega
  have nothingWaits : idle.waiting = [] := by
    have noneRecorded : idle.mPendingCommands = [] := frame.pending
    simp [waiting, waitingEntries, finished, noneRecorded]
  refine ⟨(queue.submitImpl 0).unitsLeft, idle.tick, ?_, ?_, ?_⟩
  · have submits :
        queue.step? (.submitInternal 0) = some (queue.submitImpl 0) := by
      simp [step?, submitInternal, alive]
    refine Runs.run?_cons_eq_some.mpr ⟨_, submits, ?_⟩
    rw [Runs.run?_append_of_eq_some executed]
    rfl
  · have drained := idleConsistent.follows
    have allAccepted : idle.accepted = queue.accepted := by
      rw [frame.accepted]
      simp [submitImpl]
    rw [nothingWaits] at drained
    rw [tick_of_signalled idleAlive signalled allSubmitted.le frame.needsSubmit]
    refine drained.drained.trans ?_
    rw [allAccepted, accepted, show (new buffers).accepted = [] from rfl,
      List.nil_append]
    exact foldl_perform_filter fun _ => ⟨rfl, rfl⟩
  · rw [tick_of_signalled idleAlive signalled allSubmitted.le frame.needsSubmit]
    have sound : idle.mDynamicUploader.Sound (queue.mLastSubmittedSerial + 1) :=
      frame.uploader ▸ consistent.sound
    exact sound.deallocate_all (by omega)

/-! ## The refinement -/

/--
In every interleaving the buffers and what was drawn are those of a queue that
performs a prefix of the application's calls at once.  The device is lost only
if a staging buffer could not be created; as long as it is not, some further
run performs all calls and leaves one empty ring of staging memory.
-/
theorem uploads_refine_immediate
    {labels : List (Label Target)}
    {queue : UploadQueue Target}
    (sizesInWord : ∀ target, (buffers target).memory.size + 4 ≤ 2 ^ 64)
    (ran : Runs.run? step? (new buffers) labels = some queue) :
    (∃ done,
        done <+: labels.flatMap Label.calls ∧
          queue.memory =
            done.foldl DeviceMemory.perform
              { buffers := buffers, drawn := [] }) ∧
      (queue.isLost = true → ∃ label ∈ labels, ¬label.Creates) ∧
      (queue.isLost = false →
        ∃ later final,
          Runs.run? step? queue later = some final ∧
            final.memory =
              (labels.flatMap Label.calls).foldl DeviceMemory.perform
                { buffers := buffers, drawn := [] } ∧
            (∃ ring,
              final.mDynamicUploader.mRingBuffers = [ring] ∧
                ring.mAllocator.empty = true) ∧
            final.mDynamicUploader.mReleasedStagingBuffers.empty =
              true) := by
  refine ⟨memory_refines_immediate sizesInWord ran, fun lost => ?_,
    fun alive => ?_⟩
  · have accepts :=
      accepts_of_run sizesInWord (.running (consistent_new buffers)) ran
    simpa [new] using accepts.lost lost
  · obtain ⟨units, final, drained, reached, rings, released⟩ :=
      drains sizesInWord ran alive
    exact ⟨_, final, drained, reached, rings, released⟩

/-- A buffer of eight bytes that the queue may write to. -/
def eightBytes : Unit → GpuBuffer := fun _ =>
  createBuffer
    { label := none
      size := 8
      usage := { copyDst := true }
      mappedAtCreation := false }

/-- The same bytes are written again before the first frame is executed. -/
def overwriteLabels : List (Label Unit) :=
  [ .writeBuffer true () 0 [1, 2, 3, 4], .submitInternal 1,
    .writeBuffer true () 0 [5, 6, 7, 8], .executeNext, .executeNext,
    .executeNext, .tick ]

/-- Eight bytes are small enough for sizes of 64 bits. -/
theorem size_eightBytes (target : Unit) :
    (eightBytes target).memory.size + 4 ≤ 2 ^ 64 := by
  simp [eightBytes]

/-- The run reaches its end with the device still there. -/
theorem run_overwriteLabels :
    (Runs.run? step? (new eightBytes) overwriteLabels).map
        (fun queue =>
          ( queue.isLost,
            queue.memory.drawn.map fun snapshot =>
              (snapshot ()).memory.bytes )) =
      some (false, [[1, 2, 3, 4, 0, 0, 0, 0]]) := by
  decide +kernel

/-- A draw between two writes, which it does not see. -/
theorem uploads_refine_immediate_overwrite :
    ∃ queue,
      Runs.run? step? (new eightBytes) overwriteLabels = some queue ∧
        queue.memory.drawn.map
            (fun snapshot => (snapshot ()).memory.bytes) =
          [[1, 2, 3, 4, 0, 0, 0, 0]] ∧
        ∃ later final,
          Runs.run? step? queue later = some final ∧
            final.memory =
              (overwriteLabels.flatMap Label.calls).foldl
                DeviceMemory.perform
                { buffers := eightBytes, drawn := [] } ∧
            (∃ ring,
              final.mDynamicUploader.mRingBuffers = [ring] ∧
                ring.mAllocator.empty = true) ∧
            final.mDynamicUploader.mReleasedStagingBuffers.empty =
              true := by
  obtain ⟨queue, ran, outcome⟩ :=
    Option.map_eq_some_iff.mp run_overwriteLabels
  obtain ⟨alive, drawn⟩ := Prod.mk.inj outcome
  exact
    ⟨queue, ran, drawn,
      (uploads_refine_immediate size_eightBytes ran).2.2 alive⟩

-- The first staging buffer cannot be created: nothing is written or drawn.
example :
    (Runs.run? step? (new eightBytes)
        [ .writeBuffer false () 0 [1, 2, 3, 4], .submitInternal 1,
          .tick ]).map
        (fun queue =>
          (queue.isLost, queue.accepted.length, queue.memory.drawn.length)) =
      some (true, 0, 0) := by
  decide +kernel

/-! ## Staging memory is not reused early -/

/--
In every reachable state an upload is given staging memory that no copy still
to be executed reads.  What those copies read stays held, and however the run
goes on it does so until the copy's serial has completed.
-/
theorem allocate_apart_from_waiting
    {labels : List (Label Target)}
    {queue : UploadQueue Target}
    {created : Bool}
    {size : Nat}
    {handle : UploadHandle}
    {uploader : DynamicUploader}
    (sizesInWord : ∀ target, (buffers target).memory.size + 4 ≤ 2 ^ 64)
    (ran : Runs.run? step? (new buffers) labels = some queue)
    (sizeInWord : size + 4 ≤ 2 ^ 64)
    (allocated :
      queue.mDynamicUploader.allocate created size
          queue.getPendingCommandSerial
          kCopyBufferToBufferOffsetAlignment =
        (some handle, uploader)) :
    (handle.startOffset + size ≤ handle.stagingBuffer.size ∧
        kCopyBufferToBufferOffsetAlignment ∣ handle.startOffset) ∧
      (∀ entry ∈ queue.waitingEntries, ∀ source ∈ entry.2.source?,
        source.Apart (handle.region size) ∧
          queue.mCompletedSerial < entry.1 ∧
          uploader.Holds entry.1 source) ∧
      ∀ entry ∈ queue.waitingEntries, ∀ source ∈ entry.2.source?,
        ∀ {later final},
          Runs.run? step? queue later = some final →
            final.mCompletedSerial < entry.1 →
              final.mDynamicUploader.Holds entry.1 source := by
  have kept := kept_of_run sizesInWord ran
  have granted :=
    kept.sound.allocate_eq_some (Nat.le_refl _)
      (request64_of_sizeInWord sizeInWord) allocated
  refine ⟨⟨granted.inside, granted.aligned⟩, ?_, ?_⟩
  · intro entry member source copied
    obtain ⟨waits, held⟩ := kept.held member copied
    exact ⟨granted.apart held, waits, granted.keeps held⟩
  · intro entry member source copied later final goesOn waits
    exact kept.holds_run sizesInWord goesOn waits
      (kept.held member copied).2

/-- What the waiting commands read is apart from what is handed out next. -/
theorem allocate_apart_from_waiting_overwrite :
    ∃ queue handle uploader,
      Runs.run? step? (new eightBytes) (overwriteLabels.take 3) =
          some queue ∧
        queue.waitingEntries.length = 3 ∧
        queue.mDynamicUploader.allocate true 8
              queue.getPendingCommandSerial
              kCopyBufferToBufferOffsetAlignment =
            (some handle, uploader) ∧
        ∀ entry ∈ queue.waitingEntries, ∀ source ∈ entry.2.source?,
          source.Apart (handle.region 8) ∧
            queue.mCompletedSerial < entry.1 ∧
            uploader.Holds entry.1 source := by
  have ran :
      (Runs.run? step? (new eightBytes) (overwriteLabels.take 3)).map
          (fun queue => queue.waitingEntries.length) =
        some 3 := by
    decide +kernel
  obtain ⟨queue, reached, waits⟩ := Option.map_eq_some_iff.mp ran
  match allocated :
      queue.mDynamicUploader.allocate true 8 queue.getPendingCommandSerial
        kCopyBufferToBufferOffsetAlignment with
  | (none, uploader) =>
      have succeeds :
          (queue.mDynamicUploader.allocate true 8
            queue.getPendingCommandSerial
            kCopyBufferToBufferOffsetAlignment).1.isSome = true :=
        DynamicUploader.allocate_isSome
      simp [allocated] at succeeds
  | (some handle, uploader) =>
      exact
        ⟨queue, handle, uploader, reached, waits, allocated,
          (allocate_apart_from_waiting size_eightBytes reached (by simp)
            allocated).2.1⟩

end UploadQueue

end Teck.Dawn
