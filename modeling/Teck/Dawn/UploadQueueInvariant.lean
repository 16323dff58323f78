import Teck.Dawn.UploadQueue
import Teck.Library.DeferredEffects
import Teck.Library.Runs

namespace Teck.Dawn

open DeferredEffects (Follows)

/-!
# What every state of the queue keeps

Each command that waits, in the pending list or on the GPU, reads a region the
uploader holds for a serial that has not completed, and the bytes there are
those of the write it stands for.  A new upload leaves these bytes alone
because its region is apart from all regions held; reclaiming staging memory
leaves them alone because their serials are still to come.

Once the device is lost nothing waits, and no step changes anything.
-/

variable {Target : Type*} [DecidableEq Target]

/-! ## Staging memory -/

namespace StagingMemory

variable {staging : StagingMemory} {handle : UploadHandle}
variable {data : List UInt8}

/-- What was copied to a region can be read there. -/
theorem read_memcpy_self :
    (staging.memcpy handle data).read (handle.region data.length) =
      data := by
  apply List.ext_getElem
  · simp [read, UploadHandle.region]
  · intro index inside inData
    simp [read, memcpy, UploadHandle.region, inData]

/-- Regions apart from the written one are read as before. -/
theorem read_memcpy_of_apart
    {region : Region}
    (apart : region.Apart (handle.region data.length)) :
    (staging.memcpy handle data).read region = staging.read region := by
  refine List.map_congr_left fun index inside => ?_
  rw [memcpy, if_neg]
  rintro ⟨same, after, before⟩
  have both := apart same
  refine Set.disjoint_left.mp both ?_ ⟨after, before⟩
  exact ⟨Nat.le_add_right _ _,
    Nat.add_lt_add_left (List.mem_range.mp inside) _⟩

end StagingMemory

/-! ## Buffers -/

/-- The buffers differ at most in their bytes. -/
def SameShape (first second : Target → GpuBuffer) : Prop :=
  ∀ target,
    (first target).memory.size = (second target).memory.size ∧
      (first target).usage = (second target).usage

omit [DecidableEq Target] in
/-- Whether a write is valid depends on size and usage only. -/
theorem validWriteBuffer_iff_of_sameShape
    {first second : Target → GpuBuffer}
    (same : SameShape first second)
    {target : Target}
    {bufferOffset size : Nat} :
    ValidWriteBuffer (first target) bufferOffset size ↔
      ValidWriteBuffer (second target) bufferOffset size := by
  simp [ValidWriteBuffer, ByteBuffer.Fits, (same target).1,
    (same target).2]

/-- The staging region a command will read. -/
def RecordedCommand.source? : RecordedCommand Target → Option Region
  | .copyFromStagingToBuffer source _ _ => some source
  | .commandBuffer => none

/-- A command records the call it was made for, on buffers of some shape. -/
def Records
    (staging : StagingMemory)
    (buffers : Target → GpuBuffer) :
    RecordedCommand Target → QueueCall Target → Prop
  | .copyFromStagingToBuffer source destination destinationOffset,
      .write target bufferOffset data =>
      destination = target ∧
        destinationOffset = bufferOffset ∧
        staging.read source = data ∧
        ValidWriteBuffer (buffers target) bufferOffset data.length
  | .commandBuffer, .commandBuffer => True
  | _, _ => False

/-- Executing a command performs the call it records. -/
theorem execute_eq_perform
    {staging : StagingMemory}
    {memory : DeviceMemory Target}
    {buffers : Target → GpuBuffer}
    {command : RecordedCommand Target}
    {call : QueueCall Target}
    (same : SameShape memory.buffers buffers)
    (recorded : Records staging buffers command call) :
    memory.execute staging command = memory.perform call := by
  cases command with
  | commandBuffer =>
      cases call with
      | commandBuffer =>
          rfl
      | write target bufferOffset data =>
          exact recorded.elim
  | copyFromStagingToBuffer source destination destinationOffset =>
      cases call with
      | commandBuffer =>
          exact recorded.elim
      | write target bufferOffset data =>
          obtain ⟨rfl, rfl, rfl, valid⟩ := recorded
          have here := (validWriteBuffer_iff_of_sameShape same).mpr valid
          simp [DeviceMemory.execute, DeviceMemory.perform, writeBuffer,
            here]

/-- Executing a command keeps sizes and usages. -/
theorem sameShape_execute
    {staging : StagingMemory}
    {memory : DeviceMemory Target}
    {buffers : Target → GpuBuffer}
    (same : SameShape memory.buffers buffers)
    (command : RecordedCommand Target) :
    SameShape (memory.execute staging command).buffers buffers := by
  cases command with
  | commandBuffer =>
      exact same
  | copyFromStagingToBuffer source destination destinationOffset =>
      intro target
      by_cases written : target = destination
      · subst written
        simpa [DeviceMemory.execute] using same target
      · simpa [DeviceMemory.execute, written] using same target

omit [DecidableEq Target] in
/-- A command is recorded as long as its source is not overwritten. -/
theorem Records.congr
    {first second : StagingMemory}
    {buffers : Target → GpuBuffer}
    {command : RecordedCommand Target}
    {call : QueueCall Target}
    (recorded : Records first buffers command call)
    (sameBytes :
      ∀ source ∈ command.source?, second.read source = first.read source) :
    Records second buffers command call := by
  cases command with
  | commandBuffer =>
      cases call <;> exact recorded
  | copyFromStagingToBuffer source destination destinationOffset =>
      cases call with
      | commandBuffer =>
          exact recorded
      | write target bufferOffset data =>
          obtain ⟨target, offset, bytes, valid⟩ := recorded
          exact ⟨target, offset, (sameBytes source rfl).trans bytes, valid⟩

namespace UploadQueue

/-- The commands that wait, with the serial each will complete under. -/
def waitingEntries
    (queue : UploadQueue Target) : List (Nat × RecordedCommand Target) :=
  (queue.executing.flatMap fun list =>
      list.commands.map fun command => (list.serial, command)) ++
    queue.mPendingCommands.map fun command =>
      (queue.getPendingCommandSerial, command)

/-- The commands that wait, oldest first. -/
def waiting (queue : UploadQueue Target) : List (RecordedCommand Target) :=
  queue.waitingEntries.map Prod.snd

/-- What a queue keeps as long as its device is not lost. -/
structure Consistent
    (buffers : Target → GpuBuffer)
    (queue : UploadQueue Target) : Prop where
  alive : queue.isLost = false
  sound :
    queue.mDynamicUploader.Sound queue.getPendingCommandSerial
  completed : queue.mCompletedSerial ≤ queue.mFence
  serials :
    queue.executing.map CommandList.serial =
      List.range' (queue.mFence + 1) queue.executing.length
  submitted :
    queue.mFence + queue.executing.length = queue.mLastSubmittedSerial
  held :
    ∀ entry ∈ queue.waitingEntries, ∀ source ∈ entry.2.source?,
      queue.mDynamicUploader.Holds entry.1 source
  sameShape : SameShape queue.memory.buffers buffers
  follows :
    Follows DeviceMemory.perform (Records queue.staging buffers)
      { buffers := buffers, drawn := [] } queue.accepted queue.memory
      queue.waiting

/-- What is left of a queue whose device is lost. -/
structure Stopped
    (buffers : Target → GpuBuffer)
    (queue : UploadQueue Target) : Prop where
  lost : queue.isLost = true
  sound :
    queue.mDynamicUploader.Sound queue.getPendingCommandSerial
  nothingExecutes : queue.executing = []
  nothingPending : queue.mPendingCommands = []
  signalled : queue.mFence ≤ queue.mCompletedSerial
  performed :
    ∃ done,
      done <+: queue.accepted ∧
        queue.memory =
          done.foldl DeviceMemory.perform
            { buffers := buffers, drawn := [] }

/-- What every state keeps. -/
inductive Kept
    (buffers : Target → GpuBuffer)
    (queue : UploadQueue Target) : Prop where
  | running (consistent : queue.Consistent buffers)
  | lost (stopped : queue.Stopped buffers)

variable {buffers : Target → GpuBuffer} {queue : UploadQueue Target}

/-- A new queue is consistent. -/
theorem consistent_new (buffers : Target → GpuBuffer) :
    (new buffers).Consistent buffers where
  alive := rfl
  sound := DynamicUploader.sound_new _
  completed := Nat.le_refl _
  serials := rfl
  submitted := rfl
  held := by simp [waitingEntries, new]
  sameShape := fun _ => ⟨rfl, rfl⟩
  follows := Follows.start

/-- A copy's staging memory is asked for in sizes far from overflow. -/
theorem request64_of_sizeInWord
    {size : Nat}
    (sizeInWord : size + 4 ≤ 2 ^ 64) :
    DynamicUploader.Request64 size kCopyBufferToBufferOffsetAlignment where
  powerOfTwo := ⟨2, rfl⟩
  alignmentInWord := by
    simp [kRingBufferSize, kCopyBufferToBufferOffsetAlignment]
  sizeInWord := sizeInWord

omit [DecidableEq Target] in
/-- A valid write is small enough to be asked for. -/
theorem request64_of_valid
    {target : Target}
    {bufferOffset size : Nat}
    (sizesInWord : ∀ target, (buffers target).memory.size + 4 ≤ 2 ^ 64)
    (valid : ValidWriteBuffer (buffers target) bufferOffset size) :
    DynamicUploader.Request64 size kCopyBufferToBufferOffsetAlignment := by
  apply request64_of_sizeInWord
  have inWord := sizesInWord target
  have inside := valid.2.2.1
  unfold ByteBuffer.Fits at inside
  omega

namespace Consistent

/-- The serial of a waiting command has not been signalled. -/
theorem fence_lt_serial
    (consistent : queue.Consistent buffers)
    {entry : Nat × RecordedCommand Target}
    (member : entry ∈ queue.waitingEntries) :
    queue.mFence < entry.1 := by
  have submitted := consistent.submitted
  rcases List.mem_append.mp member with inList | pending
  · obtain ⟨list, executing, inside⟩ := List.mem_flatMap.mp inList
    obtain ⟨command, -, rfl⟩ := List.mem_map.mp inside
    have serial : list.serial ∈ queue.executing.map CommandList.serial :=
      List.mem_map_of_mem executing
    rw [consistent.serials, List.mem_range'_1] at serial
    exact serial.1
  · obtain ⟨command, -, rfl⟩ := List.mem_map.mp pending
    simp only [getPendingCommandSerial]
    omega

/-- Passing serials keeps the queue consistent. -/
theorem checkPassedSerials
    (consistent : queue.Consistent buffers) :
    queue.checkPassedSerials.Consistent buffers := by
  unfold UploadQueue.checkPassedSerials
  split
  · exact { consistent with completed := Nat.le_refl _ }
  · exact consistent

/-- Deallocating uploads keeps the queue consistent. -/
theorem deallocateUploads
    (consistent : queue.Consistent buffers) :
    queue.deallocateUploads.Consistent buffers :=
  { consistent with
    sound := consistent.sound.deallocate _
    held := by
      intro entry member source copied
      exact (consistent.held entry member source copied).deallocate
        (consistent.completed.trans_lt (consistent.fence_lt_serial member)) }

omit [DecidableEq Target] in
/-- Submission changes where a command waits, not whether it does. -/
theorem waitingEntries_submitPendingCommands
    (queue : UploadQueue Target) :
    queue.submitPendingCommands.waitingEntries = queue.waitingEntries := by
  unfold submitPendingCommands
  split
  · simp [waitingEntries, getPendingCommandSerial]
  · rfl

/-- Submitting the pending commands keeps the queue consistent. -/
theorem submitPendingCommands
    (consistent : queue.Consistent buffers) :
    queue.submitPendingCommands.Consistent buffers := by
  have sameEntries := waitingEntries_submitPendingCommands queue
  unfold UploadQueue.submitPendingCommands at sameEntries ⊢
  split
  · rename_i needsSubmit
    rw [if_pos needsSubmit] at sameEntries
    have submitted := consistent.submitted
    exact
      { alive := consistent.alive
        sound := consistent.sound.mono (Nat.le_succ _)
        completed := consistent.completed
        serials := by
          simp only [List.map_append, List.map_cons, List.map_nil,
            List.length_append, List.length_singleton, List.range'_1_concat,
            consistent.serials, getPendingCommandSerial]
          congr 2
          omega
        submitted := by
          simp only [List.length_append, List.length_singleton]
          omega
        held := by
          rw [sameEntries]
          exact consistent.held
        sameShape := consistent.sameShape
        follows := by
          rw [waiting, sameEntries]
          exact consistent.follows }
  · exact consistent

/-- A tick keeps the queue consistent. -/
theorem tick
    (consistent : queue.Consistent buffers) :
    queue.tick.Consistent buffers := by
  unfold UploadQueue.tick
  split
  · exact consistent
  · apply deallocateUploads
    apply submitPendingCommands
    exact consistent.checkPassedSerials

/-- Submitting command buffers keeps the queue consistent. -/
theorem submitImpl
    (consistent : queue.Consistent buffers)
    (commandCount : Nat) :
    (queue.submitImpl commandCount).Consistent buffers := by
  unfold UploadQueue.submitImpl
  apply submitPendingCommands
  have entries :
      waitingEntries
          { queue with
            mNeedsSubmit := true
            mPendingCommands :=
              queue.mPendingCommands ++
                List.replicate commandCount RecordedCommand.commandBuffer
            accepted :=
              queue.accepted ++
                List.replicate commandCount QueueCall.commandBuffer } =
        queue.waitingEntries ++
          List.replicate commandCount
            (queue.getPendingCommandSerial,
              RecordedCommand.commandBuffer) := by
    simp [waitingEntries, getPendingCommandSerial]
  exact
    { consistent with
      held := by
        rw [entries]
        intro entry member source copied
        rcases List.mem_append.mp member with old | recorded
        · exact consistent.held entry old source copied
        · rw [List.eq_of_mem_replicate recorded] at copied
          simp [RecordedCommand.source?] at copied
      follows := by
        rw [waiting, entries, List.map_append, List.map_replicate]
        refine consistent.follows.accept ?_
        rw [List.forall₂_iff_get]
        simp [Records] }

/-- Executing a unit of work keeps the queue consistent. -/
theorem executeNext
    {next : UploadQueue Target}
    (consistent : queue.Consistent buffers)
    (executed : queue.executeNext? = some next) :
    next.Consistent buffers := by
  have serials := consistent.serials
  have submitted := consistent.submitted
  have held := consistent.held
  have follows := consistent.follows
  unfold executeNext? at executed
  split at executed
  · simp at executed
  · rename_i serial rest shape
    obtain rfl := Option.some.inj executed
    rw [shape] at serials submitted
    simp only [List.map_cons, List.length_cons, List.range'_succ,
      List.cons.injEq] at serials
    obtain ⟨signalled, later⟩ := serials
    have entries :
        waitingEntries { queue with executing := rest, mFence := serial } =
          queue.waitingEntries := by
      simp [waitingEntries, shape, getPendingCommandSerial]
    rw [List.length_cons] at submitted
    exact
      { consistent with
        completed := by
          have completed := consistent.completed
          simp only
          omega
        serials := by
          rw [later, signalled]
        submitted := by
          simp only
          omega
        held := entries ▸ held
        follows := by
          rw [waiting, entries]
          exact follows }
  · rename_i serial command commands rest shape
    obtain rfl := Option.some.inj executed
    have entries :
        queue.waitingEntries =
          (serial, command) ::
            waitingEntries
              { queue with
                executing := ⟨serial, commands⟩ :: rest
                memory := queue.memory.execute queue.staging command } := by
      simp [waitingEntries, shape, getPendingCommandSerial]
    rw [shape] at serials submitted
    rw [waiting, entries, List.map_cons] at follows
    exact
      { consistent with
        serials := serials
        submitted := submitted
        held := fun entry member =>
          held entry (entries ▸ List.mem_cons_of_mem _ member)
        sameShape := sameShape_execute consistent.sameShape command
        follows :=
          follows.execute fun call recorded =>
            execute_eq_perform consistent.sameShape recorded }

omit [DecidableEq Target] in
/-- What waits is executing or pending. -/
theorem waiting_eq
    (queue : UploadQueue Target) :
    queue.waiting =
      queue.executing.flatMap CommandList.commands ++
        queue.mPendingCommands := by
  simp [waiting, waitingEntries, List.map_flatMap, Function.comp_def]

/-- Waiting for the GPU performs a prefix of what was accepted. -/
theorem exists_prefix_of_executed
    (consistent : queue.Consistent buffers) :
    ∃ done,
      done <+: queue.accepted ∧
        queue.executing.foldl (DeviceMemory.executeList queue.staging)
            queue.memory =
          done.foldl DeviceMemory.perform
            { buffers := buffers, drawn := [] } := by
  have follows := consistent.follows
  rw [waiting_eq] at follows
  have executed :=
    follows.executeAll (DeviceMemory.execute queue.staging)
      (fun memory => SameShape memory.buffers buffers)
      consistent.sameShape
      (fun _ command same => sameShape_execute same command)
      (fun same recorded => execute_eq_perform same recorded)
  rw [List.foldl_flatMap] at executed
  exact executed.exists_initialPart

/-- Losing the device stops a consistent queue. -/
theorem stopped_handleError
    (consistent : queue.Consistent buffers) :
    queue.handleError.Stopped buffers := by
  have behind := consistent.completed
  have submitted := consistent.submitted
  have unsignalled :
      queue.mLastSubmittedSerial + 1 > queue.mCompletedSerial := by
    omega
  have shape :
      queue.handleError =
        { queue with
          isLost := true
          mNeedsSubmit := false
          mPendingCommands := []
          executing := []
          memory :=
            queue.executing.foldl
              (DeviceMemory.executeList queue.staging) queue.memory
          mFence := queue.mLastSubmittedSerial + 1
          mLastSubmittedSerial := queue.mLastSubmittedSerial + 2
          mCompletedSerial := queue.mLastSubmittedSerial + 2 } := by
    simp [handleError, waitForIdleForDestruction,
      UploadQueue.checkPassedSerials, unsignalled, assumeCommandsComplete]
  rw [shape]
  exact
    { lost := rfl
      sound := by
        refine consistent.sound.mono ?_
        simp only [getPendingCommandSerial]
        omega
      nothingExecutes := rfl
      nothingPending := rfl
      signalled := Nat.le_succ _
      performed := consistent.exists_prefix_of_executed }

/-- A write of bytes that fit in a word, to a buffer of that shape. -/
theorem uploadData
    {created : Bool}
    {target : Target}
    {bufferOffset : Nat}
    {data : List UInt8}
    (consistent : queue.Consistent buffers)
    (sizesInWord : ∀ target, (buffers target).memory.size + 4 ≤ 2 ^ 64)
    (valid :
      ValidWriteBuffer (buffers target) bufferOffset data.length) :
    (queue.uploadData created target bufferOffset data).Kept buffers := by
  have request := request64_of_valid sizesInWord valid
  unfold UploadQueue.uploadData
  split
  · exact .running consistent
  · split
    · rename_i uploader refused
      have extended :=
        consistent.sound.allocate_eq_none (Nat.le_refl _) request refused
      refine .lost (stopped_handleError ?_)
      exact
        { consistent with
          sound := extended.sound
          held := fun entry member source copied =>
            extended.keeps (consistent.held entry member source copied) }
    · rename_i handle uploader allocated
      have granted :=
        consistent.sound.allocate_eq_some (Nat.le_refl _) request allocated
      have follows :
          Follows DeviceMemory.perform
            (Records (queue.staging.memcpy handle data) buffers)
            { buffers := buffers, drawn := [] } queue.accepted
            queue.memory queue.waiting := by
        refine consistent.follows.mono fun command member call recorded => ?_
        obtain ⟨entry, waits, rfl⟩ := List.mem_map.mp member
        refine recorded.congr fun source copied => ?_
        exact StagingMemory.read_memcpy_of_apart
          (granted.apart (consistent.held entry waits source copied))
      have recorded :
          Records (queue.staging.memcpy handle data) buffers
            (.copyFromStagingToBuffer (handle.region data.length) target
              bufferOffset)
            (.write target bufferOffset data) :=
        ⟨rfl, rfl, StagingMemory.read_memcpy_self, valid⟩
      refine .running ?_
      exact
        { consistent with
          sound := granted.sound
          held := by
            intro entry member source copied
            rw [waitingEntries, List.map_append, ← List.append_assoc]
              at member
            rcases List.mem_append.mp member with old | new
            · exact granted.keeps
                (consistent.held entry old source copied)
            · rw [List.map_singleton, List.mem_singleton] at new
              subst new
              obtain rfl := Option.some.inj copied
              exact granted.holds
          follows := by
            have grown := follows.accept (.cons recorded .nil)
            simpa [waiting, waitingEntries, getPendingCommandSerial]
              using grown }

end Consistent

/-- A lost device does nothing any more. -/
theorem Stopped.step_eq
    {label : Label Target}
    {next : UploadQueue Target}
    (stopped : queue.Stopped buffers)
    (stepped : queue.step? label = some next) :
    next = queue := by
  have lost := stopped.lost
  have signalled := Nat.not_lt.mpr stopped.signalled
  cases label with
  | writeBuffer created target bufferOffset data =>
      simpa [step?, writeBuffer, lost] using stepped.symm
  | submitInternal commandCount =>
      simpa [step?, submitInternal, lost] using stepped.symm
  | tick =>
      simpa [step?, tick, lost] using stepped.symm
  | checkPassedSerials =>
      simpa [step?, checkPassedSerials, signalled] using stepped.symm
  | executeNext =>
      simp [step?, executeNext?, stopped.nothingExecutes] at stepped

/-- A stopped queue stays what it is. -/
theorem Stopped.run_eq
    {labels : List (Label Target)}
    {final : UploadQueue Target}
    (stopped : queue.Stopped buffers)
    (ran : Runs.run? step? queue labels = some final) :
    final = queue := by
  induction labels with
  | nil =>
      simpa using ran.symm
  | cons label rest inductionHypothesis =>
      obtain ⟨next, stepped, later⟩ := Runs.run?_cons_eq_some.mp ran
      rw [stopped.step_eq stepped] at later
      exact inductionHypothesis later

namespace Kept

/-- A queue whose device is not lost runs. -/
theorem consistent
    (kept : queue.Kept buffers)
    (alive : queue.isLost = false) :
    queue.Consistent buffers := by
  cases kept with
  | running consistent =>
      exact consistent
  | lost stopped =>
      simp [stopped.lost] at alive

/-- A step keeps the queue consistent, or stops it. -/
theorem step
    {label : Label Target}
    {next : UploadQueue Target}
    (sizesInWord : ∀ target, (buffers target).memory.size + 4 ≤ 2 ^ 64)
    (kept : queue.Kept buffers)
    (stepped : queue.step? label = some next) :
    next.Kept buffers := by
  cases kept with
  | lost stopped =>
      rw [stopped.step_eq stepped]
      exact .lost stopped
  | running consistent =>
      cases label with
      | writeBuffer created target bufferOffset data =>
          obtain rfl := Option.some.inj stepped
          unfold UploadQueue.writeBuffer
          split
          · rename_i accepted
            have valid :=
              (validWriteBuffer_iff_of_sameShape consistent.sameShape).mp
                accepted.2
            exact consistent.uploadData sizesInWord valid
          · exact .running consistent
      | submitInternal commandCount =>
          obtain rfl := Option.some.inj stepped
          rw [submitInternal, if_neg (by simp [consistent.alive])]
          exact .running (consistent.submitImpl commandCount)
      | tick =>
          obtain rfl := Option.some.inj stepped
          exact .running consistent.tick
      | checkPassedSerials =>
          obtain rfl := Option.some.inj stepped
          exact .running consistent.checkPassedSerials
      | executeNext =>
          exact .running (consistent.executeNext stepped)

/-- The uploader of a kept queue is sound. -/
theorem sound
    (kept : queue.Kept buffers) :
    queue.mDynamicUploader.Sound queue.getPendingCommandSerial := by
  cases kept with
  | running consistent =>
      exact consistent.sound
  | lost stopped =>
      exact stopped.sound

/-- The memory is that of a queue that performed some calls at once. -/
theorem exists_initialPart
    (kept : queue.Kept buffers) :
    ∃ done,
      done <+: queue.accepted ∧
        queue.memory =
          done.foldl DeviceMemory.perform
            { buffers := buffers, drawn := [] } := by
  cases kept with
  | running consistent =>
      exact consistent.follows.exists_initialPart
  | lost stopped =>
      exact stopped.performed

/-- What a waiting command reads is held, for a serial still to complete. -/
theorem held
    (kept : queue.Kept buffers)
    {entry : Nat × RecordedCommand Target}
    (member : entry ∈ queue.waitingEntries)
    {source : Region}
    (copied : source ∈ entry.2.source?) :
    queue.mCompletedSerial < entry.1 ∧
      queue.mDynamicUploader.Holds entry.1 source := by
  cases kept with
  | running consistent =>
      exact
        ⟨consistent.completed.trans_lt
            (consistent.fence_lt_serial member),
          consistent.held entry member source copied⟩
  | lost stopped =>
      simp [waitingEntries, stopped.nothingExecutes,
        stopped.nothingPending] at member

end Kept

/-! ## Held until completed -/

section Held

variable {serial : Nat} {region : Region}

omit [DecidableEq Target] in
/-- Passing serials does not touch the uploader. -/
@[simp] theorem mDynamicUploader_checkPassedSerials
    (queue : UploadQueue Target) :
    queue.checkPassedSerials.mDynamicUploader =
      queue.mDynamicUploader := by
  unfold checkPassedSerials
  split <;> rfl

omit [DecidableEq Target] in
/-- Submitting does not touch the uploader. -/
@[simp] theorem mDynamicUploader_submitPendingCommands
    (queue : UploadQueue Target) :
    queue.submitPendingCommands.mDynamicUploader =
      queue.mDynamicUploader := by
  unfold submitPendingCommands
  split <;> rfl

omit [DecidableEq Target] in
/-- Submitting completes nothing. -/
@[simp] theorem mCompletedSerial_submitPendingCommands
    (queue : UploadQueue Target) :
    queue.submitPendingCommands.mCompletedSerial =
      queue.mCompletedSerial := by
  unfold submitPendingCommands
  split <;> rfl

/-- Losing the device does not touch the uploader. -/
@[simp] theorem mDynamicUploader_handleError
    (queue : UploadQueue Target) :
    queue.handleError.mDynamicUploader = queue.mDynamicUploader := by
  simp [handleError, waitForIdleForDestruction, assumeCommandsComplete]

/-- Waiting for idle submits once. -/
theorem mLastSubmittedSerial_waitForIdle
    (queue : UploadQueue Target) :
    queue.waitForIdleForDestruction.mLastSubmittedSerial =
      queue.mLastSubmittedSerial + 1 := by
  unfold waitForIdleForDestruction checkPassedSerials
  split <;> rfl

omit [DecidableEq Target] in
/-- Passing serials never goes back. -/
theorem mCompletedSerial_le_checkPassedSerials
    (queue : UploadQueue Target) :
    queue.mCompletedSerial ≤
      queue.checkPassedSerials.mCompletedSerial := by
  unfold checkPassedSerials
  split
  · rename_i signalled
    exact signalled.le
  · exact Nat.le_refl _

/-- No upload takes away memory held before. -/
theorem Consistent.holds_uploadData
    {created : Bool}
    {target : Target}
    {bufferOffset : Nat}
    {data : List UInt8}
    (consistent : queue.Consistent buffers)
    (sizesInWord : ∀ target, (buffers target).memory.size + 4 ≤ 2 ^ 64)
    (valid : ValidWriteBuffer (buffers target) bufferOffset data.length)
    (held : queue.mDynamicUploader.Holds serial region) :
    (queue.uploadData created target bufferOffset
      data).mDynamicUploader.Holds serial region := by
  have request := request64_of_valid sizesInWord valid
  unfold UploadQueue.uploadData
  split
  · exact held
  · split
    · rename_i uploader refused
      rw [mDynamicUploader_handleError]
      exact
        (consistent.sound.allocate_eq_none (Nat.le_refl _) request
          refused).keeps held
    · rename_i handle uploader allocated
      exact
        (consistent.sound.allocate_eq_some (Nat.le_refl _) request
          allocated).keeps held

/-- Uploading never completes less. -/
theorem Consistent.mCompletedSerial_le_uploadData
    {created : Bool}
    {target : Target}
    {bufferOffset : Nat}
    {data : List UInt8}
    (consistent : queue.Consistent buffers) :
    queue.mCompletedSerial ≤
      (queue.uploadData created target bufferOffset
        data).mCompletedSerial := by
  have behind := consistent.completed
  have submitted := consistent.submitted
  unfold UploadQueue.uploadData
  split
  · exact Nat.le_refl _
  · split
    · simp only [handleError, assumeCommandsComplete,
        mLastSubmittedSerial_waitForIdle]
      omega
    · exact Nat.le_refl _

/-- A step lets go only of memory whose serial has completed after it. -/
theorem Kept.holds_step
    {label : Label Target}
    {next : UploadQueue Target}
    (sizesInWord : ∀ target, (buffers target).memory.size + 4 ≤ 2 ^ 64)
    (kept : queue.Kept buffers)
    (stepped : queue.step? label = some next)
    (waits : next.mCompletedSerial < serial)
    (held : queue.mDynamicUploader.Holds serial region) :
    next.mDynamicUploader.Holds serial region := by
  cases kept with
  | lost stopped =>
      rw [stopped.step_eq stepped]
      exact held
  | running consistent =>
      cases label with
      | writeBuffer created target bufferOffset data =>
          obtain rfl := Option.some.inj stepped
          unfold writeBuffer
          split
          · rename_i accepted
            have valid :=
              (validWriteBuffer_iff_of_sameShape consistent.sameShape).mp
                accepted.2
            exact consistent.holds_uploadData sizesInWord valid held
          · exact held
      | submitInternal commandCount =>
          obtain rfl := Option.some.inj stepped
          unfold submitInternal submitImpl
          split <;> simpa using held
      | tick =>
          obtain rfl := Option.some.inj stepped
          unfold tick at waits ⊢
          split at waits
          · rename_i idle
            rw [if_pos idle]
            exact held
          · rename_i busy
            rw [if_neg busy]
            have before :
                queue.checkPassedSerials.submitPendingCommands
                  |>.mDynamicUploader.Holds serial region := by
              simpa using held
            exact before.deallocate waits
      | checkPassedSerials =>
          obtain rfl := Option.some.inj stepped
          simpa using held
      | executeNext =>
          rw [step?, executeNext?] at stepped
          split at stepped
          · simp at stepped
          · obtain rfl := Option.some.inj stepped
            exact held
          · obtain rfl := Option.some.inj stepped
            exact held

/-- Serials that have completed stay so. -/
theorem Kept.mCompletedSerial_le_step
    {label : Label Target}
    {next : UploadQueue Target}
    (kept : queue.Kept buffers)
    (stepped : queue.step? label = some next) :
    queue.mCompletedSerial ≤ next.mCompletedSerial := by
  cases kept with
  | lost stopped =>
      rw [stopped.step_eq stepped]
  | running consistent =>
      cases label with
      | writeBuffer created target bufferOffset data =>
          obtain rfl := Option.some.inj stepped
          unfold writeBuffer
          split
          · exact consistent.mCompletedSerial_le_uploadData
          · exact Nat.le_refl _
      | submitInternal commandCount =>
          obtain rfl := Option.some.inj stepped
          unfold submitInternal submitImpl submitPendingCommands
          split <;> exact Nat.le_refl _
      | tick =>
          obtain rfl := Option.some.inj stepped
          unfold tick
          split
          · exact Nat.le_refl _
          · simpa [deallocateUploads]
              using mCompletedSerial_le_checkPassedSerials queue
      | checkPassedSerials =>
          obtain rfl := Option.some.inj stepped
          exact mCompletedSerial_le_checkPassedSerials queue
      | executeNext =>
          rw [step?, executeNext?] at stepped
          split at stepped
          · simp at stepped
          · obtain rfl := Option.some.inj stepped
            exact Nat.le_refl _
          · obtain rfl := Option.some.inj stepped
            exact Nat.le_refl _

/-- A run never completes less. -/
theorem Kept.mCompletedSerial_le_run
    {labels : List (Label Target)}
    {final : UploadQueue Target}
    (sizesInWord : ∀ target, (buffers target).memory.size + 4 ≤ 2 ^ 64)
    (kept : queue.Kept buffers)
    (ran : Runs.run? step? queue labels = some final) :
    queue.mCompletedSerial ≤ final.mCompletedSerial := by
  induction labels generalizing queue with
  | nil =>
      obtain rfl : queue = final := by
        simpa using ran
      exact Nat.le_refl _
  | cons label rest inductionHypothesis =>
      obtain ⟨next, stepped, later⟩ := Runs.run?_cons_eq_some.mp ran
      exact (kept.mCompletedSerial_le_step stepped).trans
        (inductionHypothesis (kept.step sizesInWord stepped) later)

/-- However a run goes on, what is held stays so until its serial completes. -/
theorem Kept.holds_run
    {labels : List (Label Target)}
    {final : UploadQueue Target}
    (sizesInWord : ∀ target, (buffers target).memory.size + 4 ≤ 2 ^ 64)
    (kept : queue.Kept buffers)
    (ran : Runs.run? step? queue labels = some final)
    (waits : final.mCompletedSerial < serial)
    (held : queue.mDynamicUploader.Holds serial region) :
    final.mDynamicUploader.Holds serial region := by
  induction labels generalizing queue with
  | nil =>
      obtain rfl : queue = final := by
        simpa using ran
      exact held
  | cons label rest inductionHypothesis =>
      obtain ⟨next, stepped, later⟩ := Runs.run?_cons_eq_some.mp ran
      have keptNext := kept.step sizesInWord stepped
      have waitsNext : next.mCompletedSerial < serial :=
        (keptNext.mCompletedSerial_le_run sizesInWord later).trans_lt waits
      exact inductionHypothesis keptNext later
        (kept.holds_step sizesInWord stepped waitsNext held)

end Held

/-- Every state the queue can reach is consistent, or its device is lost. -/
theorem kept_of_run
    {labels : List (Label Target)}
    {final : UploadQueue Target}
    (sizesInWord : ∀ target, (buffers target).memory.size + 4 ≤ 2 ^ 64)
    (ran : Runs.run? step? (new buffers) labels = some final) :
    final.Kept buffers :=
  Runs.invariant_of_run (fun kept stepped =>
    Kept.step sizesInWord kept stepped)
    (.running (consistent_new buffers)) ran

end UploadQueue

end Teck.Dawn
