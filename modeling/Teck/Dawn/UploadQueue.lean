import Mathlib.Logic.Function.Basic
import Teck.Dawn.StagingRelease
import Teck.GpuQueue

namespace Teck.Dawn

/-!
# The queue with staged uploads

`Queue::WriteBuffer`, `Submit` and `Tick` of the vendored library over its
Direct3D 12 queue.  A write copies its bytes to staging memory and records a
copy; submission hands the recorded commands to the GPU, which executes them
whenever it likes and signals a fence after each command list.  The fence tells
the queue which staging memory may be used again.

A staging buffer may fail to be created for want of memory.  No caller allows
for that error, so the device is lost: what is pending is forgotten, the GPU is
waited for, and all later calls fail.

The labels of `step?` are the calls of the application and the library, and one
unit of progress of the GPU, so a run is an interleaving of the two.
-/

/-- The memory of staging buffers, by number and offset. -/
abbrev StagingMemory := Nat → Nat → UInt8

namespace StagingMemory

/-- `memcpy` to the mapped pointer of an upload handle. -/
def memcpy
    (staging : StagingMemory)
    (handle : UploadHandle)
    (data : List UInt8) : StagingMemory :=
  fun id position =>
    if id = handle.stagingBuffer.id ∧
        handle.startOffset ≤ position ∧
        position < handle.startOffset + data.length then
      data.getD (position - handle.startOffset) 0
    else
      staging id position

/-- The bytes of a region. -/
def read
    (staging : StagingMemory)
    (region : Region) : List UInt8 :=
  (List.range region.size).map fun index =>
    staging region.stagingBuffer.id (region.offset + index)

end StagingMemory

/-- What is recorded in a command list: a staged copy or a command buffer. -/
inductive RecordedCommand (Target : Type*) where
  | copyFromStagingToBuffer
      (source : Region)
      (destination : Target)
      (destinationOffset : Nat)
  | commandBuffer

/-- The buffers, and the contents each executed command buffer read. -/
structure DeviceMemory (Target : Type*) where
  buffers : Target → GpuBuffer
  drawn : List (Target → GpuBuffer)

/-- The calls the queue accepted. -/
inductive QueueCall (Target : Type*) where
  | write (target : Target) (bufferOffset : Nat) (data : List UInt8)
  | commandBuffer

/-- What the GPU has left to execute of a list, and the serial it signals. -/
structure CommandList (Target : Type*) where
  serial : Nat
  commands : List (RecordedCommand Target)

/-- The queue with its device, the GPU and the memory they work on. -/
structure UploadQueue (Target : Type*) where
  /-- Whether the device is lost, `DeviceBase::IsLost`. -/
  isLost : Bool
  mDynamicUploader : DynamicUploader
  mLastSubmittedSerial : Nat
  mCompletedSerial : Nat
  mNeedsSubmit : Bool
  mPendingCommands : List (RecordedCommand Target)
  /-- The command lists handed to the GPU, oldest first. -/
  executing : List (CommandList Target)
  mFence : Nat
  staging : StagingMemory
  memory : DeviceMemory Target
  /-- History: the calls accepted so far. -/
  accepted : List (QueueCall Target)

/-- The alignment of copies, which uploads ask staging memory for. -/
def kCopyBufferToBufferOffsetAlignment : Nat := 4

variable {Target : Type*} [DecidableEq Target]

/-- A queue whose uploads take effect at once, the purpose of the real one. -/
def DeviceMemory.perform
    (memory : DeviceMemory Target) :
    QueueCall Target → DeviceMemory Target
  | .write target bufferOffset data =>
      { memory with
        buffers :=
          Function.update memory.buffers target
            (writeBuffer (memory.buffers target) bufferOffset data) }
  | .commandBuffer =>
      { memory with drawn := memory.drawn ++ [memory.buffers] }

/-- The GPU executing one recorded command. -/
def DeviceMemory.execute
    (staging : StagingMemory)
    (memory : DeviceMemory Target) :
    RecordedCommand Target → DeviceMemory Target
  | .copyFromStagingToBuffer source destination destinationOffset =>
      let buffer := memory.buffers destination
      { memory with
        buffers :=
          Function.update memory.buffers destination
            { buffer with
              memory :=
                buffer.memory.write destinationOffset
                  (staging.read source) } }
  | .commandBuffer =>
      { memory with drawn := memory.drawn ++ [memory.buffers] }

/-- The GPU executing the rest of a command list. -/
def DeviceMemory.executeList
    (staging : StagingMemory)
    (memory : DeviceMemory Target)
    (list : CommandList Target) : DeviceMemory Target :=
  list.commands.foldl (DeviceMemory.execute staging) memory

namespace UploadQueue

/-- A queue nothing has been written or submitted to. -/
def new (buffers : Target → GpuBuffer) : UploadQueue Target where
  isLost := false
  mDynamicUploader := DynamicUploader.new
  mLastSubmittedSerial := 0
  mCompletedSerial := 0
  mNeedsSubmit := false
  mPendingCommands := []
  executing := []
  mFence := 0
  staging := fun _ _ => 0
  memory := { buffers := buffers, drawn := [] }
  accepted := []

/-- The serial that the commands recorded now will complete under. -/
def getPendingCommandSerial (queue : UploadQueue Target) : Nat :=
  queue.mLastSubmittedSerial + 1

/-- `HasScheduledCommands` -/
def hasScheduledCommands (queue : UploadQueue Target) : Bool :=
  queue.mLastSubmittedSerial > queue.mCompletedSerial || queue.mNeedsSubmit

/-- Learn from the fence which serials have completed. -/
def checkPassedSerials (queue : UploadQueue Target) : UploadQueue Target :=
  if queue.mFence > queue.mCompletedSerial then
    { queue with mCompletedSerial := queue.mFence }
  else
    queue

/-- Forget what is pending, signal once more and wait for that signal. -/
def waitForIdleForDestruction
    (queue : UploadQueue Target) : UploadQueue Target :=
  { queue with
    mNeedsSubmit := false
    mPendingCommands := []
    executing := []
    memory :=
      queue.executing.foldl (DeviceMemory.executeList queue.staging)
        queue.memory
    mLastSubmittedSerial := queue.mLastSubmittedSerial + 1
    mFence := queue.mLastSubmittedSerial + 1 }.checkPassedSerials

/-- `AssumeCommandsComplete` -/
def assumeCommandsComplete
    (queue : UploadQueue Target) : UploadQueue Target :=
  { queue with
    mLastSubmittedSerial := queue.mLastSubmittedSerial + 1
    mCompletedSerial := queue.mLastSubmittedSerial + 1 }

/-- `DeviceBase::HandleError` on an error that no caller allows. -/
def handleError (queue : UploadQueue Target) : UploadQueue Target :=
  { queue with
    isLost :=
      true }.waitForIdleForDestruction.assumeCommandsComplete

/-- `BufferBase::UploadData`, with the outcome of creating a staging buffer. -/
def uploadData
    (queue : UploadQueue Target)
    (created : Bool)
    (target : Target)
    (bufferOffset : Nat)
    (data : List UInt8) : UploadQueue Target :=
  if data.length = 0 then
    queue
  else
    match
      queue.mDynamicUploader.allocate created data.length
        queue.getPendingCommandSerial
        kCopyBufferToBufferOffsetAlignment with
    | (none, mDynamicUploader) =>
        { queue with mDynamicUploader }.handleError
    | (some uploadHandle, mDynamicUploader) =>
        { queue with
          mDynamicUploader
          staging := queue.staging.memcpy uploadHandle data
          mPendingCommands :=
            queue.mPendingCommands ++
              [.copyFromStagingToBuffer (uploadHandle.region data.length)
                target bufferOffset]
          -- The copy itself is recorded passively.
          mNeedsSubmit :=
            queue.mNeedsSubmit || mDynamicUploader.shouldFlush
          accepted :=
            queue.accepted ++ [.write target bufferOffset data] }

/-- `WriteBuffer`; a lost device fails its first check. -/
def writeBuffer
    (queue : UploadQueue Target)
    (created : Bool)
    (target : Target)
    (bufferOffset : Nat)
    (data : List UInt8) : UploadQueue Target :=
  if queue.isLost = false ∧
      ValidWriteBuffer (queue.memory.buffers target) bufferOffset
        data.length then
    queue.uploadData created target bufferOffset data
  else
    queue

/-- Hand the pending commands to the GPU and signal the next serial. -/
def submitPendingCommands (queue : UploadQueue Target) : UploadQueue Target :=
  if queue.mNeedsSubmit then
    { queue with
      mNeedsSubmit := false
      mPendingCommands := []
      executing :=
        queue.executing ++
          [⟨queue.getPendingCommandSerial, queue.mPendingCommands⟩]
      mLastSubmittedSerial := queue.mLastSubmittedSerial + 1 }
  else
    queue

/-- Record the command buffers after what is pending, and submit. -/
def submitImpl
    (queue : UploadQueue Target)
    (commandCount : Nat) : UploadQueue Target :=
  { queue with
    mNeedsSubmit := true
    mPendingCommands :=
      queue.mPendingCommands ++
        List.replicate commandCount RecordedCommand.commandBuffer
    accepted :=
      queue.accepted ++
        List.replicate commandCount
          QueueCall.commandBuffer }.submitPendingCommands

/-- Reclaim the staging memory of completed serials. -/
def deallocateUploads (queue : UploadQueue Target) : UploadQueue Target :=
  { queue with
    mDynamicUploader :=
      queue.mDynamicUploader.deallocate queue.mCompletedSerial }

/-- `DeviceBase::Tick` -/
def tick (queue : UploadQueue Target) : UploadQueue Target :=
  if queue.isLost ∨ ¬queue.hasScheduledCommands then
    queue
  else
    queue.checkPassedSerials.submitPendingCommands.deallocateUploads

/-- `SubmitInternal` up to its tick; a lost device fails its first check. -/
def submitInternal
    (queue : UploadQueue Target)
    (commandCount : Nat) : UploadQueue Target :=
  if queue.isLost then
    queue
  else
    queue.submitImpl commandCount

/-- One unit of work of the GPU: a command, or the signal after the last. -/
def executeNext? (queue : UploadQueue Target) :
    Option (UploadQueue Target) :=
  match queue.executing with
  | [] => none
  | ⟨serial, []⟩ :: rest =>
      some { queue with executing := rest, mFence := serial }
  | ⟨serial, command :: commands⟩ :: rest =>
      some
        { queue with
          executing := ⟨serial, commands⟩ :: rest
          memory := queue.memory.execute queue.staging command }

/-- A call, a tick of the device or a unit of the GPU's work. -/
inductive Label (Target : Type*) where
  | writeBuffer
      (created : Bool)
      (target : Target)
      (bufferOffset : Nat)
      (data : List UInt8)
  | submitInternal (commandCount : Nat)
  | tick
  | checkPassedSerials
  | executeNext

/-- What a label does; the GPU can only go on if it was handed work. -/
def step?
    (queue : UploadQueue Target) :
    Label Target → Option (UploadQueue Target)
  | .writeBuffer created target bufferOffset data =>
      some (queue.writeBuffer created target bufferOffset data)
  | .submitInternal commandCount =>
      some (queue.submitInternal commandCount)
  | .tick => some queue.tick
  | .checkPassedSerials => some queue.checkPassedSerials
  | .executeNext => queue.executeNext?

end UploadQueue

end Teck.Dawn
