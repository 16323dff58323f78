import Mathlib.Data.List.Nodup
import Teck.Dawn.RingBufferAllocator

namespace Teck.Dawn

open RingBufferAllocator (block)

/-!
# The dynamic uploader

`DynamicUploader` of the vendored library: staging memory for uploads, taken
first-fit from ring buffers of 4 MiB, with a new ring appended when none has
room and a staging buffer of its own for a larger request.  Creating a staging
buffer can fail; whether it does is an argument of `allocate`.  Staging buffers
are numbered in the order of their creation.
-/

/-- A staging buffer, the `BufferBase` behind an upload. -/
structure StagingBuffer where
  id : Nat
  size : Nat
  deriving DecidableEq, Repr

/-- A ring buffer allocator and the staging buffer it hands out parts of. -/
structure RingBuffer where
  mStagingBuffer : Option StagingBuffer
  mAllocator : RingBufferAllocator

/-- What an allocation hands out. -/
structure UploadHandle where
  startOffset : Nat
  stagingBuffer : StagingBuffer
  deriving DecidableEq, Repr

/-- The size of a ring buffer. -/
def kRingBufferSize : Nat := 4 * 1024 * 1024

/-- A ring buffer without a staging buffer yet. -/
def RingBuffer.new : RingBuffer where
  mStagingBuffer := none
  mAllocator := RingBufferAllocator.new kRingBufferSize

/--
The ring buffers, the large staging buffers that were released, and how many
staging buffers were made.
-/
structure DynamicUploader where
  mRingBuffers : List RingBuffer
  mReleasedStagingBuffers : SerialQueue Nat StagingBuffer
  createdBuffers : Nat

namespace DynamicUploader

/-- An uploader with one ring buffer. -/
def new : DynamicUploader where
  mRingBuffers := [RingBuffer.new]
  mReleasedStagingBuffers := SerialQueue.new
  createdBuffers := 0

/--
`ReleaseStagingBuffer`: the buffer is kept until the pending commands are
completed.
-/
def releaseStagingBuffer
    (uploader : DynamicUploader)
    (stagingBuffer : StagingBuffer)
    (pendingCommandSerial : Nat) : DynamicUploader :=
  { uploader with
    mReleasedStagingBuffers :=
      uploader.mReleasedStagingBuffers.enqueue stagingBuffer
        pendingCommandSerial }

/-- The ring an allocation went to, between the rings around it. -/
structure Fit where
  before : List RingBuffer
  startOffset : Nat
  target : RingBuffer
  after : List RingBuffer

/-- The first-fit loop over the rings. -/
def firstFit
    (allocationSize serial offsetAlignment : Nat) :
    List RingBuffer → Option Fit
  | [] => none
  | ringBuffer :: rest =>
      match
        ringBuffer.mAllocator.allocate allocationSize serial
          offsetAlignment with
      | (some startOffset, mAllocator) =>
          some ⟨[], startOffset, { ringBuffer with mAllocator }, rest⟩
      | (none, mAllocator) =>
          (firstFit allocationSize serial offsetAlignment rest).map
            fun fit =>
              { fit with
                before := { ringBuffer with mAllocator } :: fit.before }

/-- Append a ring and allocate from it, with the default alignment of one. -/
def appendRing
    (allocationSize serial : Nat)
    (ringBuffers : List RingBuffer) : Option Fit :=
  match RingBuffer.new.mAllocator.allocate allocationSize serial 1 with
  | (some startOffset, mAllocator) =>
      some ⟨ringBuffers, startOffset, { RingBuffer.new with mAllocator }, []⟩
  | (none, _) => none

/-- Hand out the block found, creating the ring's staging buffer lazily. -/
def handOut
    (uploader : DynamicUploader)
    (created : Bool)
    (fit : Fit) : Option UploadHandle × DynamicUploader :=
  match fit.target.mStagingBuffer with
  | some stagingBuffer =>
      ( some ⟨fit.startOffset, stagingBuffer⟩,
        { uploader with
          mRingBuffers := fit.before ++ fit.target :: fit.after } )
  | none =>
      if created then
        let stagingBuffer : StagingBuffer :=
          { id := uploader.createdBuffers
            size := align fit.target.mAllocator.mMaxBlockSize 4 }
        ( some ⟨fit.startOffset, stagingBuffer⟩,
          { uploader with
            mRingBuffers :=
              fit.before ++
                { fit.target with mStagingBuffer := some stagingBuffer } ::
                  fit.after
            createdBuffers := uploader.createdBuffers + 1 } )
      else
        ( none,
          { uploader with
            mRingBuffers := fit.before ++ fit.target :: fit.after } )

/-- `Allocate`, with `created` telling whether `CreateBuffer` succeeds. -/
def allocate
    (uploader : DynamicUploader)
    (created : Bool)
    (allocationSize serial offsetAlignment : Nat) :
    Option UploadHandle × DynamicUploader :=
  if allocationSize > kRingBufferSize then
    if created then
      let stagingBuffer : StagingBuffer :=
        { id := uploader.createdBuffers
          size := align allocationSize 4 }
      ( some ⟨0, stagingBuffer⟩,
        { uploader with
          createdBuffers := uploader.createdBuffers + 1 }.releaseStagingBuffer
            stagingBuffer serial )
    else
      (none, uploader)
  else
    match
      firstFit allocationSize serial offsetAlignment
        uploader.mRingBuffers with
    | some fit => uploader.handOut created fit
    | none =>
        match appendRing allocationSize serial uploader.mRingBuffers with
        | some fit => uploader.handOut created fit
        | none => (none, uploader)

/-- The loop of `Deallocate`, which never erases the last ring. -/
def deallocateRings (lastCompletedSerial : Nat) :
    List RingBuffer → List RingBuffer
  | [] => []
  | ringBuffer :: rest =>
      let mAllocator := ringBuffer.mAllocator.deallocate lastCompletedSerial
      if mAllocator.empty ∧ rest ≠ [] then
        deallocateRings lastCompletedSerial rest
      else
        { ringBuffer with mAllocator } ::
          deallocateRings lastCompletedSerial rest

/-- `Deallocate`: what completed commands have used is free again. -/
def deallocate
    (uploader : DynamicUploader)
    (lastCompletedSerial : Nat) : DynamicUploader :=
  { uploader with
    mRingBuffers :=
      deallocateRings lastCompletedSerial uploader.mRingBuffers
    mReleasedStagingBuffers :=
      uploader.mReleasedStagingBuffers.clearUpTo lastCompletedSerial }

/-- `GetTotalAllocatedSize`, of released and of ring buffers. -/
def getTotalAllocatedSize (uploader : DynamicUploader) : Nat :=
  (uploader.mReleasedStagingBuffers.iterateAll.map StagingBuffer.size).sum +
    (uploader.mRingBuffers.filterMap fun ringBuffer =>
      ringBuffer.mStagingBuffer.map StagingBuffer.size).sum

/-- `ShouldFlush`: too much is allocated to wait for a submit. -/
def shouldFlush (uploader : DynamicUploader) : Bool :=
  let kTotalAllocatedSizeThreshold := 64 * 1024 * 1024
  uploader.getTotalAllocatedSize > kTotalAllocatedSizeThreshold

end DynamicUploader

end Teck.Dawn
