import Teck.Dawn.DynamicUploader

namespace Teck.Dawn

open RingBufferAllocator (block)

/-!
# Regions of staging memory

Every upload handle names a region of a staging buffer.  `Holds` says that the
uploader keeps a region for a serial: a request in flight covers it, or the
buffer it lies in is released no earlier.  An allocation keeps all regions held
and adds one that overlaps none of them; `Deallocate` lets go only of regions
of completed serials.
-/

/-- A part of a staging buffer. -/
structure Region where
  stagingBuffer : StagingBuffer
  offset : Nat
  size : Nat
  deriving DecidableEq, Repr

namespace Region

/-- The offsets of a region. -/
def cells (region : Region) : Set Nat :=
  block region.offset region.size

/-- No byte belongs to both regions. -/
def Apart (first second : Region) : Prop :=
  first.stagingBuffer.id = second.stagingBuffer.id →
    Disjoint first.cells second.cells

end Region

/-- The region that an allocation of this size has. -/
def UploadHandle.region
    (handle : UploadHandle)
    (size : Nat) : Region where
  stagingBuffer := handle.stagingBuffer
  offset := handle.startOffset
  size := size

namespace RingBuffer

/-- A request in flight in the ring covers the region. -/
def Holds
    (ringBuffer : RingBuffer)
    (serial : Nat)
    (region : Region) : Prop :=
  ringBuffer.mStagingBuffer = some region.stagingBuffer ∧
    ∃ request,
      (serial, request) ∈ ringBuffer.mAllocator.mInflightRequests.entries ∧
        region.cells ⊆ request.segment.cells

/-- A ring with its size, its staging buffer and serials up to the latest. -/
structure Sound
    (latest : Nat)
    (ringBuffer : RingBuffer) : Prop where
  coherent : ringBuffer.mAllocator.Coherent
  maxSize : ringBuffer.mAllocator.mMaxBlockSize = kRingBufferSize
  backed :
    ∀ stagingBuffer ∈ ringBuffer.mStagingBuffer,
      stagingBuffer.size = kRingBufferSize
  serials :
    ∀ entry ∈ ringBuffer.mAllocator.mInflightRequests.entries,
      entry.1 ≤ latest

/-- A ring stays sound when later serials are used. -/
theorem Sound.mono
    {latest later : Nat}
    {ringBuffer : RingBuffer}
    (sound : ringBuffer.Sound latest)
    (ordered : latest ≤ later) :
    ringBuffer.Sound later :=
  { sound with
    serials := fun entry member =>
      (sound.serials entry member).trans ordered }

/-- A new ring is sound. -/
theorem sound_new (latest : Nat) : RingBuffer.new.Sound latest where
  coherent :=
    RingBufferAllocator.coherent_new (by simp [kRingBufferSize])
  maxSize := rfl
  backed := by simp [RingBuffer.new]
  serials := by simp [RingBuffer.new, RingBufferAllocator.new]

/-- An appended ring can be asked for any block with the default alignment. -/
theorem addressable_new : RingBuffer.new.mAllocator.Addressable 1 where
  powerOfTwo := ⟨0, rfl⟩
  sumsInWord := by
    simp [RingBuffer.new, RingBufferAllocator.new, kRingBufferSize]

end RingBuffer

namespace DynamicUploader

/-- The staging buffers of some rings, by number. -/
def ringIds (ringBuffers : List RingBuffer) : List Nat :=
  ringBuffers.filterMap fun ringBuffer =>
    ringBuffer.mStagingBuffer.map StagingBuffer.id

/-- The staging buffers that were released. -/
def releasedIds (uploader : DynamicUploader) : List Nat :=
  uploader.mReleasedStagingBuffers.iterateAll.map StagingBuffer.id

/--
A ring keeps the region, or its whole staging buffer is kept, for the serial.
-/
def Holds
    (uploader : DynamicUploader)
    (serial : Nat)
    (region : Region) : Prop :=
  (∃ ringBuffer ∈ uploader.mRingBuffers, ringBuffer.Holds serial region) ∨
    (serial, region.stagingBuffer) ∈
        uploader.mReleasedStagingBuffers.entries

/-- No serial beyond `latest` is in use, and no staging buffer twice. -/
structure Sound
    (latest : Nat)
    (uploader : DynamicUploader) : Prop where
  rings : ∀ ringBuffer ∈ uploader.mRingBuffers, ringBuffer.Sound latest
  filled : uploader.mRingBuffers ≠ []
  serials :
    ∀ entry ∈ uploader.mReleasedStagingBuffers.entries, entry.1 ≤ latest
  distinct : (ringIds uploader.mRingBuffers ++ uploader.releasedIds).Nodup
  numbered :
    ∀ id ∈ ringIds uploader.mRingBuffers ++ uploader.releasedIds,
      id < uploader.createdBuffers

/-- An uploader stays sound when later serials are used. -/
theorem Sound.mono
    {latest later : Nat}
    {uploader : DynamicUploader}
    (sound : uploader.Sound latest)
    (ordered : latest ≤ later) :
    uploader.Sound later :=
  { sound with
    rings := fun ringBuffer member =>
      (sound.rings ringBuffer member).mono ordered
    serials := fun entry member =>
      (sound.serials entry member).trans ordered }

/-- A new uploader is sound. -/
theorem sound_new (latest : Nat) : DynamicUploader.new.Sound latest where
  rings := by simpa [new] using RingBuffer.sound_new latest
  filled := by simp [new]
  serials := by simp [new]
  distinct := by
    simp [new, ringIds, RingBuffer.new, releasedIds,
      SerialQueue.iterateAll_eq_map]
  numbered := by
    simp [new, ringIds, RingBuffer.new, releasedIds,
      SerialQueue.iterateAll_eq_map]

/-! ## What a fit is -/

/-- The ring a fit was made in, before the allocation. -/
structure FitsIn
    (allocationSize serial offsetAlignment : Nat)
    (fit : Fit)
    (source : RingBuffer) : Prop where
  staging : fit.target.mStagingBuffer = source.mStagingBuffer
  allocated :
    source.mAllocator.allocate allocationSize serial offsetAlignment =
      (some fit.startOffset, fit.target.mAllocator)

variable {allocationSize serial offsetAlignment : Nat}

/-- The first fit is one of the rings, with room for the request. -/
theorem firstFit_spec
    {ringBuffers : List RingBuffer}
    {fit : Fit}
    (coherent :
      ∀ ringBuffer ∈ ringBuffers, ringBuffer.mAllocator.Coherent)
    (addressable :
      ∀ ringBuffer ∈ ringBuffers,
        ringBuffer.mAllocator.Addressable offsetAlignment)
    (found :
      firstFit allocationSize serial offsetAlignment ringBuffers =
        some fit) :
    ∃ source,
      ringBuffers = fit.before ++ source :: fit.after ∧
        FitsIn allocationSize serial offsetAlignment fit source := by
  induction ringBuffers generalizing fit with
  | nil =>
      simp [firstFit] at found
  | cons ringBuffer rest inductionHypothesis =>
      rw [firstFit] at found
      split at found
      · rename_i startOffset mAllocator allocated
        obtain rfl := Option.some.inj found
        exact ⟨ringBuffer, rfl, rfl, allocated⟩
      · rename_i mAllocator refused
        obtain ⟨later, foundLater, rfl⟩ := Option.map_eq_some_iff.mp found
        have headCoherent := coherent ringBuffer (List.mem_cons_self ..)
        have headAddressable :=
          addressable ringBuffer (List.mem_cons_self ..)
        obtain ⟨source, shape, fits⟩ :=
          inductionHypothesis
            (fun ring member => coherent ring (List.mem_cons_of_mem _ member))
            (fun ring member =>
              addressable ring (List.mem_cons_of_mem _ member))
            foundLater
        have unchanged :=
          RingBufferAllocator.allocate_eq_none headCoherent headAddressable
            refused
        refine ⟨source, ?_, fits.staging, fits.allocated⟩
        simp [shape, unchanged]

/-- A ring that is added comes last and is new. -/
theorem appendRing_spec
    {ringBuffers : List RingBuffer}
    {fit : Fit}
    (found : appendRing allocationSize serial ringBuffers = some fit) :
    fit.before = ringBuffers ∧ fit.after = [] ∧
      FitsIn allocationSize serial 1 fit RingBuffer.new := by
  rw [appendRing] at found
  split at found
  · rename_i startOffset mAllocator allocated
    obtain rfl := Option.some.inj found
    exact ⟨rfl, rfl, rfl, allocated⟩
  · simp at found

namespace FitsIn

variable {latest : Nat} {fit : Fit} {source : RingBuffer}

/-- An allocation adds one request to its ring. -/
theorem entries_target
    (fits : FitsIn allocationSize serial offsetAlignment fit source)
    (sound : source.Sound latest)
    (later : latest ≤ serial)
    (addressable : source.mAllocator.Addressable offsetAlignment) :
    ∃ request : Request,
      fit.target.mAllocator.mInflightRequests.entries =
          source.mAllocator.mInflightRequests.entries ++
            [(serial, request)] ∧
        fit.target.mAllocator.mInflightRequests.iterateAll =
          source.mAllocator.mInflightRequests.iterateAll ++ [request] ∧
        block fit.startOffset allocationSize ⊆ request.segment.cells := by
  obtain ⟨request, grown, covered⟩ :=
    RingBufferAllocator.exists_request_of_allocate sound.coherent
      addressable fits.allocated
  refine ⟨request, ?_, ?_, covered⟩
  · rw [grown, SerialQueue.entries_enqueue]
    exact fun entry member => (sound.serials entry member).trans later
  · rw [grown, SerialQueue.iterateAll_enqueue]

/-- An allocation keeps its ring sound. -/
theorem sound_target
    (fits : FitsIn allocationSize serial offsetAlignment fit source)
    (sound : source.Sound latest)
    (later : latest ≤ serial)
    (addressable : source.mAllocator.Addressable offsetAlignment) :
    fit.target.Sound serial := by
  obtain ⟨request, grown, -⟩ := fits.entries_target sound later addressable
  obtain ⟨requestSize, -, allocated⟩ :=
    RingBufferAllocator.allocate_eq_some sound.coherent addressable
      fits.allocated
  exact
    { coherent := sound.coherent.allocate addressable fits.allocated
      maxSize := by rw [allocated]; exact sound.maxSize
      backed := by rw [fits.staging]; exact sound.backed
      serials := by
        intro entry member
        rw [grown, List.mem_append, List.mem_singleton] at member
        rcases member with old | rfl
        · exact (sound.serials entry old).trans later
        · exact Nat.le_refl _ }

/-- An allocation keeps what the ring held. -/
theorem keeps
    (fits : FitsIn allocationSize serial offsetAlignment fit source)
    (sound : source.Sound latest)
    (later : latest ≤ serial)
    (addressable : source.mAllocator.Addressable offsetAlignment)
    {earlier : Nat}
    {region : Region}
    (held : source.Holds earlier region) :
    fit.target.Holds earlier region := by
  obtain ⟨request, grown, -⟩ := fits.entries_target sound later addressable
  obtain ⟨staging, old, member, covered⟩ := held
  refine ⟨fits.staging.trans staging, old, ?_, covered⟩
  rw [grown]
  exact List.mem_append_left _ member

/-- The block handed out overlaps no region the ring held before. -/
theorem disjoint_of_holds
    (fits : FitsIn allocationSize serial offsetAlignment fit source)
    (sound : source.Sound latest)
    (later : latest ≤ serial)
    (addressable : source.mAllocator.Addressable offsetAlignment)
    {earlier : Nat}
    {region : Region}
    (held : source.Holds earlier region) :
    Disjoint region.cells (block fit.startOffset allocationSize) := by
  obtain ⟨request, -, grown, covered⟩ :=
    fits.entries_target sound later addressable
  obtain ⟨-, old, member, oldCovered⟩ := held
  have apart :=
    (fits.sound_target sound later addressable).coherent.pairwise_disjoint
  rw [RingBufferAllocator.segments, grown, List.map_append,
    List.pairwise_append] at apart
  have inFlight :
      old.segment ∈
        source.mAllocator.mInflightRequests.iterateAll.map
          Request.segment := by
    rw [SerialQueue.iterateAll_eq_map]
    exact List.mem_map_of_mem (List.mem_map_of_mem member)
  exact (apart.2.2 _ inFlight request.segment (by simp)).mono
    oldCovered covered

end FitsIn

end DynamicUploader

end Teck.Dawn
