import Teck.Dawn.StagingAllocation

namespace Teck.Dawn

/-!
# Releasing staging memory

`Deallocate` keeps the regions of serials that have not completed, and leaves
one empty ring once all of them have.
-/

namespace DynamicUploader

variable {serial : Nat}

section Deallocate

variable {latest lastCompletedSerial : Nat} {uploader : DynamicUploader}

/-- Each ring that is left is an old one, deallocated. -/
theorem exists_of_mem_deallocateRings
    {ringBuffers : List RingBuffer}
    {ringBuffer : RingBuffer}
    (member :
      ringBuffer ∈ deallocateRings lastCompletedSerial ringBuffers) :
    ∃ old ∈ ringBuffers,
      ringBuffer =
        { old with
          mAllocator := old.mAllocator.deallocate lastCompletedSerial } := by
  induction ringBuffers with
  | nil =>
      simp [deallocateRings] at member
  | cons head rest inductionHypothesis =>
      rw [deallocateRings] at member
      split at member
      · obtain ⟨old, inside, shape⟩ := inductionHypothesis member
        exact ⟨old, List.mem_cons_of_mem _ inside, shape⟩
      · rcases List.mem_cons.mp member with rfl | later
        · exact ⟨head, List.mem_cons_self .., rfl⟩
        · obtain ⟨old, inside, shape⟩ := inductionHypothesis later
          exact ⟨old, List.mem_cons_of_mem _ inside, shape⟩

/-- A ring with requests left in flight survives. -/
theorem mem_deallocateRings
    {ringBuffers : List RingBuffer}
    {ringBuffer : RingBuffer}
    (member : ringBuffer ∈ ringBuffers)
    (busy :
      (ringBuffer.mAllocator.deallocate lastCompletedSerial).empty =
        false) :
    { ringBuffer with
        mAllocator :=
          ringBuffer.mAllocator.deallocate lastCompletedSerial } ∈
      deallocateRings lastCompletedSerial ringBuffers := by
  induction ringBuffers with
  | nil =>
      simp at member
  | cons head rest inductionHypothesis =>
      rw [deallocateRings]
      rcases List.mem_cons.mp member with rfl | later
      · simp [busy]
      · split
        · exact inductionHypothesis later
        · exact List.mem_cons_of_mem _ (inductionHypothesis later)

/-- Deallocating makes no staging buffer. -/
theorem ringIds_deallocateRings
    (ringBuffers : List RingBuffer) :
    (ringIds (deallocateRings lastCompletedSerial ringBuffers)).Sublist
      (ringIds ringBuffers) := by
  induction ringBuffers with
  | nil =>
      exact List.Sublist.refl _
  | cons head rest inductionHypothesis =>
      rw [deallocateRings]
      split
      · exact inductionHypothesis.trans
          ((List.sublist_cons_self head rest).filterMap _)
      · cases backed : head.mStagingBuffer with
        | none =>
            simpa [ringIds, backed] using inductionHypothesis
        | some stagingBuffer =>
            simpa [ringIds, backed] using inductionHypothesis

/-- One ring is always kept. -/
theorem deallocateRings_ne_nil
    {ringBuffers : List RingBuffer}
    (filled : ringBuffers ≠ []) :
    deallocateRings lastCompletedSerial ringBuffers ≠ [] := by
  induction ringBuffers with
  | nil =>
      exact absurd rfl filled
  | cons head rest inductionHypothesis =>
      rw [deallocateRings]
      split
      · rename_i erased
        exact inductionHypothesis erased.2
      · simp

/-- Clearing makes no staging buffer. -/
theorem releasedIds_clearUpTo :
    (uploader.deallocate lastCompletedSerial).releasedIds.Sublist
      uploader.releasedIds := by
  have parts :
      uploader.mReleasedStagingBuffers.iterateUpTo lastCompletedSerial ++
          (uploader.deallocate
            lastCompletedSerial).mReleasedStagingBuffers.iterateAll =
        uploader.mReleasedStagingBuffers.iterateAll :=
    SerialQueue.iterateUpTo_append_clearUpTo lastCompletedSerial
  rw [releasedIds, releasedIds, ← parts, List.map_append]
  exact List.sublist_append_right _ _

/-- Deallocating keeps an uploader sound. -/
theorem Sound.deallocate
    (sound : uploader.Sound latest)
    (lastCompletedSerial : Nat) :
    (uploader.deallocate lastCompletedSerial).Sound latest := by
  have ids :
      (ringIds
          (deallocateRings lastCompletedSerial uploader.mRingBuffers) ++
        (uploader.deallocate lastCompletedSerial).releasedIds).Sublist
      (ringIds uploader.mRingBuffers ++ uploader.releasedIds) :=
    (ringIds_deallocateRings _).append releasedIds_clearUpTo
  exact
    { rings := by
        intro ring member
        obtain ⟨old, inside, rfl⟩ := exists_of_mem_deallocateRings member
        have oldSound := sound.rings old inside
        exact
          { coherent := oldSound.coherent.deallocate _
            maxSize := by
              simpa using oldSound.maxSize
            backed := oldSound.backed
            serials := fun entry found =>
              oldSound.serials entry
                (SerialQueue.mem_entries_clearUpTo.mp found).1 }
      filled := deallocateRings_ne_nil sound.filled
      serials := fun entry found =>
        sound.serials entry (SerialQueue.mem_entries_clearUpTo.mp found).1
      distinct := sound.distinct.sublist ids
      numbered := fun id member => sound.numbered id (ids.mem member) }

/-- Regions of serials that have not completed stay held. -/
theorem Holds.deallocate
    {region : Region}
    (held : uploader.Holds serial region)
    (waiting : lastCompletedSerial < serial) :
    (uploader.deallocate lastCompletedSerial).Holds serial region := by
  rcases held with ⟨ring, member, backed, request, inFlight, covered⟩ | old
  · have kept := SerialQueue.mem_entries_clearUpTo.mpr ⟨inFlight, waiting⟩
    refine .inl ⟨_, mem_deallocateRings member ?_, backed, request, kept,
      covered⟩
    rw [Bool.eq_false_iff]
    intro nothing
    rw [RingBufferAllocator.empty, SerialQueue.empty_iff] at nothing
    rw [RingBufferAllocator.mInflightRequests_deallocate] at nothing
    rw [nothing] at kept
    exact List.not_mem_nil kept
  · exact .inr (SerialQueue.mem_entries_clearUpTo.mpr ⟨old, waiting⟩)

/-- When all rings are empty one of them is left. -/
theorem deallocateRings_of_all_empty
    {ringBuffers : List RingBuffer}
    (filled : ringBuffers ≠ [])
    (allEmpty :
      ∀ ring ∈ ringBuffers,
        (ring.mAllocator.deallocate lastCompletedSerial).empty = true) :
    ∃ ring,
      deallocateRings lastCompletedSerial ringBuffers = [ring] ∧
        ring.mAllocator.empty = true := by
  induction ringBuffers with
  | nil =>
      exact absurd rfl filled
  | cons head rest inductionHypothesis =>
      rw [deallocateRings]
      have headEmpty := allEmpty head (List.mem_cons_self ..)
      by_cases last : rest = []
      · subst rest
        rw [if_neg (by simp)]
        exact ⟨_, rfl, headEmpty⟩
      · rw [if_pos ⟨headEmpty, last⟩]
        exact inductionHypothesis last fun ring member =>
          allEmpty ring (List.mem_cons_of_mem _ member)

/-- Once every serial has completed one empty ring is all that is left. -/
theorem Sound.deallocate_all
    (sound : uploader.Sound latest)
    (completed : latest ≤ lastCompletedSerial) :
    (∃ ring,
        (uploader.deallocate lastCompletedSerial).mRingBuffers = [ring] ∧
          ring.mAllocator.empty = true) ∧
      (uploader.deallocate
        lastCompletedSerial).mReleasedStagingBuffers.empty = true := by
  refine ⟨deallocateRings_of_all_empty sound.filled fun ring member => ?_,
    SerialQueue.empty_clearUpTo fun entry member =>
      (sound.serials entry member).trans completed⟩
  exact SerialQueue.empty_clearUpTo fun entry found =>
    ((sound.rings ring member).serials entry found).trans completed

end Deallocate

end DynamicUploader

end Teck.Dawn
