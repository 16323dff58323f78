import Teck.Dawn.Alignment
import Teck.Dawn.SerialQueue
import Teck.Library.CircularWindow

namespace Teck.Dawn

open CircularWindow

/-!
# The ring buffer allocator

`RingBufferAllocator` of the vendored library: sub-allocations of one block,
handed out from left to right and reclaimed in the same order once the serial
they were made for has completed.  All offsets and sizes are `uint64_t` values,
whose sums wrap around; `Allocate` returns `none` for `kInvalidOffset`.

`Coherent` reads the two offsets as cursors of a circular store: the requests
in flight are a walk from the used start to the used end.
-/

/-- An allocation in flight: where it ends and the bytes it takes. -/
structure Request where
  endOffset : Nat
  size : Nat
  deriving DecidableEq, Repr

/-- The request as a segment of the circular store. -/
def Request.segment (request : Request) : Segment where
  share := request.size
  finish := request.endOffset

/-- `kInvalidOffset`, the largest `uint64_t`. -/
def kInvalidOffset : Nat := 2 ^ 64 - 1

/-- The allocator's fields. -/
structure RingBufferAllocator where
  mInflightRequests : SerialQueue Nat Request
  mUsedEndOffset : Nat
  mUsedStartOffset : Nat
  mMaxBlockSize : Nat
  mUsedSize : Nat

namespace RingBufferAllocator

/-- An allocator of a block nothing has been handed out of. -/
def new (maxSize : Nat) : RingBufferAllocator where
  mInflightRequests := SerialQueue.new
  mUsedEndOffset := 0
  mUsedStartOffset := 0
  mMaxBlockSize := maxSize
  mUsedSize := 0

/-- Whether no request is in flight. -/
def empty (ring : RingBufferAllocator) : Bool :=
  ring.mInflightRequests.empty

/-- The start offset and request size that `Allocate` settles on. -/
def place
    (ring : RingBufferAllocator)
    (allocationSize offsetAlignment : Nat) : Option (Nat × Nat) :=
  let remainingSize := ring.mMaxBlockSize - ring.mUsedSize
  let alignmentOffset :=
    sub64 (align ring.mUsedEndOffset offsetAlignment) ring.mUsedEndOffset
  let alignedUsedEndOffset := add64 ring.mUsedEndOffset alignmentOffset
  if ring.mUsedSize ≥ ring.mMaxBlockSize then
    none
  else if allocationSize > remainingSize then
    none
  else if ring.mUsedStartOffset ≤ ring.mUsedEndOffset then
    -- Not split: try the end of the block first, then its front.
    if add64 alignedUsedEndOffset allocationSize ≤ ring.mMaxBlockSize then
      some (alignedUsedEndOffset, add64 allocationSize alignmentOffset)
    else if allocationSize ≤ ring.mUsedStartOffset then
      some
        ( 0,
          add64 (sub64 ring.mMaxBlockSize ring.mUsedEndOffset)
            allocationSize )
    else
      none
  else if
    add64 alignedUsedEndOffset allocationSize ≤ ring.mUsedStartOffset
  then
    some (alignedUsedEndOffset, add64 allocationSize alignmentOffset)
  else
    none

/-- `Allocate` -/
def allocate
    (ring : RingBufferAllocator)
    (allocationSize serial offsetAlignment : Nat) :
    Option Nat × RingBufferAllocator :=
  match ring.place allocationSize offsetAlignment with
  | none => (none, ring)
  | some (startOffset, currentRequestSize) =>
      let mUsedSize := add64 ring.mUsedSize currentRequestSize
      let mUsedEndOffset := add64 startOffset allocationSize
      let request : Request :=
        { endOffset := mUsedEndOffset
          size := currentRequestSize }
      -- An offset computed as `kInvalidOffset` is taken for a failure.
      if startOffset = kInvalidOffset then
        (none, { ring with mUsedSize })
      else
        ( some startOffset,
          { ring with
            mUsedEndOffset
            mUsedSize
            mInflightRequests :=
              ring.mInflightRequests.enqueue request serial } )

/-- One turn of the loop in `Deallocate`. -/
def reclaim
    (ring : RingBufferAllocator)
    (request : Request) : RingBufferAllocator :=
  { ring with
    mUsedStartOffset := request.endOffset
    mUsedSize := sub64 ring.mUsedSize request.size }

/-- `Deallocate` -/
def deallocate
    (ring : RingBufferAllocator)
    (lastCompletedSerial : Nat) : RingBufferAllocator :=
  let reclaimed :=
    (ring.mInflightRequests.iterateUpTo lastCompletedSerial).foldl
      reclaim ring
  { reclaimed with
    mInflightRequests :=
      ring.mInflightRequests.clearUpTo lastCompletedSerial }

/-- The requests in flight as segments of the block, oldest first. -/
def segments (ring : RingBufferAllocator) : List Segment :=
  ring.mInflightRequests.iterateAll.map Request.segment

/-- The offsets are the ends of the walk of the requests in flight. -/
structure Coherent (ring : RingBufferAllocator) : Prop where
  walk :
    ∃ first last : Cursor,
      first.position = ring.mUsedStartOffset ∧
        last.position = ring.mUsedEndOffset ∧
        Walk ring.mMaxBlockSize first ring.segments last
  startInside : ring.mUsedStartOffset ≤ ring.mMaxBlockSize
  used : ring.mUsedSize = totalShare ring.segments
  fits : ring.mUsedSize ≤ ring.mMaxBlockSize
  inWord : ring.mMaxBlockSize < 2 ^ 64

/-- No sum that `Allocate` computes at this alignment wraps around. -/
structure Addressable
    (ring : RingBufferAllocator)
    (offsetAlignment : Nat) : Prop where
  powerOfTwo : ∃ exponent, offsetAlignment = 2 ^ exponent
  sumsInWord : 2 * ring.mMaxBlockSize + offsetAlignment ≤ 2 ^ 64

/-- The cells from an offset on that an allocation of some size covers. -/
def block (offset size : Nat) : Set Nat :=
  Set.Ico offset (offset + size)

/-- A new ring is coherent. -/
theorem coherent_new
    {maxSize : Nat}
    (inWord : maxSize < 2 ^ 64) :
    (new maxSize).Coherent where
  walk := ⟨⟨0, 0⟩, ⟨0, 0⟩, rfl, rfl, rfl⟩
  startInside := Nat.zero_le _
  used := rfl
  fits := Nat.zero_le _
  inWord := inWord

namespace Coherent

variable {ring : RingBufferAllocator}

/-- The used part ends inside the ring. -/
theorem endInside (coherent : ring.Coherent) :
    ring.mUsedEndOffset ≤ ring.mMaxBlockSize := by
  obtain ⟨first, last, atStart, atEnd, walk⟩ := coherent.walk
  have inside := coherent.startInside
  rw [← atStart] at inside
  rw [← atEnd]
  exact walk.position_le inside

/-- Requests in flight never share a cell of the block. -/
theorem pairwise_disjoint (coherent : ring.Coherent) :
    ring.segments.Pairwise fun first second =>
      Disjoint first.cells second.cells := by
  obtain ⟨_, _, -, -, walk⟩ := coherent.walk
  exact walk.pairwise_disjoint (coherent.used ▸ coherent.fits)

/-- The used size by the offsets, while there are cells to spare. -/
theorem used_eq
    (coherent : ring.Coherent)
    (spare : ring.mUsedSize < ring.mMaxBlockSize) :
    ring.mUsedStartOffset ≤ ring.mUsedEndOffset ∧
        ring.mUsedStartOffset + ring.mUsedSize = ring.mUsedEndOffset ∨
      ring.mUsedEndOffset < ring.mUsedStartOffset ∧
        ring.mUsedStartOffset + ring.mUsedSize =
          ring.mMaxBlockSize + ring.mUsedEndOffset := by
  obtain ⟨first, last, atStart, atEnd, walk⟩ := coherent.walk
  have reached := walk.travelled_eq
  have inside := coherent.startInside
  rw [← atStart] at inside
  rw [← coherent.used] at reached
  rw [← atStart, ← atEnd]
  rcases walk.unsplit_or_split inside (coherent.used ▸ spare) with
    ⟨sameLap, before⟩ | ⟨nextLap, wrapped⟩
  · simp only [Cursor.travelled, sameLap] at reached
    exact .inl ⟨before, by omega⟩
  · simp only [Cursor.travelled, nextLap, Nat.add_mul] at reached
    exact .inr ⟨wrapped, by omega⟩

/-- The used end can be aligned without wrapping around. -/
theorem alignable
    (coherent : ring.Coherent)
    {offsetAlignment : Nat}
    (addressable : ring.Addressable offsetAlignment) :
    Alignable ring.mUsedEndOffset offsetAlignment := by
  have endInside := coherent.endInside
  have room := addressable.sumsInWord
  refine ⟨addressable.powerOfTwo, ?_⟩
  obtain ⟨exponent, rfl⟩ := addressable.powerOfTwo
  have positive := Nat.two_pow_pos exponent
  omega

end Coherent

/-- Where no sum wraps around, `place` computes with the numbers. -/
theorem place_eq
    {ring : RingBufferAllocator}
    {allocationSize offsetAlignment : Nat}
    (coherent : ring.Coherent)
    (addressable : ring.Addressable offsetAlignment) :
    ring.place allocationSize offsetAlignment =
      if ring.mUsedSize ≥ ring.mMaxBlockSize then
        none
      else if allocationSize > ring.mMaxBlockSize - ring.mUsedSize then
        none
      else
        let startOffset := align ring.mUsedEndOffset offsetAlignment
        let requestSize :=
          startOffset + allocationSize - ring.mUsedEndOffset
        if ring.mUsedStartOffset ≤ ring.mUsedEndOffset then
          if startOffset + allocationSize ≤ ring.mMaxBlockSize then
            some (startOffset, requestSize)
          else if allocationSize ≤ ring.mUsedStartOffset then
            some
              ( 0,
                ring.mMaxBlockSize - ring.mUsedEndOffset +
                  allocationSize )
          else
            none
        else if startOffset + allocationSize ≤ ring.mUsedStartOffset then
          some (startOffset, requestSize)
        else
          none := by
  have alignable := coherent.alignable addressable
  have endInside := coherent.endInside
  have inWord := coherent.inWord
  have room := addressable.sumsInWord
  have low := alignable.le_align
  have high := alignable.align_lt
  have offset :
      sub64 (align ring.mUsedEndOffset offsetAlignment)
          ring.mUsedEndOffset =
        align ring.mUsedEndOffset offsetAlignment - ring.mUsedEndOffset :=
    sub64_eq (by omega) low
  have aligned :
      add64 ring.mUsedEndOffset
          (align ring.mUsedEndOffset offsetAlignment -
            ring.mUsedEndOffset) =
        align ring.mUsedEndOffset offsetAlignment := by
    rw [add64_eq] <;> omega
  have rest :
      sub64 ring.mMaxBlockSize ring.mUsedEndOffset =
        ring.mMaxBlockSize - ring.mUsedEndOffset :=
    sub64_eq inWord endInside
  simp only [place, offset, aligned, rest]
  split
  · rfl
  · split
    · rfl
    · rename_i fits
      have size :
          add64 allocationSize
              (align ring.mUsedEndOffset offsetAlignment -
                ring.mUsedEndOffset) =
            align ring.mUsedEndOffset offsetAlignment + allocationSize -
              ring.mUsedEndOffset := by
        rw [add64_eq] <;> omega
      have reach :
          add64 (align ring.mUsedEndOffset offsetAlignment)
              allocationSize =
            align ring.mUsedEndOffset offsetAlignment + allocationSize :=
        add64_eq (by omega)
      have front :
          add64 (ring.mMaxBlockSize - ring.mUsedEndOffset)
              allocationSize =
            ring.mMaxBlockSize - ring.mUsedEndOffset + allocationSize :=
        add64_eq (by omega)
      rw [size, reach, front]

/-- Where an allocation can be placed, and the share it takes. -/
theorem place_cases
    {ring : RingBufferAllocator}
    {allocationSize offsetAlignment startOffset requestSize : Nat}
    (coherent : ring.Coherent)
    (addressable : ring.Addressable offsetAlignment)
    (placed :
      ring.place allocationSize offsetAlignment =
        some (startOffset, requestSize)) :
    ring.mUsedSize < ring.mMaxBlockSize ∧
      (startOffset = align ring.mUsedEndOffset offsetAlignment ∧
          ring.mUsedEndOffset + requestSize =
            startOffset + allocationSize ∧
          (ring.mUsedStartOffset ≤ ring.mUsedEndOffset ∧
              startOffset + allocationSize ≤ ring.mMaxBlockSize ∨
            ring.mUsedEndOffset < ring.mUsedStartOffset ∧
              startOffset + allocationSize ≤ ring.mUsedStartOffset) ∨
        startOffset = 0 ∧
          requestSize =
            ring.mMaxBlockSize - ring.mUsedEndOffset + allocationSize ∧
          ring.mUsedStartOffset ≤ ring.mUsedEndOffset ∧
          allocationSize ≤ ring.mUsedStartOffset) := by
  have low := (coherent.alignable addressable).le_align
  simp only [place_eq coherent addressable] at placed
  split at placed
  · simp at placed
  · rename_i notFull
    refine ⟨not_le.mp notFull, ?_⟩
    split at placed
    · simp at placed
    · split at placed
      · rename_i unsplit
        split at placed
        · rename_i atEnd
          simp only [Option.some.injEq, Prod.mk.injEq] at placed
          exact .inl ⟨by omega, by omega, .inl ⟨unsplit, by omega⟩⟩
        · split at placed
          · rename_i atFront
            simp only [Option.some.injEq, Prod.mk.injEq] at placed
            exact .inr
              ⟨placed.1.symm, placed.2.symm, unsplit, atFront⟩
          · simp at placed
      · rename_i wrapped
        split at placed
        · rename_i between
          simp only [Option.some.injEq, Prod.mk.injEq] at placed
          exact .inl
            ⟨by omega, by omega, .inr ⟨not_le.mp wrapped, by omega⟩⟩
        · simp at placed

/-- An allocation as a step of the walk, and the block it hands out. -/
theorem place_spec
    {ring : RingBufferAllocator}
    {allocationSize offsetAlignment startOffset requestSize : Nat}
    (coherent : ring.Coherent)
    (addressable : ring.Addressable offsetAlignment)
    (placed :
      ring.place allocationSize offsetAlignment =
        some (startOffset, requestSize)) :
    offsetAlignment ∣ startOffset ∧
      startOffset + allocationSize ≤ ring.mMaxBlockSize ∧
      ring.mUsedSize + requestSize ≤ ring.mMaxBlockSize ∧
      (∃ laps,
        laps * ring.mMaxBlockSize + (startOffset + allocationSize) =
          ring.mUsedEndOffset + requestSize) ∧
      startOffset + allocationSize - requestSize ≤ startOffset := by
  have endInside := coherent.endInside
  have startInside := coherent.startInside
  have alignable := coherent.alignable addressable
  obtain ⟨spare, atEnd | atFront⟩ :=
    place_cases coherent addressable placed
  · obtain ⟨rfl, reached, bound⟩ := atEnd
    have low := alignable.le_align
    refine ⟨alignable.dvd_align, ?_, ?_, ⟨0, by omega⟩, by omega⟩
    · omega
    · rcases coherent.used_eq spare with used | used <;> omega
  · obtain ⟨rfl, share, unsplit, before⟩ := atFront
    refine ⟨Nat.dvd_zero _, by omega, ?_, ⟨1, by omega⟩, by omega⟩
    rcases coherent.used_eq spare with used | used <;> omega

section Allocate

variable {ring next : RingBufferAllocator}
variable {allocationSize serial offsetAlignment startOffset : Nat}

/-- A block handed out was placed, and its sums did not wrap around. -/
theorem allocate_eq_some
    (coherent : ring.Coherent)
    (addressable : ring.Addressable offsetAlignment)
    (allocated :
      ring.allocate allocationSize serial offsetAlignment =
        (some startOffset, next)) :
    ∃ requestSize,
      ring.place allocationSize offsetAlignment =
          some (startOffset, requestSize) ∧
        next =
          { ring with
            mUsedEndOffset := startOffset + allocationSize
            mUsedSize := ring.mUsedSize + requestSize
            mInflightRequests :=
              ring.mInflightRequests.enqueue
                ⟨startOffset + allocationSize, requestSize⟩ serial } := by
  rw [allocate] at allocated
  split at allocated
  · simp at allocated
  · rename_i offset requestSize placed
    obtain ⟨-, inside, used, -⟩ :=
      place_spec coherent addressable placed
    have inWord := coherent.inWord
    rw [add64_eq (by omega), add64_eq (by omega)] at allocated
    split at allocated
    · simp at allocated
    · simp only [Prod.mk.injEq, Option.some.injEq] at allocated
      obtain ⟨rfl, rfl⟩ := allocated
      exact ⟨requestSize, placed, rfl⟩

/-- A refused request leaves the allocator as it was. -/
theorem allocate_eq_none
    (coherent : ring.Coherent)
    (addressable : ring.Addressable offsetAlignment)
    (refused :
      ring.allocate allocationSize serial offsetAlignment = (none, next)) :
    next = ring := by
  rw [allocate] at refused
  split at refused
  · simp only [Prod.mk.injEq, true_and] at refused
    exact refused.symm
  · rename_i offset requestSize placed
    obtain ⟨-, inside, -⟩ := place_spec coherent addressable placed
    have room := addressable.sumsInWord
    obtain ⟨exponent, rfl⟩ := addressable.powerOfTwo
    have positive := Nat.two_pow_pos exponent
    have valid : offset ≠ kInvalidOffset := by
      rw [kInvalidOffset]
      omega
    simp [valid] at refused

/-- What a successful `Allocate` adds to the requests in flight. -/
theorem exists_request_of_allocate
    (coherent : ring.Coherent)
    (addressable : ring.Addressable offsetAlignment)
    (allocated :
      ring.allocate allocationSize serial offsetAlignment =
        (some startOffset, next)) :
    ∃ request : Request,
      next.mInflightRequests =
          ring.mInflightRequests.enqueue request serial ∧
        block startOffset allocationSize ⊆ request.segment.cells := by
  obtain ⟨requestSize, placed, rfl⟩ :=
    allocate_eq_some coherent addressable allocated
  obtain ⟨-, -, -, -, covered⟩ := place_spec coherent addressable placed
  exact ⟨_, rfl, Set.Ico_subset_Ico_left covered⟩

/-- What is handed out is aligned and inside the ring. -/
theorem allocate_inside
    (coherent : ring.Coherent)
    (addressable : ring.Addressable offsetAlignment)
    (allocated :
      ring.allocate allocationSize serial offsetAlignment =
        (some startOffset, next)) :
    offsetAlignment ∣ startOffset ∧
      startOffset + allocationSize ≤ ring.mMaxBlockSize := by
  obtain ⟨requestSize, placed, -⟩ :=
    allocate_eq_some coherent addressable allocated
  obtain ⟨aligned, inside, -⟩ := place_spec coherent addressable placed
  exact ⟨aligned, inside⟩

/-- Handing out a part keeps the ring coherent. -/
theorem Coherent.allocate
    (coherent : ring.Coherent)
    (addressable : ring.Addressable offsetAlignment)
    (allocated :
      ring.allocate allocationSize serial offsetAlignment =
        (some startOffset, next)) :
    next.Coherent := by
  obtain ⟨requestSize, placed, rfl⟩ :=
    allocate_eq_some coherent addressable allocated
  obtain ⟨-, inside, room, ⟨laps, reached⟩, -⟩ :=
    place_spec coherent addressable placed
  obtain ⟨first, last, atStart, atEnd, walk⟩ := coherent.walk
  have grown :
      (ring.mInflightRequests.enqueue
          ⟨startOffset + allocationSize, requestSize⟩
          serial).iterateAll.map Request.segment =
        ring.segments ++ [⟨requestSize, startOffset + allocationSize⟩] := by
    simp [SerialQueue.iterateAll_enqueue, segments, Request.segment]
  exact
    { walk := by
        refine ⟨first, ⟨last.lap + laps, startOffset + allocationSize⟩,
          atStart, rfl, ?_⟩
        simp only [segments, grown]
        refine walk.snoc (Nat.le_add_right _ _) inside ?_
        rw [Cursor.travelled, atEnd, Nat.add_mul]
        simp only at reached ⊢
        omega
      startInside := coherent.startInside
      used := by
        simp only [segments, grown, totalShare_append, totalShare_cons,
          totalShare_nil, coherent.used]
        rfl
      fits := room
      inWord := coherent.inWord }

end Allocate

section Deallocate

variable {ring : RingBufferAllocator}

/-- Reclaiming requests in their order moves the start past them. -/
theorem foldl_reclaim
    {requests : List Request}
    {capacity : Nat}
    {first last : Cursor}
    (walk : Walk capacity first (requests.map Request.segment) last)
    (atStart : first.position = ring.mUsedStartOffset)
    (inWord : ring.mUsedSize < 2 ^ 64)
    (used :
      totalShare (requests.map Request.segment) ≤ ring.mUsedSize) :
    requests.foldl reclaim ring =
      { ring with
        mUsedStartOffset := last.position
        mUsedSize :=
          ring.mUsedSize - totalShare (requests.map Request.segment) } := by
  induction requests generalizing ring first with
  | nil =>
      have same : first = last := walk
      simp [← same, atStart]
  | cons request rest inductionHypothesis =>
      obtain ⟨lap, -, -, -, later⟩ := walk
      simp only [List.map_cons, totalShare_cons, Request.segment] at used
      have taken :
          sub64 ring.mUsedSize request.size =
            ring.mUsedSize - request.size :=
        sub64_eq inWord (by omega)
      have inWordNext : (ring.reclaim request).mUsedSize < 2 ^ 64 := by
        simp only [reclaim, taken]
        omega
      have usedNext :
          totalShare (rest.map Request.segment) ≤
            (ring.reclaim request).mUsedSize := by
        simp only [reclaim, taken]
        omega
      rw [List.foldl_cons,
        inductionHypothesis later rfl inWordNext usedNext]
      simp [reclaim, taken, Request.segment, Nat.sub_sub]

/-- Reclaiming keeps the ring coherent. -/
theorem Coherent.deallocate
    (coherent : ring.Coherent)
    (lastCompletedSerial : Nat) :
    (ring.deallocate lastCompletedSerial).Coherent := by
  obtain ⟨first, last, atStart, atEnd, walk⟩ := coherent.walk
  have used := coherent.used
  have startInside := coherent.startInside
  have parts :
      ring.segments =
        (ring.mInflightRequests.iterateUpTo
            lastCompletedSerial).map Request.segment ++
          (ring.mInflightRequests.clearUpTo
            lastCompletedSerial).iterateAll.map Request.segment := by
    rw [segments, ← SerialQueue.iterateUpTo_append_clearUpTo
      lastCompletedSerial, List.map_append]
  rw [parts] at walk
  obtain ⟨middle, before, after⟩ := Walk.append_iff.mp walk
  rw [parts, totalShare_append] at used
  have fits := coherent.fits
  have inWord := coherent.inWord
  unfold RingBufferAllocator.deallocate
  rw [foldl_reclaim before atStart (by omega) (by omega)]
  exact
    { walk := ⟨middle, last, rfl, atEnd, after⟩
      startInside := before.position_le (atStart ▸ startInside)
      used := by
        simp only [segments]
        omega
      fits := by
        simp only
        omega
      inWord := inWord }

/-- Reclaiming does not resize the ring. -/
@[simp] theorem mMaxBlockSize_foldl_reclaim
    (requests : List Request) :
    (requests.foldl reclaim ring).mMaxBlockSize = ring.mMaxBlockSize := by
  induction requests generalizing ring with
  | nil =>
      rfl
  | cons request rest inductionHypothesis =>
      rw [List.foldl_cons, inductionHypothesis]
      rfl

/-- Deallocating does not resize the ring. -/
@[simp] theorem mMaxBlockSize_deallocate
    (lastCompletedSerial : Nat) :
    (ring.deallocate lastCompletedSerial).mMaxBlockSize =
      ring.mMaxBlockSize := by
  simp [deallocate]

/-- Deallocating drops the requests up to the serial. -/
@[simp] theorem mInflightRequests_deallocate
    (lastCompletedSerial : Nat) :
    (ring.deallocate lastCompletedSerial).mInflightRequests =
      ring.mInflightRequests.clearUpTo lastCompletedSerial :=
  rfl

end Deallocate

end RingBufferAllocator

end Teck.Dawn
