import Teck.Dawn.RingBufferAllocator
import Teck.Library.Runs

namespace Teck.Dawn

/-!
# Live blocks of a ring buffer never overlap

A run of the allocator together with the blocks its user holds: a successful
`Allocate` adds the block it returned, `Deallocate` drops the blocks of
completed serials.  Each live block stays covered by a request of its own, so
no two of them overlap, in whatever order serials are given and completed.
-/

open CircularWindow

/-- A block returned by `Allocate`, for the work of some serial. -/
structure LiveBlock where
  serial : Nat
  startOffset : Nat
  allocationSize : Nat
  deriving DecidableEq, Repr

/-- The bytes of a block that was handed out. -/
def LiveBlock.cells (live : LiveBlock) : Set Nat :=
  RingBufferAllocator.block live.startOffset live.allocationSize

/-- An allocator and the blocks in use by its user. -/
structure RingBufferUser where
  allocator : RingBufferAllocator
  live : List LiveBlock

namespace RingBufferUser

/-- What a user asks of the ring. -/
inductive Label where
  | allocate (allocationSize serial offsetAlignment : Nat)
  | deallocate (lastCompletedSerial : Nat)
  deriving DecidableEq, Repr

/-- One call; what was handed out stays live until its serial has completed. -/
def step? (user : RingBufferUser) : Label → Option RingBufferUser
  | .allocate allocationSize serial offsetAlignment =>
      match
        user.allocator.allocate allocationSize serial offsetAlignment with
      | (none, allocator) => some { user with allocator }
      | (some startOffset, allocator) =>
          some
            { allocator
              live :=
                user.live ++ [⟨serial, startOffset, allocationSize⟩] }
  | .deallocate lastCompletedSerial =>
      some
        { allocator := user.allocator.deallocate lastCompletedSerial
          live := user.live.filter (lastCompletedSerial < ·.serial) }

/-- A user of a new ring. -/
def new (maxSize : Nat) : RingBufferUser where
  allocator := RingBufferAllocator.new maxSize
  live := []

/-- A call at whose alignment no sum of `Allocate` can wrap around. -/
def Label.Aligned (maxSize : Nat) : Label → Prop
  | .allocate _ _ offsetAlignment =>
      (∃ exponent, offsetAlignment = 2 ^ exponent) ∧
        2 * maxSize + offsetAlignment ≤ 2 ^ 64
  | .deallocate _ => True

/-- The request covers the block and is kept at least as long. -/
def CoveredBy
    (live : LiveBlock)
    (entry : Nat × Request) : Prop :=
  live.serial ≤ entry.1 ∧ live.cells ⊆ entry.2.segment.cells

/-- The ring is coherent, and its requests cover the live blocks in order. -/
structure Sound
    (maxSize : Nat)
    (user : RingBufferUser) : Prop where
  coherent : user.allocator.Coherent
  maxSize : user.allocator.mMaxBlockSize = maxSize
  covered :
    ∃ covering,
      covering.Sublist user.allocator.mInflightRequests.entries ∧
        List.Forall₂ CoveredBy user.live covering

/-- A user of a new ring holds nothing. -/
theorem sound_new
    {maxSize : Nat}
    (inWord : maxSize < 2 ^ 64) :
    (new maxSize).Sound maxSize where
  coherent := RingBufferAllocator.coherent_new inWord
  maxSize := rfl
  covered := ⟨[], List.nil_sublist _, .nil⟩

/-- Dropping blocks of completed serials drops their requests no earlier. -/
theorem forall₂_coveredBy_filter
    {live : List LiveBlock}
    {covering : List (Nat × Request)}
    (covered : List.Forall₂ CoveredBy live covering)
    (lastCompletedSerial : Nat) :
    ∃ kept,
      kept.Sublist (covering.filter (lastCompletedSerial < ·.1)) ∧
        List.Forall₂ CoveredBy
          (live.filter (lastCompletedSerial < ·.serial)) kept := by
  induction covered with
  | nil =>
      exact ⟨[], List.nil_sublist _, .nil⟩
  | @cons block entry live covering here _ inductionHypothesis =>
      obtain ⟨kept, inside, matching⟩ := inductionHypothesis
      by_cases waiting : lastCompletedSerial < block.serial
      · have entryWaits : lastCompletedSerial < entry.1 :=
          waiting.trans_le here.1
        refine ⟨entry :: kept, ?_, ?_⟩
        · simpa [entryWaits] using inside
        · simpa [waiting] using ⟨here, matching⟩
      · refine ⟨kept, ?_, by simpa [waiting] using matching⟩
        exact inside.trans
          ((List.sublist_cons_self entry covering).filter _)

/-- A call keeps the live blocks covered. -/
theorem Sound.step
    {maxSize : Nat}
    {user next : RingBufferUser}
    {label : Label}
    (aligned : label.Aligned maxSize)
    (sound : user.Sound maxSize)
    (stepped : user.step? label = some next) :
    next.Sound maxSize := by
  obtain ⟨coherent, sameSize, covering, inside, matching⟩ := sound
  cases label with
  | allocate allocationSize serial offsetAlignment =>
      have addressable : user.allocator.Addressable offsetAlignment :=
        ⟨aligned.1, sameSize ▸ aligned.2⟩
      rw [step?] at stepped
      split at stepped
      · rename_i allocator refused
        obtain rfl := Option.some.inj stepped
        obtain rfl :=
          RingBufferAllocator.allocate_eq_none coherent addressable refused
        exact ⟨coherent, sameSize, covering, inside, matching⟩
      · rename_i startOffset allocator allocated
        obtain rfl := Option.some.inj stepped
        obtain ⟨request, grown, covered⟩ :=
          RingBufferAllocator.exists_request_of_allocate coherent
            addressable allocated
        obtain ⟨kept, above, entries⟩ :=
          SerialQueue.exists_entries_enqueue
            user.allocator.mInflightRequests request serial
        obtain ⟨requestSize, -, shape⟩ :=
          RingBufferAllocator.allocate_eq_some coherent addressable
            allocated
        exact
          { coherent := coherent.allocate addressable allocated
            maxSize := by rw [shape]; exact sameSize
            covered := by
              refine ⟨covering ++ [(kept, request)], ?_, ?_⟩
              · rw [grown, entries]
                exact inside.append (List.Sublist.refl _)
              · exact List.rel_append matching
                  (.cons ⟨above, covered⟩ .nil) }
  | deallocate lastCompletedSerial =>
      obtain rfl := Option.some.inj stepped
      obtain ⟨kept, keptInside, keptMatching⟩ :=
        forall₂_coveredBy_filter matching lastCompletedSerial
      exact
        { coherent := coherent.deallocate _
          maxSize := by
            simpa using sameSize
          covered := by
            refine ⟨kept, keptInside.trans ?_, keptMatching⟩
            rw [RingBufferAllocator.mInflightRequests_deallocate,
              SerialQueue.entries_clearUpTo]
            exact inside.filter _ }

/-- Every live block is covered by a request. -/
theorem exists_entry_of_mem
    {live : List LiveBlock}
    {covering : List (Nat × Request)}
    (covered : List.Forall₂ CoveredBy live covering)
    {block : LiveBlock}
    (member : block ∈ live) :
    ∃ entry ∈ covering, CoveredBy block entry := by
  induction covered with
  | nil =>
      simp at member
  | @cons head entry rest covering here _ inductionHypothesis =>
      rcases List.mem_cons.mp member with rfl | later
      · exact ⟨entry, List.mem_cons_self .., here⟩
      · obtain ⟨other, inside, found⟩ := inductionHypothesis later
        exact ⟨other, List.mem_cons_of_mem _ inside, found⟩

/-- Blocks covered by requests that are apart are apart. -/
theorem pairwise_disjoint_of_covered
    {live : List LiveBlock}
    {covering : List (Nat × Request)}
    (covered : List.Forall₂ CoveredBy live covering)
    (apart :
      covering.Pairwise fun first second =>
        Disjoint first.2.segment.cells second.2.segment.cells) :
    live.Pairwise fun first second =>
      Disjoint first.cells second.cells := by
  induction covered with
  | nil =>
      exact .nil
  | cons here rest inductionHypothesis =>
      rw [List.pairwise_cons] at apart
      refine .cons (fun other member => ?_) (inductionHypothesis apart.2)
      obtain ⟨entry, inside, found⟩ := exists_entry_of_mem rest member
      exact (apart.1 entry inside).mono here.2 found.2

/-- The segments of a ring are those of its requests. -/
theorem segments_eq_map_entries
    (ring : RingBufferAllocator) :
    ring.segments =
      ring.mInflightRequests.entries.map fun entry => entry.2.segment := by
  rw [RingBufferAllocator.segments, SerialQueue.iterateAll_eq_map,
    List.map_map]
  rfl

/--
However allocations and deallocations alternate, the blocks in use lie inside
the ring buffer and no two of them overlap, as long as twice its size and the
alignments asked for stay below `2^64`.
-/
theorem live_blocks_disjoint
    {maxSize : Nat}
    {labels : List Label}
    {final : RingBufferUser}
    (inWord : maxSize < 2 ^ 64)
    (aligned : ∀ label ∈ labels, label.Aligned maxSize)
    (ran : Runs.run? step? (new maxSize) labels = some final) :
    (final.live.Pairwise fun first second =>
        Disjoint first.cells second.cells) ∧
      ∀ live ∈ final.live, live.cells ⊆ Set.Iio maxSize := by
  obtain ⟨coherent, rfl, covering, inside, matching⟩ :=
    Runs.invariant_of_run_of_allowed Sound.step aligned
      (sound_new inWord) ran
  constructor
  · have apart := coherent.pairwise_disjoint
    rw [segments_eq_map_entries, List.pairwise_map] at apart
    exact pairwise_disjoint_of_covered matching (apart.sublist inside)
  · intro live member
    obtain ⟨entry, found, -, covered⟩ :=
      exists_entry_of_mem matching member
    obtain ⟨_, _, -, -, walk⟩ := coherent.walk
    have inFlight : entry.2.segment ∈ final.allocator.segments := by
      rw [segments_eq_map_entries]
      exact List.mem_map_of_mem (inside.mem found)
    exact fun cell here =>
      (covered here).2.trans_le (walk.finish_le inFlight)

/-- A ring of eight bytes wraps around after its first block is reclaimed. -/
theorem live_blocks_disjoint_wrapped :
    ∃ final,
      Runs.run? step? (new 8)
            [.allocate 5 1 1, .allocate 3 2 1, .deallocate 1,
              .allocate 4 3 4] =
          some final ∧
        final.live = [⟨2, 5, 3⟩, ⟨3, 0, 4⟩] ∧
        (final.live.Pairwise fun first second =>
          Disjoint first.cells second.cells) := by
  have ran :
      (Runs.run? step? (new 8)
        [.allocate 5 1 1, .allocate 3 2 1, .deallocate 1,
          .allocate 4 3 4]).map RingBufferUser.live =
        some [⟨2, 5, 3⟩, ⟨3, 0, 4⟩] := by
    decide +kernel
  obtain ⟨final, reached, live⟩ := Option.map_eq_some_iff.mp ran
  refine
    ⟨final, reached, live,
      (live_blocks_disjoint (by decide) ?_ reached).1⟩
  have one : ∃ exponent, 1 = 2 ^ exponent := ⟨0, rfl⟩
  have four : ∃ exponent, 4 = 2 ^ exponent := ⟨2, rfl⟩
  simp [Label.Aligned, one, four]

-- Without the bound the check of the end offset wraps around: the last block
-- starts two bytes before the end of the ring and reaches far beyond it.
example :
    (Runs.run? step? (new (2 ^ 64 - 1))
      [.allocate (2 ^ 63) 1 1, .allocate (2 ^ 63 - 2) 2 1, .deallocate 1,
        .allocate (2 ^ 62) 3 1]).map RingBufferUser.live =
      some
        [⟨2, 2 ^ 63, 2 ^ 63 - 2⟩, ⟨3, 2 ^ 64 - 2, 2 ^ 62⟩] := by
  decide +kernel

end RingBufferUser

end Teck.Dawn
