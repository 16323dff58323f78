import Teck.Dawn.StagingRegions

namespace Teck.Dawn

open RingBufferAllocator (block)

/-!
# Allocating staging memory

`Allocate` keeps every region held and grants one apart from all of them,
wherever it takes it from: a ring with room, a ring appended, or a staging
buffer of its own.  It fails only if a staging buffer cannot be created.
-/

namespace DynamicUploader

variable {allocationSize serial offsetAlignment : Nat}

/-- The staging buffers of two lists of rings. -/
theorem ringIds_append
    (first second : List RingBuffer) :
    ringIds (first ++ second) = ringIds first ++ ringIds second :=
  List.filterMap_append

/-- A ring in front that has a staging buffer. -/
theorem ringIds_cons_of_some
    {ringBuffer : RingBuffer}
    {stagingBuffer : StagingBuffer}
    (backed : ringBuffer.mStagingBuffer = some stagingBuffer)
    (rest : List RingBuffer) :
    ringIds (ringBuffer :: rest) = stagingBuffer.id :: ringIds rest :=
  List.filterMap_cons_some (by simp [backed])

/-- A ring in front that has none yet. -/
theorem ringIds_cons_of_none
    {ringBuffer : RingBuffer}
    (unbacked : ringBuffer.mStagingBuffer = none)
    (rest : List RingBuffer) :
    ringIds (ringBuffer :: rest) = ringIds rest :=
  List.filterMap_cons_none (by simp [unbacked])

/-- The staging buffer of a ring is among those of the rings. -/
theorem mem_ringIds
    {ringBuffer : RingBuffer}
    {ringBuffers : List RingBuffer}
    {stagingBuffer : StagingBuffer}
    (member : ringBuffer ∈ ringBuffers)
    (backed : ringBuffer.mStagingBuffer = some stagingBuffer) :
    stagingBuffer.id ∈ ringIds ringBuffers :=
  List.mem_filterMap.mpr ⟨ringBuffer, member, by simp [backed]⟩

/-- A released staging buffer is among the released ones. -/
theorem mem_releasedIds
    {uploader : DynamicUploader}
    {stagingBuffer : StagingBuffer}
    (member :
      (serial, stagingBuffer) ∈ uploader.mReleasedStagingBuffers.entries) :
    stagingBuffer.id ∈ uploader.releasedIds := by
  rw [releasedIds, SerialQueue.iterateAll_eq_map]
  exact List.mem_map_of_mem (List.mem_map_of_mem member)

/-- A held region lies in a staging buffer that is in use. -/
theorem Holds.id_mem
    {uploader : DynamicUploader}
    {region : Region}
    (held : uploader.Holds serial region) :
    region.stagingBuffer.id ∈
      ringIds uploader.mRingBuffers ++ uploader.releasedIds := by
  rcases held with ⟨ringBuffer, member, backed, -⟩ | released
  · exact List.mem_append_left _ (mem_ringIds member backed)
  · exact List.mem_append_right _ (mem_releasedIds released)

/-- An uploader that still holds all that another holds. -/
structure Extends
    (serial : Nat)
    (uploader next : DynamicUploader) : Prop where
  sound : next.Sound serial
  keeps :
    ∀ {earlier region},
      uploader.Holds earlier region → next.Holds earlier region

/-- What an allocation has to ensure. -/
structure Grants
    (allocationSize serial offsetAlignment : Nat)
    (uploader : DynamicUploader)
    (handle : UploadHandle)
    (next : DynamicUploader) : Prop
    extends Extends serial uploader next where
  holds : next.Holds serial (handle.region allocationSize)
  inside :
    handle.startOffset + allocationSize ≤ handle.stagingBuffer.size
  aligned : offsetAlignment ∣ handle.startOffset
  apart :
    ∀ {earlier region},
      uploader.Holds earlier region →
        region.Apart (handle.region allocationSize)

section HandOut

variable {latest : Nat} {uploader next : DynamicUploader} {fit : Fit}
variable {source : RingBuffer} {created : Bool}

/-- A region is held by the ring a fit was made in, or somewhere else. -/
theorem Holds.of_middle
    {before after : List RingBuffer}
    {region : Region}
    (shape : uploader.mRingBuffers = before ++ source :: after)
    (held : uploader.Holds serial region) :
    source.Holds serial region ∨
      (∃ ringBuffer ∈ before ++ after,
        ringBuffer.Holds serial region) ∨
      (serial, region.stagingBuffer) ∈
        uploader.mReleasedStagingBuffers.entries := by
  rcases held with ⟨ringBuffer, member, held⟩ | released
  · rw [shape, List.mem_append, List.mem_cons] at member
    rcases member with inside | rfl | inside
    · exact .inr (.inl ⟨_, List.mem_append_left _ inside, held⟩)
    · exact .inl held
    · exact .inr (.inl ⟨_, List.mem_append_right _ inside, held⟩)
  · exact .inr (.inr released)

/-- Replacing one ring by one that holds no less keeps all regions. -/
theorem Holds.replace
    {before after : List RingBuffer}
    {target : RingBuffer}
    {region : Region}
    (shape : uploader.mRingBuffers = before ++ source :: after)
    (nextShape : next.mRingBuffers = before ++ target :: after)
    (released :
      next.mReleasedStagingBuffers = uploader.mReleasedStagingBuffers)
    (kept : source.Holds serial region → target.Holds serial region)
    (held : uploader.Holds serial region) :
    next.Holds serial region := by
  rcases held.of_middle shape with inSource | ⟨ring, member, held⟩ | old
  · exact .inl ⟨target, by simp [nextShape], kept inSource⟩
  · refine .inl ⟨ring, ?_, held⟩
    rw [nextShape, List.mem_append, List.mem_cons]
    rcases List.mem_append.mp member with inside | inside
    · exact .inl inside
    · exact .inr (.inr inside)
  · exact .inr (released ▸ old)

/-- A backed ring shares its staging buffer with no other region. -/
theorem Sound.id_ne_of_elsewhere
    {before after : List RingBuffer}
    {stagingBuffer : StagingBuffer}
    {region : Region}
    (sound : uploader.Sound latest)
    (shape : uploader.mRingBuffers = before ++ source :: after)
    (backed : source.mStagingBuffer = some stagingBuffer)
    (elsewhere :
      (∃ ringBuffer ∈ before ++ after,
        ringBuffer.Holds serial region) ∨
      (serial, region.stagingBuffer) ∈
        uploader.mReleasedStagingBuffers.entries) :
    region.stagingBuffer.id ≠ stagingBuffer.id := by
  have distinct := sound.distinct
  rw [shape, ringIds_append, ringIds_cons_of_some backed,
    List.append_assoc, List.cons_append, List.nodup_middle,
    List.nodup_cons] at distinct
  intro same
  rw [← same] at distinct
  refine distinct.1 ?_
  rw [← List.append_assoc, ← ringIds_append]
  rcases elsewhere with ⟨ring, member, inRing, -⟩ | released
  · exact List.mem_append_left _ (mem_ringIds member inRing)
  · exact List.mem_append_right _ (mem_releasedIds released)

/-- The ring size is aligned already. -/
theorem align_kRingBufferSize :
    align kRingBufferSize 4 = kRingBufferSize :=
  Alignable.align_eq_self
    ⟨⟨2, rfl⟩, by simp [kRingBufferSize]⟩
    ⟨1024 * 1024, rfl⟩

end HandOut

/-- A fit found in a sound uploader, and the ring it was made in. -/
structure Placement
    (latest allocationSize serial givenAlignment : Nat)
    (uploader : DynamicUploader)
    (fit : Fit)
    (source : RingBuffer) : Prop where
  sound : uploader.Sound latest
  shape : uploader.mRingBuffers = fit.before ++ source :: fit.after
  later : latest ≤ serial
  addressable : source.mAllocator.Addressable givenAlignment
  fits : FitsIn allocationSize serial givenAlignment fit source

namespace Placement

variable {latest givenAlignment : Nat}
variable {uploader next : DynamicUploader}
variable {fit : Fit} {source target : RingBuffer}
variable
  (placement :
    Placement latest allocationSize serial givenAlignment uploader fit
      source)
include placement

/-- The ring was sound before the allocation. -/
theorem sound_source : source.Sound latest :=
  placement.sound.rings source (by simp [placement.shape])

/-- The ring is sound after the allocation. -/
theorem sound_target : fit.target.Sound serial :=
  placement.fits.sound_target placement.sound_source placement.later
    placement.addressable

/-- What is handed out is inside the ring. -/
theorem inside : fit.startOffset + allocationSize ≤ kRingBufferSize := by
  have source := placement.sound_source
  rw [← source.maxSize]
  exact
    (RingBufferAllocator.allocate_inside source.coherent
      placement.addressable placement.fits.allocated).2

/-- The rings around the fit, with a sound ring put in their middle. -/
theorem rings_around
    (targetSound : target.Sound serial) :
    ∀ ringBuffer ∈ fit.before ++ target :: fit.after,
      ringBuffer.Sound serial := by
  have old := (placement.sound.mono placement.later).rings
  intro ring member
  rw [List.mem_append, List.mem_cons] at member
  rcases member with inside | rfl | inside
  · exact old ring (by simp [placement.shape, inside])
  · exact targetSound
  · exact old ring (by simp [placement.shape, inside])

/-- The ring holds what it hands out. -/
theorem holds_target
    {stagingBuffer : StagingBuffer}
    (staging : target.mStagingBuffer = some stagingBuffer)
    (allocator : target.mAllocator = fit.target.mAllocator) :
    target.Holds serial
      (UploadHandle.region ⟨fit.startOffset, stagingBuffer⟩
        allocationSize) := by
  obtain ⟨request, grown, -, covered⟩ :=
    placement.fits.entries_target placement.sound_source placement.later
      placement.addressable
  refine ⟨staging, request, ?_, covered⟩
  rw [allocator, grown]
  exact List.mem_append_right _ (by simp)

/-- The ring still holds what it held. -/
theorem keeps_target
    {earlier : Nat}
    {region : Region}
    (held : source.Holds earlier region) :
    fit.target.Holds earlier region :=
  placement.fits.keeps placement.sound_source placement.later
    placement.addressable held

/-- Putting the target in place, whether or not a handle comes of it. -/
theorem extends_target :
    Extends serial uploader
      { uploader with
        mRingBuffers := fit.before ++ fit.target :: fit.after } where
  sound := by
    have sameIds :
        ringIds (fit.before ++ fit.target :: fit.after) =
          ringIds uploader.mRingBuffers := by
      simp [ringIds, placement.shape, List.filterMap_cons,
        placement.fits.staging]
    exact
      { rings := placement.rings_around placement.sound_target
        filled := by simp
        serials := (placement.sound.mono placement.later).serials
        distinct := by rw [sameIds]; exact placement.sound.distinct
        numbered := by rw [sameIds]; exact placement.sound.numbered }
  keeps := fun held =>
    held.replace placement.shape rfl rfl placement.keeps_target

/-- A part of a ring that has a staging buffer can be granted. -/
theorem grants_of_backed
    {stagingBuffer : StagingBuffer}
    (backed : fit.target.mStagingBuffer = some stagingBuffer)
    (aligned : offsetAlignment ∣ fit.startOffset) :
    Grants allocationSize serial offsetAlignment uploader
      ⟨fit.startOffset, stagingBuffer⟩
      { uploader with
        mRingBuffers := fit.before ++ fit.target :: fit.after } where
  toExtends := placement.extends_target
  holds :=
    .inl ⟨fit.target, by simp, placement.holds_target backed rfl⟩
  inside := by
    rw [placement.sound_target.backed _ backed]
    exact placement.inside
  aligned := aligned
  apart := by
    intro earlier region held same
    rcases held.of_middle placement.shape with inSource | elsewhere
    · exact
        placement.fits.disjoint_of_holds placement.sound_source
          placement.later placement.addressable inSource
    · have sourceBacked := placement.fits.staging ▸ backed
      exact absurd same
        (placement.sound.id_ne_of_elsewhere placement.shape sourceBacked
          elsewhere)

/-- A ring whose staging buffer is created for this allocation. -/
theorem grants_of_created
    (unbacked : fit.target.mStagingBuffer = none)
    (aligned : offsetAlignment ∣ fit.startOffset) :
    let stagingBuffer : StagingBuffer :=
      { id := uploader.createdBuffers
        size := align fit.target.mAllocator.mMaxBlockSize 4 }
    Grants allocationSize serial offsetAlignment uploader
      ⟨fit.startOffset, stagingBuffer⟩
      { uploader with
        mRingBuffers :=
          fit.before ++
            { fit.target with mStagingBuffer := some stagingBuffer } ::
              fit.after
        createdBuffers := uploader.createdBuffers + 1 } := by
  intro stagingBuffer
  have size : stagingBuffer.size = kRingBufferSize := by
    rw [← align_kRingBufferSize, ← placement.sound_target.maxSize]
  have sourceUnbacked := placement.fits.staging ▸ unbacked
  have distinct := placement.sound.distinct
  have numbered := placement.sound.numbered
  have fresh :
      uploader.createdBuffers ∉
        ringIds uploader.mRingBuffers ++ uploader.releasedIds :=
    fun member => Nat.lt_irrefl _ (numbered _ member)
  rw [placement.shape, ringIds_append, ringIds_cons_of_none sourceUnbacked,
    List.append_assoc] at distinct numbered fresh
  have grown :
      ringIds
          (fit.before ++
            { fit.target with mStagingBuffer := some stagingBuffer } ::
              fit.after) ++ uploader.releasedIds =
        ringIds fit.before ++
          uploader.createdBuffers ::
            (ringIds fit.after ++ uploader.releasedIds) := by
    rw [ringIds_append, ringIds_cons_of_some rfl, List.append_assoc,
      List.cons_append]
  have bounded :
      ∀ id ∈
        ringIds fit.before ++
          uploader.createdBuffers ::
            (ringIds fit.after ++ uploader.releasedIds),
        id < uploader.createdBuffers + 1 := by
    intro id member
    rcases List.mem_cons.mp (List.perm_middle.mem_iff.mp member) with
      rfl | old
    · exact Nat.lt_succ_self _
    · exact (numbered id old).trans (Nat.lt_succ_self _)
  exact
    { sound :=
        { rings :=
            placement.rings_around
              { placement.sound_target with
                backed := by
                  intro other same
                  rw [← Option.some.inj same, size] }
          filled := by simp
          serials := (placement.sound.mono placement.later).serials
          distinct := by
            refine grown ▸ List.nodup_middle.mpr ?_
            exact List.nodup_cons.mpr ⟨fresh, distinct⟩
          numbered := grown ▸ bounded }
      keeps := fun held =>
        held.replace placement.shape rfl rfl fun inSource =>
          absurd inSource.1 (by simp [sourceUnbacked])
      holds :=
        .inl ⟨_, List.mem_append_right _ (List.mem_cons_self ..),
          placement.holds_target rfl rfl⟩
      inside := by
        rw [size]
        exact placement.inside
      aligned := aligned
      apart := by
        intro earlier region held same
        have old := placement.sound.numbered _ held.id_mem
        rw [same] at old
        exact absurd old (Nat.lt_irrefl _) }

/-- What is handed out is granted. -/
theorem handOut_eq_some
    {created : Bool}
    {handle : UploadHandle}
    (aligned : offsetAlignment ∣ fit.startOffset)
    (handed : uploader.handOut created fit = (some handle, next)) :
    Grants allocationSize serial offsetAlignment uploader handle next := by
  rw [handOut] at handed
  split at handed
  · rename_i stagingBuffer backed
    simp only [Prod.mk.injEq, Option.some.injEq] at handed
    obtain ⟨rfl, rfl⟩ := handed
    exact placement.grants_of_backed backed aligned
  · rename_i unbacked
    split at handed
    · simp only [Prod.mk.injEq, Option.some.injEq] at handed
      obtain ⟨rfl, rfl⟩ := handed
      exact placement.grants_of_created unbacked aligned
    · simp at handed

/-- A staging buffer that cannot be made leaves what is held as it was. -/
theorem handOut_eq_none
    {created : Bool}
    (handed : uploader.handOut created fit = (none, next)) :
    Extends serial uploader next := by
  rw [handOut] at handed
  split at handed
  · simp at handed
  · split at handed
    · simp at handed
    · simp only [Prod.mk.injEq, true_and] at handed
      exact handed ▸ placement.extends_target

end Placement

/-- What an upload asks for: sizes and alignments far from overflow. -/
structure Request64
    (allocationSize offsetAlignment : Nat) : Prop where
  powerOfTwo : ∃ exponent, offsetAlignment = 2 ^ exponent
  alignmentInWord : 2 * kRingBufferSize + offsetAlignment ≤ 2 ^ 64
  sizeInWord : allocationSize + 4 ≤ 2 ^ 64

section Allocate

variable {latest : Nat} {uploader next : DynamicUploader}
variable {created : Bool} {handle : UploadHandle}

/-- The first ring that fits makes a placement. -/
theorem Sound.placement_of_firstFit
    {fit : Fit}
    (sound : uploader.Sound latest)
    (later : latest ≤ serial)
    (request : Request64 allocationSize offsetAlignment)
    (found :
      firstFit allocationSize serial offsetAlignment
        uploader.mRingBuffers = some fit) :
    ∃ source,
      Placement latest allocationSize serial offsetAlignment uploader fit
        source := by
  have coherent :
      ∀ ring ∈ uploader.mRingBuffers, ring.mAllocator.Coherent :=
    fun ring member => (sound.rings ring member).coherent
  have addressable :
      ∀ ring ∈ uploader.mRingBuffers,
        ring.mAllocator.Addressable offsetAlignment := by
    intro ring member
    refine ⟨request.powerOfTwo, ?_⟩
    rw [(sound.rings ring member).maxSize]
    exact request.alignmentInWord
  obtain ⟨source, shape, fits⟩ := firstFit_spec coherent addressable found
  exact
    ⟨source,
      { sound := sound
        shape := shape
        later := later
        addressable := addressable source (by simp [shape])
        fits := fits }⟩

/-- Appending an empty ring keeps a sound uploader sound. -/
theorem Sound.append_new
    (sound : uploader.Sound latest) :
    DynamicUploader.Sound latest
      { uploader with
        mRingBuffers := uploader.mRingBuffers ++ [RingBuffer.new] } := by
  have sameIds :
      ringIds (uploader.mRingBuffers ++ [RingBuffer.new]) =
        ringIds uploader.mRingBuffers := by
    simp [ringIds, RingBuffer.new]
  exact
    { rings := by
        intro ring member
        rcases List.mem_append.mp member with old | appended
        · exact sound.rings ring old
        · rw [List.mem_singleton.mp appended]
          exact RingBuffer.sound_new latest
      filled := by simp
      serials := sound.serials
      distinct := by rw [sameIds]; exact sound.distinct
      numbered := by rw [sameIds]; exact sound.numbered }

/-- A ring that is added makes a placement at its start. -/
theorem Sound.placement_of_appendRing
    {fit : Fit}
    (sound : uploader.Sound latest)
    (later : latest ≤ serial)
    (found :
      appendRing allocationSize serial uploader.mRingBuffers = some fit) :
    Placement latest allocationSize serial 1
        { uploader with
          mRingBuffers := uploader.mRingBuffers ++ [RingBuffer.new] }
        fit RingBuffer.new ∧
      fit.startOffset = 0 := by
  obtain ⟨before, after, fits⟩ := appendRing_spec found
  have coherent := (RingBuffer.sound_new latest).coherent
  have addressable := RingBuffer.addressable_new
  obtain ⟨requestSize, placed, -⟩ :=
    RingBufferAllocator.allocate_eq_some coherent addressable
      fits.allocated
  refine
    ⟨{ sound := sound.append_new
       shape := by simp [before, after]
       later := later
       addressable := addressable
       fits := fits }, ?_⟩
  obtain ⟨-, ⟨atEnd, -⟩ | ⟨atFront, -⟩⟩ :=
    RingBufferAllocator.place_cases coherent addressable placed
  · rw [atEnd]
    exact
      (coherent.alignable addressable).align_eq_self (Nat.one_dvd _)
  · exact atFront

/-- More rings hold no less. -/
theorem Holds.append
    {region : Region}
    (ringBuffers : List RingBuffer)
    (held : uploader.Holds serial region) :
    Holds
      { uploader with
        mRingBuffers := uploader.mRingBuffers ++ ringBuffers }
      serial region := by
  rcases held with ⟨ring, member, held⟩ | released
  · exact .inl ⟨ring, List.mem_append_left _ member, held⟩
  · exact .inr released

/-- Extending an uploader with more rings extends it. -/
theorem Extends.of_append
    {ringBuffers : List RingBuffer}
    (extended :
      Extends serial
        { uploader with
          mRingBuffers := uploader.mRingBuffers ++ ringBuffers }
        next) :
    Extends serial uploader next where
  sound := extended.sound
  keeps := fun held => extended.keeps (held.append ringBuffers)

/-- A grant of an uploader with more rings is one of the uploader. -/
theorem Grants.of_append
    {ringBuffers : List RingBuffer}
    (granted :
      Grants allocationSize serial offsetAlignment
        { uploader with
          mRingBuffers := uploader.mRingBuffers ++ ringBuffers }
        handle next) :
    Grants allocationSize serial offsetAlignment uploader handle next where
  toExtends := Extends.of_append granted.toExtends
  holds := granted.holds
  inside := granted.inside
  aligned := granted.aligned
  apart := fun held => granted.apart (held.append ringBuffers)

/-- Handing out replaces the rings. -/
theorem handOut_append
    {ringBuffers : List RingBuffer}
    {fit : Fit} :
    handOut
        { uploader with
          mRingBuffers := uploader.mRingBuffers ++ ringBuffers }
        created fit =
      uploader.handOut created fit := by
  rfl

/-- A request beyond the ring size gets a staging buffer of its own. -/
theorem Sound.grants_own
    (sound : uploader.Sound latest)
    (later : latest ≤ serial)
    (request : Request64 allocationSize offsetAlignment) :
    let stagingBuffer : StagingBuffer :=
      { id := uploader.createdBuffers
        size := align allocationSize 4 }
    Grants allocationSize serial offsetAlignment uploader
      ⟨0, stagingBuffer⟩
      ({ uploader with
          createdBuffers := uploader.createdBuffers + 1 }.releaseStagingBuffer
            stagingBuffer serial) := by
  intro stagingBuffer
  have alignable : Alignable allocationSize 4 :=
    ⟨⟨2, rfl⟩, by have := request.sizeInWord; omega⟩
  have ordered := (sound.mono later).serials
  have entries :
      (uploader.mReleasedStagingBuffers.enqueue stagingBuffer
          serial).entries =
        uploader.mReleasedStagingBuffers.entries ++
          [(serial, stagingBuffer)] :=
    SerialQueue.entries_enqueue ordered
  have fresh :
      uploader.createdBuffers ∉
        ringIds uploader.mRingBuffers ++ uploader.releasedIds :=
    fun member => Nat.lt_irrefl _ (sound.numbered _ member)
  have ids :
      ringIds uploader.mRingBuffers ++
          (uploader.mReleasedStagingBuffers.enqueue stagingBuffer
            serial).iterateAll.map StagingBuffer.id =
        ringIds uploader.mRingBuffers ++ uploader.releasedIds ++
          [uploader.createdBuffers] := by
    rw [SerialQueue.iterateAll_enqueue, List.map_append, List.append_assoc]
    rfl
  have perm := List.perm_append_singleton uploader.createdBuffers
    (ringIds uploader.mRingBuffers ++ uploader.releasedIds)
  exact
    { sound :=
        { rings := (sound.mono later).rings
          filled := sound.filled
          serials := by
            intro entry member
            rw [releaseStagingBuffer, entries, List.mem_append,
              List.mem_singleton] at member
            rcases member with old | rfl
            · exact ordered entry old
            · exact Nat.le_refl _
          distinct := by
            refine ids ▸ perm.nodup_iff.mpr ?_
            exact List.nodup_cons.mpr ⟨fresh, sound.distinct⟩
          numbered := by
            have bounded :
                ∀ id ∈
                  ringIds uploader.mRingBuffers ++ uploader.releasedIds ++
                    [uploader.createdBuffers],
                  id < uploader.createdBuffers + 1 := by
              intro id member
              rcases List.mem_append.mp member with old | new
              · exact (sound.numbered id old).trans (Nat.lt_succ_self _)
              · rw [List.mem_singleton.mp new]
                exact Nat.lt_succ_self _
            exact ids ▸ bounded }
      keeps := by
        rintro earlier region (inRing | released)
        · exact .inl inRing
        · refine .inr ?_
          rw [releaseStagingBuffer, entries]
          exact List.mem_append_left _ released
      holds := by
        refine .inr ?_
        rw [releaseStagingBuffer, entries]
        exact List.mem_append_right _ (List.mem_singleton.mpr rfl)
      inside := by
        rw [Nat.zero_add]
        exact alignable.le_align
      aligned := Nat.dvd_zero _
      apart := by
        intro earlier region held same
        have old := sound.numbered _ held.id_mem
        rw [same] at old
        exact absurd old (Nat.lt_irrefl _) }

/-- A successful `Allocate` grants a region apart from all regions held. -/
theorem Sound.allocate_eq_some
    (sound : uploader.Sound latest)
    (later : latest ≤ serial)
    (request : Request64 allocationSize offsetAlignment)
    (allocated :
      uploader.allocate created allocationSize serial offsetAlignment =
        (some handle, next)) :
    Grants allocationSize serial offsetAlignment uploader handle next := by
  rw [allocate] at allocated
  split at allocated
  · split at allocated
    · simp only [Prod.mk.injEq, Option.some.injEq] at allocated
      obtain ⟨rfl, rfl⟩ := allocated
      exact sound.grants_own later request
    · simp at allocated
  · split at allocated
    · rename_i fit found
      obtain ⟨source, placement⟩ :=
        sound.placement_of_firstFit later request found
      obtain ⟨requestSize, placed, -⟩ :=
        RingBufferAllocator.allocate_eq_some
          placement.sound_source.coherent placement.addressable
          placement.fits.allocated
      have aligned :=
        (RingBufferAllocator.place_spec placement.sound_source.coherent
          placement.addressable placed).1
      exact placement.handOut_eq_some aligned allocated
    · split at allocated
      · rename_i fit appended
        obtain ⟨placement, atStart⟩ :=
          sound.placement_of_appendRing later appended
        rw [← handOut_append] at allocated
        exact Grants.of_append
          (placement.handOut_eq_some (atStart ▸ Nat.dvd_zero _) allocated)
      · simp at allocated

/-- A failed `Allocate` still keeps every region held. -/
theorem Sound.allocate_eq_none
    (sound : uploader.Sound latest)
    (later : latest ≤ serial)
    (request : Request64 allocationSize offsetAlignment)
    (refused :
      uploader.allocate created allocationSize serial offsetAlignment =
        (none, next)) :
    Extends serial uploader next := by
  have unchanged : Extends serial uploader uploader :=
    ⟨sound.mono later, fun held => held⟩
  rw [allocate] at refused
  split at refused
  · split at refused
    · simp at refused
    · simp only [Prod.mk.injEq, true_and] at refused
      exact refused ▸ unchanged
  · split at refused
    · rename_i fit found
      obtain ⟨source, placement⟩ :=
        sound.placement_of_firstFit later request found
      exact placement.handOut_eq_none refused
    · split at refused
      · rename_i fit appended
        obtain ⟨placement, -⟩ :=
          sound.placement_of_appendRing later appended
        rw [← handOut_append] at refused
        exact Extends.of_append (placement.handOut_eq_none refused)
      · simp only [Prod.mk.injEq, true_and] at refused
        exact refused ▸ unchanged

/-- A new ring has room for what is small. -/
theorem appendRing_isSome
    (small : allocationSize ≤ kRingBufferSize)
    (serial : Nat)
    (ringBuffers : List RingBuffer) :
    (appendRing allocationSize serial ringBuffers).isSome = true := by
  have atStart : align 0 1 = 0 :=
    (alignable_one (Nat.two_pow_pos 64)).align_eq_self (Nat.dvd_zero 1)
  have positive : 0 < kRingBufferSize := by simp [kRingBufferSize]
  have coherent := (RingBuffer.sound_new 0).coherent
  have addressable := RingBuffer.addressable_new
  have placed :
      RingBuffer.new.mAllocator.place allocationSize 1 =
        some (0, allocationSize) := by
    rw [RingBufferAllocator.place_eq coherent addressable]
    simp [RingBuffer.new, RingBufferAllocator.new, atStart, positive.ne',
      Nat.not_lt.mpr small, small]
  simp [appendRing, RingBufferAllocator.allocate, placed, kInvalidOffset]

/-- An allocation fails only if no staging buffer can be created. -/
theorem allocate_isSome :
    (uploader.allocate true allocationSize serial
      offsetAlignment).1.isSome = true := by
  have handedOut : ∀ fit, (uploader.handOut true fit).1.isSome = true := by
    intro fit
    rw [handOut]
    split <;> rfl
  rw [allocate]
  split
  · rfl
  · rename_i small
    split
    · exact handedOut _
    · have appended :=
        appendRing_isSome (Nat.le_of_not_lt small) serial
          uploader.mRingBuffers
      split
      · exact handedOut _
      · rename_i refused
        simp [refused] at appended

end Allocate

end DynamicUploader

end Teck.Dawn
