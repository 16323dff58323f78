import Teck.Dawn.PassReplay

namespace Teck.Dawn

/-!
# The tracker follows the replay

The tracker may know less than the replay of the commands, since unsetting a
binding records nothing, but what it knows is the same.  So what a validation
finds in the tracker is true of the commands.
-/

open PassState ResultOrError

open CommandBufferStateTracker (Remembers)

/-- What the tracker knows is what the commands have bound. -/
structure Tracks
    (tracker : CommandBufferStateTracker)
    (state : PassState) : Prop where
  remembers : tracker.Remembers
  pipeline : tracker.mLastPipeline = state.pipeline
  groups :
    ∀ i bound, tracker.mBindgroups i = some bound →
      state.groups i = some bound
  vertexBuffers :
    ∀ slot ∈ tracker.mVertexBuffersUsed,
      state.vertexBuffers slot = some (tracker.mVertexBufferSizes slot)
  indexBuffer :
    tracker.mIndexBufferSet = true →
      tracker.mIndexFormat ≠ .Undefined ∧
        state.indexBuffer =
          some (tracker.mIndexFormat, tracker.mIndexBufferSize)
  indexed : .indexBuffer ∈ tracker.mAspects → state.indexed = true

namespace Tracks

variable {tracker next : CommandBufferStateTracker} {state : PassState}
variable {pipeline : RenderPipeline} {required : ValidationAspects}

/-- A new tracker knows that nothing is bound. -/
theorem new : Tracks .new .initial where
  remembers := CommandBufferStateTracker.remembers_new
  pipeline := rfl
  groups := nofun
  vertexBuffers := by simp [CommandBufferStateTracker.new]
  indexBuffer := nofun
  indexed := by simp [CommandBufferStateTracker.new]

/-- The tracker forgets what the pipeline decides and knows the new one. -/
theorem setRenderPipeline
    (tracks : Tracks tracker state)
    (pipeline : RenderPipeline) :
    Tracks (tracker.setRenderPipeline pipeline)
      (state.apply (.setRenderPipeline pipeline)) where
  remembers := Remembers.setRenderPipeline tracker pipeline
  pipeline := rfl
  groups := tracks.groups
  vertexBuffers := tracks.vertexBuffers
  indexBuffer := tracks.indexBuffer
  indexed := by
    simp [CommandBufferStateTracker.setRenderPipeline, kLazyAspects]

/-- A group that is unset is only forgotten. -/
theorem unsetBindGroup
    (tracks : Tracks tracker state)
    (index : BindGroupIndex) :
    Tracks (tracker.unsetBindGroup index) state where
  remembers := tracks.remembers.unsetBindGroup index
  pipeline := tracks.pipeline
  groups := by
    intro i bound set
    by_cases same : i = index
    · simp [CommandBufferStateTracker.unsetBindGroup, same] at set
    · apply tracks.groups
      simpa [CommandBufferStateTracker.unsetBindGroup, same] using set
  vertexBuffers := tracks.vertexBuffers
  indexBuffer := tracks.indexBuffer
  indexed := fun member =>
    tracks.indexed (Finset.mem_sdiff.mp member).1

/-- The tracker knows the group and must check the groups again. -/
theorem setBindGroup
    (tracks : Tracks tracker state)
    (index : BindGroupIndex)
    (group : BindGroup)
    (dynamicOffsets : List Nat) :
    Tracks (tracker.setBindGroup index group dynamicOffsets)
      (state.apply (.setBindGroup index group dynamicOffsets)) where
  remembers := tracks.remembers.setBindGroup index group dynamicOffsets
  pipeline := tracks.pipeline
  groups := by
    intro i bound set
    by_cases same : i = index
    · simpa [CommandBufferStateTracker.setBindGroup, PassState.apply, same]
        using set
    · simp only [CommandBufferStateTracker.setBindGroup,
        Function.update_of_ne same] at set
      simp only [PassState.apply, Function.update_of_ne same]
      exact tracks.groups i bound set
  vertexBuffers := tracks.vertexBuffers
  indexBuffer := tracks.indexBuffer
  indexed := fun member =>
    tracks.indexed (Finset.mem_sdiff.mp member).1

/-- The tracker knows format and size of the index buffer. -/
theorem setIndexBuffer
    {format : IndexFormat}
    (tracks : Tracks tracker state)
    (specified : format ≠ .Undefined)
    (buffer : BufferBase)
    (offset size : Nat) :
    Tracks (tracker.setIndexBuffer format size)
      (state.apply (.setIndexBuffer buffer format offset size)) where
  remembers := tracks.remembers.setIndexBuffer format size
  pipeline := tracks.pipeline
  groups := tracks.groups
  vertexBuffers := tracks.vertexBuffers
  indexBuffer := fun _ => ⟨specified, rfl⟩
  indexed := tracks.indexed

/-- A vertex buffer that is unset is only forgotten. -/
theorem unsetVertexBuffer
    (tracks : Tracks tracker state)
    (slot : VertexBufferSlot) :
    Tracks (tracker.unsetVertexBuffer slot) state where
  remembers := tracks.remembers.unsetVertexBuffer slot
  pipeline := tracks.pipeline
  groups := tracks.groups
  vertexBuffers := by
    intro other used
    obtain ⟨different, stillUsed⟩ := Finset.mem_erase.mp used
    rw [tracks.vertexBuffers other stillUsed]
    simp [CommandBufferStateTracker.unsetVertexBuffer, different]
  indexBuffer := tracks.indexBuffer
  indexed := fun member =>
    tracks.indexed (Finset.mem_sdiff.mp member).1

/-- The tracker knows the size of the vertex buffer. -/
theorem setVertexBuffer
    (tracks : Tracks tracker state)
    (slot : VertexBufferSlot)
    (buffer : BufferBase)
    (offset size : Nat) :
    Tracks (tracker.setVertexBuffer slot size)
      (state.apply (.setVertexBuffer slot buffer offset size)) where
  remembers := tracks.remembers.setVertexBuffer slot size
  pipeline := tracks.pipeline
  groups := tracks.groups
  vertexBuffers := by
    intro other used
    by_cases same : other = slot
    · simp [CommandBufferStateTracker.setVertexBuffer, PassState.apply,
        same]
    · have before := (Finset.mem_insert.mp used).resolve_left same
      simpa [CommandBufferStateTracker.setVertexBuffer, PassState.apply,
        same] using tracks.vertexBuffers other before
  indexBuffer := tracks.indexBuffer
  indexed := tracks.indexed

/-- A validation that does not ask for the index buffer. -/
theorem remember
    (tracks : Tracks tracker state)
    (set : tracker.mLastPipeline = some pipeline)
    (notAsked : .indexBuffer ∉ required) :
    Tracks (tracker.remember pipeline required) state where
  remembers := tracks.remembers.remember set required
  pipeline := tracks.pipeline
  groups := tracks.groups
  vertexBuffers := tracks.vertexBuffers
  indexBuffer := tracks.indexBuffer
  indexed := by
    intro member
    rcases Finset.mem_union.mp member with known | found
    · exact tracks.indexed known
    · obtain ⟨asked, -⟩ := Finset.mem_filter.mp found
      exact absurd (Finset.mem_sdiff.mp asked).1 notAsked

/-- The index format is checked for an indexed draw only. -/
theorem remember_indexed
    (tracks : Tracks tracker state)
    (set : tracker.mLastPipeline = some pipeline)
    (required : ValidationAspects) :
    Tracks (tracker.remember pipeline required)
      { state with indexed := true } where
  remembers := tracks.remembers.remember set required
  pipeline := tracks.pipeline
  groups := tracks.groups
  vertexBuffers := tracks.vertexBuffers
  indexBuffer := tracks.indexBuffer
  indexed := fun _ => rfl

/-- The count of draws and the open debug groups are not tracked here. -/
theorem count
    (tracks : Tracks tracker state)
    (debugGroups draws : Nat) :
    Tracks tracker
      { state with debugGroups := debugGroups, draws := draws } :=
  { tracks with }

/-! ## What a passed validation allows -/

/-- The check of the groups says that they fit the pipeline. -/
theorem bindsGroups
    (tracks : Tracks tracker state)
    (holds : tracker.lazyAspectHolds pipeline .bindGroups = true) :
    state.BindsGroups pipeline := by
  obtain ⟨each, noAliasing⟩ :=
    CommandBufferStateTracker.bindGroupsMatch_iff.mp holds
  have matched :
      ∀ i requiredBGL, pipeline.layout i = some requiredBGL →
        ∃ bound, tracker.mBindgroups i = some bound ∧
          CommandBufferStateTracker.bindGroupMatches requiredBGL
              (pipeline.minBufferSizes i) bound =
            true :=
    fun i =>
      CommandBufferStateTracker.checkBindGroup_eq_pure.mp (each i)
  have sameEntries :
      ∀ {Entry : Type}
        (entries : BoundGroup → BindGroupIndex → List Entry),
        pipeline.layout.collect state.groups entries =
          pipeline.layout.collect tracker.mBindgroups entries := by
    intro Entry entries
    apply List.flatMap_congr
    intro i _
    cases named : pipeline.layout i with
    | none =>
        rfl
    | some requiredBGL =>
        obtain ⟨bound, set, -⟩ := matched i requiredBGL named
        rw [set, tracks.groups i bound set]
  rw [findStorageBufferBindingAliasing] at noAliasing
  split at noAliasing
  · simp at noAliasing
  · rename_i noBuffers
    rw [Option.map_eq_none_iff] at noAliasing
    exact
      { bound := by
          intro i requiredBGL named
          obtain ⟨bound, set, matching⟩ := matched i requiredBGL named
          simp only [CommandBufferStateTracker.bindGroupMatches,
            BindGroupLayout.isLayoutEqual, Bool.and_eq_true,
            decide_eq_true_eq, Option.isNone_iff_eq_none] at matching
          obtain ⟨⟨sameToken, sameInternal⟩, sizes⟩ := matching
          refine ⟨bound, tracks.groups i bound set, ?_, ?_⟩
          · exact BindGroupLayout.ext sameToken.symm sameInternal.symm
          · intro pair member
            have enough := List.findIdx?_eq_none_iff.mp sizes pair member
            simpa using enough
        buffers := by
          rw [sameEntries]
          exact Pairs.first?_eq_none_iff.mp noBuffers
        textures := by
          rw [sameEntries]
          exact Pairs.first?_eq_none_iff.mp noAliasing }

/-- The check of the vertex buffers says that every used slot has one. -/
theorem bindsVertexBuffers
    (tracks : Tracks tracker state)
    (holds : tracker.lazyAspectHolds pipeline .vertexBuffers = true) :
    state.BindsVertexBuffers pipeline := by
  intro slot layout isUsed
  have required : slot ∈ pipeline.vertexBuffersUsed := by
    simp [RenderPipeline.vertexBuffersUsed, isUsed]
  have set := of_decide_eq_true holds required
  rw [tracks.vertexBuffers slot set]
  rfl

/-- The range check of a draw says that what it fetches is inside. -/
theorem fetchesInside
    {stepMode : VertexStepMode}
    {rangeText : String}
    {first count : Nat}
    (tracks : Tracks tracker state)
    (set : tracker.mLastPipeline = some pipeline)
    (holds : tracker.lazyAspectHolds pipeline .vertexBuffers = true)
    (passed :
      tracker.validateBufferInRange stepMode rangeText first count =
        pure ()) :
    state.FetchesInside pipeline stepMode (first + count) := by
  intro slot layout size element isUsed sameMode bound inside
  have required : slot ∈ pipeline.vertexBuffersUsed := by
    simp [RenderPipeline.vertexBuffersUsed, isUsed]
  have isBound := of_decide_eq_true holds required
  have sameSize :=
    Option.some.inj
      (bound.symm.trans (tracks.vertexBuffers slot isBound))
  rw [sameSize]
  exact
    CommandBufferStateTracker.readsInside_of_validateBufferInRange set
      passed isUsed sameMode inside

/-- The range check of an indexed draw says that its indices are inside. -/
theorem indexesInside
    {indexCount firstIndex : Nat}
    (tracks : Tracks tracker state)
    (isSet : tracker.mIndexBufferSet = true)
    (fresh :
      .indexBuffer ∉ tracker.mAspects →
        tracker.lazyAspectHolds pipeline .indexBuffer = true)
    (passed :
      tracker.validateIndexBufferInRange indexCount firstIndex =
        pure ()) :
    state.IndexesInside pipeline (firstIndex + indexCount) := by
  obtain ⟨-, bound⟩ := tracks.indexBuffer isSet
  obtain ⟨formatSize, sized, inside⟩ := bind_eq_pure.mp passed
  rw [invalidIf_eq_pure] at inside
  refine
    ⟨_, _, formatSize, bound, sized, Nat.le_of_not_lt inside, ?_⟩
  intro first
  have unknown : .indexBuffer ∉ tracker.mAspects :=
    fun known => Bool.false_ne_true (first.symm.trans (tracks.indexed known))
  exact (Bool.and_eq_true_iff.mp (fresh unknown)).2

end Tracks

end Teck.Dawn
