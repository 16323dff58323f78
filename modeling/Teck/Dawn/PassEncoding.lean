import Teck.Dawn.PassTracking

namespace Teck.Dawn

/-!
# A pass encoder only records what is allowed

While a pass is open, the commands it recorded form a safe pass: each of them
is allowed by the ones before it.  A call either keeps this and records its
command, or fails and records nothing.
-/

open PassState ResultOrError

/-- The buffers a recorded command uses. -/
def EncodedCommand.uses : EncodedCommand → BufferUses
  | .setBindGroup _ group _ => group.uses
  | .setIndexBuffer buffer .. => [(buffer.identity, .Index)]
  | .setVertexBuffer _ buffer .. => [(buffer.identity, .Vertex)]
  | _ => []

/-- A pass that is still open, and the commands it recorded. -/
structure PassTracks
    (descriptor : RenderPassDescriptor)
    (pass : RenderPassEncoder)
    (body : List EncodedCommand) : Prop where
  running : pass.mEnded = false
  tracker : Tracks pass.mCommandBufferState (replay body)
  safe : SafePass descriptor body
  debugGroups : pass.mDebugGroupStackSize = (replay body).debugGroups
  draws : pass.mDrawCount = (replay body).draws
  uses : pass.mUsageTracker = body.flatMap EncodedCommand.uses
  attachmentState : pass.mAttachmentState = descriptor.attachmentState
  depthReadOnly : pass.mDepthReadOnly = descriptor.depthReadOnly
  stencilReadOnly : pass.mStencilReadOnly = descriptor.stencilReadOnly
  maxDrawCount : pass.mMaxDrawCount = descriptor.maxDrawCount

namespace PassTracks

variable {descriptor : RenderPassDescriptor} {device : DeviceBase}
variable {pass next : RenderPassEncoder}
variable {body commands : List EncodedCommand}

/-- A new pass has recorded nothing. -/
theorem new (descriptor : RenderPassDescriptor) :
    PassTracks descriptor (.new descriptor) [] where
  running := rfl
  tracker := Tracks.new
  safe := TraceSafety.safe_nil
  debugGroups := rfl
  draws := rfl
  uses := rfl
  attachmentState := rfl
  depthReadOnly := rfl
  stencilReadOnly := rfl
  maxDrawCount := rfl

/-- A call that succeeds has passed its checks and recorded its commands. -/
theorem encode_eq_ok
    {Result : Type}
    {checks : ResultOrError Result}
    {record : Result → List EncodedCommand × RenderPassEncoder}
    (encoded :
      pass.encode checks record = some (.ok commands, next)) :
    ∃ result,
      checks = pure result ∧
        commands = (record result).1 ∧
        next = (record result).2 := by
  rw [RenderPassEncoder.encode] at encoded
  rcases checks.cases_run with rfl | ⟨error, rfl⟩ | ⟨result, rfl⟩
  · simp [undefined, ExceptT.run] at encoded
  · simp at encoded
  · simp only [ExceptT.run_pure] at encoded
    obtain ⟨sameCommands, sameNext⟩ :=
      Prod.mk.inj (Option.some.inj encoded)
    exact ⟨result, rfl, (Except.ok.inj sameCommands).symm, sameNext.symm⟩

/-- Recording one allowed command. -/
theorem record
    {command : EncodedCommand}
    (tracks : PassTracks descriptor pass body)
    (allowed : (replay body).Allows descriptor command)
    (tracker :
      Tracks next.mCommandBufferState ((replay body).apply command))
    (debugGroups :
      next.mDebugGroupStackSize =
        ((replay body).apply command).debugGroups)
    (draws : next.mDrawCount = ((replay body).apply command).draws)
    (uses : next.mUsageTracker = pass.mUsageTracker ++ command.uses)
    (settings :
      next.mEnded = pass.mEnded ∧
        next.mAttachmentState = pass.mAttachmentState ∧
        next.mDepthReadOnly = pass.mDepthReadOnly ∧
        next.mStencilReadOnly = pass.mStencilReadOnly ∧
        next.mMaxDrawCount = pass.mMaxDrawCount) :
    PassTracks descriptor next (body ++ [command]) where
  running := settings.1.trans tracks.running
  tracker := by rwa [replay_concat]
  safe := TraceSafety.safe_concat.mpr ⟨tracks.safe, allowed⟩
  debugGroups := by rw [replay_concat, debugGroups]
  draws := by rw [replay_concat, draws]
  uses := by rw [uses, tracks.uses]; simp
  attachmentState := settings.2.1.trans tracks.attachmentState
  depthReadOnly := settings.2.2.1.trans tracks.depthReadOnly
  stencilReadOnly := settings.2.2.2.1.trans tracks.stencilReadOnly
  maxDrawCount := settings.2.2.2.2.trans tracks.maxDrawCount

/-- A call that only unsets a binding records nothing. -/
theorem unset
    {tracker : CommandBufferStateTracker}
    (tracks : PassTracks descriptor pass body)
    (unsets : Tracks tracker (replay body)) :
    PassTracks descriptor { pass with mCommandBufferState := tracker }
      body :=
  { tracks with tracker := unsets }

/-- A pipeline that passes validation fits the attachments. -/
theorem setPipeline
    {pipeline : RenderPipeline}
    (tracks : PassTracks descriptor pass body)
    (valid : pass.validateSetPipeline device pipeline = pure ()) :
    (replay body).Allows descriptor (.setRenderPipeline pipeline) := by
  rw [RenderPassEncoder.validateSetPipeline] at valid
  obtain ⟨_, -, attachment⟩ := bind_eq_pure.mp valid
  obtain ⟨sameState, depth⟩ := invalidIf_bind_eq_pure.mp attachment
  obtain ⟨noDepth, stencil⟩ := invalidIf_bind_eq_pure.mp depth
  have noStencil := invalidIf_eq_pure.mp stencil
  rw [tracks.attachmentState] at sameState
  rw [tracks.depthReadOnly] at noDepth
  rw [tracks.stencilReadOnly] at noStencil
  refine ⟨not_not.mp sameState, fun readOnly => ?_, fun readOnly => ?_⟩
  · simpa [readOnly] using noDepth
  · simpa [readOnly] using noStencil

/-- An index buffer that passes validation has its range inside. -/
theorem validateSetIndexBuffer_eq_pure
    {buffer : BufferBase}
    {format : IndexFormat}
    {offset size bound : Nat}
    (valid :
      RenderPassEncoder.validateSetIndexBuffer device buffer format offset
          size =
        pure bound) :
    format ≠ .Undefined ∧
      buffer.usage.index = true ∧ offset + bound ≤ buffer.size := by
  rw [RenderPassEncoder.validateSetIndexBuffer] at valid
  obtain ⟨_, -, usage⟩ := bind_eq_pure.mp valid
  obtain ⟨isIndex, rest⟩ := invalidIf_bind_eq_pure.mp usage
  obtain ⟨specified, rest⟩ := invalidIf_bind_eq_pure.mp rest
  obtain ⟨formatSize, -, rest⟩ := bind_eq_pure.mp rest
  obtain ⟨-, rest⟩ := invalidIf_bind_eq_pure.mp rest
  obtain ⟨inside, rest⟩ := invalidIf_bind_eq_pure.mp rest
  refine ⟨specified, by simpa using isIndex, ?_⟩
  split at rest
  · rw [pure_inj] at rest
    omega
  · obtain ⟨fits, same⟩ := invalidIf_bind_eq_pure.mp rest
    rw [pure_inj] at same
    omega

/-- A vertex buffer that passes validation has its range inside. -/
theorem validateVertexBuffer_eq_pure
    {buffer : BufferBase}
    {offset size bound : Nat}
    (valid :
      RenderPassEncoder.validateVertexBuffer device buffer offset size =
        pure bound) :
    buffer.usage.vertex = true ∧ 4 ∣ offset ∧
      offset + bound ≤ buffer.size := by
  rw [RenderPassEncoder.validateVertexBuffer] at valid
  obtain ⟨_, -, usage⟩ := bind_eq_pure.mp valid
  obtain ⟨isVertex, rest⟩ := invalidIf_bind_eq_pure.mp usage
  obtain ⟨aligned, rest⟩ := invalidIf_bind_eq_pure.mp rest
  obtain ⟨inside, rest⟩ := invalidIf_bind_eq_pure.mp rest
  refine ⟨by simpa using isVertex, Nat.dvd_of_mod_eq_zero ?_, ?_⟩
  · omega
  · split at rest
    · rw [pure_inj] at rest
      omega
    · obtain ⟨fits, same⟩ := invalidIf_bind_eq_pure.mp rest
      rw [pure_inj] at same
      omega

/-- The bound of a vertex buffer that passes validation is inside it. -/
theorem validateSetVertexBuffer_eq_pure
    {slot : Nat}
    {buffer : BufferBase}
    {offset size : Nat}
    {bound : VertexBufferSlot × Nat}
    (valid :
      RenderPassEncoder.validateSetVertexBuffer device slot (some buffer)
          offset size =
        pure bound) :
    buffer.usage.vertex = true ∧ 4 ∣ offset ∧
      offset + bound.2 ≤ buffer.size := by
  rw [RenderPassEncoder.validateSetVertexBuffer] at valid
  split at valid
  · obtain ⟨size, valid, same⟩ := bind_eq_pure.mp valid
    rw [pure_inj] at same
    rw [← same]
    exact validateVertexBuffer_eq_pure valid
  · simp at valid

/-- A draw that is recorded has passed the tracker and its own checks. -/
theorem encodeDraw_eq_ok
    {aspects : ValidationAspects}
    {checks : CommandBufferStateTracker → MaybeError}
    {command : EncodedCommand}
    (encoded :
      pass.encodeDraw aspects checks command =
        some (.ok commands, next)) :
    ∃ tracker,
      pass.mCommandBufferState.validateOperation aspects =
          some (.ok (), tracker) ∧
        checks tracker = pure () ∧
        commands = [command] ∧
        next =
          { pass with
            mCommandBufferState := tracker
            mDrawCount := pass.mDrawCount + 1 } := by
  rw [RenderPassEncoder.encodeDraw] at encoded
  obtain ⟨⟨verdict, tracker⟩, validated, later⟩ :=
    Option.bind_eq_some_iff.mp encoded
  obtain ⟨_, passed, sameCommands, sameNext⟩ := encode_eq_ok later
  obtain ⟨_, accepted, checked⟩ := bind_eq_pure.mp passed
  have ok : verdict = .ok () := Option.some.inj accepted
  rw [ok] at validated
  exact ⟨tracker, validated, checked, sameCommands, sameNext⟩

/-- A draw that was recorded is allowed. -/
theorem draw
    {vertexCount instanceCount firstVertex firstInstance : Nat}
    (tracks : PassTracks descriptor pass body)
    (encoded :
      pass.call device
          (.draw vertexCount instanceCount firstVertex firstInstance) =
        some (.ok commands, next)) :
    PassTracks descriptor next (body ++ commands) := by
  rw [RenderPassEncoder.call] at encoded
  obtain ⟨tracker, validated, checked, rfl, rfl⟩ :=
    encodeDraw_eq_ok encoded
  obtain ⟨pipeline, set, rfl, holds⟩ :=
    tracks.tracker.remembers.of_validateOperation
      (by simp [kDrawAspects]) validated
  have groups := (holds .bindGroups (by simp [kDrawAspects])).1
  have buffers := (holds .vertexBuffers (by simp [kDrawAspects])).1
  have kept :
      Tracks (pass.mCommandBufferState.remember pipeline kDrawAspects)
        (replay body) :=
    tracks.tracker.remember set (by simp [kDrawAspects])
  obtain ⟨-, ranges⟩ := invalidIf_bind_eq_pure.mp checked
  obtain ⟨_, vertexRange, instanceRange⟩ := bind_eq_pure.mp ranges
  refine tracks.record ?_ (kept.count _ _) tracks.debugGroups
    (congrArg (· + 1) tracks.draws) (List.append_nil _).symm
    ⟨rfl, rfl, rfl, rfl, rfl⟩
  exact
    ⟨pipeline, tracks.tracker.pipeline ▸ set,
      tracks.tracker.bindsGroups groups,
      tracks.tracker.bindsVertexBuffers buffers,
      kept.fetchesInside set buffers vertexRange,
      kept.fetchesInside set buffers instanceRange⟩

/-- An indexed draw that was recorded is allowed. -/
theorem drawIndexed
    {indexCount instanceCount firstIndex firstInstance : Nat}
    {baseVertex : Int}
    (tracks : PassTracks descriptor pass body)
    (encoded :
      pass.call device
          (.drawIndexed indexCount instanceCount firstIndex baseVertex
            firstInstance) =
        some (.ok commands, next)) :
    PassTracks descriptor next (body ++ commands) := by
  rw [RenderPassEncoder.call] at encoded
  obtain ⟨tracker, validated, checked, rfl, rfl⟩ :=
    encodeDraw_eq_ok encoded
  obtain ⟨pipeline, set, rfl, holds⟩ :=
    tracks.tracker.remembers.of_validateOperation
      (by simp [kDrawIndexedAspects]) validated
  have groups := (holds .bindGroups (by simp [kDrawIndexedAspects])).1
  have buffers :=
    (holds .vertexBuffers (by simp [kDrawIndexedAspects])).1
  have indices := holds .indexBuffer (by simp [kDrawIndexedAspects])
  have kept := tracks.tracker.remember_indexed set kDrawIndexedAspects
  obtain ⟨-, baseChecked⟩ := invalidIf_bind_eq_pure.mp checked
  obtain ⟨-, ranges⟩ := invalidIf_bind_eq_pure.mp baseChecked
  obtain ⟨_, indexRange, instanceRange⟩ := bind_eq_pure.mp ranges
  refine tracks.record ?_ (kept.count _ _) tracks.debugGroups
    (congrArg (· + 1) tracks.draws) (List.append_nil _).symm
    ⟨rfl, rfl, rfl, rfl, rfl⟩
  exact
    ⟨pipeline, tracks.tracker.pipeline ▸ set,
      tracks.tracker.bindsGroups groups,
      tracks.tracker.bindsVertexBuffers buffers,
      tracks.tracker.indexesInside indices.1 indices.2 indexRange,
      kept.fetchesInside set buffers instanceRange⟩

/-- Whatever a call records, the commands before it allow. -/
theorem call
    {call : RenderPassCall}
    (tracks : PassTracks descriptor pass body)
    (encoded : pass.call device call = some (.ok commands, next)) :
    PassTracks descriptor next (body ++ commands) := by
  cases call with
  | setPipeline pipeline =>
      rw [RenderPassEncoder.call] at encoded
      obtain ⟨_, valid, rfl, rfl⟩ := encode_eq_ok encoded
      exact
        tracks.record (tracks.setPipeline valid)
          (tracks.tracker.setRenderPipeline pipeline) tracks.debugGroups
          tracks.draws (List.append_nil _).symm ⟨rfl, rfl, rfl, rfl, rfl⟩
  | setBindGroup groupIndex group dynamicOffsets =>
      cases group with
      | none =>
          rw [RenderPassEncoder.call] at encoded
          obtain ⟨index, -, rfl, rfl⟩ := encode_eq_ok encoded
          rw [List.append_nil]
          exact tracks.unset (tracks.tracker.unsetBindGroup index)
      | some group =>
          rw [RenderPassEncoder.call] at encoded
          obtain ⟨index, -, rfl, rfl⟩ := encode_eq_ok encoded
          exact
            tracks.record trivial
              (tracks.tracker.setBindGroup index group dynamicOffsets)
              tracks.debugGroups tracks.draws rfl ⟨rfl, rfl, rfl, rfl, rfl⟩
  | setIndexBuffer buffer format offset size =>
      rw [RenderPassEncoder.call] at encoded
      obtain ⟨bound, valid, rfl, rfl⟩ := encode_eq_ok encoded
      obtain ⟨specified, allowed⟩ := validateSetIndexBuffer_eq_pure valid
      exact
        tracks.record allowed
          (tracks.tracker.setIndexBuffer specified buffer offset bound)
          tracks.debugGroups tracks.draws rfl ⟨rfl, rfl, rfl, rfl, rfl⟩
  | setVertexBuffer slot buffer offset size =>
      cases buffer with
      | none =>
          rw [RenderPassEncoder.call] at encoded
          obtain ⟨bound, -, rfl, rfl⟩ := encode_eq_ok encoded
          rw [List.append_nil]
          exact tracks.unset (tracks.tracker.unsetVertexBuffer bound.1)
      | some buffer =>
          rw [RenderPassEncoder.call] at encoded
          obtain ⟨bound, valid, rfl, rfl⟩ := encode_eq_ok encoded
          exact
            tracks.record (validateSetVertexBuffer_eq_pure valid)
              (tracks.tracker.setVertexBuffer bound.1 buffer offset
                bound.2)
              tracks.debugGroups tracks.draws rfl ⟨rfl, rfl, rfl, rfl, rfl⟩
  | draw vertexCount instanceCount firstVertex firstInstance =>
      exact tracks.draw encoded
  | drawIndexed indexCount instanceCount firstIndex baseVertex
      firstInstance =>
      exact tracks.drawIndexed encoded
  | insertDebugMarker groupLabel =>
      rw [RenderPassEncoder.call] at encoded
      obtain ⟨_, -, rfl, rfl⟩ := encode_eq_ok encoded
      exact
        tracks.record trivial tracks.tracker tracks.debugGroups
          tracks.draws (List.append_nil _).symm ⟨rfl, rfl, rfl, rfl, rfl⟩
  | pushDebugGroup groupLabel =>
      rw [RenderPassEncoder.call] at encoded
      obtain ⟨_, -, rfl, rfl⟩ := encode_eq_ok encoded
      exact
        tracks.record trivial (tracks.tracker.count _ _)
          (congrArg (· + 1) tracks.debugGroups) tracks.draws
          (List.append_nil _).symm ⟨rfl, rfl, rfl, rfl, rfl⟩
  | popDebugGroup =>
      rw [RenderPassEncoder.call] at encoded
      obtain ⟨_, valid, rfl, rfl⟩ := encode_eq_ok encoded
      have someOpen := invalidIf_eq_pure.mp valid
      rw [tracks.debugGroups] at someOpen
      exact
        tracks.record (Nat.pos_of_ne_zero someOpen)
          (tracks.tracker.count _ _)
          (congrArg (· - 1) tracks.debugGroups) tracks.draws
          (List.append_nil _).symm ⟨rfl, rfl, rfl, rfl, rfl⟩

end PassTracks

end Teck.Dawn
