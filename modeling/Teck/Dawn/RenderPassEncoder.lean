import Teck.Dawn.StateTracker

namespace Teck.Dawn

/-!
# Encoding the calls of a render pass

Each call on a `RenderPassEncoder` is validated against the state of the pass
and, if valid, changes this state and records a command.  An invalid call
records nothing; only what validation remembers may change.
-/

/-- `wgpu::kWholeSize` -/
def kWholeSize : Nat := 2 ^ 64 - 1

/-- The device settings that the calls of a pass depend on. -/
structure DeviceBase where
  identity : Nat
  minUniformBufferOffsetAlignment : Nat
  minStorageBufferOffsetAlignment : Nat
  disableBaseVertex : Bool
  disableBaseInstance : Bool
  deriving DecidableEq, Repr

/-- `ValidateObject` -/
def DeviceBase.validateObject
    (device : DeviceBase)
    (object : ApiObject) : MaybeError := do
  invalidIf (object.device ≠ device.identity)
    "%s is associated with %s, and cannot be used with %s." []
  invalidIf (object.isError = true) "%s is invalid." []

/-- `ValidateCanUseAs` -/
def validateCanUseAs
    (buffer : BufferBase)
    (usage : BufferUsage → Bool) : MaybeError :=
  invalidIf (usage buffer.usage = false)
    "%s usage (%s) doesn't include %s." []

/-- How a pass uses a buffer, for its synchronization scope. -/
inductive SyncUsage where
  | Index
  | Vertex
  | Uniform
  | Storage
  | ReadOnlyStorage
  deriving DecidableEq, Repr

/-- Membership in `kReadOnlyBufferUsages`. -/
def SyncUsage.isReadOnly (usage : SyncUsage) : Bool :=
  usage ≠ .Storage

/-- The usages of buffers, by the identity of the buffer. -/
abbrev BufferUses := List (Nat × SyncUsage)

/-- The usage that a bound buffer has. -/
def BufferBindingType.syncUsage : BufferBindingType → SyncUsage
  | .Uniform => .Uniform
  | .Storage => .Storage
  | .ReadOnlyStorage => .ReadOnlyStorage

/-- `AddBindGroup`, as far as it is about buffers. -/
def BindGroup.uses (group : BindGroup) : BufferUses :=
  (group.layout.internal.buffers.zip group.bufferBindings).map
    fun (bindingInfo, binding) =>
      (binding.buffer.identity, bindingInfo.bindingLayout.type.syncUsage)

/-- What the calls of a pass depend on of the descriptor it began with. -/
structure RenderPassDescriptor where
  attachmentState : Nat
  depthReadOnly : Bool
  stencilReadOnly : Bool
  maxDrawCount : Nat := 50000000
  deriving DecidableEq, Repr

/-- The commands that the modelled calls record. -/
inductive EncodedCommand where
  | copyBufferToBuffer
      (source : BufferBase)
      (sourceOffset : Nat)
      (destination : BufferBase)
      (destinationOffset size : Nat)
  | clearBuffer (buffer : BufferBase) (offset size : Nat)
  | writeBuffer
      (buffer : BufferBase)
      (offset : Nat)
      (data : List UInt8)
  | beginRenderPass (descriptor : RenderPassDescriptor)
  | endRenderPass
  | setRenderPipeline (pipeline : RenderPipeline)
  | setBindGroup
      (index : BindGroupIndex)
      (group : BindGroup)
      (dynamicOffsets : List Nat)
  | setIndexBuffer
      (buffer : BufferBase)
      (format : IndexFormat)
      (offset size : Nat)
  | setVertexBuffer
      (slot : VertexBufferSlot)
      (buffer : BufferBase)
      (offset size : Nat)
  | draw (vertexCount instanceCount firstVertex firstInstance : Nat)
  | drawIndexed
      (indexCount instanceCount firstIndex : Nat)
      (baseVertex : Int)
      (firstInstance : Nat)
  | insertDebugMarker (label : String)
  | pushDebugGroup (label : String)
  | popDebugGroup

/-- The calls on a pass encoder, `End` apart. -/
inductive RenderPassCall where
  | setPipeline (pipeline : RenderPipeline)
  | setBindGroup
      (groupIndex : Nat)
      (group : Option BindGroup)
      (dynamicOffsets : List Nat)
  | setIndexBuffer
      (buffer : BufferBase)
      (format : IndexFormat)
      (offset size : Nat)
  | setVertexBuffer
      (slot : Nat)
      (buffer : Option BufferBase)
      (offset size : Nat)
  | draw (vertexCount instanceCount firstVertex firstInstance : Nat)
  | drawIndexed
      (indexCount instanceCount firstIndex : Nat)
      (baseVertex : Int)
      (firstInstance : Nat)
  | insertDebugMarker (groupLabel : String)
  | pushDebugGroup (groupLabel : String)
  | popDebugGroup

/-- The context a call adds to its errors. -/
def RenderPassCall.context : RenderPassCall → String
  | .setPipeline .. => "encoding %s.SetPipeline(%s)."
  | .setBindGroup .. => "encoding %s.SetBindGroup(%u, [BindGroup], %u, ...)."
  | .setIndexBuffer .. => "encoding %s.SetIndexBuffer(%s, %s, %u, %u)."
  | .setVertexBuffer .. => "encoding %s.SetVertexBuffer(%u, %s, %u, %u)."
  | .draw .. => "encoding %s.Draw(%u, %u, %u, %u)."
  | .drawIndexed .. => "encoding %s.DrawIndexed(%u, %u, %u, %i, %u)."
  | .insertDebugMarker .. => "encoding %s.InsertDebugMarker(\"%s\")."
  | .pushDebugGroup .. => "encoding %s.PushDebugGroup(\"%s\")."
  | .popDebugGroup => "encoding %s.PopDebugGroup()."

/-- The state of a pass encoder and of the tracker of its usages. -/
structure RenderPassEncoder where
  mAttachmentState : Nat
  mDepthReadOnly : Bool
  mStencilReadOnly : Bool
  mMaxDrawCount : Nat
  mDrawCount : Nat
  mEnded : Bool
  mDebugGroupStackSize : Nat
  mCommandBufferState : CommandBufferStateTracker
  mUsageTracker : BufferUses

/-- What a call leads to: the commands it records or its error. -/
abbrev Encoded :=
  Option (Except ValidationError (List EncodedCommand) × RenderPassEncoder)

namespace RenderPassEncoder

/-- A pass that has just begun. -/
def new (descriptor : RenderPassDescriptor) : RenderPassEncoder where
  mAttachmentState := descriptor.attachmentState
  mDepthReadOnly := descriptor.depthReadOnly
  mStencilReadOnly := descriptor.stencilReadOnly
  mMaxDrawCount := descriptor.maxDrawCount
  mDrawCount := 0
  mEnded := false
  mDebugGroupStackSize := 0
  mCommandBufferState := .new
  mUsageTracker := []

/-- Record if the checks pass, leave the pass alone if they do not. -/
def encode
    {Result : Type}
    (pass : RenderPassEncoder)
    (checks : ResultOrError Result)
    (record : Result → List EncodedCommand × RenderPassEncoder) : Encoded :=
  checks.run.map fun outcome =>
    match outcome with
    | .error error => (.error error, pass)
    | .ok result => (.ok (record result).1, (record result).2)

/-! ## The checks of the calls -/

/-- The checks of `SetPipeline`. -/
def validateSetPipeline
    (pass : RenderPassEncoder)
    (device : DeviceBase)
    (pipeline : RenderPipeline) : MaybeError := do
  device.validateObject pipeline.object
  invalidIf (pipeline.attachmentState ≠ pass.mAttachmentState)
    ("Attachment state of %s is not compatible with %s.\n%s expects an " ++
      "attachment state of %s.\n%s has an attachment state of %s.") []
  invalidIf (pipeline.writesDepth = true ∧ pass.mDepthReadOnly = true)
    "%s writes depth while %s's depthReadOnly is true" []
  invalidIf (pipeline.writesStencil = true ∧ pass.mStencilReadOnly = true)
    "%s writes stencil while %s's stencilReadOnly is true" []

/-- The checks of `SetIndexBuffer`, which resolve a whole size. -/
def validateSetIndexBuffer
    (device : DeviceBase)
    (buffer : BufferBase)
    (format : IndexFormat)
    (offset size : Nat) : ResultOrError Nat := do
  device.validateObject buffer.object
  validateCanUseAs buffer BufferUsage.index
  invalidIf (format = .Undefined) "Index format must be specified" []
  let formatSize ← indexFormatSize format
  invalidIf (offset % formatSize ≠ 0)
    "Index buffer offset (%u) is not a multiple of the size (%u) of %s."
    [offset, formatSize]
  invalidIf (offset > buffer.size)
    "Index buffer offset (%u) is larger than the size (%u) of %s."
    [offset, buffer.size]
  let remainingSize := buffer.size - offset
  if size = kWholeSize then
    pure remainingSize
  else
    invalidIf (size > remainingSize)
      ("Index buffer range (offset: %u, size: %u) doesn't fit in the size " ++
        "(%u) of %s.")
      [offset, size, buffer.size]
    pure size

/-- The checks of `SetVertexBuffer` for a buffer that is not null. -/
def validateVertexBuffer
    (device : DeviceBase)
    (buffer : BufferBase)
    (offset size : Nat) : ResultOrError Nat := do
  device.validateObject buffer.object
  validateCanUseAs buffer BufferUsage.vertex
  invalidIf (offset % 4 ≠ 0)
    "Vertex buffer offset (%u) is not a multiple of 4" [offset]
  invalidIf (offset > buffer.size)
    "Vertex buffer offset (%u) is larger than the size (%u) of %s."
    [offset, buffer.size]
  let remainingSize := buffer.size - offset
  if size = kWholeSize then
    pure remainingSize
  else
    invalidIf (size > remainingSize)
      ("Vertex buffer range (offset: %u, size: %u) doesn't fit in the size " ++
        "(%u) of %s.")
      [offset, size, buffer.size]
    pure size

/-- The checks of `SetVertexBuffer`. -/
def validateSetVertexBuffer
    (device : DeviceBase)
    (slot : Nat)
    (buffer : Option BufferBase)
    (offset size : Nat) : ResultOrError (VertexBufferSlot × Nat) :=
  if inRange : slot < kMaxVertexBuffers then
    match buffer with
    | none => do
        invalidIf (offset ≠ 0) "Offset (%u) must be 0 if buffer is null"
          [offset]
        invalidIf (size ≠ 0 ∧ size ≠ kWholeSize)
          "Size (%u) must be either 0 or wgpu::kWholeSize if buffer is null"
          [size]
        pure (⟨slot, inRange⟩, size)
    | some buffer => do
        let bound ← validateVertexBuffer device buffer offset size
        pure (⟨slot, inRange⟩, bound)
  else
    validationError "Vertex buffer slot (%u) is larger the maximum (%u)"
      [slot, (kMaxVertexBuffers - 1 : Nat)]

/-- One dynamic offset, for the buffer binding of the same index. -/
def checkDynamicOffset
    (device : DeviceBase)
    (entry :
      (Nat × BindingInfo BufferBindingInfo × BufferBinding) × Nat) :
    MaybeError := do
  let ((dynamicOffset, bindingInfo, bufferBinding), i) := entry
  let requiredAlignment :=
    match bindingInfo.bindingLayout.type with
    | .Uniform => device.minUniformBufferOffsetAlignment
    | .Storage => device.minStorageBufferOffsetAlignment
    | .ReadOnlyStorage => device.minStorageBufferOffsetAlignment
  invalidIf (dynamicOffset % requiredAlignment ≠ 0)
    "Dynamic Offset[%u] (%u) is not %u byte aligned."
    [i, dynamicOffset, requiredAlignment]
  let bufferSize := bufferBinding.buffer.size
  if dynamicOffset >
      bufferSize - bufferBinding.offset - bufferBinding.size then
    invalidIf (bufferSize - bufferBinding.offset = bufferBinding.size)
      ("Dynamic Offset[%u] (%u) is out of bounds of %s with a size of %u " ++
        "and a bound range of (offset: %u, size: %u). The binding goes to " ++
        "the end of the buffer even with a dynamic offset of 0. Did you " ++
        "forget to specify the binding's size?")
      [i, dynamicOffset, bufferSize, bufferBinding.offset,
        bufferBinding.size]
    validationError
      ("Dynamic Offset[%u] (%u) is out of bounds of %s with a size of %u " ++
        "and a bound range of (offset: %u, size: %u).")
      [i, dynamicOffset, bufferSize, bufferBinding.offset,
        bufferBinding.size]

/-- The checks of `SetBindGroup`. -/
def validateSetBindGroup
    (device : DeviceBase)
    (index : Nat)
    (group : Option BindGroup)
    (dynamicOffsets : List Nat) : ResultOrError BindGroupIndex :=
  if inRange : index < kMaxBindGroups then
    match group with
    | none => do
        invalidIf (dynamicOffsets.length ≠ 0)
          "The number of dynamic offsets (%u) is not zero"
          [dynamicOffsets.length]
        pure ⟨index, inRange⟩
    | some group => do
        device.validateObject group.object
        let layout := group.layout.internal
        let dynamicBufferCount :=
          layout.buffers.countP fun bindingInfo =>
            bindingInfo.bindingLayout.hasDynamicOffset
        invalidIf (dynamicBufferCount ≠ dynamicOffsets.length)
          ("The number of dynamic offsets (%u) does not match the number " ++
            "of dynamic buffers (%u) in %s.")
          [dynamicOffsets.length, dynamicBufferCount]
        forM
          (dynamicOffsets.zip
            (layout.buffers.zip group.bufferBindings)).zipIdx
          (checkDynamicOffset device)
        pure ⟨index, inRange⟩
  else
    validationError "Bind group index (%u) exceeds the maximum (%u)."
      [index, kMaxBindGroups]

/-- The checks of `Draw` after `ValidateCanDraw`. -/
def validateDraw
    (tracker : CommandBufferStateTracker)
    (device : DeviceBase)
    (vertexCount instanceCount firstVertex firstInstance : Nat) :
    MaybeError := do
  invalidIf (device.disableBaseInstance = true ∧ firstInstance ≠ 0)
    "First instance (%u) must be zero." [firstInstance]
  tracker.validateBufferInRangeForVertexBuffer vertexCount firstVertex
  tracker.validateBufferInRangeForInstanceBuffer instanceCount firstInstance

/-- The checks of `DrawIndexed` after `ValidateCanDrawIndexed`. -/
def validateDrawIndexed
    (tracker : CommandBufferStateTracker)
    (device : DeviceBase)
    (indexCount instanceCount firstIndex : Nat)
    (baseVertex : Int)
    (firstInstance : Nat) : MaybeError := do
  invalidIf (device.disableBaseInstance = true ∧ firstInstance ≠ 0)
    "First instance (%u) must be zero." [firstInstance]
  invalidIf (device.disableBaseVertex = true ∧ baseVertex ≠ 0)
    "Base vertex (%u) must be zero." [baseVertex]
  tracker.validateIndexBufferInRange indexCount firstIndex
  tracker.validateBufferInRangeForInstanceBuffer instanceCount firstInstance

/-- A draw: the lazy validation first, whose findings are kept. -/
def encodeDraw
    (pass : RenderPassEncoder)
    (aspects : ValidationAspects)
    (checks : CommandBufferStateTracker → MaybeError)
    (command : EncodedCommand) : Encoded :=
  (pass.mCommandBufferState.validateOperation aspects).bind
    fun (verdict, tracker) =>
      let validated := { pass with mCommandBufferState := tracker }
      validated.encode
        (ExceptT.mk (some verdict) >>= fun _ => checks tracker)
        fun _ =>
          ([command],
            { validated with mDrawCount := validated.mDrawCount + 1 })

/-- The calls of `RenderEncoderBase` and `ProgrammableEncoder`. -/
def call
    (pass : RenderPassEncoder)
    (device : DeviceBase) :
    RenderPassCall → Encoded
  | .setPipeline pipeline =>
      pass.encode (pass.validateSetPipeline device pipeline) fun _ =>
        ([.setRenderPipeline pipeline],
          { pass with
            mCommandBufferState :=
              pass.mCommandBufferState.setRenderPipeline pipeline })
  | .setBindGroup groupIndex none dynamicOffsets =>
      pass.encode (validateSetBindGroup device groupIndex none dynamicOffsets)
        fun index =>
          ([],
            { pass with
              mCommandBufferState :=
                pass.mCommandBufferState.unsetBindGroup index })
  | .setBindGroup groupIndex (some group) dynamicOffsets =>
      pass.encode
        (validateSetBindGroup device groupIndex (some group) dynamicOffsets)
        fun index =>
          ([.setBindGroup index group dynamicOffsets],
            { pass with
              mCommandBufferState :=
                pass.mCommandBufferState.setBindGroup index group
                  dynamicOffsets
              mUsageTracker := pass.mUsageTracker ++ group.uses })
  | .setIndexBuffer buffer format offset size =>
      pass.encode (validateSetIndexBuffer device buffer format offset size)
        fun bound =>
          ([.setIndexBuffer buffer format offset bound],
            { pass with
              mCommandBufferState :=
                pass.mCommandBufferState.setIndexBuffer format bound
              mUsageTracker :=
                pass.mUsageTracker ++ [(buffer.identity, .Index)] })
  | .setVertexBuffer slot none offset size =>
      pass.encode (validateSetVertexBuffer device slot none offset size)
        fun (vbSlot, _) =>
          ([],
            { pass with
              mCommandBufferState :=
                pass.mCommandBufferState.unsetVertexBuffer vbSlot })
  | .setVertexBuffer slot (some buffer) offset size =>
      pass.encode
        (validateSetVertexBuffer device slot (some buffer) offset size)
        fun (vbSlot, bound) =>
          ([.setVertexBuffer vbSlot buffer offset bound],
            { pass with
              mCommandBufferState :=
                pass.mCommandBufferState.setVertexBuffer vbSlot bound
              mUsageTracker :=
                pass.mUsageTracker ++ [(buffer.identity, .Vertex)] })
  | .draw vertexCount instanceCount firstVertex firstInstance =>
      pass.encodeDraw kDrawAspects
        (fun tracker =>
          validateDraw tracker device vertexCount instanceCount firstVertex
            firstInstance)
        (.draw vertexCount instanceCount firstVertex firstInstance)
  | .drawIndexed indexCount instanceCount firstIndex baseVertex
      firstInstance =>
      pass.encodeDraw kDrawIndexedAspects
        (fun tracker =>
          validateDrawIndexed tracker device indexCount instanceCount
            firstIndex baseVertex firstInstance)
        (.drawIndexed indexCount instanceCount firstIndex baseVertex
          firstInstance)
  | .insertDebugMarker groupLabel =>
      pass.encode (pure ()) fun _ =>
        ([.insertDebugMarker groupLabel], pass)
  | .pushDebugGroup groupLabel =>
      pass.encode (pure ()) fun _ =>
        ([.pushDebugGroup groupLabel],
          { pass with
            mDebugGroupStackSize := pass.mDebugGroupStackSize + 1 })
  | .popDebugGroup =>
      pass.encode
        (invalidIf (pass.mDebugGroupStackSize = 0)
          "PopDebugGroup called when no debug groups are currently pushed."
          [])
        fun _ =>
          ([.popDebugGroup],
            { pass with
              mDebugGroupStackSize := pass.mDebugGroupStackSize - 1 })

/-- The checks of `End`. -/
def validateEnd (pass : RenderPassEncoder) : MaybeError := do
  invalidIf (pass.mDebugGroupStackSize ≠ 0)
    "PushDebugGroup called %u time(s) without a corresponding PopDebugGroup."
    [pass.mDebugGroupStackSize]
  invalidIf (pass.mDrawCount > pass.mMaxDrawCount)
    "The drawCount (%u) of %s is greater than the maxDrawCount (%u)."
    [pass.mDrawCount, pass.mMaxDrawCount]

end RenderPassEncoder

end Teck.Dawn
