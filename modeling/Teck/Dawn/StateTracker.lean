import Mathlib.Data.Finset.Erase
import Mathlib.Data.Finset.Insert
import Mathlib.Data.Fintype.Basic
import Mathlib.Data.List.FinRange
import Teck.Dawn.MaybeError
import Teck.GpuQueue
import Teck.Library.CheckedAspects
import Teck.Library.Pairs

namespace Teck.Dawn

/-!
# The state a render pass validates against

`CommandBufferStateTracker` follows the pipeline, bind groups and buffers set in
a pass.  A draw requires some aspects of this state to be valid; what was found
valid is remembered in `mAspects` until a call invalidates it.
-/

/-! ## The objects of a pass -/

/-- What `ValidateObject` reads of an object. -/
structure ApiObject where
  device : Nat
  isError : Bool
  deriving DecidableEq, Repr

/-- `wgpu::IndexFormat` -/
inductive IndexFormat where
  | Undefined
  | Uint16
  | Uint32
  deriving DecidableEq, Repr

/-- `IndexFormatSize`, not defined on `Undefined`. -/
def indexFormatSize : IndexFormat → ResultOrError Nat
  | .Uint16 => pure 2
  | .Uint32 => pure 4
  | .Undefined => undefined

/-- `wgpu::PrimitiveTopology` -/
inductive PrimitiveTopology where
  | PointList
  | LineList
  | LineStrip
  | TriangleList
  | TriangleStrip
  deriving DecidableEq, Repr

/-- `IsStripPrimitiveTopology` -/
def isStripPrimitiveTopology (topology : PrimitiveTopology) : Bool :=
  topology = .LineStrip || topology = .TriangleStrip

/-- A buffer; two pointers are equal when the identities are. -/
structure BufferBase where
  object : ApiObject
  identity : Nat
  size : Nat
  usage : BufferUsage
  deriving DecidableEq, Repr

/-- `wgpu::BufferBindingType` -/
inductive BufferBindingType where
  | Uniform
  | Storage
  | ReadOnlyStorage
  deriving DecidableEq, Repr

/-- The layout of a buffer binding. -/
structure BufferBindingInfo where
  type : BufferBindingType
  minBindingSize : Nat
  hasDynamicOffset : Bool
  deriving DecidableEq, Repr

/-- `wgpu::SamplerBindingType` -/
inductive SamplerBindingType where
  | Filtering
  | NonFiltering
  | Comparison
  deriving DecidableEq, Repr

/-- `wgpu::TextureSampleType` -/
inductive TextureSampleType where
  | Float
  | UnfilterableFloat
  | Depth
  | Sint
  | Uint
  deriving DecidableEq, Repr

/-- `wgpu::TextureViewDimension` -/
inductive TextureViewDimension where
  | e1D
  | e2D
  | e2DArray
  | Cube
  | CubeArray
  | e3D
  deriving DecidableEq, Repr

/-- A `wgpu::TextureFormat`, which is only ever compared here. -/
structure TextureFormat where
  value : Nat
  deriving DecidableEq, Repr

/-- `wgpu::StorageTextureAccess` -/
inductive StorageTextureAccess where
  | WriteOnly
  | ReadOnly
  | ReadWrite
  deriving DecidableEq, Repr

/-- The layouts of bindings that are no buffers. -/
inductive ResourceBindingInfo where
  | sampler (type : SamplerBindingType)
  | staticSampler (sampler : Nat)
  | texture
      (sampleType : TextureSampleType)
      (viewDimension : TextureViewDimension)
      (multisampled : Bool)
  | storageTexture
      (format : TextureFormat)
      (viewDimension : TextureViewDimension)
      (access : StorageTextureAccess)
  deriving DecidableEq, Repr

/-- The flags of `wgpu::ShaderStage`. -/
structure ShaderStage where
  vertex : Bool
  fragment : Bool
  compute : Bool
  deriving DecidableEq, Repr

/-- A binding: its number, the stages that see it and its layout. -/
structure BindingInfo (Layout : Type) where
  binding : Nat
  visibility : ShaderStage
  bindingLayout : Layout
  deriving DecidableEq, Repr

/--
The bindings of a layout: buffers, those with a dynamic offset first, then the
others.  External textures stand there as what they are expanded to.
-/
structure BindGroupLayoutInternal where
  buffers : List (BindingInfo BufferBindingInfo)
  others : List (BindingInfo ResourceBindingInfo)
  deriving DecidableEq, Repr

/-- A layout as it was created, for one pipeline unless the token is zero. -/
@[ext] structure BindGroupLayout where
  pipelineCompatibilityToken : Nat
  internal : BindGroupLayoutInternal
  deriving DecidableEq, Repr

/--
`IsLayoutEqual`.  Equal bindings share one internal layout, which the source
compares by its address.
-/
def BindGroupLayout.isLayoutEqual
    (layout other : BindGroupLayout) : Bool :=
  layout.pipelineCompatibilityToken = other.pipelineCompatibilityToken &&
    layout.internal = other.internal

/-- The range of a buffer that is bound. -/
structure BufferBinding where
  buffer : BufferBase
  offset : Nat
  size : Nat
  deriving DecidableEq, Repr

/-- The part of a texture that a view shows. -/
structure TextureView where
  texture : Nat
  baseMipLevel : Nat
  levelCount : Nat
  baseArrayLayer : Nat
  layerCount : Nat
  deriving DecidableEq, Repr

/--
What is bound, in the order of the layout.  Beside `others` of the layout
stand the texture views, `none` where a sampler is bound.
-/
structure BindGroup where
  object : ApiObject
  layout : BindGroupLayout
  bufferBindings : List BufferBinding
  textureViews : List (Option TextureView)
  deriving DecidableEq, Repr

/-- The bindings that `ForEachUnverifiedBufferBindingIndex` visits. -/
def BindGroup.unverifiedBindings
    (group : BindGroup) :
    List (BindingInfo BufferBindingInfo × BufferBinding) :=
  (group.layout.internal.buffers.zip group.bufferBindings).filter
    fun (bindingInfo, _) => bindingInfo.bindingLayout.minBindingSize = 0

/-- The sizes bound where the layout does not ask for a least size. -/
def BindGroup.unverifiedBufferSizes (group : BindGroup) : List Nat :=
  group.unverifiedBindings.map fun (_, bufferBinding) => bufferBinding.size

/-- The number of bind groups. -/
def kMaxBindGroups : Nat := 4

/-- The number of slots for vertex buffers. -/
def kMaxVertexBuffers : Nat := 8

/-- Indices below `kMaxBindGroups`. -/
abbrev BindGroupIndex := Fin 4

/-- Indices below `kMaxVertexBuffers`. -/
abbrev VertexBufferSlot := Fin 8

/-- The layouts a pipeline requires, `none` outside the mask. -/
abbrev PipelineLayout := BindGroupIndex → Option BindGroupLayout

/-- A vertex attribute, its format reduced to the size in bytes. -/
structure VertexAttribute where
  offset : Nat
  formatByteSize : Nat
  deriving DecidableEq, Repr

/-- `wgpu::VertexStepMode` -/
inductive VertexStepMode where
  | Vertex
  | Instance
  deriving DecidableEq, Repr

/-- How a vertex buffer is read. -/
structure VertexBufferLayout where
  arrayStride : Nat
  stepMode : VertexStepMode
  attributes : List VertexAttribute
  deriving DecidableEq, Repr

/-- The end of the attribute that reaches furthest. -/
def VertexBufferLayout.lastStride (layout : VertexBufferLayout) : Nat :=
  layout.attributes.foldl
    (fun last vertexAttribute =>
      max last (vertexAttribute.offset + vertexAttribute.formatByteSize))
    0

/-- Computed like `lastStride`, in sixteen bits that offsets cannot exceed. -/
def VertexBufferLayout.usedBytesInStride
    (layout : VertexBufferLayout) : Nat :=
  layout.lastStride

/-- What a pass reads of a pipeline.  A slot without a layout is not used. -/
structure RenderPipeline where
  object : ApiObject
  attachmentState : Nat
  writesDepth : Bool
  writesStencil : Bool
  primitiveTopology : PrimitiveTopology
  stripIndexFormat : IndexFormat
  vertexBuffer : VertexBufferSlot → Option VertexBufferLayout
  layout : PipelineLayout
  minBufferSizes : BindGroupIndex → List Nat

namespace RenderPipeline

/-- `GetVertexBuffersUsed` -/
def vertexBuffersUsed
    (pipeline : RenderPipeline) : Finset VertexBufferSlot :=
  Finset.univ.filter fun slot => (pipeline.vertexBuffer slot).isSome

/-- The slots that step by vertex, or those that step by instance. -/
def vertexBuffersUsedAs
    (pipeline : RenderPipeline)
    (stepMode : VertexStepMode) : Finset VertexBufferSlot :=
  Finset.univ.filter fun slot =>
    (pipeline.vertexBuffer slot).any fun layout =>
      layout.stepMode = stepMode

end RenderPipeline

/-! ## Storage bindings that alias -/

/-- A storage buffer binding, its offset adjusted by the dynamic offset. -/
structure BufferAliasingEntry where
  bindGroupIndex : BindGroupIndex
  bindingIndex : Nat
  buffer : BufferBase
  offset : Nat
  size : Nat
  deriving DecidableEq

/-- A writable storage texture binding. -/
structure TextureAliasingEntry where
  bindGroupIndex : BindGroupIndex
  bindingIndex : Nat
  view : TextureView
  deriving DecidableEq

/-- The two bindings that alias, of buffers or of textures. -/
inductive WritableBindingAliasing where
  | buffer (e0 e1 : BufferAliasingEntry)
  | texture (e0 e1 : TextureAliasingEntry)
  deriving DecidableEq

/-- `RangesOverlap`, for ranges that contain both of their ends. -/
def rangesOverlap (x0 x1 y0 y1 : Nat) : Bool :=
  x0 ≤ y1 && y0 ≤ x1

/-- The bindings share bytes of one buffer. -/
def BufferAliasingEntry.overlaps (e0 e1 : BufferAliasingEntry) : Bool :=
  e0.buffer.identity = e1.buffer.identity &&
    rangesOverlap e0.offset (e0.offset + e0.size - 1)
      e1.offset (e1.offset + e1.size - 1)

/-- The views share levels and layers of one texture. -/
def TextureAliasingEntry.overlaps
    (e0 e1 : TextureAliasingEntry) : Bool :=
  e0.view.texture = e1.view.texture &&
    rangesOverlap
      e0.view.baseMipLevel
      (e0.view.baseMipLevel + e0.view.levelCount - 1)
      e1.view.baseMipLevel
      (e1.view.baseMipLevel + e1.view.levelCount - 1) &&
    rangesOverlap
      e0.view.baseArrayLayer
      (e0.view.baseArrayLayer + e0.view.layerCount - 1)
      e1.view.baseArrayLayer
      (e1.view.baseArrayLayer + e1.view.layerCount - 1)

/-- A bind group that is set, with its dynamic offsets. -/
structure BoundGroup where
  group : BindGroup
  dynamicOffsets : List Nat
  deriving DecidableEq, Repr

/-- The writable storage buffers of one group, empty bindings left out. -/
def BoundGroup.storageBuffers
    (bound : BoundGroup)
    (groupIndex : BindGroupIndex) : List BufferAliasingEntry :=
  let bindings :=
    bound.group.layout.internal.buffers.zip bound.group.bufferBindings
  bindings.zipIdx.filterMap
    fun ((bindingInfo, bufferBinding), bindingIndex) =>
    if bindingInfo.bindingLayout.type ≠ .Storage ∨
        bufferBinding.size = 0 then
      none
    else
      some
        { bindGroupIndex := groupIndex
          bindingIndex := bindingIndex
          buffer := bufferBinding.buffer
          offset :=
            bufferBinding.offset +
              if bindingInfo.bindingLayout.hasDynamicOffset then
                bound.dynamicOffsets.getD bindingIndex 0
              else
                0
          size := bufferBinding.size }

/-- The writable storage textures of one group. -/
def BoundGroup.storageTextures
    (bound : BoundGroup)
    (groupIndex : BindGroupIndex) : List TextureAliasingEntry :=
  let layout := bound.group.layout.internal
  let bindings := layout.others.zip bound.group.textureViews
  bindings.zipIdx.filterMap fun ((bindingInfo, view?), index) =>
    match bindingInfo.bindingLayout, view? with
    | .storageTexture _ _ access, some view =>
        if access = .ReadOnly then
          none
        else
          some
            { bindGroupIndex := groupIndex
              bindingIndex := layout.buffers.length + index
              view := view }
    | _, _ => none

/-- The bind groups that are set, by their index. -/
abbrev BoundGroups := BindGroupIndex → Option BoundGroup

/-- What a function of groups yields over the groups a layout names. -/
def PipelineLayout.collect
    {Entry : Type*}
    (layout : PipelineLayout)
    (bindGroups : BoundGroups)
    (entries : BoundGroup → BindGroupIndex → List Entry) : List Entry :=
  (List.finRange 4).flatMap fun groupIndex =>
    match layout groupIndex, bindGroups groupIndex with
    | some _, some bound => entries bound groupIndex
    | _, _ => []

/-- `FindStorageBufferBindingAliasing`; without details, whether it finds one. -/
def findStorageBufferBindingAliasing
    (layout : PipelineLayout)
    (bindGroups : BoundGroups) : Option WritableBindingAliasing :=
  match
    Pairs.first? BufferAliasingEntry.overlaps
      (layout.collect bindGroups BoundGroup.storageBuffers) with
  | some (e0, e1) => some (.buffer e0 e1)
  | none =>
      (Pairs.first? TextureAliasingEntry.overlaps
        (layout.collect bindGroups BoundGroup.storageTextures)).map
        fun (e0, e1) => .texture e0 e1

/-- `FindFirstUndersizedBuffer` -/
def findFirstUndersizedBuffer
    (unverifiedBufferSizes pipelineMinBufferSizes : List Nat) :
    Option Nat :=
  (unverifiedBufferSizes.zip pipelineMinBufferSizes).findIdx?
    fun (bufferSize, minBufferSize) => bufferSize < minBufferSize

/-! ## The tracker -/

/-- `ValidationAspect` -/
inductive ValidationAspect where
  | pipeline
  | bindGroups
  | vertexBuffers
  | indexBuffer
  deriving DecidableEq, Repr

/-- A set of aspects. -/
abbrev ValidationAspects := Finset ValidationAspect

/-- What a draw requires. -/
def kDrawAspects : ValidationAspects :=
  {.pipeline, .bindGroups, .vertexBuffers}

/-- What an indexed draw requires. -/
def kDrawIndexedAspects : ValidationAspects :=
  {.pipeline, .bindGroups, .vertexBuffers, .indexBuffer}

/-- The aspects that are looked at when a draw needs them. -/
def kLazyAspects : ValidationAspects :=
  {.bindGroups, .vertexBuffers, .indexBuffer}

/-- The state of `CommandBufferStateTracker` that draws are judged by. -/
structure CommandBufferStateTracker where
  mAspects : ValidationAspects
  mVertexBuffersUsed : Finset VertexBufferSlot
  mVertexBufferSizes : VertexBufferSlot → Nat
  mIndexBufferSet : Bool
  mIndexFormat : IndexFormat
  mIndexBufferSize : Nat
  mBindgroups : BoundGroups
  mLastPipeline : Option RenderPipeline

namespace CommandBufferStateTracker

/-- A tracker before any call. -/
def new : CommandBufferStateTracker where
  mAspects := ∅
  mVertexBuffersUsed := ∅
  mVertexBufferSizes := fun _ => 0
  mIndexBufferSet := false
  mIndexFormat := .Undefined
  mIndexBufferSize := 0
  mBindgroups := fun _ => none
  mLastPipeline := none

/-- `GetRenderPipeline`, whose callers dereference what it returns. -/
def getRenderPipeline
    (tracker : CommandBufferStateTracker) : ResultOrError RenderPipeline :=
  match tracker.mLastPipeline with
  | some pipeline => pure pipeline
  | none => undefined

/-- `SetRenderPipeline`; lazy aspects are to be looked at again. -/
def setRenderPipeline
    (tracker : CommandBufferStateTracker)
    (pipeline : RenderPipeline) : CommandBufferStateTracker :=
  { tracker with
    mLastPipeline := some pipeline
    mAspects := insert .pipeline tracker.mAspects \ kLazyAspects }

/-- `UnsetBindGroup` -/
def unsetBindGroup
    (tracker : CommandBufferStateTracker)
    (index : BindGroupIndex) : CommandBufferStateTracker :=
  { tracker with
    mBindgroups := Function.update tracker.mBindgroups index none
    mAspects := tracker.mAspects \ {.bindGroups} }

/-- `SetBindGroup` -/
def setBindGroup
    (tracker : CommandBufferStateTracker)
    (index : BindGroupIndex)
    (bindgroup : BindGroup)
    (dynamicOffsets : List Nat) : CommandBufferStateTracker :=
  { tracker with
    mBindgroups :=
      Function.update tracker.mBindgroups index
        (some ⟨bindgroup, dynamicOffsets⟩)
    mAspects := tracker.mAspects \ {.bindGroups} }

/-- `SetIndexBuffer`, which forgets nothing. -/
def setIndexBuffer
    (tracker : CommandBufferStateTracker)
    (format : IndexFormat)
    (size : Nat) : CommandBufferStateTracker :=
  { tracker with
    mIndexBufferSet := true
    mIndexFormat := format
    mIndexBufferSize := size }

/-- `UnsetVertexBuffer` -/
def unsetVertexBuffer
    (tracker : CommandBufferStateTracker)
    (slot : VertexBufferSlot) : CommandBufferStateTracker :=
  { tracker with
    mVertexBuffersUsed := tracker.mVertexBuffersUsed.erase slot
    mVertexBufferSizes := Function.update tracker.mVertexBufferSizes slot 0
    mAspects := tracker.mAspects \ {.vertexBuffers} }

/-- `SetVertexBuffer` -/
def setVertexBuffer
    (tracker : CommandBufferStateTracker)
    (slot : VertexBufferSlot)
    (size : Nat) : CommandBufferStateTracker :=
  { tracker with
    mVertexBuffersUsed := insert slot tracker.mVertexBuffersUsed
    mVertexBufferSizes :=
      Function.update tracker.mVertexBufferSizes slot size }

/-- `End`, which leaves `mAspects` as they are. -/
def «end» (tracker : CommandBufferStateTracker) :
    CommandBufferStateTracker :=
  { tracker with
    mLastPipeline := none
    mBindgroups := fun _ => none }

/-! ### Which lazy aspects hold -/

/-- The group that is set has the layout and the sizes required. -/
def bindGroupMatches
    (required : BindGroupLayout)
    (minBufferSizes : List Nat)
    (bound : BoundGroup) : Bool :=
  required.isLayoutEqual bound.group.layout &&
    (findFirstUndersizedBuffer bound.group.unverifiedBufferSizes
      minBufferSizes).isNone

/-- Every group required matches, and no two bindings alias. -/
def bindGroupsMatch
    (bindGroups : BoundGroups)
    (pipeline : RenderPipeline) : Bool :=
  ((List.finRange 4).all fun i =>
    match pipeline.layout i, bindGroups i with
    | none, _ => true
    | some _, none => false
    | some required, some bound =>
        bindGroupMatches required (pipeline.minBufferSizes i) bound) &&
    (findStorageBufferBindingAliasing pipeline.layout bindGroups).isNone

/-- A strip needs the index format that its pipeline was made for. -/
def indexFormatMatches
    (format : IndexFormat)
    (pipeline : RenderPipeline) : Bool :=
  !isStripPrimitiveTopology pipeline.primitiveTopology ||
    format = pipeline.stripIndexFormat

/-- The conditions of `RecomputeLazyAspects`, which read the last pipeline. -/
def lazyAspectHolds
    (tracker : CommandBufferStateTracker)
    (pipeline : RenderPipeline) : ValidationAspect → Bool
  | .pipeline => true
  | .bindGroups => bindGroupsMatch tracker.mBindgroups pipeline
  | .vertexBuffers =>
      decide (pipeline.vertexBuffersUsed ⊆ tracker.mVertexBuffersUsed)
  | .indexBuffer =>
      tracker.mIndexBufferSet &&
        indexFormatMatches tracker.mIndexFormat pipeline

/-- Whether `RecomputeLazyAspects` gets as far as reading the pipeline. -/
def readsPipeline
    (tracker : CommandBufferStateTracker)
    (aspects : ValidationAspects) : Bool :=
  .bindGroups ∈ aspects || .vertexBuffers ∈ aspects ||
    (.indexBuffer ∈ aspects && tracker.mIndexBufferSet)

/-- `RecomputeLazyAspects` -/
def recomputeLazyAspects
    (tracker : CommandBufferStateTracker)
    (aspects : ValidationAspects) : Option CommandBufferStateTracker :=
  match tracker.mLastPipeline with
  | some pipeline =>
      some
        { tracker with
          mAspects :=
            CheckedAspects.recompute (tracker.lazyAspectHolds pipeline)
              aspects tracker.mAspects }
  | none =>
      if tracker.readsPipeline aspects then none else some tracker

/-! ### Errors for the aspects that do not hold -/

/-- The error for an index buffer that is missing or of a wrong format. -/
def checkMissingIndexBuffer
    (tracker : CommandBufferStateTracker) : MaybeError := do
  invalidIf (tracker.mIndexBufferSet = false)
    "Index buffer was not set." []
  let lastRenderPipeline ← tracker.getRenderPipeline
  let pipelineIndexFormat := lastRenderPipeline.stripIndexFormat
  if isStripPrimitiveTopology lastRenderPipeline.primitiveTopology then
    invalidIf (pipelineIndexFormat = .Undefined)
      ("%s has a strip primitive topology (%s) but a strip index format of " ++
        "%s, which prevents it for being used for indexed draw calls.") []
    invalidIf (tracker.mIndexFormat ≠ pipelineIndexFormat)
      "Strip index format (%s) of %s does not match index buffer format (%s)."
      []
  undefined

/-- The highest slot that is required and not set. -/
def checkMissingVertexBuffers
    (tracker : CommandBufferStateTracker) : MaybeError := do
  let lastRenderPipeline ← tracker.getRenderPipeline
  let missingVertexBuffers :=
    (List.finRange 8).filter fun slot =>
      slot ∈ lastRenderPipeline.vertexBuffersUsed ∧
        slot ∉ tracker.mVertexBuffersUsed
  match missingVertexBuffers.getLast? with
  | some firstMissing =>
      validationError "Vertex buffer slot %u required by %s was not set."
        [firstMissing.val]
  | none => undefined

/-- What the error for undersized uniform buffers adds. -/
def uniformNote (type : BufferBindingType) : String :=
  if type = .Uniform then
    " This binding is a uniform buffer binding. It is padded to a multiple " ++
      "of 16 bytes, and as a result may be larger than the associated " ++
      "data in the shader source."
  else
    ""

/-- The error for an unverified binding, found by its packed index. -/
def undersizedBuffer
    (group : BindGroup)
    (minBufferSizes : List Nat)
    (i : BindGroupIndex)
    (packedIndex : Nat) : MaybeError :=
  match group.unverifiedBindings[packedIndex]? with
  | none => undefined
  | some (bindingInfo, bufferBinding) =>
      validationError
        ("%s bound with size %u at group %u, binding %u is too small. " ++
          "The pipeline (%s) requires a buffer binding which is at least " ++
          "%u bytes." ++ uniformNote bindingInfo.bindingLayout.type)
        [bufferBinding.size, i.val, bindingInfo.binding,
          minBufferSizes.getD packedIndex 0]

/-- The error for the group at one index, if it does not match. -/
def checkBindGroup
    (bindGroups : BoundGroups)
    (pipeline : RenderPipeline)
    (i : BindGroupIndex) : MaybeError :=
  match pipeline.layout i with
  | none => pure ()
  | some requiredBGL =>
      match bindGroups i with
      | none =>
          validationError "No bind group set at group index %u." [i.val]
      | some bound => do
          let requiredToken := requiredBGL.pipelineCompatibilityToken
          let currentToken := bound.group.layout.pipelineCompatibilityToken
          invalidIf (requiredToken ≠ 0 ∧ currentToken ≠ requiredToken)
            ("The current pipeline (%s) was created with a default layout, " ++
              "and is not compatible with the %s set at group index %u " ++
              "which uses a %s that was not created by the pipeline. " ++
              "Either use the bind group layout returned by calling " ++
              "getBindGroupLayout(%u) on the pipeline when creating the " ++
              "bind group, or provide an explicit pipeline layout when " ++
              "creating the pipeline.") [i.val, i.val]
          invalidIf (requiredToken = 0 ∧ currentToken ≠ 0)
            ("%s set at group index %u uses a %s which was created as part " ++
              "of the default layout for a different pipeline than the " ++
              "current one (%s), and as a result is not compatible. Use " ++
              "an explicit bind group layout when creating bind groups " ++
              "and an explicit pipeline layout when creating pipelines to " ++
              "share bind groups between pipelines.") [i.val]
          invalidIf (requiredBGL.internal ≠ bound.group.layout.internal)
            ("Bind group layout %s of pipeline layout %s does not match " ++
              "layout %s of bind group %s set at group index %u.") [i.val]
          match
            findFirstUndersizedBuffer bound.group.unverifiedBufferSizes
              (pipeline.minBufferSizes i) with
          | none => pure ()
          | some packedIndex =>
              undersizedBuffer bound.group (pipeline.minBufferSizes i) i
                packedIndex

/-- The error for the first group that does not match, or for an aliasing. -/
def checkMissingBindGroups
    (tracker : CommandBufferStateTracker) : MaybeError := do
  let lastPipeline ← tracker.getRenderPipeline
  forM (List.finRange 4)
    (checkBindGroup tracker.mBindgroups lastPipeline)
  match
    findStorageBufferBindingAliasing lastPipeline.layout
      tracker.mBindgroups with
  | some (.buffer e0 e1) =>
      validationError
        ("Writable storage buffer binding aliasing found between %s set at " ++
          "bind group index %u, binding index %u, and %s set at bind " ++
          "group index %u, binding index %u, with overlapping ranges " ++
          "(offset: %u, size: %u) and (offset: %u, size: %u) in %s.")
        [e0.bindGroupIndex.val, e0.bindingIndex, e1.bindGroupIndex.val,
          e1.bindingIndex, e0.offset, e0.size, e1.offset, e1.size]
  | some (.texture e0 e1) =>
      validationError
        ("Writable storage texture binding aliasing found between %s set " ++
          "at bind group index %u, binding index %u, and %s set at bind " ++
          "group index %u, binding index %u, with subresources (base " ++
          "mipmap level: %u, mip level count: %u, base array layer: %u, " ++
          "array layer count: %u) and (base mipmap level: %u, mip level " ++
          "count: %u, base array layer: %u, array layer count: %u) in %s.")
        [e0.bindGroupIndex.val, e0.bindingIndex, e1.bindGroupIndex.val,
          e1.bindingIndex, e0.view.baseMipLevel, e0.view.levelCount,
          e0.view.baseArrayLayer, e0.view.layerCount, e1.view.baseMipLevel,
          e1.view.levelCount, e1.view.baseArrayLayer, e1.view.layerCount]
  | none => undefined

/-- `CheckMissingAspects` -/
def checkMissingAspects
    (tracker : CommandBufferStateTracker)
    (aspects : ValidationAspects) : MaybeError := do
  if aspects ≠ ∅ then
    invalidIf (.pipeline ∈ aspects) "No pipeline set." []
    if .indexBuffer ∈ aspects then
      tracker.checkMissingIndexBuffer
    else if .vertexBuffers ∈ aspects then
      tracker.checkMissingVertexBuffers
    else if .bindGroups ∈ aspects then
      tracker.checkMissingBindGroups
    else
      undefined

/-- `ValidateOperation`, with the tracker it leaves behind. -/
def validateOperation
    (tracker : CommandBufferStateTracker)
    (requiredAspects : ValidationAspects) :
    Option (Except ValidationError Unit × CommandBufferStateTracker) :=
  let missingAspects := requiredAspects \ tracker.mAspects
  if missingAspects = ∅ then
    some (.ok (), tracker)
  else
    match
      (tracker.checkMissingAspects
        (missingAspects \ kLazyAspects)).run with
    | none => none
    | some (.error error) => some (.error error, tracker)
    | some (.ok ()) =>
        (tracker.recomputeLazyAspects missingAspects).bind fun next =>
          (next.checkMissingAspects
            (requiredAspects \ next.mAspects)).run.map (·, next)

/-- `ValidateCanDraw` -/
def validateCanDraw (tracker : CommandBufferStateTracker) :
    Option (Except ValidationError Unit × CommandBufferStateTracker) :=
  tracker.validateOperation kDrawAspects

/-- `ValidateCanDrawIndexed` -/
def validateCanDrawIndexed (tracker : CommandBufferStateTracker) :
    Option (Except ValidationError Unit × CommandBufferStateTracker) :=
  tracker.validateOperation kDrawIndexedAspects

/-! ### Ranges of the buffers that are set -/

/-- The check of one slot, for vertices or for instances. -/
def validateSlotInRange
    (tracker : CommandBufferStateTracker)
    (pipeline : RenderPipeline)
    (rangeText : String)
    (first count : Nat)
    (usedSlot : VertexBufferSlot) : MaybeError :=
  let bufferSize := tracker.mVertexBufferSizes usedSlot
  match pipeline.vertexBuffer usedSlot with
  | none => undefined
  | some vertexBuffer =>
      if vertexBuffer.arrayStride = 0 then
        invalidIf (vertexBuffer.usedBytesInStride > bufferSize)
          ("Bound vertex buffer size (%u) at slot %u with an arrayStride " ++
            "of 0 is smaller than the required size for all attributes " ++
            "(%u)")
          [bufferSize, usedSlot.val, vertexBuffer.usedBytesInStride]
      else
        let requiredSize :=
          (first + count - 1) * vertexBuffer.arrayStride +
            vertexBuffer.lastStride
        invalidIf (requiredSize > bufferSize) rangeText
          [first, count, requiredSize, bufferSize, usedSlot.val,
            vertexBuffer.arrayStride]

/-- The slots of one step mode, unless no element at all is fetched. -/
def validateBufferInRange
    (tracker : CommandBufferStateTracker)
    (stepMode : VertexStepMode)
    (rangeText : String)
    (first count : Nat) : MaybeError := do
  if first + count ≠ 0 then
    let lastRenderPipeline ← tracker.getRenderPipeline
    forM
      ((List.finRange 8).filter fun slot =>
        slot ∈ lastRenderPipeline.vertexBuffersUsedAs stepMode)
      (tracker.validateSlotInRange lastRenderPipeline rangeText first count)

/-- `ValidateBufferInRangeForVertexBuffer` -/
def validateBufferInRangeForVertexBuffer
    (tracker : CommandBufferStateTracker)
    (vertexCount firstVertex : Nat) : MaybeError :=
  tracker.validateBufferInRange .Vertex
    ("Vertex range (first: %u, count: %u) requires a larger buffer (%u) " ++
      "than the bound buffer size (%u) of the vertex buffer at slot %u " ++
      "with stride %u.")
    firstVertex vertexCount

/-- `ValidateBufferInRangeForInstanceBuffer` -/
def validateBufferInRangeForInstanceBuffer
    (tracker : CommandBufferStateTracker)
    (instanceCount firstInstance : Nat) : MaybeError :=
  tracker.validateBufferInRange .Instance
    ("Instance range (first: %u, count: %u) requires a larger buffer (%u) " ++
      "than the bound buffer size (%u) of the vertex buffer at slot %u " ++
      "with stride %u.")
    firstInstance instanceCount

/-- `ValidateIndexBufferInRange` -/
def validateIndexBufferInRange
    (tracker : CommandBufferStateTracker)
    (indexCount firstIndex : Nat) : MaybeError := do
  let formatSize ← indexFormatSize tracker.mIndexFormat
  invalidIf
    ((firstIndex + indexCount) * formatSize > tracker.mIndexBufferSize)
    ("Index range (first: %u, count: %u, format: %s) does not fit in index " ++
      "buffer size (%u).")
    [firstIndex, indexCount, tracker.mIndexBufferSize]

end CommandBufferStateTracker

end Teck.Dawn
