import Teck.Dawn.RenderPassEncoder
import Teck.Dawn.StateTrackerCache
import Teck.Library.TraceSafety

namespace Teck.Dawn

/-!
# What the recorded commands of a pass mean

Replaying the commands of a pass gives the state that its draws execute in.
`Allows` says what a draw needs of this state: its bindings fit the pipeline,
and what it fetches lies inside the ranges bound.  That is every vertex and
every instance of a draw, and every index and every instance of an indexed
draw, whose vertices only its indices know.  The pass encoder only records a
command that the commands before it allow.
-/

/-- The bindings the commands of a pass have made so far. -/
structure PassState where
  pipeline : Option RenderPipeline
  groups : BoundGroups
  vertexBuffers : VertexBufferSlot → Option Nat
  indexBuffer : Option (IndexFormat × Nat)
  indexed : Bool
  debugGroups : Nat
  draws : Nat

namespace PassState

/-- Nothing is bound at the start of a pass. -/
def initial : PassState where
  pipeline := none
  groups := fun _ => none
  vertexBuffers := fun _ => none
  indexBuffer := none
  indexed := false
  debugGroups := 0
  draws := 0

/-- `indexed` is set by an indexed draw and cleared with its pipeline. -/
def apply (state : PassState) : EncodedCommand → PassState
  | .setRenderPipeline pipeline =>
      { state with pipeline := some pipeline, indexed := false }
  | .setBindGroup index group dynamicOffsets =>
      { state with
        groups :=
          Function.update state.groups index
            (some ⟨group, dynamicOffsets⟩) }
  | .setIndexBuffer _ format _ size =>
      { state with indexBuffer := some (format, size) }
  | .setVertexBuffer slot _ _ size =>
      { state with
        vertexBuffers :=
          Function.update state.vertexBuffers slot (some size) }
  | .draw .. => { state with draws := state.draws + 1 }
  | .drawIndexed .. =>
      { state with indexed := true, draws := state.draws + 1 }
  | .pushDebugGroup _ => { state with debugGroups := state.debugGroups + 1 }
  | .popDebugGroup => { state with debugGroups := state.debugGroups - 1 }
  | _ => state

/-- The state that the commands of a pass lead to. -/
def replay (body : List EncodedCommand) : PassState :=
  body.foldl apply initial

/-- Without commands nothing is bound. -/
@[simp] theorem replay_nil : replay [] = initial :=
  rfl

/-- The last command is applied to what the others lead to. -/
@[simp] theorem replay_concat
    (body : List EncodedCommand)
    (command : EncodedCommand) :
    replay (body ++ [command]) = (replay body).apply command := by
  simp [replay]

/-! ## What a draw needs -/

/-- The bind groups are those of the layout, and none of them alias. -/
structure BindsGroups
    (state : PassState)
    (pipeline : RenderPipeline) : Prop where
  bound :
    ∀ i requiredBGL, pipeline.layout i = some requiredBGL →
      ∃ bound, state.groups i = some bound ∧
        bound.group.layout = requiredBGL ∧
        ∀ sizes ∈
            bound.group.unverifiedBufferSizes.zip
              (pipeline.minBufferSizes i),
          sizes.2 ≤ sizes.1
  buffers :
    (pipeline.layout.collect state.groups
      BoundGroup.storageBuffers).Pairwise
      fun e0 e1 => e0.overlaps e1 = false
  textures :
    (pipeline.layout.collect state.groups
      BoundGroup.storageTextures).Pairwise
      fun e0 e1 => e0.overlaps e1 = false

/-- Every used slot has a buffer. -/
def BindsVertexBuffers
    (state : PassState)
    (pipeline : RenderPipeline) : Prop :=
  ∀ slot layout, pipeline.vertexBuffer slot = some layout →
    (state.vertexBuffers slot).isSome = true

/-- One vertex or instance of a slot lies inside the range bound. -/
def ReadsInside
    (layout : VertexBufferLayout)
    (size element : Nat) : Prop :=
  ∀ vertexAttribute ∈ layout.attributes,
    element * layout.arrayStride + vertexAttribute.offset +
        vertexAttribute.formatByteSize ≤
      size

/-- The elements below a bound are inside, in every slot of a step mode. -/
def FetchesInside
    (state : PassState)
    (pipeline : RenderPipeline)
    (stepMode : VertexStepMode)
    (stop : Nat) : Prop :=
  ∀ slot layout size element,
    pipeline.vertexBuffer slot = some layout →
      layout.stepMode = stepMode →
      state.vertexBuffers slot = some size →
      element < stop →
      ReadsInside layout size element

/-- The indices lie inside; the format is right, or was when first used. -/
def IndexesInside
    (state : PassState)
    (pipeline : RenderPipeline)
    (stop : Nat) : Prop :=
  ∃ format size formatSize,
    state.indexBuffer = some (format, size) ∧
      indexFormatSize format = pure formatSize ∧
      stop * formatSize ≤ size ∧
      (state.indexed = false →
        CommandBufferStateTracker.indexFormatMatches format pipeline = true)

/-- A command may follow those that led to this state. -/
def Allows
    (descriptor : RenderPassDescriptor)
    (state : PassState) : EncodedCommand → Prop
  | .copyBufferToBuffer .. => False
  | .clearBuffer .. => False
  | .writeBuffer .. => False
  | .beginRenderPass _ => False
  | .endRenderPass => False
  | .setRenderPipeline pipeline =>
      pipeline.attachmentState = descriptor.attachmentState ∧
        (descriptor.depthReadOnly = true → pipeline.writesDepth = false) ∧
        (descriptor.stencilReadOnly = true →
          pipeline.writesStencil = false)
  | .setIndexBuffer buffer _ offset size =>
      buffer.usage.index = true ∧ offset + size ≤ buffer.size
  | .setVertexBuffer _ buffer offset size =>
      buffer.usage.vertex = true ∧ 4 ∣ offset ∧
        offset + size ≤ buffer.size
  | .draw vertexCount instanceCount firstVertex firstInstance =>
      ∃ pipeline, state.pipeline = some pipeline ∧
        state.BindsGroups pipeline ∧
        state.BindsVertexBuffers pipeline ∧
        state.FetchesInside pipeline .Vertex (firstVertex + vertexCount) ∧
        state.FetchesInside pipeline .Instance
          (firstInstance + instanceCount)
  | .drawIndexed indexCount instanceCount firstIndex _ firstInstance =>
      ∃ pipeline, state.pipeline = some pipeline ∧
        state.BindsGroups pipeline ∧
        state.BindsVertexBuffers pipeline ∧
        state.IndexesInside pipeline (firstIndex + indexCount) ∧
        state.FetchesInside pipeline .Instance
          (firstInstance + instanceCount)
  | .popDebugGroup => 0 < state.debugGroups
  | _ => True

end PassState

open PassState

/-- Every command of a pass is allowed by the commands before it. -/
abbrev SafePass
    (descriptor : RenderPassDescriptor)
    (body : List EncodedCommand) : Prop :=
  TraceSafety.Safe
    (fun earlier command => (replay earlier).Allows descriptor command)
    body

/-! ## The tracker follows the replay -/

namespace CommandBufferStateTracker

open ResultOrError

variable {tracker next : CommandBufferStateTracker}
variable {pipeline : RenderPipeline}

/-- The running end of the attributes never shrinks and covers each. -/
theorem foldl_lastStride
    (attributes : List VertexAttribute)
    (start : Nat) :
    let last :=
      attributes.foldl
        (fun last vertexAttribute =>
          max last
            (vertexAttribute.offset + vertexAttribute.formatByteSize))
        start
    start ≤ last ∧
      ∀ vertexAttribute ∈ attributes,
        vertexAttribute.offset + vertexAttribute.formatByteSize ≤
          last := by
  induction attributes generalizing start with
  | nil =>
      simp
  | cons head rest inductionHypothesis =>
      obtain ⟨grown, covered⟩ :=
        inductionHypothesis (max start (head.offset + head.formatByteSize))
      refine ⟨Nat.le_trans (Nat.le_max_left _ _) grown, ?_⟩
      intro vertexAttribute member
      rcases List.mem_cons.mp member with rfl | later
      · exact Nat.le_trans (Nat.le_max_right _ _) grown
      · exact covered vertexAttribute later

/-- The check of a range covers every element of it. -/
theorem readsInside_of_validateBufferInRange
    {stepMode : VertexStepMode}
    {rangeText : String}
    {first count element : Nat}
    {slot : VertexBufferSlot}
    {layout : VertexBufferLayout}
    (set : tracker.mLastPipeline = some pipeline)
    (passed :
      tracker.validateBufferInRange stepMode rangeText first count =
        pure ())
    (isUsed : pipeline.vertexBuffer slot = some layout)
    (sameMode : layout.stepMode = stepMode)
    (inside : element < first + count) :
    ReadsInside layout (tracker.mVertexBufferSizes slot) element := by
  rw [validateBufferInRange, if_pos (by omega),
    getRenderPipeline_of_eq_some set, pure_bind, forM_eq_pure] at passed
  have slotPassed := passed slot (by
    simp [RenderPipeline.vertexBuffersUsedAs, isUsed, sameMode])
  intro vertexAttribute member
  have reach :
      vertexAttribute.offset + vertexAttribute.formatByteSize ≤
        layout.lastStride :=
    (foldl_lastStride layout.attributes 0).2 _ member
  simp only [validateSlotInRange, isUsed] at slotPassed
  split at slotPassed
  · rename_i noStride
    rw [invalidIf_eq_pure, VertexBufferLayout.usedBytesInStride]
      at slotPassed
    rw [noStride, Nat.mul_zero]
    omega
  · rw [invalidIf_eq_pure] at slotPassed
    have earlier :
        element * layout.arrayStride ≤
          (first + count - 1) * layout.arrayStride :=
      Nat.mul_le_mul_right _ (by omega)
    omega

/-- What a validation that passes says about the aspects it requires. -/
theorem Remembers.of_validateOperation
    {required : ValidationAspects}
    (remembers : tracker.Remembers)
    (isRequired : .pipeline ∈ required)
    (passed :
      tracker.validateOperation required = some (.ok (), next)) :
    ∃ pipeline,
      tracker.mLastPipeline = some pipeline ∧
        next = tracker.remember pipeline required ∧
        ∀ aspect ∈ required,
          RememberedHolds pipeline tracker aspect ∧
            (aspect ∉ tracker.mAspects →
              tracker.lazyAspectHolds pipeline aspect = true) := by
  cases set : tracker.mLastPipeline with
  | none =>
      rw [validateOperation_of_no_pipeline (by simp [remembers.unset set])
        isRequired] at passed
      simp at passed
  | some pipeline =>
      obtain ⟨remembered, coherent⟩ := remembers.set pipeline set
      rw [validateOperation_of_pipeline set remembered] at passed
      obtain ⟨outcome, checked, shape⟩ :=
        Option.map_eq_some_iff.mp passed
      obtain ⟨rfl, rfl⟩ := Prod.mk.inj shape
      have nothing := checkMissingAspects_eq_pure.mp checked
      refine ⟨pipeline, rfl, rfl, fun aspect isAsked => ?_⟩
      have found :
          aspect ∉ tracker.mAspects →
            tracker.lazyAspectHolds pipeline aspect = true := by
        intro unknown
        by_contra fails
        have missing :
            aspect ∈ tracker.missingAspects pipeline required :=
          Finset.mem_filter.mpr
            ⟨isAsked, unknown, Bool.not_eq_true _ ▸ fails⟩
        rw [nothing] at missing
        simp at missing
      refine ⟨?_, found⟩
      by_cases known : aspect ∈ tracker.mAspects
      · exact coherent aspect known
      · exact rememberedHolds_of_lazyAspectHolds (found known)

end CommandBufferStateTracker

end Teck.Dawn
