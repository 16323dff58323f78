import Teck.Dawn.RecordedCalls

namespace Teck.Dawn

/-!
# Calls are defined unless a pass is used after a failed `End`

A validation reads the last pipeline without looking whether there is one.
While a pass runs this is safe: what was remembered comes with a pipeline.
`End` drops the pipeline and keeps what was remembered.  If it then fails, the
pass is still the current encoder, and a draw on it may read a null pipeline.
-/

open ResultOrError

/-- What the draws of a pass rely on. -/
structure RenderPassEncoder.Ready (pass : RenderPassEncoder) : Prop where
  remembers : pass.mCommandBufferState.Remembers
  specified :
    pass.mCommandBufferState.mIndexBufferSet = true →
      pass.mCommandBufferState.mIndexFormat ≠ .Undefined

/-- The calls that look for a pipeline. -/
def RenderPassCall.IsDraw : RenderPassCall → Prop
  | .draw .. => True
  | .drawIndexed .. => True
  | _ => False

instance (call : RenderPassCall) : Decidable call.IsDraw :=
  match call with
  | .draw .. => isTrue trivial
  | .drawIndexed .. => isTrue trivial
  | .setPipeline _ => isFalse id
  | .setBindGroup .. => isFalse id
  | .setIndexBuffer .. => isFalse id
  | .setVertexBuffer .. => isFalse id
  | .insertDebugMarker _ => isFalse id
  | .pushDebugGroup _ => isFalse id
  | .popDebugGroup => isFalse id

/-! ## The checks of the calls -/

/-- Validating an object is defined. -/
theorem DeviceBase.defined_validateObject
    (device : DeviceBase)
    (object : ApiObject) :
    Defined (device.validateObject object) :=
  defined_invalidIf_bind fun _ => defined_invalidIf

/-- Validating a usage is defined. -/
theorem defined_validateCanUseAs
    (buffer : BufferBase)
    (usage : BufferUsage → Bool) :
    Defined (validateCanUseAs buffer usage) :=
  defined_invalidIf

/-- A format that is specified has a size. -/
theorem defined_indexFormatSize
    {format : IndexFormat}
    (specified : format ≠ .Undefined) :
    Defined (indexFormatSize format) := by
  cases format with
  | Undefined => contradiction
  | Uint16 => exact defined_pure 2
  | Uint32 => exact defined_pure 4

/-- The checks of a call on the encoder are defined. -/
theorem CommandEncoder.defined_topLevelCommand
    (encoder : CommandEncoder)
    (device : DeviceBase)
    (call : CommandEncoderCall) :
    Defined (encoder.topLevelCommand device call) := by
  cases call with
  | copyBufferToBuffer source sourceOffset destination destinationOffset
      size =>
      refine Defined.bind ?_ fun _ _ => defined_pure _
      refine Defined.bind (device.defined_validateObject _) fun _ _ =>
        Defined.bind (device.defined_validateObject _) fun _ _ =>
          defined_invalidIf_bind fun _ => ?_
      refine Defined.bind (defined_invalidIf.tryContext _) fun _ _ =>
        Defined.bind (defined_invalidIf.tryContext _) fun _ _ => ?_
      refine Defined.bind
        (defined_invalidIf_bind fun _ => defined_invalidIf) fun _ _ => ?_
      exact
        Defined.bind ((defined_validateCanUseAs _ _).tryContext _)
          fun _ _ => (defined_validateCanUseAs _ _).tryContext _
  | clearBuffer buffer offset size =>
      refine Defined.bind ?_ fun _ _ => defined_pure _
      refine Defined.bind (device.defined_validateObject _) fun _ _ =>
        Defined.bind (defined_invalidIf_bind fun _ => ?_) fun _ _ => ?_
      · split
        · exact defined_pure _
        · exact defined_invalidIf_bind fun _ => defined_pure _
      · exact
          Defined.bind ((defined_validateCanUseAs _ _).tryContext _)
            fun _ _ =>
              defined_invalidIf_bind fun _ =>
                defined_invalidIf_bind fun _ => defined_pure _
  | writeBuffer buffer bufferOffset data =>
      refine Defined.bind ?_ fun _ _ => defined_pure _
      exact
        Defined.bind (device.defined_validateObject _) fun _ _ =>
          defined_invalidIf_bind fun _ =>
            defined_invalidIf_bind fun _ =>
              defined_invalidIf_bind fun _ => defined_validateCanUseAs _ _
  | insertDebugMarker groupLabel => exact defined_pure _
  | pushDebugGroup groupLabel => exact defined_pure _
  | popDebugGroup => exact defined_invalidIf_bind fun _ => defined_pure _

namespace RenderPassEncoder

variable {device : DeviceBase} {pass : RenderPassEncoder}

/-- The checks of `SetPipeline` are defined. -/
theorem defined_validateSetPipeline
    (pipeline : RenderPipeline) :
    Defined (pass.validateSetPipeline device pipeline) :=
  Defined.bind (device.defined_validateObject _) fun _ _ =>
    defined_invalidIf_bind fun _ =>
      defined_invalidIf_bind fun _ => defined_invalidIf

/-- The checks of `SetIndexBuffer` are, as the format is checked first. -/
theorem defined_validateSetIndexBuffer
    (buffer : BufferBase)
    (format : IndexFormat)
    (offset size : Nat) :
    Defined (validateSetIndexBuffer device buffer format offset size) := by
  refine Defined.bind (device.defined_validateObject _) fun _ _ =>
    Defined.bind (defined_validateCanUseAs _ _) fun _ _ =>
      defined_invalidIf_bind fun specified =>
        Defined.bind (defined_indexFormatSize specified) fun _ _ =>
          defined_invalidIf_bind fun _ => defined_invalidIf_bind fun _ => ?_
  split
  · exact defined_pure _
  · exact defined_invalidIf_bind fun _ => defined_pure _

/-- The checks of a vertex buffer are defined. -/
theorem defined_validateVertexBuffer
    (buffer : BufferBase)
    (offset size : Nat) :
    Defined (validateVertexBuffer device buffer offset size) := by
  refine Defined.bind (device.defined_validateObject _) fun _ _ =>
    Defined.bind (defined_validateCanUseAs _ _) fun _ _ =>
      defined_invalidIf_bind fun _ => defined_invalidIf_bind fun _ => ?_
  split
  · exact defined_pure _
  · exact defined_invalidIf_bind fun _ => defined_pure _

/-- The checks of `SetVertexBuffer` are defined. -/
theorem defined_validateSetVertexBuffer
    (slot : Nat)
    (buffer : Option BufferBase)
    (offset size : Nat) :
    Defined (validateSetVertexBuffer device slot buffer offset size) := by
  rw [validateSetVertexBuffer]
  split
  · cases buffer with
    | none =>
        exact defined_invalidIf_bind fun _ =>
          defined_invalidIf_bind fun _ => defined_pure _
    | some buffer =>
        exact Defined.bind (defined_validateVertexBuffer _ _ _)
          fun _ _ => defined_pure _
  · exact defined_validationError _ _

/-- The check of a dynamic offset is defined. -/
theorem defined_checkDynamicOffset
    (entry :
      (Nat × BindingInfo BufferBindingInfo × BufferBinding) × Nat) :
    Defined (checkDynamicOffset device entry) := by
  refine defined_invalidIf_bind fun _ => ?_
  simp only
  split
  · exact defined_invalidIf_bind fun _ => defined_validationError _ _
  · exact defined_pure _

/-- The checks of `SetBindGroup` are defined. -/
theorem defined_validateSetBindGroup
    (index : Nat)
    (group : Option BindGroup)
    (dynamicOffsets : List Nat) :
    Defined (validateSetBindGroup device index group dynamicOffsets) := by
  rw [validateSetBindGroup]
  split
  · cases group with
    | none =>
        exact defined_invalidIf_bind fun _ => defined_pure _
    | some group =>
        exact Defined.bind (device.defined_validateObject _) fun _ _ =>
          defined_invalidIf_bind fun _ =>
            Defined.bind
              (defined_forM fun entry _ => defined_checkDynamicOffset entry)
              fun _ _ => defined_pure _
  · exact defined_validationError _ _

end RenderPassEncoder

/-! ## The checks of the draws -/

namespace CommandBufferStateTracker

variable {tracker : CommandBufferStateTracker} {pipeline : RenderPipeline}

/-- With a pipeline set, the ranges of its slots can be checked. -/
theorem defined_validateBufferInRange
    (set : tracker.mLastPipeline = some pipeline)
    (stepMode : VertexStepMode)
    (rangeText : String)
    (first count : Nat) :
    Defined
      (tracker.validateBufferInRange stepMode rangeText first count) := by
  rw [validateBufferInRange]
  split
  · rw [getRenderPipeline_of_eq_some set, pure_bind]
    refine defined_forM fun slot isUsed => ?_
    have hasLayout := (List.mem_filter.mp isUsed).2
    rw [decide_eq_true_eq, RenderPipeline.vertexBuffersUsedAs,
      Finset.mem_filter, Option.any_eq_true] at hasLayout
    obtain ⟨-, layout, found, -⟩ := hasLayout
    simp only [validateSlotInRange, found]
    split <;> exact defined_invalidIf
  · exact defined_pure _

/-- With a format set, the range of the indices can be checked. -/
theorem defined_validateIndexBufferInRange
    (specified : tracker.mIndexFormat ≠ .Undefined)
    (indexCount firstIndex : Nat) :
    Defined (tracker.validateIndexBufferInRange indexCount firstIndex) :=
  Defined.bind (defined_indexFormatSize specified) fun _ _ =>
    defined_invalidIf

end CommandBufferStateTracker

namespace RenderPassEncoder

variable {device : DeviceBase} {pass : RenderPassEncoder}
variable {call : RenderPassCall}

/-- What a call that is defined leads to. -/
def Answers
    (pass : RenderPassEncoder)
    (device : DeviceBase)
    (call : RenderPassCall) : Prop :=
  ∃ outcome next,
    pass.call device call = some (outcome, next) ∧
      (pass.Ready → next.Ready) ∧
      next.mEnded = pass.mEnded

/-- A call with defined checks fails without effect or is recorded. -/
theorem encode_of_defined
    {Result : Type}
    (pass : RenderPassEncoder)
    {checks : ResultOrError Result}
    (defined : checks.Defined)
    (record : Result → List EncodedCommand × RenderPassEncoder) :
    ∃ outcome next,
      pass.encode checks record = some (outcome, next) ∧
        (next = pass ∨
          ∃ result, checks = pure result ∧ next = (record result).2) := by
  rcases checks.cases_run with rfl | ⟨error, rfl⟩ | ⟨result, rfl⟩
  · exact absurd rfl defined
  · exact ⟨_, _, rfl, .inl rfl⟩
  · exact ⟨_, _, rfl, .inr ⟨result, rfl, rfl⟩⟩

/-- A call that is one `encode` answers if its checks are defined. -/
theorem answers_of_encode
    {Result : Type}
    {checks : ResultOrError Result}
    {record : Result → List EncodedCommand × RenderPassEncoder}
    (encodes : pass.call device call = pass.encode checks record)
    (defined : checks.Defined)
    (kept :
      ∀ result,
        checks = pure result →
          (pass.Ready → (record result).2.Ready) ∧
            (record result).2.mEnded = pass.mEnded) :
    pass.Answers device call := by
  obtain ⟨outcome, next, encoded, same | ⟨result, valid, same⟩⟩ :=
    pass.encode_of_defined defined record
  · exact ⟨outcome, next, encodes.trans encoded, same ▸ id, same ▸ rfl⟩
  · exact ⟨outcome, next, encodes.trans encoded, same ▸ kept result valid⟩

/-- A new pass is ready. -/
theorem ready_new (descriptor : RenderPassDescriptor) :
    (RenderPassEncoder.new descriptor).Ready where
  remembers := CommandBufferStateTracker.remembers_new
  specified := nofun

/-- What a validation remembers keeps the pass ready. -/
theorem Ready.remember
    {pipeline : RenderPipeline}
    (ready : pass.Ready)
    (set : pass.mCommandBufferState.mLastPipeline = some pipeline)
    (aspects : ValidationAspects) :
    { pass with
      mCommandBufferState :=
        pass.mCommandBufferState.remember pipeline aspects }.Ready where
  remembers := ready.remembers.remember set aspects
  specified := ready.specified

/-- The lazy validation answers, and past it there is a pipeline. -/
theorem answers_of_encodeDraw
    {aspects : ValidationAspects}
    {checks : CommandBufferStateTracker → MaybeError}
    {command : EncodedCommand}
    (ready : pass.Ready)
    (encodes :
      pass.call device call = pass.encodeDraw aspects checks command)
    (isRequired : .pipeline ∈ aspects)
    (defined :
      ∀ pipeline,
        pass.mCommandBufferState.mLastPipeline = some pipeline →
          (∀ aspect ∈ aspects,
            CommandBufferStateTracker.RememberedHolds pipeline
              pass.mCommandBufferState aspect) →
          (checks
            (pass.mCommandBufferState.remember pipeline aspects)).Defined) :
    pass.Answers device call := by
  rw [Answers, encodes, encodeDraw]
  cases set : pass.mCommandBufferState.mLastPipeline with
  | none =>
      have nothing := ready.remembers.unset set
      rw [CommandBufferStateTracker.validateOperation_of_no_pipeline
        (by simp [nothing]) isRequired]
      exact ⟨_, _, rfl, id, rfl⟩
  | some pipeline =>
      obtain ⟨verdict, tracker, validated, -⟩ :=
        ready.remembers.validateOperation isRequired
      have remembered := (ready.remembers.set pipeline set).1
      have shape := validated
      rw [CommandBufferStateTracker.validateOperation_of_pipeline set
        remembered] at shape
      obtain ⟨_, -, same⟩ := Option.map_eq_some_iff.mp shape
      obtain ⟨-, rfl⟩ := Prod.mk.inj same
      rw [validated, Option.bind_some]
      have checked :
          Defined
            ((ExceptT.mk (some verdict) : MaybeError) >>= fun _ =>
              checks
                (pass.mCommandBufferState.remember pipeline aspects)) := by
        refine Defined.bind (by simp [Defined, undefined, ExceptT.mk])
          fun _ accepted => ?_
        have ok : verdict = .ok () := Option.some.inj accepted
        obtain ⟨other, found, -, holds⟩ :=
          ready.remembers.of_validateOperation isRequired (ok ▸ validated)
        obtain rfl := Option.some.inj (set.symm.trans found)
        exact
          defined pipeline set fun aspect member => (holds aspect member).1
      have kept := ready.remember set aspects
      obtain ⟨outcome, next, encoded, result⟩ :=
        encode_of_defined _ checked _
      refine ⟨outcome, next, encoded, fun _ => ?_, ?_⟩
      · rcases result with rfl | ⟨_, -, rfl⟩
        · exact kept
        · exact ⟨kept.remembers, kept.specified⟩
      · rcases result with rfl | ⟨_, -, rfl⟩ <;> rfl

/-- Any call on a pass answers; a draw only if the pass is ready. -/
theorem answers
    (device : DeviceBase)
    (ready : call.IsDraw → pass.Ready) :
    pass.Answers device call := by
  cases call with
  | setPipeline pipeline =>
      refine
        answers_of_encode rfl (pass.defined_validateSetPipeline pipeline)
          fun _ _ => ⟨fun ready => ?_, rfl⟩
      exact
        ⟨CommandBufferStateTracker.Remembers.setRenderPipeline _ pipeline,
          ready.specified⟩
  | setBindGroup groupIndex group dynamicOffsets =>
      cases group with
      | none =>
          refine
            answers_of_encode rfl (defined_validateSetBindGroup _ _ _)
              fun index _ => ⟨fun ready => ?_, rfl⟩
          exact ⟨ready.remembers.unsetBindGroup index, ready.specified⟩
      | some group =>
          refine
            answers_of_encode rfl (defined_validateSetBindGroup _ _ _)
              fun index _ => ⟨fun ready => ?_, rfl⟩
          exact
            ⟨ready.remembers.setBindGroup index group dynamicOffsets,
              ready.specified⟩
  | setIndexBuffer buffer format offset size =>
      refine
        answers_of_encode rfl (defined_validateSetIndexBuffer _ _ _ _)
          fun bound valid => ⟨fun ready => ?_, rfl⟩
      exact
        ⟨ready.remembers.setIndexBuffer format bound, fun _ =>
          (PassTracks.validateSetIndexBuffer_eq_pure valid).1⟩
  | setVertexBuffer slot buffer offset size =>
      cases buffer with
      | none =>
          refine
            answers_of_encode rfl (defined_validateSetVertexBuffer _ _ _ _)
              fun bound _ => ⟨fun ready => ?_, rfl⟩
          exact
            ⟨ready.remembers.unsetVertexBuffer bound.1, ready.specified⟩
      | some buffer =>
          refine
            answers_of_encode rfl (defined_validateSetVertexBuffer _ _ _ _)
              fun bound _ => ⟨fun ready => ?_, rfl⟩
          exact
            ⟨ready.remembers.setVertexBuffer bound.1 bound.2,
              ready.specified⟩
  | draw vertexCount instanceCount firstVertex firstInstance =>
      refine
        answers_of_encodeDraw (ready trivial)
          (by rw [RenderPassEncoder.call]) (by simp [kDrawAspects])
          fun pipeline set _ => ?_
      have stillSet :
          (pass.mCommandBufferState.remember pipeline
            kDrawAspects).mLastPipeline = some pipeline :=
        set
      exact
        defined_invalidIf_bind fun _ =>
          Defined.bind
            (CommandBufferStateTracker.defined_validateBufferInRange
              stillSet _ _ _ _)
            fun _ _ =>
              CommandBufferStateTracker.defined_validateBufferInRange
                stillSet _ _ _ _
  | drawIndexed indexCount instanceCount firstIndex baseVertex
      firstInstance =>
      refine
        answers_of_encodeDraw (ready trivial)
          (by rw [RenderPassEncoder.call])
          (by simp [kDrawIndexedAspects]) fun pipeline set holds => ?_
      have stillSet :
          (pass.mCommandBufferState.remember pipeline
            kDrawIndexedAspects).mLastPipeline = some pipeline :=
        set
      have specified :
          (pass.mCommandBufferState.remember pipeline
            kDrawIndexedAspects).mIndexFormat ≠ .Undefined :=
        (ready trivial).specified
          (holds .indexBuffer (by simp [kDrawIndexedAspects]))
      exact
        defined_invalidIf_bind fun _ =>
          defined_invalidIf_bind fun _ =>
            Defined.bind
              (CommandBufferStateTracker.defined_validateIndexBufferInRange
                specified _ _)
              fun _ _ =>
                CommandBufferStateTracker.defined_validateBufferInRange
                  stillSet _ _ _ _
  | insertDebugMarker groupLabel =>
      exact
        answers_of_encode rfl (defined_pure ()) fun _ _ => ⟨id, rfl⟩
  | pushDebugGroup groupLabel =>
      exact
        answers_of_encode rfl (defined_pure ()) fun _ _ =>
          ⟨fun ready => ⟨ready.remembers, ready.specified⟩, rfl⟩
  | popDebugGroup =>
      exact
        answers_of_encode rfl defined_invalidIf fun _ _ =>
          ⟨fun ready => ⟨ready.remembers, ready.specified⟩, rfl⟩

end RenderPassEncoder

/-! ## The calls on an encoder -/

namespace CommandEncoder

variable {device : DeviceBase} {encoder next : CommandEncoder}
variable {call : EncoderCall}

/-- No draw is made on a pass that is still current although it was ended. -/
def DrawsRunning (encoder : CommandEncoder) : EncoderCall → Prop
  | .passCall handle call =>
      call.IsDraw →
        encoder.mCurrentEncoder = some (.renderPass handle) →
        ∀ pass ∈ encoder.passes[handle]?, pass.mEnded = false
  | _ => True

instance
    (encoder : CommandEncoder)
    (call : EncoderCall) :
    Decidable (encoder.DrawsRunning call) :=
  match call with
  | .topLevel _ => isTrue trivial
  | .injectValidationError _ => isTrue trivial
  | .beginRenderPass _ => isTrue trivial
  | .passCall handle call =>
      inferInstanceAs
        (Decidable
          (call.IsDraw →
            encoder.mCurrentEncoder = some (.renderPass handle) →
            ∀ pass ∈ encoder.passes[handle]?, pass.mEnded = false))
  | .endPass _ => isTrue trivial
  | .releasePass _ => isTrue trivial
  | .finish => isTrue trivial

/-- The pass that is current is ready, unless it was ended. -/
structure Sound (encoder : CommandEncoder) : Prop where
  topLevel :
    ∀ handle, encoder.mTopLevelEncoder ≠ some (.renderPass handle)
  ready :
    ∀ handle pass,
      encoder.mCurrentEncoder = some (.renderPass handle) →
        encoder.passes[handle]? = some pass →
        pass.mEnded = false →
        pass.Ready

/-- Before any call no pass is current. -/
theorem sound_new : new.Sound where
  topLevel := by simp [new]
  ready := by simp [new]

namespace Sound

/-- Handling an error changes no pass. -/
theorem handleError
    (sound : encoder.Sound)
    (error : ValidationError) :
    (encoder.handleError error).Sound where
  topLevel := by simpa using sound.topLevel
  ready := by simpa using sound.ready

/-- A step that leaves the current encoder current. -/
theorem of_passes
    (sound : encoder.Sound)
    (sameTop : next.mTopLevelEncoder = encoder.mTopLevelEncoder)
    (sameCurrent : next.mCurrentEncoder = encoder.mCurrentEncoder)
    (each :
      ∀ handle pass,
        next.passes[handle]? = some pass →
          encoder.passes[handle]? = some pass ∨
            (encoder.mCurrentEncoder = some (.renderPass handle) →
              pass.mEnded = false →
              pass.Ready)) :
    next.Sound where
  topLevel := sameTop ▸ sound.topLevel
  ready := by
    intro handle pass isCurrent there running
    rw [sameCurrent] at isCurrent
    rcases each handle pass there with unchanged | isReady
    · exact sound.ready handle pass isCurrent unchanged running
    · exact isReady isCurrent running

/-- A new pass is handed out. -/
theorem append
    {pass : RenderPassEncoder}
    (sound : encoder.Sound)
    (sameTop : next.mTopLevelEncoder = encoder.mTopLevelEncoder)
    (sameCurrent : next.mCurrentEncoder = encoder.mCurrentEncoder)
    (appended : next.passes = encoder.passes ++ [pass])
    (isReady : pass.Ready) :
    next.Sound := by
  refine sound.of_passes sameTop sameCurrent fun handle other there => ?_
  rw [appended, List.getElem?_append] at there
  split at there
  · exact .inl there
  · have member := List.mem_of_getElem? there
    rw [List.mem_singleton] at member
    exact .inr fun _ _ => member ▸ isReady

/-- A pass changes; if it is current and not ended, it is still ready. -/
theorem set
    {handle : Nat}
    {pass : RenderPassEncoder}
    (sound : encoder.Sound)
    (sameTop : next.mTopLevelEncoder = encoder.mTopLevelEncoder)
    (sameCurrent : next.mCurrentEncoder = encoder.mCurrentEncoder)
    (changed : next.passes = encoder.passes.set handle pass)
    (isReady :
      encoder.mCurrentEncoder = some (.renderPass handle) →
        pass.mEnded = false →
        pass.Ready) :
    next.Sound := by
  refine sound.of_passes sameTop sameCurrent fun other found there => ?_
  rw [changed, List.getElem?_set] at there
  split at there
  · rename_i isChanged
    subst isChanged
    split at there
    · exact .inr (Option.some.inj there ▸ isReady)
    · simp at there
  · exact .inl there

/-- A pass ends. -/
theorem set_ended
    {handle : Nat}
    {pass : RenderPassEncoder}
    (sound : encoder.Sound)
    (sameTop : next.mTopLevelEncoder = encoder.mTopLevelEncoder)
    (sameCurrent : next.mCurrentEncoder = encoder.mCurrentEncoder)
    (changed : next.passes = encoder.passes.set handle pass)
    (isEnded : pass.mEnded = true) :
    next.Sound := by
  refine sound.set sameTop sameCurrent changed fun _ running => ?_
  simp [isEnded] at running

/-- The top level encoder takes over. -/
theorem toTopLevel
    (sound : encoder.Sound)
    (sameTop : next.mTopLevelEncoder = encoder.mTopLevelEncoder)
    (isTop : next.mCurrentEncoder = encoder.mTopLevelEncoder) :
    next.Sound where
  topLevel := sameTop ▸ sound.topLevel
  ready := fun handle _ isCurrent =>
    absurd (isTop.symm.trans isCurrent) (sound.topLevel handle)

/-- A call on the encoder itself always answers. -/
theorem topLevelCall
    {call : CommandEncoderCall}
    (sound : encoder.Sound) :
    ∃ next,
      encoder.topLevelCall device call = some next ∧ next.Sound := by
  unfold CommandEncoder.topLevelCall
  split
  · exact ⟨_, rfl, sound.handleError _⟩
  · rcases (encoder.topLevelCommand device call).cases_run with
      undefinedOutcome | ⟨error, failed⟩ | ⟨command, passed⟩
    · exact
        absurd undefinedOutcome (encoder.defined_topLevelCommand device call)
    · rw [failed]
      exact ⟨_, rfl, sound.handleError _⟩
    · rw [passed]
      exact ⟨_, rfl, ⟨sound.topLevel, sound.ready⟩⟩

/-- Injecting an error changes no pass. -/
theorem injectValidationError
    (sound : encoder.Sound)
    (message : String) :
    (encoder.injectValidationError message).Sound := by
  unfold CommandEncoder.injectValidationError
  split
  · exact sound.handleError _
  · exact sound.handleError _

/-- Beginning a pass hands out one that is ready. -/
theorem beginRenderPass
    (sound : encoder.Sound)
    (descriptor : Except ValidationError RenderPassDescriptor) :
    (encoder.beginRenderPass descriptor).Sound := by
  unfold CommandEncoder.beginRenderPass
  split
  · exact
      sound.append (by simp) (by simp) rfl (RenderPassEncoder.ready_new _)
  · exact
      sound.append (by simp) (by simp) rfl (RenderPassEncoder.ready_new _)
  · refine { topLevel := sound.topLevel, ready := ?_ }
    rintro handle pass ⟨⟩ there -
    rw [List.getElem?_concat_length] at there
    exact Option.some.inj there ▸ RenderPassEncoder.ready_new _

/-- A call on a pass answers and keeps the pass ready. -/
theorem passCall
    {handle : Nat}
    {call : RenderPassCall}
    (sound : encoder.Sound)
    (running : encoder.DrawsRunning (.passCall handle call)) :
    ∃ next,
      encoder.passCall device handle call = some next ∧ next.Sound := by
  unfold CommandEncoder.passCall
  split
  · exact ⟨encoder, rfl, sound⟩
  · rename_i pass there
    split
    · exact ⟨_, rfl, sound.handleError _⟩
    · rename_i current
      have isCurrent := checkCurrentEncoder_eq_none current
      have isReady : call.IsDraw → pass.Ready := fun isDraw =>
        sound.ready handle pass isCurrent there
          (running isDraw isCurrent pass there)
      obtain ⟨outcome, next, called, kept, sameEnded⟩ :=
        RenderPassEncoder.answers device isReady
      rw [called]
      have stillReady : next.mEnded = false → next.Ready := fun running =>
        kept (sound.ready handle pass isCurrent there (sameEnded ▸ running))
      cases outcome with
      | error error =>
          exact
            ⟨_, rfl,
              sound.set (by simp) (by simp) (handleError_passes ..)
                fun _ => stillReady⟩
      | ok commands =>
          exact ⟨_, rfl, sound.set rfl rfl rfl fun _ => stillReady⟩

/-- Ending a pass leaves no pass current that was not ended. -/
theorem endPass
    (sound : encoder.Sound)
    (handle : Nat) :
    (encoder.endPass handle).Sound := by
  rw [CommandEncoder.endPass]
  split
  · exact sound
  · simp only
    split
    · exact sound.set_ended rfl rfl rfl rfl
    · split
      · exact
          sound.set_ended (by simp) (by simp) (handleError_passes ..) rfl
      · split
        · exact sound.toTopLevel rfl rfl
        · exact
            sound.set_ended (by simp) (by simp) (handleError_passes ..) rfl
        · exact sound.set_ended rfl rfl rfl rfl

/-- Dropping the current pass leaves none current. -/
theorem releasePass
    (sound : encoder.Sound)
    (handle : Nat) :
    (encoder.releasePass handle).Sound := by
  rw [CommandEncoder.releasePass]
  split
  · exact sound
  · simp only
    split
    · exact sound.toTopLevel (by simp) (by simp)
    · rename_i notCurrent
      refine sound.set rfl rfl rfl fun isCurrent _ => ?_
      refine absurd ⟨?_, isCurrent⟩ notCurrent
      rw [isCurrent]
      exact (sound.topLevel handle).symm

/-- A finished encoder has no current pass. -/
theorem of_finished
    (noTop : next.mTopLevelEncoder = none)
    (noCurrent : next.mCurrentEncoder = none) :
    next.Sound where
  topLevel := by simp [noTop]
  ready := by simp [noCurrent]

/-- Finishing leaves no pass current. -/
theorem finish
    (sound : encoder.Sound) :
    encoder.finish.Sound := by
  rw [CommandEncoder.finish]
  split
  · exact ⟨sound.topLevel, sound.ready⟩
  · simp only
    split
    · exact of_finished rfl rfl
    · exact of_finished rfl rfl

/-- A call is defined unless it draws on a pass that has ended. -/
theorem step
    (sound : encoder.Sound)
    (running : encoder.DrawsRunning call) :
    ∃ next, encoder.step? device call = some next ∧ next.Sound := by
  cases call with
  | topLevel call =>
      exact sound.topLevelCall
  | injectValidationError message =>
      exact ⟨_, rfl, sound.injectValidationError message⟩
  | beginRenderPass descriptor =>
      exact ⟨_, rfl, sound.beginRenderPass descriptor⟩
  | passCall handle call =>
      exact sound.passCall running
  | endPass handle =>
      exact ⟨_, rfl, sound.endPass handle⟩
  | releasePass handle =>
      exact ⟨_, rfl, sound.releasePass handle⟩
  | finish =>
      exact ⟨_, rfl, sound.finish⟩

end Sound

/--
Calls in any order, however many of them fail, are all defined as long as no
draw is made on a pass whose `End` has failed.
-/
theorem defined_of_drawsRunning
    {calls : List EncoderCall}
    (running : Runs.Meets (step? device) DrawsRunning new calls) :
    ∃ final, Runs.run? (step? device) new calls = some final := by
  obtain ⟨final, reached, -⟩ :=
    Runs.exists_run_of_meets
      (fun sound met => Sound.step sound met) sound_new running
  exact ⟨final, reached⟩

/-- A frame that opens a debug group, so that `End` fails. -/
def failedEnd : List EncoderCall :=
  stripFrame.dropLast ++
    [.passCall 0 (.pushDebugGroup "points"), .endPass 0]

/-- After the failed `End` other calls are made, among them an invalid one. -/
theorem defined_of_drawsRunning_failedEnd :
    ∃ final,
      Runs.run? (step? ⟨0, 256, 256, false, false⟩) new
          (failedEnd ++
            [ .passCall 0 .popDebugGroup,
              .passCall 0 (.setVertexBuffer 8 none 0 0), .finish ]) =
        some final :=
  defined_of_drawsRunning (by decide +kernel)

/-- The tracker still remembers every aspect, but not the pipeline. -/
example :
    (Runs.run? (step? ⟨0, 256, 256, false, false⟩) new
      (failedEnd ++ [.passCall 0 (.draw 4 1 0 0)])).isNone = true := by
  decide +kernel

end CommandEncoder

end Teck.Dawn
