import Teck.Dawn.EncodingErrors

namespace Teck.Dawn

/-!
# A finished command buffer loses no call

An error is kept until `Finish`, so a command buffer is returned only if no
call before has failed.  It then consists of the commands of these calls in the
order they were made.
-/

open ResultOrError

/-- The size a binding covers. -/
def boundSize (buffer : BufferBase) (offset size : Nat) : Nat :=
  if size = kWholeSize then buffer.size - offset else size

/-- What a call on the encoder is recorded as, if it is. -/
def CommandEncoderCall.command : CommandEncoderCall → EncodedCommand
  | .copyBufferToBuffer source sourceOffset destination destinationOffset
      size =>
      .copyBufferToBuffer source sourceOffset destination destinationOffset
        size
  | .clearBuffer buffer offset size =>
      .clearBuffer buffer offset (boundSize buffer offset size)
  | .writeBuffer buffer bufferOffset data =>
      .writeBuffer buffer bufferOffset data
  | .insertDebugMarker groupLabel => .insertDebugMarker groupLabel
  | .pushDebugGroup groupLabel => .pushDebugGroup groupLabel
  | .popDebugGroup => .popDebugGroup

/-- What a call on a pass is recorded as, if it is. -/
def RenderPassCall.commands : RenderPassCall → List EncodedCommand
  | .setPipeline pipeline => [.setRenderPipeline pipeline]
  | .setBindGroup groupIndex group dynamicOffsets =>
      match group with
      | none => []
      | some group =>
          if inRange : groupIndex < kMaxBindGroups then
            [.setBindGroup ⟨groupIndex, inRange⟩ group dynamicOffsets]
          else
            []
  | .setIndexBuffer buffer format offset size =>
      [.setIndexBuffer buffer format offset (boundSize buffer offset size)]
  | .setVertexBuffer slot buffer offset size =>
      match buffer with
      | none => []
      | some buffer =>
          if inRange : slot < kMaxVertexBuffers then
            [.setVertexBuffer ⟨slot, inRange⟩ buffer offset
              (boundSize buffer offset size)]
          else
            []
  | .draw vertexCount instanceCount firstVertex firstInstance =>
      [.draw vertexCount instanceCount firstVertex firstInstance]
  | .drawIndexed indexCount instanceCount firstIndex baseVertex
      firstInstance =>
      [.drawIndexed indexCount instanceCount firstIndex baseVertex
        firstInstance]
  | .insertDebugMarker groupLabel => [.insertDebugMarker groupLabel]
  | .pushDebugGroup groupLabel => [.pushDebugGroup groupLabel]
  | .popDebugGroup => [.popDebugGroup]

/-- What calls are recorded as; a pass that was ended is not ended again. -/
def recordedCalls :
    List Nat → List EncoderCall → List EncodedCommand
  | _, [] => []
  | ended, .topLevel call :: rest =>
      call.command :: recordedCalls ended rest
  | ended, .beginRenderPass (.ok descriptor) :: rest =>
      .beginRenderPass descriptor :: recordedCalls ended rest
  | ended, .passCall _ call :: rest =>
      call.commands ++ recordedCalls ended rest
  | ended, .endPass handle :: rest =>
      if handle ∈ ended then
        recordedCalls ended rest
      else
        .endRenderPass :: recordedCalls (handle :: ended) rest
  | ended, _ :: rest => recordedCalls ended rest

namespace PassTracks

variable {device : DeviceBase} {pass next : RenderPassEncoder}
variable {commands : List EncodedCommand}

/-- A size that a check lets pass is the one that is bound. -/
theorem eq_boundSize
    {buffer : BufferBase}
    {offset size bound : Nat}
    {fits : MaybeError}
    (valid :
      (if size = kWholeSize then
          pure (buffer.size - offset)
        else do
          fits
          pure size : ResultOrError Nat) =
        pure bound) :
    bound = boundSize buffer offset size := by
  rw [boundSize]
  split at valid
  · rename_i whole
    rw [if_pos whole]
    exact (pure_inj.mp valid).symm
  · rename_i part
    obtain ⟨_, -, same⟩ := bind_eq_pure.mp valid
    rw [if_neg part]
    exact (pure_inj.mp same).symm

/-- The size `SetIndexBuffer` binds. -/
theorem validateSetIndexBuffer_size
    {buffer : BufferBase}
    {format : IndexFormat}
    {offset size bound : Nat}
    (valid :
      RenderPassEncoder.validateSetIndexBuffer device buffer format offset
          size =
        pure bound) :
    bound = boundSize buffer offset size := by
  rw [RenderPassEncoder.validateSetIndexBuffer] at valid
  obtain ⟨_, -, rest⟩ := bind_eq_pure.mp valid
  obtain ⟨_, -, rest⟩ := bind_eq_pure.mp rest
  obtain ⟨-, rest⟩ := invalidIf_bind_eq_pure.mp rest
  obtain ⟨_, -, rest⟩ := bind_eq_pure.mp rest
  obtain ⟨-, rest⟩ := invalidIf_bind_eq_pure.mp rest
  obtain ⟨-, rest⟩ := invalidIf_bind_eq_pure.mp rest
  exact eq_boundSize rest

/-- The size `SetVertexBuffer` binds. -/
theorem validateVertexBuffer_size
    {buffer : BufferBase}
    {offset size bound : Nat}
    (valid :
      RenderPassEncoder.validateVertexBuffer device buffer offset size =
        pure bound) :
    bound = boundSize buffer offset size := by
  rw [RenderPassEncoder.validateVertexBuffer] at valid
  obtain ⟨_, -, rest⟩ := bind_eq_pure.mp valid
  obtain ⟨_, -, rest⟩ := bind_eq_pure.mp rest
  obtain ⟨-, rest⟩ := invalidIf_bind_eq_pure.mp rest
  obtain ⟨-, rest⟩ := invalidIf_bind_eq_pure.mp rest
  exact eq_boundSize rest

/-- A call that succeeds records its command. -/
theorem commands_of_call
    {call : RenderPassCall}
    (encoded : pass.call device call = some (.ok commands, next)) :
    commands = call.commands := by
  cases call with
  | setPipeline pipeline =>
      rw [RenderPassEncoder.call] at encoded
      obtain ⟨_, -, rfl, -⟩ := encode_eq_ok encoded
      rfl
  | setBindGroup groupIndex group dynamicOffsets =>
      cases group with
      | none =>
          rw [RenderPassEncoder.call] at encoded
          obtain ⟨_, -, rfl, -⟩ := encode_eq_ok encoded
          rfl
      | some group =>
          rw [RenderPassEncoder.call] at encoded
          obtain ⟨index, valid, rfl, -⟩ := encode_eq_ok encoded
          rw [RenderPassEncoder.validateSetBindGroup] at valid
          rw [RenderPassCall.commands]
          split at valid
          · rename_i inRange
            obtain ⟨_, -, rest⟩ := bind_eq_pure.mp valid
            obtain ⟨-, rest⟩ := invalidIf_bind_eq_pure.mp rest
            obtain ⟨_, -, same⟩ := bind_eq_pure.mp rest
            simp [inRange, pure_inj.mp same]
          · simp at valid
  | setIndexBuffer buffer format offset size =>
      rw [RenderPassEncoder.call] at encoded
      obtain ⟨bound, valid, rfl, -⟩ := encode_eq_ok encoded
      rw [validateSetIndexBuffer_size valid]
      rfl
  | setVertexBuffer slot buffer offset size =>
      cases buffer with
      | none =>
          rw [RenderPassEncoder.call] at encoded
          obtain ⟨_, -, rfl, -⟩ := encode_eq_ok encoded
          rfl
      | some buffer =>
          rw [RenderPassEncoder.call] at encoded
          obtain ⟨bound, valid, rfl, -⟩ := encode_eq_ok encoded
          rw [RenderPassEncoder.validateSetVertexBuffer] at valid
          rw [RenderPassCall.commands]
          split at valid
          · rename_i inRange
            obtain ⟨size, valid, same⟩ := bind_eq_pure.mp valid
            simp [inRange, ← pure_inj.mp same,
              validateVertexBuffer_size valid]
          · simp at valid
  | draw vertexCount instanceCount firstVertex firstInstance =>
      rw [RenderPassEncoder.call] at encoded
      obtain ⟨_, -, -, rfl, -⟩ := encodeDraw_eq_ok encoded
      rfl
  | drawIndexed indexCount instanceCount firstIndex baseVertex
      firstInstance =>
      rw [RenderPassEncoder.call] at encoded
      obtain ⟨_, -, -, rfl, -⟩ := encodeDraw_eq_ok encoded
      rfl
  | insertDebugMarker groupLabel =>
      rw [RenderPassEncoder.call] at encoded
      obtain ⟨_, -, rfl, -⟩ := encode_eq_ok encoded
      rfl
  | pushDebugGroup groupLabel =>
      rw [RenderPassEncoder.call] at encoded
      obtain ⟨_, -, rfl, -⟩ := encode_eq_ok encoded
      rfl
  | popDebugGroup =>
      rw [RenderPassEncoder.call] at encoded
      obtain ⟨_, -, rfl, -⟩ := encode_eq_ok encoded
      rfl

end PassTracks

namespace CommandEncoder

variable {device : DeviceBase} {encoder next final : CommandEncoder}
variable {ended : List Nat} {commands : List EncodedCommand}

/-- A call on the encoder that succeeds records its command. -/
theorem command_of_topLevelCommand
    {call : CommandEncoderCall}
    {command : EncodedCommand}
    (valid : encoder.topLevelCommand device call = pure command) :
    command = call.command := by
  cases call with
  | copyBufferToBuffer source sourceOffset destination destinationOffset
      size =>
      obtain ⟨_, -, same⟩ := bind_eq_pure.mp valid
      exact (pure_inj.mp same).symm
  | clearBuffer buffer offset size =>
      obtain ⟨cleared, checked, same⟩ := bind_eq_pure.mp valid
      obtain ⟨_, -, rest⟩ := bind_eq_pure.mp checked
      obtain ⟨resolved, sized, rest⟩ := bind_eq_pure.mp rest
      obtain ⟨_, -, rest⟩ := bind_eq_pure.mp rest
      obtain ⟨-, rest⟩ := invalidIf_bind_eq_pure.mp rest
      obtain ⟨-, sameSize⟩ := invalidIf_bind_eq_pure.mp rest
      obtain ⟨-, sized⟩ := invalidIf_bind_eq_pure.mp sized
      rw [← pure_inj.mp same, ← pure_inj.mp sameSize,
        PassTracks.eq_boundSize sized]
      rfl
  | writeBuffer buffer bufferOffset data =>
      obtain ⟨_, -, same⟩ := bind_eq_pure.mp valid
      exact (pure_inj.mp same).symm
  | insertDebugMarker groupLabel =>
      exact (pure_inj.mp valid).symm
  | pushDebugGroup groupLabel =>
      exact (pure_inj.mp valid).symm
  | popDebugGroup =>
      obtain ⟨-, same⟩ := invalidIf_bind_eq_pure.mp valid
      exact (pure_inj.mp same).symm

/-- A call on a pass is made on one that was handed out. -/
def HandedOut (encoder : CommandEncoder) : EncoderCall → Prop
  | .passCall handle _ => handle < encoder.passes.length
  | .endPass handle => handle < encoder.passes.length
  | .releasePass handle => handle < encoder.passes.length
  | _ => True

instance
    (encoder : CommandEncoder)
    (call : EncoderCall) :
    Decidable (encoder.HandedOut call) :=
  match call with
  | .topLevel _ => isTrue trivial
  | .injectValidationError _ => isTrue trivial
  | .beginRenderPass _ => isTrue trivial
  | .passCall handle _ => Nat.decLt handle encoder.passes.length
  | .endPass handle => Nat.decLt handle encoder.passes.length
  | .releasePass handle => Nat.decLt handle encoder.passes.length
  | .finish => isTrue trivial

/-- These passes were ended. -/
def EndedPasses (encoder : CommandEncoder) (ended : List Nat) : Prop :=
  ∀ handle,
    handle ∈ ended ↔
      ∃ pass, encoder.passes[handle]? = some pass ∧ pass.mEnded = true

/-- The passes that were ended can be listed. -/
theorem exists_endedPasses
    (encoder : CommandEncoder) :
    ∃ ended, encoder.EndedPasses ended := by
  refine
    ⟨(List.range encoder.passes.length).filter fun handle =>
      (encoder.passes[handle]?.any RenderPassEncoder.mEnded), ?_⟩
  intro handle
  rw [List.mem_filter, List.mem_range, Option.any_eq_true]
  constructor
  · rintro ⟨-, found⟩
    exact found
  · rintro ⟨pass, there, isEnded⟩
    exact
      ⟨(List.getElem?_eq_some_iff.mp there).1, pass, there, isEnded⟩

/-- A change of a pass that does not end it. -/
theorem EndedPasses.set
    {handle : Nat}
    {pass changed : RenderPassEncoder}
    (endedPasses : encoder.EndedPasses ended)
    (there : encoder.passes[handle]? = some pass)
    (same : changed.mEnded = pass.mEnded) :
    { encoder with
      passes := encoder.passes.set handle changed }.EndedPasses ended := by
  intro other
  rw [endedPasses other]
  by_cases isChanged : handle = other
  · subst isChanged
    obtain ⟨inside, isPass⟩ := List.getElem?_eq_some_iff.mp there
    simp [inside, isPass, same]
  · simp [List.getElem?_set_ne isChanged]

/-- A change of a pass that ends it. -/
theorem EndedPasses.set_ended
    {handle : Nat}
    {pass changed : RenderPassEncoder}
    (endedPasses : encoder.EndedPasses ended)
    (there : encoder.passes[handle]? = some pass)
    (nowEnded : changed.mEnded = true) :
    { encoder with
      passes := encoder.passes.set handle changed }.EndedPasses
        (handle :: ended) := by
  intro other
  rw [List.mem_cons, endedPasses other]
  by_cases isChanged : handle = other
  · subst isChanged
    have inside := (List.getElem?_eq_some_iff.mp there).1
    simp [inside, nowEnded]
  · simp [List.getElem?_set_ne isChanged, Ne.symm isChanged]

/-- One call, unless it led to an error, extends what was recorded. -/
structure Extends
    (encoder next : CommandEncoder)
    (ended later : List Nat)
    (commands : List EncodedCommand) : Prop where
  noError : encoder.mError = none
  recorded : next.recorded = encoder.recorded ++ commands
  ended : encoder.EndedPasses ended → next.EndedPasses later

section Step

variable
  (unfinished : encoder.mTopLevelEncoder = some .commandEncoder)
include unfinished

/-- An error that is handled is kept. -/
theorem handleError_ne_none
    {changed : CommandEncoder}
    (sameTop : changed.mTopLevelEncoder = encoder.mTopLevelEncoder)
    (error : ValidationError) :
    (changed.handleError error).mError ≠ none :=
  (handleError_fields changed error).2.2
    (sameTop.trans unfinished)

/-- A call on the encoder records its command. -/
theorem extends_topLevelCall
    {call : CommandEncoderCall}
    (stepped : encoder.topLevelCall device call = some next)
    (noError : next.mError = none) :
    encoder.Extends next ended ended [call.command] := by
  rw [CommandEncoder.topLevelCall] at stepped
  split at stepped
  · obtain rfl := Option.some.inj stepped
    exact absurd noError (handleError_ne_none unfinished (by rfl) _)
  · obtain ⟨outcome, called, result⟩ := Option.map_eq_some_iff.mp stepped
    subst result
    cases outcome with
    | error error =>
        exact absurd noError (handleError_ne_none unfinished (by rfl) _)
    | ok command =>
        rw [← command_of_topLevelCommand called]
        exact
          { noError := noError
            recorded := by simp [recorded]
            ended := id }

/-- An injected error leaves an error. -/
theorem injectValidationError_ne_none
    (message : String) :
    (encoder.injectValidationError message).mError ≠ none := by
  unfold injectValidationError
  split
  · exact handleError_ne_none unfinished (by rfl) _
  · exact handleError_ne_none unfinished (by rfl) _

/-- Beginning a pass records its begin. -/
theorem extends_beginRenderPass
    {descriptor : Except ValidationError RenderPassDescriptor}
    (noError : (encoder.beginRenderPass descriptor).mError = none) :
    ∃ valid,
      descriptor = .ok valid ∧
        encoder.Extends (encoder.beginRenderPass descriptor) ended ended
          [.beginRenderPass valid] := by
  unfold CommandEncoder.beginRenderPass at noError ⊢
  split at noError
  · exact absurd noError (handleError_ne_none unfinished (by rfl) _)
  · exact absurd noError (handleError_ne_none unfinished (by rfl) _)
  · rename_i valid current
    refine ⟨valid, rfl, noError, ?_, ?_⟩
    · rw [recorded, flatten_mAllocators_commitCommands]
    · intro endedPasses handle
      rw [endedPasses handle]
      constructor
      · rintro ⟨pass, there, isEnded⟩
        have inside := (List.getElem?_eq_some_iff.mp there).1
        exact
          ⟨pass, by simpa [List.getElem?_append_left inside], isEnded⟩
      · rintro ⟨pass, there, isEnded⟩
        rw [List.getElem?_append] at there
        split at there
        · exact ⟨pass, there, isEnded⟩
        · have member := List.mem_of_getElem? there
          rw [List.mem_singleton] at member
          simp [member, RenderPassEncoder.new] at isEnded

/-- A call on a pass records its commands. -/
theorem extends_passCall
    {handle : Nat}
    {call : RenderPassCall}
    (consistent : encoder.Consistent)
    (handedOut : handle < encoder.passes.length)
    (stepped : encoder.passCall device handle call = some next)
    (noError : next.mError = none) :
    encoder.Extends next ended ended call.commands := by
  rw [CommandEncoder.passCall] at stepped
  split at stepped
  · rename_i missing
    simp only [List.getElem?_eq_none_iff] at missing
    omega
  · rename_i pass there
    split at stepped
    · obtain rfl := Option.some.inj stepped
      exact absurd noError (handleError_ne_none unfinished (by rfl) _)
    · rename_i current
      have isCurrent := checkCurrentEncoder_eq_none current
      obtain ⟨⟨outcome, after⟩, called, result⟩ :=
        Option.map_eq_some_iff.mp stepped
      subst result
      cases outcome with
      | error error =>
          exact absurd noError (handleError_ne_none unfinished (by rfl) _)
      | ok commands =>
          obtain ⟨items, records⟩ :=
            consistent.records unfinished noError
          obtain ⟨descriptor, body, tracks, -⟩ :=
            records.openPass isCurrent there
          have stillRunning := (tracks.call called).running
          rw [← PassTracks.commands_of_call called]
          exact
            { noError := noError
              recorded := by simp [recorded]
              ended := fun endedPasses =>
                endedPasses.set there
                  (stillRunning.trans tracks.running.symm) }

/-- Ending a pass records its end, the first time. -/
theorem extends_endPass
    {handle : Nat}
    (handedOut : handle < encoder.passes.length)
    (endedPasses : encoder.EndedPasses ended)
    (noError : (encoder.endPass handle).mError = none) :
    if handle ∈ ended then
      encoder.Extends (encoder.endPass handle) ended ended []
    else
      encoder.Extends (encoder.endPass handle) ended (handle :: ended)
        [.endRenderPass] := by
  rw [CommandEncoder.endPass] at noError ⊢
  split at noError
  · rename_i missing
    simp only [List.getElem?_eq_none_iff] at missing
    omega
  · rename_i pass there
    simp only at noError ⊢
    split at noError
    · rename_i alreadyEnded
      have isEnded : handle ∈ ended :=
        (endedPasses handle).mpr ⟨pass, there, alreadyEnded⟩
      rw [if_pos isEnded, if_pos alreadyEnded]
      exact
        { noError := noError
          recorded := by simp [recorded]
          ended := fun endedPasses =>
            endedPasses.set there alreadyEnded.symm }
    · rename_i notEnded
      have isRunning : handle ∉ ended := by
        intro isEnded
        obtain ⟨other, found, otherEnded⟩ :=
          (endedPasses handle).mp isEnded
        obtain rfl := Option.some.inj (there.symm.trans found)
        exact notEnded otherEnded
      rw [if_neg isRunning, if_neg notEnded]
      split at noError
      · exact absurd noError (handleError_ne_none unfinished (by rfl) _)
      · split at noError
        · exact
            { noError := noError
              recorded := by
                simp only [recorded, exitRenderPass,
                  flatten_mAllocators_commitCommands]
                simp [commitCommands]
              ended := fun endedPasses =>
                endedPasses.set_ended there rfl }
        · exact absurd noError (handleError_ne_none unfinished (by rfl) _)
        · rename_i impossible
          exact absurd impossible pass.defined_validateEnd

/-- Dropping a pass records nothing. -/
theorem extends_releasePass
    {handle : Nat}
    (handedOut : handle < encoder.passes.length)
    (noError : (encoder.releasePass handle).mError = none) :
    encoder.Extends (encoder.releasePass handle) ended ended [] := by
  rw [CommandEncoder.releasePass] at noError ⊢
  split at noError
  · rename_i missing
    simp only [List.getElem?_eq_none_iff] at missing
    omega
  · rename_i pass there
    simp only at noError ⊢
    split at noError
    · exact absurd noError (handleError_ne_none unfinished (by rfl) _)
    · rename_i notCurrent
      rw [if_neg notCurrent]
      exact
        { noError := noError
          recorded := by simp [recorded]
          ended := fun endedPasses => endedPasses.set there rfl }

end Step

/-! ## Runs -/

/-- Without an error, each call was recorded as its commands. -/
theorem recorded_of_step
    {call : EncoderCall}
    (rest : List EncoderCall)
    (unfinished : encoder.mTopLevelEncoder = some .commandEncoder)
    (consistent : encoder.Consistent)
    (endedPasses : encoder.EndedPasses ended)
    (handedOut : encoder.HandedOut call)
    (notFinish : call ≠ .finish)
    (stepped : encoder.step? device call = some next)
    (noError : next.mError = none) :
    ∃ later commands,
      encoder.Extends next ended later commands ∧
        recordedCalls ended (call :: rest) =
          commands ++ recordedCalls later rest := by
  cases call with
  | topLevel call =>
      exact
        ⟨ended, _, extends_topLevelCall unfinished stepped noError, rfl⟩
  | injectValidationError message =>
      obtain rfl := Option.some.inj stepped
      exact
        absurd noError (injectValidationError_ne_none unfinished message)
  | beginRenderPass descriptor =>
      obtain rfl := Option.some.inj stepped
      obtain ⟨valid, rfl, extended⟩ :=
        extends_beginRenderPass unfinished noError
      exact ⟨ended, _, extended, rfl⟩
  | passCall handle call =>
      exact
        ⟨ended, _,
          extends_passCall unfinished consistent handedOut stepped noError,
          rfl⟩
  | endPass handle =>
      obtain rfl := Option.some.inj stepped
      have extended :=
        extends_endPass unfinished handedOut endedPasses noError
      by_cases isEnded : handle ∈ ended
      · rw [if_pos isEnded] at extended
        exact ⟨ended, _, extended, by simp [recordedCalls, isEnded]⟩
      · rw [if_neg isEnded] at extended
        exact
          ⟨handle :: ended, _, extended, by simp [recordedCalls, isEnded]⟩
  | releasePass handle =>
      obtain rfl := Option.some.inj stepped
      exact
        ⟨ended, _, extends_releasePass unfinished handedOut noError, rfl⟩
  | finish =>
      exact absurd rfl notFinish

/-- Where a run before `Finish` stands. -/
theorem recorded_of_run
    {calls : List EncoderCall}
    (unfinished : encoder.mTopLevelEncoder = some .commandEncoder)
    (consistent : encoder.Consistent)
    (notFinished : EncoderCall.finish ∉ calls)
    (handedOut : Runs.Meets (step? device) HandedOut encoder calls)
    (ran : Runs.run? (step? device) encoder calls = some final)
    (noError : final.mError = none) :
    encoder.mError = none ∧
      ∀ ended,
        encoder.EndedPasses ended →
          final.recorded = encoder.recorded ++ recordedCalls ended calls := by
  induction calls generalizing encoder with
  | nil =>
      obtain rfl := Option.some.inj ran
      exact ⟨noError, by simp [recordedCalls]⟩
  | cons call rest inductionHypothesis =>
      obtain ⟨next, stepped, later⟩ := Runs.run?_cons_eq_some.mp ran
      rw [List.mem_cons, not_or] at notFinished
      have notFinish : call ≠ .finish := Ne.symm notFinished.1
      have sameTop :=
        (step_frame (fun isFinish => absurd isFinish notFinish) stepped).1
      obtain ⟨nextNoError, recordedLater⟩ :=
        inductionHypothesis (sameTop.trans unfinished)
          (consistent.step stepped) notFinished.2
          (handedOut.2 next stepped) later
      have extended :=
        fun ended (endedPasses : encoder.EndedPasses ended) =>
          recorded_of_step rest unfinished consistent endedPasses
            handedOut.1 notFinish stepped nextNoError
      refine ⟨?_, ?_⟩
      · obtain ⟨ended, endedPasses⟩ := encoder.exists_endedPasses
        obtain ⟨_, _, one, -⟩ := extended ended endedPasses
        exact one.noError
      · intro ended endedPasses
        obtain ⟨ended', commands, one, calls⟩ := extended ended endedPasses
        rw [recordedLater ended' (one.ended endedPasses), one.recorded,
          calls, List.append_assoc]

/-- Before any call no pass was ended. -/
theorem endedPasses_new : new.EndedPasses [] := by
  simp [EndedPasses, new]

/-- Of two calls that fail, the first is reported. -/
example :
    (Runs.run? (step? ⟨0, 256, 256, false, false⟩) new
        [ .topLevel .popDebugGroup, .injectValidationError "later",
          .finish ]).map (fun final => final.commandBuffer) =
      some
        (some
          (.error
            ⟨⟨"PopDebugGroup called when no debug groups are currently " ++
              "pushed.", [], ["encoding %s.PopDebugGroup()."]⟩, []⟩)) := by
  rfl

end CommandEncoder

end Teck.Dawn
