import Teck.Dawn.CommandEncoder
import Teck.Dawn.PassEncoding
import Teck.Library.Runs

namespace Teck.Dawn

/-!
# What a finished command buffer contains

However the calls on a command encoder and its passes are ordered, whichever
of them fail and whichever passes are used out of turn: if `Finish` returns a
command buffer, it consists of complete passes whose every draw is allowed, and
of commands between them that touch buffers only inside their bounds.
-/

open PassState ResultOrError

/-! ## What may stand in a command buffer -/

/-- A pass as it stands in the commands: its descriptor and its body. -/
structure PassCommands where
  descriptor : RenderPassDescriptor
  body : List EncodedCommand

namespace PassCommands

/-- The commands of a pass, its begin and its end included. -/
def commands (pass : PassCommands) : List EncodedCommand :=
  .beginRenderPass pass.descriptor :: (pass.body ++ [.endRenderPass])

/-- The usages of buffers in a pass. -/
def uses (pass : PassCommands) : BufferUses :=
  pass.body.flatMap EncodedCommand.uses

/-- A pass that could be ended. -/
structure Complete (pass : PassCommands) : Prop where
  safe : SafePass pass.descriptor pass.body
  debugGroups : (replay pass.body).debugGroups = 0
  draws : (replay pass.body).draws ≤ pass.descriptor.maxDrawCount

/-- A buffer is written in a pass only if that is its one usage there. -/
def Synchronized (pass : PassCommands) : Prop :=
  ∀ use ∈ pass.uses, ∀ other ∈ pass.uses, use.1 = other.1 →
    use.2 = other.2 ∨
      (use.2.isReadOnly = true ∧ other.2.isReadOnly = true)

end PassCommands

/-- A command may stand between passes, where this many groups are open. -/
def AllowsTopLevel (groups : Nat) : EncodedCommand → Prop
  | .copyBufferToBuffer source sourceOffset destination destinationOffset
      size =>
      source.identity ≠ destination.identity ∧
        source.usage.copySrc = true ∧
        destination.usage.copyDst = true ∧
        sourceOffset + size ≤ source.size ∧
        destinationOffset + size ≤ destination.size ∧
        4 ∣ size ∧ 4 ∣ sourceOffset ∧ 4 ∣ destinationOffset
  | .clearBuffer buffer offset size =>
      buffer.usage.copyDst = true ∧ offset + size ≤ buffer.size ∧
        4 ∣ size ∧ 4 ∣ offset
  | .writeBuffer buffer offset data =>
      buffer.usage.copyDst = true ∧ offset + data.length ≤ buffer.size ∧
        4 ∣ data.length ∧ 4 ∣ offset
  | .insertDebugMarker _ => True
  | .pushDebugGroup _ => True
  | .popDebugGroup => 0 < groups
  | _ => False

/-- A part of a command buffer: a command of the encoder or a whole pass. -/
inductive RecordedItem where
  | topLevel (command : EncodedCommand)
  | renderPass (pass : PassCommands)

namespace RecordedItem

/-- The commands of a part. -/
def commands : RecordedItem → List EncodedCommand
  | .topLevel command => [command]
  | .renderPass pass => pass.commands

/-- The scope of a part, if it is a pass. -/
def uses? : RecordedItem → Option BufferUses
  | .topLevel _ => none
  | .renderPass pass => some pass.uses

/-- The debug groups of the encoder that are open after a part. -/
def groupsAfter (groups : Nat) : RecordedItem → Nat
  | .topLevel command => Dawn.groupsAfter groups command
  | .renderPass _ => groups

/-- The debug groups of the encoder that these parts leave open. -/
def openGroups (items : List RecordedItem) : Nat :=
  items.foldl groupsAfter 0

/-- A part may follow those before it. -/
def Admissible (earlier : List RecordedItem) : RecordedItem → Prop
  | .topLevel command => AllowsTopLevel (openGroups earlier) command
  | .renderPass pass => pass.Complete

/-- One more part opens or closes at most one group. -/
@[simp] theorem openGroups_concat
    (items : List RecordedItem)
    (item : RecordedItem) :
    openGroups (items ++ [item]) = groupsAfter (openGroups items) item := by
  simp [openGroups]

end RecordedItem

/--
Complete passes and commands of the encoder, each allowed by what stands before
it; every debug group is closed, and no pass both writes a buffer and uses it
in another way.
-/
def WellFormedCommands (commands : List EncodedCommand) : Prop :=
  ∃ items : List RecordedItem,
    commands = items.flatMap RecordedItem.commands ∧
      TraceSafety.Safe RecordedItem.Admissible items ∧
      RecordedItem.openGroups items = 0 ∧
      ∀ pass, .renderPass pass ∈ items → pass.Synchronized

/-- A scope that validates is synchronized. -/
theorem PassCommands.synchronized_of_validate
    {pass : PassCommands}
    (valid : validateSyncScopeResourceUsage pass.uses = pure ()) :
    pass.Synchronized := by
  intro use used other otherUsed sameBuffer
  have each := forM_eq_pure.mp valid use used
  rw [invalidIf_eq_pure, not_not] at each
  have usages :
      ∀ entry ∈ pass.uses, entry.1 = use.1 →
        entry.2 ∈
          (pass.uses.filter fun entry => entry.1 = use.1).map
            Prod.snd := by
    intro entry member same
    exact List.mem_map_of_mem (List.mem_filter.mpr ⟨member, by simpa⟩)
  have first := usages use used rfl
  have second := usages other otherUsed sameBuffer.symm
  rcases each with readOnly | single
  · exact .inr ⟨readOnly _ first, readOnly _ second⟩
  · exact .inl (single _ first _ second)

/-- A pass that passes the checks of `End` is complete. -/
theorem PassTracks.validateEnd_eq_pure
    {descriptor : RenderPassDescriptor}
    {pass : RenderPassEncoder}
    {body : List EncodedCommand}
    (tracks : PassTracks descriptor pass body)
    (valid : pass.validateEnd = pure ()) :
    PassCommands.Complete ⟨descriptor, body⟩ := by
  obtain ⟨closed, few⟩ := invalidIf_bind_eq_pure.mp valid
  have enough := invalidIf_eq_pure.mp few
  rw [tracks.debugGroups] at closed
  rw [tracks.draws, tracks.maxDrawCount] at enough
  exact
    { safe := tracks.safe
      debugGroups := not_not.mp closed
      draws := Nat.le_of_not_lt enough }

/-- The checks of `End` are defined. -/
theorem RenderPassEncoder.defined_validateEnd
    (pass : RenderPassEncoder) :
    Defined pass.validateEnd :=
  defined_invalidIf_bind fun _ => defined_invalidIf

/-! ## The checks of the calls on the encoder -/

/-- A copy that fits leaves no byte outside of the buffer. -/
theorem validateCopySizeFitsInBuffer_eq_pure
    {buffer : BufferBase}
    {offset size : Nat}
    (valid : validateCopySizeFitsInBuffer buffer offset size = pure ()) :
    offset + size ≤ buffer.size := by
  have fits := not_not.mp (invalidIf_eq_pure.mp valid)
  omega

/-- The usage that is asked for is there. -/
theorem validateCanUseAs_eq_pure
    {buffer : BufferBase}
    {usage : BufferUsage → Bool}
    (valid : validateCanUseAs buffer usage = pure ()) :
    usage buffer.usage = true := by
  simpa using invalidIf_eq_pure.mp valid

/-- A copy that passes its checks is allowed. -/
theorem validateCopyBufferToBuffer_eq_pure
    {device : DeviceBase}
    {source destination : BufferBase}
    {sourceOffset destinationOffset size : Nat}
    (groups : Nat)
    (valid :
      validateCopyBufferToBuffer device source sourceOffset destination
          destinationOffset size =
        pure ()) :
    AllowsTopLevel groups
      (.copyBufferToBuffer source sourceOffset destination
        destinationOffset size) := by
  obtain ⟨_, -, rest⟩ := bind_eq_pure.mp valid
  obtain ⟨_, -, rest⟩ := bind_eq_pure.mp rest
  obtain ⟨different, rest⟩ := invalidIf_bind_eq_pure.mp rest
  obtain ⟨_, sourceFits, rest⟩ := bind_eq_pure.mp rest
  obtain ⟨_, destinationFits, rest⟩ := bind_eq_pure.mp rest
  obtain ⟨_, aligned, rest⟩ := bind_eq_pure.mp rest
  obtain ⟨_, sourceUsage, destinationUsage⟩ := bind_eq_pure.mp rest
  obtain ⟨sizeAligned, offsets⟩ := invalidIf_bind_eq_pure.mp aligned
  have offsetsAligned := invalidIf_eq_pure.mp offsets
  exact
    ⟨different,
      validateCanUseAs_eq_pure (tryContext_eq_pure.mp sourceUsage),
      validateCanUseAs_eq_pure (tryContext_eq_pure.mp destinationUsage),
      validateCopySizeFitsInBuffer_eq_pure
        (tryContext_eq_pure.mp sourceFits),
      validateCopySizeFitsInBuffer_eq_pure
        (tryContext_eq_pure.mp destinationFits),
      by omega, by omega, by omega⟩

/-- A clear that passes its checks is allowed. -/
theorem validateClearBuffer_eq_pure
    {device : DeviceBase}
    {buffer : BufferBase}
    {offset size cleared : Nat}
    (groups : Nat)
    (valid : validateClearBuffer device buffer offset size = pure cleared) :
    AllowsTopLevel groups (.clearBuffer buffer offset cleared) := by
  obtain ⟨_, -, rest⟩ := bind_eq_pure.mp valid
  obtain ⟨resolved, sized, rest⟩ := bind_eq_pure.mp rest
  obtain ⟨_, usage, rest⟩ := bind_eq_pure.mp rest
  obtain ⟨sizeAligned, rest⟩ := invalidIf_bind_eq_pure.mp rest
  obtain ⟨offsetAligned, same⟩ := invalidIf_bind_eq_pure.mp rest
  obtain rfl := pure_inj.mp same
  obtain ⟨inside, sized⟩ := invalidIf_bind_eq_pure.mp sized
  have fits : offset + resolved ≤ buffer.size := by
    split at sized
    · rw [pure_inj] at sized
      omega
    · obtain ⟨enough, same⟩ := invalidIf_bind_eq_pure.mp sized
      rw [pure_inj] at same
      omega
  exact
    ⟨validateCanUseAs_eq_pure (tryContext_eq_pure.mp usage), fits,
      by omega, by omega⟩

/-- A write that passes its checks is allowed. -/
theorem validateWriteBuffer_eq_pure
    {device : DeviceBase}
    {buffer : BufferBase}
    {bufferOffset : Nat}
    {data : List UInt8}
    (groups : Nat)
    (valid :
      validateWriteBuffer device buffer bufferOffset data.length =
        pure ()) :
    AllowsTopLevel groups (.writeBuffer buffer bufferOffset data) := by
  obtain ⟨_, -, rest⟩ := bind_eq_pure.mp valid
  obtain ⟨offsetAligned, rest⟩ := invalidIf_bind_eq_pure.mp rest
  obtain ⟨sizeAligned, rest⟩ := invalidIf_bind_eq_pure.mp rest
  obtain ⟨fits, usage⟩ := invalidIf_bind_eq_pure.mp rest
  refine ⟨validateCanUseAs_eq_pure usage, ?_, ?_, ?_⟩ <;> omega

namespace CommandEncoder

variable {device : DeviceBase} {encoder next : CommandEncoder}

/-- A call that passes its checks records an allowed command. -/
theorem allowsTopLevel_of_topLevelCommand
    {call : CommandEncoderCall}
    {command : EncodedCommand}
    (valid : encoder.topLevelCommand device call = pure command) :
    AllowsTopLevel encoder.mDebugGroupStackSize command := by
  cases call with
  | copyBufferToBuffer source sourceOffset destination destinationOffset
      size =>
      obtain ⟨_, checked, same⟩ := bind_eq_pure.mp valid
      exact pure_inj.mp same ▸ validateCopyBufferToBuffer_eq_pure _ checked
  | clearBuffer buffer offset size =>
      obtain ⟨_, checked, same⟩ := bind_eq_pure.mp valid
      exact pure_inj.mp same ▸ validateClearBuffer_eq_pure _ checked
  | writeBuffer buffer bufferOffset data =>
      obtain ⟨_, checked, same⟩ := bind_eq_pure.mp valid
      exact pure_inj.mp same ▸ validateWriteBuffer_eq_pure _ checked
  | insertDebugMarker groupLabel =>
      exact pure_inj.mp valid ▸ trivial
  | pushDebugGroup groupLabel =>
      exact pure_inj.mp valid ▸ trivial
  | popDebugGroup =>
      obtain ⟨someOpen, same⟩ := invalidIf_bind_eq_pure.mp valid
      exact pure_inj.mp same ▸ Nat.pos_of_ne_zero someOpen

/-! ## The state of a recording -/

/-- What was recorded so far, committed or pending. -/
def recorded (encoder : CommandEncoder) : List EncodedCommand :=
  encoder.mAllocators.flatten ++ encoder.mPendingCommands

/-- Committing moves the pending commands, and loses none. -/
theorem flatten_mAllocators_commitCommands
    (encoder : CommandEncoder) :
    encoder.commitCommands.mAllocators.flatten = encoder.recorded := by
  simp only [commitCommands, recorded]
  split
  · rename_i nothing
    simp [nothing]
  · simp

/--
An encoder that has recorded these parts, and nothing more or the pass that is
still open.
-/
structure RecordsItems
    (encoder : CommandEncoder)
    (items : List RecordedItem) : Prop where
  usages :
    encoder.mRenderPassUsages = items.filterMap RecordedItem.uses?
  safe : TraceSafety.Safe RecordedItem.Admissible items
  groups :
    encoder.mDebugGroupStackSize = RecordedItem.openGroups items
  current :
    (encoder.mCurrentEncoder = some .commandEncoder ∧
        encoder.recorded = items.flatMap RecordedItem.commands) ∨
      ∃ handle pass descriptor body,
        encoder.mCurrentEncoder = some (.renderPass handle) ∧
          encoder.passes[handle]? = some pass ∧
          PassTracks descriptor pass body ∧
          encoder.mAllocators.flatten =
            items.flatMap RecordedItem.commands ∧
          encoder.mPendingCommands = .beginRenderPass descriptor :: body

/-- An encoder that recorded without an error so far. -/
def Records (encoder : CommandEncoder) : Prop :=
  ∃ items, encoder.RecordsItems items

/-- What holds after any calls. -/
structure Consistent (encoder : CommandEncoder) : Prop where
  topLevel :
    encoder.mTopLevelEncoder = some .commandEncoder ∨
      encoder.mTopLevelEncoder = none
  records :
    encoder.mTopLevelEncoder = some .commandEncoder →
      encoder.mError = none → encoder.Records
  accepted :
    ∀ commands, encoder.commandBuffer = some (.ok commands) →
      WellFormedCommands commands

/-- Before any call nothing is recorded. -/
theorem consistent_new : new.Consistent where
  topLevel := .inl rfl
  records := fun _ _ =>
    ⟨[],
      { usages := rfl
        safe := TraceSafety.safe_nil
        groups := rfl
        current := .inl ⟨rfl, rfl⟩ }⟩
  accepted := by simp [new]

/-- Only the current encoder passes the check. -/
theorem checkCurrentEncoder_eq_none
    {caller : EncoderId}
    (current : encoder.checkCurrentEncoder caller = none) :
    encoder.mCurrentEncoder = some caller := by
  unfold checkCurrentEncoder at current
  split at current
  · assumption
  · split at current
    · simp at current
    · split at current
      · split at current <;> simp at current
      · simp at current

/-! ## Errors -/

/-- Handling an error finishes nothing and keeps an error. -/
theorem handleError_fields
    (encoder : CommandEncoder)
    (error : ValidationError) :
    let handled := encoder.handleError error
    handled.mTopLevelEncoder = encoder.mTopLevelEncoder ∧
      handled.commandBuffer = encoder.commandBuffer ∧
      (encoder.mTopLevelEncoder = some .commandEncoder →
        handled.mError ≠ none) := by
  intro handled
  by_cases finished : encoder.isFinished = true
  · have shape :
        handled.mTopLevelEncoder = encoder.mTopLevelEncoder ∧
          handled.commandBuffer = encoder.commandBuffer := by
      simp [handled, handleError, finished]
    refine ⟨shape.1, shape.2, fun unfinished => ?_⟩
    simp [isFinished, unfinished] at finished
  · refine ⟨?_, ?_, fun _ => ?_⟩ <;>
      simp only [handled, handleError, if_neg finished]
    cases encoder.mError <;> simp

namespace Consistent

/-- Once an error is kept, nothing more is claimed of the recording. -/
theorem of_error
    (consistent : encoder.Consistent)
    (sameTop : next.mTopLevelEncoder = encoder.mTopLevelEncoder)
    (sameBuffer : next.commandBuffer = encoder.commandBuffer)
    (kept :
      encoder.mTopLevelEncoder = some .commandEncoder →
        next.mError ≠ none) :
    next.Consistent where
  topLevel := sameTop ▸ consistent.topLevel
  records := fun unfinished noError =>
    absurd noError (kept (sameTop ▸ unfinished))
  accepted := sameBuffer ▸ consistent.accepted

/-- After an error the recording may be anything. -/
theorem handleError
    (consistent : encoder.Consistent)
    (sameTop : next.mTopLevelEncoder = encoder.mTopLevelEncoder)
    (sameBuffer : next.commandBuffer = encoder.commandBuffer)
    (error : ValidationError) :
    (next.handleError error).Consistent := by
  obtain ⟨top, buffer, kept⟩ := handleError_fields next error
  exact
    consistent.of_error (top.trans sameTop) (buffer.trans sameBuffer)
      fun unfinished => kept (sameTop ▸ unfinished)

/-- A step that keeps the error and the state of the recording. -/
theorem of_records
    (consistent : encoder.Consistent)
    (sameTop : next.mTopLevelEncoder = encoder.mTopLevelEncoder)
    (sameBuffer : next.commandBuffer = encoder.commandBuffer)
    (sameError : next.mError = encoder.mError)
    (kept :
      encoder.mTopLevelEncoder = some .commandEncoder →
        encoder.Records → next.Records) :
    next.Consistent where
  topLevel := sameTop ▸ consistent.topLevel
  records := fun unfinished noError =>
    kept (sameTop ▸ unfinished)
      (consistent.records (sameTop ▸ unfinished) (sameError ▸ noError))
  accepted := sameBuffer ▸ consistent.accepted

end Consistent

/-! ## The calls -/

/-- The encoder is current, and all that was recorded are whole parts. -/
theorem RecordsItems.atTop
    {items : List RecordedItem}
    (records : encoder.RecordsItems items)
    (isCurrent : encoder.mCurrentEncoder = some .commandEncoder) :
    encoder.recorded = items.flatMap RecordedItem.commands := by
  rcases records.current with ⟨-, recorded⟩ | ⟨_, _, _, _, other, -⟩
  · exact recorded
  · simp [isCurrent] at other

/-- A call on the encoder records one command or is an error. -/
theorem Consistent.topLevelCall
    {call : CommandEncoderCall}
    (consistent : encoder.Consistent)
    (stepped : encoder.topLevelCall device call = some next) :
    next.Consistent := by
  rw [CommandEncoder.topLevelCall] at stepped
  split at stepped
  · exact Option.some.inj stepped ▸ consistent.handleError rfl rfl _
  · rename_i current
    have isCurrent := checkCurrentEncoder_eq_none current
    obtain ⟨outcome, called, result⟩ := Option.map_eq_some_iff.mp stepped
    subst result
    cases outcome with
    | error error =>
        exact consistent.handleError rfl rfl _
    | ok command =>
        refine consistent.of_records rfl rfl rfl fun _ records => ?_
        obtain ⟨items, records⟩ := records
        have allowed := allowsTopLevel_of_topLevelCommand called
        rw [records.groups] at allowed
        refine ⟨items ++ [.topLevel command], ?_⟩
        exact
          { usages := by
              rw [List.filterMap_append, ← records.usages]
              exact (List.append_nil _).symm
            safe := TraceSafety.safe_concat.mpr ⟨records.safe, allowed⟩
            groups := by
              rw [RecordedItem.openGroups_concat, ← records.groups]
              rfl
            current := by
              refine .inl ⟨isCurrent, ?_⟩
              rw [List.flatMap_append, ← records.atTop isCurrent]
              simp [recorded, RecordedItem.commands] }

/-- An injected error is kept like any other. -/
theorem Consistent.injectValidationError
    (consistent : encoder.Consistent)
    (message : String) :
    (encoder.injectValidationError message).Consistent := by
  unfold CommandEncoder.injectValidationError
  split
  · exact consistent.handleError rfl rfl _
  · exact consistent.handleError rfl rfl _

/-- Beginning a pass opens it, or is an error. -/
theorem Consistent.beginRenderPass
    (consistent : encoder.Consistent)
    (descriptor : Except ValidationError RenderPassDescriptor) :
    (encoder.beginRenderPass descriptor).Consistent := by
  unfold CommandEncoder.beginRenderPass
  split
  · rename_i error _
    obtain ⟨top, buffer, kept⟩ := handleError_fields encoder error
    exact consistent.of_error top buffer kept
  · rename_i error _
    obtain ⟨top, buffer, kept⟩ :=
      handleError_fields encoder
        (error.appendContext "encoding %s.BeginRenderPass(%s).")
    exact consistent.of_error top buffer kept
  · rename_i descriptor current
    have isCurrent := checkCurrentEncoder_eq_none current
    refine consistent.of_records rfl rfl rfl fun _ records => ?_
    obtain ⟨items, records⟩ := records
    refine ⟨items, records.usages, records.safe, records.groups, ?_⟩
    refine
      .inr
        ⟨_, .new descriptor, descriptor, [], rfl, by simp,
          PassTracks.new descriptor, ?_, rfl⟩
    exact
      (flatten_mAllocators_commitCommands encoder).trans
        (records.atTop isCurrent)

/-- A pass that is not current can change without effect. -/
theorem Records.set_passes
    {handle : Nat}
    (records : encoder.Records)
    (changed : RenderPassEncoder)
    (notCurrent :
      ∀ pass descriptor body,
        encoder.mCurrentEncoder = some (.renderPass handle) →
          encoder.passes[handle]? = some pass →
          ¬ PassTracks descriptor pass body) :
    { encoder with
      passes := encoder.passes.set handle changed }.Records := by
  obtain ⟨items, records⟩ := records
  refine ⟨items, records.usages, records.safe, records.groups, ?_⟩
  rcases records.current with
    isTop | ⟨current, pass, descriptor, body, isCurrent, there, tracks,
      committed, pending⟩
  · exact .inl isTop
  · have different : handle ≠ current := by
      rintro rfl
      exact notCurrent pass descriptor body isCurrent there tracks
    refine
      .inr
        ⟨current, pass, descriptor, body, isCurrent, ?_, tracks, committed,
          pending⟩
    simpa [List.getElem?_set_ne different] using there

/-- The current pass is the open one. -/
theorem RecordsItems.openPass
    {items : List RecordedItem}
    {handle : Nat}
    {pass : RenderPassEncoder}
    (records : encoder.RecordsItems items)
    (isCurrent : encoder.mCurrentEncoder = some (.renderPass handle))
    (there : encoder.passes[handle]? = some pass) :
    ∃ descriptor body,
      PassTracks descriptor pass body ∧
        encoder.mAllocators.flatten =
          items.flatMap RecordedItem.commands ∧
        encoder.mPendingCommands =
          .beginRenderPass descriptor :: body := by
  rcases records.current with
    ⟨other, -⟩ | ⟨current, opened, descriptor, body, other, found, tracks,
      committed, pending⟩
  · simp [isCurrent] at other
  · rw [isCurrent] at other
    obtain rfl : handle = current :=
      EncoderId.renderPass.inj (Option.some.inj other)
    rw [there] at found
    obtain rfl := Option.some.inj found
    exact ⟨descriptor, body, tracks, committed, pending⟩

/-- A call on a pass records what it allows, or is an error. -/
theorem Consistent.passCall
    {handle : Nat}
    {call : RenderPassCall}
    (consistent : encoder.Consistent)
    (stepped : encoder.passCall device handle call = some next) :
    next.Consistent := by
  rw [CommandEncoder.passCall] at stepped
  split at stepped
  · exact Option.some.inj stepped ▸ consistent
  · rename_i pass there
    split at stepped
    · exact Option.some.inj stepped ▸ consistent.handleError rfl rfl _
    · rename_i current
      have isCurrent := checkCurrentEncoder_eq_none current
      obtain ⟨⟨outcome, after⟩, called, result⟩ :=
        Option.map_eq_some_iff.mp stepped
      subst result
      cases outcome with
      | error error =>
          exact consistent.handleError (by rfl) (by rfl) _
      | ok commands =>
          refine consistent.of_records rfl rfl rfl fun _ records => ?_
          obtain ⟨items, records⟩ := records
          obtain ⟨descriptor, body, tracks, committed, pending⟩ :=
            records.openPass isCurrent there
          refine ⟨items, records.usages, records.safe, records.groups, ?_⟩
          exact
            .inr
              ⟨handle, after, descriptor, body ++ commands, isCurrent,
                by simp [(List.getElem?_eq_some_iff.mp there).1],
                tracks.call called, committed, by simp [pending]⟩

/-- Ending a pass completes it, or is an error. -/
theorem Consistent.endPass
    (consistent : encoder.Consistent)
    (handle : Nat) :
    (encoder.endPass handle).Consistent := by
  rw [CommandEncoder.endPass]
  split
  · exact consistent
  · rename_i pass there
    simp only
    split
    · rename_i alreadyEnded
      refine consistent.of_records rfl rfl rfl fun _ records => ?_
      have notOpen :
          ∀ other descriptor body,
            encoder.mCurrentEncoder = some (.renderPass handle) →
              encoder.passes[handle]? = some other →
              ¬ PassTracks descriptor other body := by
        intro other descriptor body _ found tracks
        obtain rfl := Option.some.inj (there.symm.trans found)
        simp [tracks.running] at alreadyEnded
      obtain ⟨items, unchanged⟩ :=
        records.set_passes
          { pass with
            mCommandBufferState := pass.mCommandBufferState.end
            mEnded := true }
          notOpen
      exact ⟨items, { unchanged with }⟩
    · split
      · exact consistent.handleError (by rfl) (by rfl) _
      · rename_i current
        have isCurrent := checkCurrentEncoder_eq_none current
        split
        · rename_i valid
          refine consistent.of_records rfl rfl rfl
            fun unfinished records => ?_
          obtain ⟨items, records⟩ := records
          obtain ⟨descriptor, body, tracks, committed, pending⟩ :=
            records.openPass isCurrent there
          have ended := tracks.validateEnd_eq_pure valid
          refine ⟨items ++ [.renderPass ⟨descriptor, body⟩], ?_⟩
          exact
            { usages := by
                rw [List.filterMap_append, ← records.usages]
                simp [exitRenderPass, commitCommands, tracks.uses,
                  RecordedItem.uses?, PassCommands.uses]
              safe := TraceSafety.safe_concat.mpr ⟨records.safe, ended⟩
              groups := by
                rw [RecordedItem.openGroups_concat]
                exact records.groups
              current := by
                refine .inl ⟨unfinished, ?_⟩
                rw [List.flatMap_append, ← committed]
                simp [recorded, exitRenderPass, commitCommands, pending,
                  RecordedItem.commands, PassCommands.commands] }
        · exact consistent.handleError (by rfl) (by rfl) _
        · rename_i impossible
          exact absurd impossible pass.defined_validateEnd

/-- Dropping the current pass is an error; dropping another is not. -/
theorem Consistent.releasePass
    (consistent : encoder.Consistent)
    (handle : Nat) :
    (encoder.releasePass handle).Consistent := by
  rw [CommandEncoder.releasePass]
  split
  · exact consistent
  · simp only
    split
    · exact consistent.handleError (by rfl) (by rfl) _
    · rename_i notCurrent
      refine consistent.of_records rfl rfl rfl fun unfinished records => ?_
      refine records.set_passes _ fun _ _ _ isCurrent _ _ => ?_
      apply notCurrent
      rw [isCurrent, unfinished]
      simp

/-- The checks of `Finish` are defined. -/
theorem defined_validateFinish
    (encoder : CommandEncoder) :
    Defined encoder.validateFinish :=
  Defined.bind
    (defined_forM fun _ _ =>
      Defined.tryContext
        (defined_forM fun _ _ => defined_invalidIf) _)
    fun _ _ => defined_invalidIf

/-- What `Finish` finds no error in. -/
theorem finishError_eq_none
    (noError : encoder.finishError = none) :
    encoder.mError = none ∧
      encoder.mCurrentEncoder = encoder.mTopLevelEncoder ∧
      (∀ passUsage ∈ encoder.mRenderPassUsages,
        validateSyncScopeResourceUsage passUsage = pure ()) ∧
      encoder.mDebugGroupStackSize = 0 := by
  rw [finishError] at noError
  split at noError
  · simp at noError
  · rename_i noneKept
    split at noError
    · simp at noError
    · rename_i atTop
      refine ⟨noneKept, not_not.mp atTop, ?_⟩
      rcases encoder.validateFinish.cases_run with
        undefinedOutcome | ⟨error, failed⟩ | ⟨_, passed⟩
      · exact absurd undefinedOutcome encoder.defined_validateFinish
      · simp [failed] at noError
      · obtain ⟨_, scopes, groups⟩ := bind_eq_pure.mp passed
        refine ⟨fun passUsage member => ?_, ?_⟩
        · exact tryContext_eq_pure.mp (forM_eq_pure.mp scopes _ member)
        · exact not_not.mp (invalidIf_eq_pure.mp groups)

/-- `Finish` returns parts that are whole, or an error. -/
theorem Consistent.finish
    (consistent : encoder.Consistent) :
    encoder.finish.Consistent := by
  rw [CommandEncoder.finish]
  split
  · refine consistent.of_records rfl rfl rfl fun _ records => ?_
    obtain ⟨items, records⟩ := records
    exact ⟨items, { records with }⟩
  · rename_i notFinished
    have unfinished :
        encoder.mTopLevelEncoder = some .commandEncoder := by
      refine consistent.topLevel.resolve_right fun finished => ?_
      simp [isFinished, finished] at notFinished
    simp only
    split
    · exact
        { topLevel := .inr rfl
          records := nofun
          accepted := nofun }
    · rename_i noError
      refine
        { topLevel := .inr rfl
          records := nofun
          accepted := ?_ }
      rintro commands ⟨⟩
      obtain ⟨noneKept, atTop, scopes, closed⟩ :=
        finishError_eq_none noError
      obtain ⟨items, records⟩ := consistent.records unfinished noneKept
      refine ⟨items, ?_, records.safe, ?_, fun pass member => ?_⟩
      · rw [flatten_mAllocators_commitCommands]
        exact records.atTop (atTop.trans unfinished)
      · exact records.groups.symm.trans closed
      · refine PassCommands.synchronized_of_validate (scopes _ ?_)
        rw [records.usages]
        exact List.mem_filterMap.mpr ⟨_, member, rfl⟩

/-- Any call keeps the encoder consistent. -/
theorem Consistent.step
    {call : EncoderCall}
    (consistent : encoder.Consistent)
    (stepped : encoder.step? device call = some next) :
    next.Consistent := by
  cases call with
  | topLevel call =>
      exact consistent.topLevelCall stepped
  | injectValidationError message =>
      exact Option.some.inj stepped ▸ consistent.injectValidationError message
  | beginRenderPass descriptor =>
      exact Option.some.inj stepped ▸ consistent.beginRenderPass descriptor
  | passCall handle call =>
      exact consistent.passCall stepped
  | endPass handle =>
      exact Option.some.inj stepped ▸ consistent.endPass handle
  | releasePass handle =>
      exact Option.some.inj stepped ▸ consistent.releasePass handle
  | finish =>
      exact Option.some.inj stepped ▸ consistent.finish

/--
After any calls in any order, a command buffer that `Finish` returned consists
of complete passes in which every draw is allowed by what was bound before it,
and in which no buffer is both written and otherwise used; and of commands
between the passes that stay inside their buffers.
-/
theorem wellFormedCommands_of_run
    {calls : List EncoderCall}
    {commands : List EncodedCommand}
    (ran : Runs.run? (step? device) new calls = some next)
    (accepted : next.commandBuffer = some (.ok commands)) :
    WellFormedCommands commands := by
  have consistent : next.Consistent :=
    Runs.invariant_of_run (fun kept stepped => kept.step stepped)
      consistent_new ran
  exact consistent.accepted commands accepted

/-- The vertices of a strip. -/
def stripVertices : BufferBase :=
  ⟨⟨0, false⟩, 1, 80, { copyDst := true, vertex := true }⟩

/-- The calls of a frame that draws one line strip and then its four points. -/
def stripFrame : List EncoderCall :=
  let indices : BufferBase := ⟨⟨0, false⟩, 2, 8, { index := true }⟩
  [ .beginRenderPass (.ok ⟨0, false, false, 50000000⟩),
    .passCall 0 (.setPipeline CommandBufferStateTracker.stripPipeline),
    .passCall 0 (.setVertexBuffer 0 (some stripVertices) 0 kWholeSize),
    .passCall 0 (.setIndexBuffer indices .Uint16 0 8),
    .passCall 0 (.drawIndexed 4 1 0 0 0),
    .passCall 0 (.draw 4 1 0 0),
    .endPass 0 ]

/-- The frame after its vertices were copied, all in one debug group. -/
def uploadFrame : List EncoderCall :=
  let staging : BufferBase := ⟨⟨0, false⟩, 3, 256, { copySrc := true }⟩
  [ .topLevel (.pushDebugGroup "strip"),
    .topLevel (.clearBuffer stripVertices 0 kWholeSize),
    .topLevel (.copyBufferToBuffer staging 16 stripVertices 0 80) ] ++
    stripFrame ++ [.topLevel .popDebugGroup]

/-- The frame is accepted, so its commands are well formed. -/
theorem wellFormedCommands_of_run_uploadFrame :
    ∃ final commands,
      Runs.run? (step? ⟨0, 256, 256, false, false⟩) new
            (uploadFrame ++ [.finish]) =
          some final ∧
        final.commandBuffer = some (.ok commands) ∧
        WellFormedCommands commands := by
  have ran :
      (Runs.run? (step? ⟨0, 256, 256, false, false⟩) new
          (uploadFrame ++ [.finish])).map
          (fun final => final.commandBuffer.any Except.toBool) =
        some true := by
    decide +kernel
  obtain ⟨final, reached, accepted⟩ := Option.map_eq_some_iff.mp ran
  obtain ⟨outcome, returned, isOk⟩ := (Option.any_eq_true ..).mp accepted
  cases outcome with
  | error error =>
      cases isOk
  | ok commands =>
      exact
        ⟨final, commands, reached, returned,
          wellFormedCommands_of_run reached returned⟩

end CommandEncoder

end Teck.Dawn
