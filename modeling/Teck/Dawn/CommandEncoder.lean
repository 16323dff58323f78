import Teck.Dawn.RenderPassEncoder

namespace Teck.Dawn

/-!
# The encoding context of a command encoder

A command encoder and the pass encoders it begins share one `EncodingContext`.
Only the current encoder records; any other use, and any invalid call, is an
error.  The first error is kept until `Finish`, which then fails with it.

Calls may come in any order and on any pass that was ever begun.  Of the calls
on the encoder itself those about buffers and debug groups are modelled.
-/

/-- The encoders that may share an encoding context. -/
inductive EncoderId where
  | commandEncoder
  | renderPass (handle : Nat)
  deriving DecidableEq, Repr

/-- A validation error with the debug groups around it, the innermost first. -/
structure ErrorData where
  error : ValidationError
  debugGroups : List String
  deriving DecidableEq, Repr

/-- The encoder with its context; `passes` are the pass encoders handed out. -/
structure CommandEncoder where
  mTopLevelEncoder : Option EncoderId
  mCurrentEncoder : Option EncoderId
  mPendingCommands : List EncodedCommand
  mAllocators : List (List EncodedCommand)
  mRenderPassUsages : List BufferUses
  mError : Option ErrorData
  mDebugGroupLabels : List String
  mDebugGroupStackSize : Nat
  passes : List RenderPassEncoder
  deviceErrors : List ErrorData
  commandBuffer : Option (Except ErrorData (List EncodedCommand))

/-- The calls on the command encoder that go through `TryEncode`. -/
inductive CommandEncoderCall where
  | copyBufferToBuffer
      (source : BufferBase)
      (sourceOffset : Nat)
      (destination : BufferBase)
      (destinationOffset size : Nat)
  | clearBuffer (buffer : BufferBase) (offset size : Nat)
  | writeBuffer
      (buffer : BufferBase)
      (bufferOffset : Nat)
      (data : List UInt8)
  | insertDebugMarker (groupLabel : String)
  | pushDebugGroup (groupLabel : String)
  | popDebugGroup

/-- The context a call adds to its errors. -/
def CommandEncoderCall.context : CommandEncoderCall → String
  | .copyBufferToBuffer .. =>
      "encoding %s.CopyBufferToBuffer(%s, %u, %s, %u, %u)."
  | .clearBuffer .. => "encoding %s.ClearBuffer(%s, %u, %u)."
  | .writeBuffer .. => "encoding %s.WriteBuffer(%s, %u, ..., %u)."
  | .insertDebugMarker .. => "encoding %s.InsertDebugMarker(\"%s\")."
  | .pushDebugGroup .. => "encoding %s.PushDebugGroup(\"%s\")."
  | .popDebugGroup => "encoding %s.PopDebugGroup()."

/-- A call on a command encoder or on one of its passes. -/
inductive EncoderCall where
  | topLevel (call : CommandEncoderCall)
  | injectValidationError (message : String)
  | beginRenderPass
      (descriptor : Except ValidationError RenderPassDescriptor)
  | passCall (handle : Nat) (call : RenderPassCall)
  | endPass (handle : Nat)
  | releasePass (handle : Nat)
  | finish

/-- `ValidateSyncScopeResourceUsage` on the usages of one buffer. -/
def SingleUseOrReadOnly (uses : BufferUses) (buffer : Nat) : Prop :=
  let usages := (uses.filter fun use => use.1 = buffer).map Prod.snd
  (∀ usage ∈ usages, usage.isReadOnly = true) ∨
    ∀ usage ∈ usages, ∀ other ∈ usages, usage = other

instance (uses : BufferUses) (buffer : Nat) :
    Decidable (SingleUseOrReadOnly uses buffer) :=
  inferInstanceAs (Decidable (_ ∨ _))

/-- `ValidateSyncScopeResourceUsage`, as far as it is about buffers. -/
def validateSyncScopeResourceUsage (scope : BufferUses) : MaybeError :=
  forM scope fun use =>
    invalidIf (¬ SingleUseOrReadOnly scope use.1)
      ("%s usage (%s) includes writable usage and another usage in the " ++
        "same synchronization scope.") []

/-! ## The checks of the calls on the encoder -/

/-- `ValidateCopySizeFitsInBuffer` -/
def validateCopySizeFitsInBuffer
    (buffer : BufferBase)
    (offset size : Nat) : MaybeError :=
  invalidIf (¬ (offset ≤ buffer.size ∧ size ≤ buffer.size - offset))
    "Copy range (offset: %u, size: %u) does not fit in %s size (%u)."
    [offset, size, buffer.size]

/-- `ValidateB2BCopyAlignment` -/
def validateB2BCopyAlignment
    (dataSize srcOffset dstOffset : Nat) : MaybeError := do
  invalidIf (dataSize % 4 ≠ 0) "Copy size (%u) is not a multiple of 4."
    [dataSize]
  invalidIf (srcOffset % 4 ≠ 0 ∨ dstOffset % 4 ≠ 0)
    ("Source offset (%u) or destination offset (%u) is not a multiple of 4 " ++
      "bytes,")
    [srcOffset, dstOffset]

/-- The checks of `CopyBufferToBuffer`. -/
def validateCopyBufferToBuffer
    (device : DeviceBase)
    (source : BufferBase)
    (sourceOffset : Nat)
    (destination : BufferBase)
    (destinationOffset size : Nat) : MaybeError := do
  device.validateObject source.object
  device.validateObject destination.object
  invalidIf (source.identity = destination.identity)
    "Source and destination are the same buffer (%s)." []
  tryContext (validateCopySizeFitsInBuffer source sourceOffset size)
    "validating source %s copy size."
  tryContext
    (validateCopySizeFitsInBuffer destination destinationOffset size)
    "validating destination %s copy size."
  validateB2BCopyAlignment size sourceOffset destinationOffset
  tryContext (validateCanUseAs source BufferUsage.copySrc)
    "validating source %s usage."
  tryContext (validateCanUseAs destination BufferUsage.copyDst)
    "validating destination %s usage."

/-- The size that `ClearBuffer` clears, a whole size resolved. -/
def validateClearSize
    (buffer : BufferBase)
    (offset size : Nat) : ResultOrError Nat := do
  invalidIf (offset > buffer.size)
    "Buffer offset (%u) is larger than the size (%u) of %s."
    [offset, buffer.size]
  let remainingSize := buffer.size - offset
  if size = kWholeSize then
    pure remainingSize
  else
    invalidIf (size > remainingSize)
      ("Buffer range (offset: %u, size: %u) doesn't fit in the size (%u) " ++
        "of %s.")
      [offset, size, buffer.size]
    pure size

/-- The checks of `ClearBuffer`. -/
def validateClearBuffer
    (device : DeviceBase)
    (buffer : BufferBase)
    (offset size : Nat) : ResultOrError Nat := do
  device.validateObject buffer.object
  let size ← validateClearSize buffer offset size
  tryContext (validateCanUseAs buffer BufferUsage.copyDst)
    "validating buffer %s usage."
  invalidIf (size % 4 ≠ 0) "Fill size (%u) is not a multiple of 4 bytes."
    [size]
  invalidIf (offset % 4 ≠ 0) "Offset (%u) is not a multiple of 4 bytes,"
    [offset]
  pure size

/-- `ValidateWriteBuffer` -/
def validateWriteBuffer
    (device : DeviceBase)
    (buffer : BufferBase)
    (bufferOffset size : Nat) : MaybeError := do
  device.validateObject buffer.object
  invalidIf (bufferOffset % 4 ≠ 0) "BufferOffset (%u) is not a multiple of 4."
    [bufferOffset]
  invalidIf (size % 4 ≠ 0) "Size (%u) is not a multiple of 4." [size]
  invalidIf (bufferOffset > buffer.size ∨ size > buffer.size - bufferOffset)
    ("Write range (bufferOffset: %u, size: %u) does not fit in %s size " ++
      "(%u).")
    [bufferOffset, size, buffer.size]
  validateCanUseAs buffer BufferUsage.copyDst

/-! ## Debug groups -/

/-- The labels of the open debug groups after a command. -/
def labelsAfter
    (labels : List String) : EncodedCommand → List String
  | .pushDebugGroup groupLabel => labels ++ [groupLabel]
  | .popDebugGroup => labels.dropLast
  | _ => labels

/-- The number of open debug groups after a command. -/
def groupsAfter (groups : Nat) : EncodedCommand → Nat
  | .pushDebugGroup _ => groups + 1
  | .popDebugGroup => groups - 1
  | _ => groups

namespace CommandEncoder

/-- A command encoder before any call. -/
def new : CommandEncoder where
  mTopLevelEncoder := some .commandEncoder
  mCurrentEncoder := some .commandEncoder
  mPendingCommands := []
  mAllocators := []
  mRenderPassUsages := []
  mError := none
  mDebugGroupLabels := []
  mDebugGroupStackSize := 0
  passes := []
  deviceErrors := []
  commandBuffer := none

/-- `IsFinished` -/
def isFinished (encoder : CommandEncoder) : Bool :=
  encoder.mTopLevelEncoder = none

/-- An error with the debug groups that are open. -/
def errorData
    (encoder : CommandEncoder)
    (error : ValidationError) : ErrorData where
  error := error
  debugGroups := encoder.mDebugGroupLabels.reverse

/-- `HandleError` of the context: the first error is deferred to `Finish`. -/
def handleError
    (encoder : CommandEncoder)
    (error : ValidationError) : CommandEncoder :=
  let data := encoder.errorData error
  if encoder.isFinished then
    { encoder with deviceErrors := encoder.deviceErrors ++ [data] }
  else
    { encoder with mError := encoder.mError.or (some data) }

/-- The error of `CheckCurrentEncoder`, if the caller may not record. -/
def checkCurrentEncoder
    (encoder : CommandEncoder)
    (caller : EncoderId) : Option ValidationError :=
  if encoder.mCurrentEncoder = some caller then
    none
  else if encoder.mCurrentEncoder ≠ encoder.mTopLevelEncoder then
    some
      ⟨"Command cannot be recorded while %s is locked and %s is currently " ++
        "open.", [], []⟩
  else if encoder.isFinished then
    match caller with
    | .commandEncoder => some ⟨"%s is already finished.", [], []⟩
    | .renderPass _ =>
        some ⟨"Parent encoder of %s is already finished.", [], []⟩
  else
    some ⟨"Recording in an error %s.", [], []⟩

/-- `CommitCommands(std::move(mPendingCommands))` -/
def commitCommands (encoder : CommandEncoder) : CommandEncoder :=
  { encoder with
    mAllocators :=
      if encoder.mPendingCommands = [] then encoder.mAllocators
      else encoder.mAllocators ++ [encoder.mPendingCommands]
    mPendingCommands := [] }

/-- The command of a call on the encoder, if its checks pass. -/
def topLevelCommand
    (encoder : CommandEncoder)
    (device : DeviceBase) :
    CommandEncoderCall → ResultOrError EncodedCommand
  | .copyBufferToBuffer source sourceOffset destination destinationOffset
      size => do
      validateCopyBufferToBuffer device source sourceOffset destination
        destinationOffset size
      pure
        (.copyBufferToBuffer source sourceOffset destination
          destinationOffset size)
  | .clearBuffer buffer offset size => do
      let size ← validateClearBuffer device buffer offset size
      pure (.clearBuffer buffer offset size)
  | .writeBuffer buffer bufferOffset data => do
      validateWriteBuffer device buffer bufferOffset data.length
      pure (.writeBuffer buffer bufferOffset data)
  | .insertDebugMarker groupLabel => pure (.insertDebugMarker groupLabel)
  | .pushDebugGroup groupLabel => pure (.pushDebugGroup groupLabel)
  | .popDebugGroup => do
      invalidIf (encoder.mDebugGroupStackSize = 0)
        "PopDebugGroup called when no debug groups are currently pushed." []
      pure .popDebugGroup

/-- A call on the encoder itself, through `TryEncode`. -/
def topLevelCall
    (encoder : CommandEncoder)
    (device : DeviceBase)
    (call : CommandEncoderCall) : Option CommandEncoder :=
  match encoder.checkCurrentEncoder .commandEncoder with
  | some error => some (encoder.handleError error)
  | none =>
      (encoder.topLevelCommand device call).run.map fun outcome =>
        match outcome with
        | .error error =>
            encoder.handleError (error.appendContext call.context)
        | .ok command =>
            { encoder with
              mPendingCommands := encoder.mPendingCommands ++ [command]
              mDebugGroupLabels :=
                labelsAfter encoder.mDebugGroupLabels command
              mDebugGroupStackSize :=
                groupsAfter encoder.mDebugGroupStackSize command }

/-- `InjectValidationError` -/
def injectValidationError
    (encoder : CommandEncoder)
    (message : String) : CommandEncoder :=
  match encoder.checkCurrentEncoder .commandEncoder with
  | some error => encoder.handleError error
  | none => encoder.handleError ⟨message, [], []⟩

/-- `BeginRenderPass`; an error encoder is handed out where it fails. -/
def beginRenderPass
    (encoder : CommandEncoder)
    (descriptor : Except ValidationError RenderPassDescriptor) :
    CommandEncoder :=
  let errorPass : RenderPassEncoder :=
    .new ⟨0, false, false, 50000000⟩
  match encoder.checkCurrentEncoder .commandEncoder, descriptor with
  | some error, _ =>
      { encoder.handleError error with
        passes := encoder.passes ++ [errorPass] }
  | none, .error error =>
      { encoder.handleError
          (error.appendContext "encoding %s.BeginRenderPass(%s).") with
        passes := encoder.passes ++ [errorPass] }
  | none, .ok descriptor =>
      { encoder.commitCommands with
        mPendingCommands := [.beginRenderPass descriptor]
        mCurrentEncoder := some (.renderPass encoder.passes.length)
        passes := encoder.passes ++ [.new descriptor] }

/-- A call on a pass encoder, through `TryEncode`. -/
def passCall
    (encoder : CommandEncoder)
    (device : DeviceBase)
    (handle : Nat)
    (call : RenderPassCall) : Option CommandEncoder :=
  match encoder.passes[handle]? with
  | none => some encoder
  | some pass =>
      match encoder.checkCurrentEncoder (.renderPass handle) with
      | some error => some (encoder.handleError error)
      | none =>
          (pass.call device call).map fun (outcome, next) =>
            let kept :=
              { encoder with passes := encoder.passes.set handle next }
            match outcome with
            | .error error =>
                kept.handleError (error.appendContext call.context)
            | .ok commands =>
                { kept with
                  mPendingCommands := kept.mPendingCommands ++ commands
                  mDebugGroupLabels :=
                    commands.foldl labelsAfter kept.mDebugGroupLabels }

/-- `ExitRenderPass`, without indirect draws to validate. -/
def exitRenderPass
    (encoder : CommandEncoder)
    (uses : BufferUses) : CommandEncoder :=
  { encoder.commitCommands with
    mCurrentEncoder := encoder.mTopLevelEncoder
    mRenderPassUsages := encoder.mRenderPassUsages ++ [uses] }

/-- `End`; the state of the pass is dropped whether or not it succeeds. -/
def endPass
    (encoder : CommandEncoder)
    (handle : Nat) : CommandEncoder :=
  match encoder.passes[handle]? with
  | none => encoder
  | some pass =>
      let ended :=
        { pass with
          mCommandBufferState := pass.mCommandBufferState.end
          mEnded := true }
      let kept := { encoder with passes := encoder.passes.set handle ended }
      if pass.mEnded then
        { kept with
          deviceErrors :=
            kept.deviceErrors ++
              [⟨⟨"%s was already ended.", [], []⟩, []⟩] }
      else
        match encoder.checkCurrentEncoder (.renderPass handle) with
        | some error => kept.handleError error
        | none =>
            match pass.validateEnd.run with
            | some (.ok ()) =>
                let recorded :=
                  { kept with
                    mPendingCommands :=
                      kept.mPendingCommands ++ [EncodedCommand.endRenderPass] }
                recorded.exitRenderPass pass.mUsageTracker
            | some (.error error) =>
                kept.handleError
                  (error.appendContext "encoding %s.End().")
            | none => kept

/-- The last reference to a pass encoder is dropped. -/
def releasePass
    (encoder : CommandEncoder)
    (handle : Nat) : CommandEncoder :=
  match encoder.passes[handle]? with
  | none => encoder
  | some pass =>
      let ended :=
        { pass with mCommandBufferState := pass.mCommandBufferState.end }
      let kept := { encoder with passes := encoder.passes.set handle ended }
      if encoder.mCurrentEncoder ≠ encoder.mTopLevelEncoder ∧
          encoder.mCurrentEncoder = some (.renderPass handle) then
        { kept with
          mCurrentEncoder := kept.mTopLevelEncoder }.handleError
            ⟨"Command buffer recording ended before %s was ended.", [], []⟩
      else
        kept

/-- `ValidateFinish`, with render passes only. -/
def validateFinish (encoder : CommandEncoder) : MaybeError := do
  forM encoder.mRenderPassUsages fun passUsage =>
    tryContext (validateSyncScopeResourceUsage passUsage)
      "validating render pass usage."
  invalidIf (encoder.mDebugGroupStackSize ≠ 0)
    ("PushDebugGroup called %u time(s) without a corresponding " ++
      "PopDebugGroup prior to calling Finish.")
    [encoder.mDebugGroupStackSize]

/-- The first error among those `Finish` looks for, after committing. -/
def finishError (encoder : CommandEncoder) : Option ErrorData :=
  match encoder.mError with
  | some error => some error
  | none =>
      if encoder.mCurrentEncoder ≠ encoder.mTopLevelEncoder then
        some
          ⟨⟨"Command buffer recording ended before %s was ended.", [], []⟩,
            []⟩
      else
        match encoder.validateFinish.run with
        | some (.error error) => some ⟨error, []⟩
        | _ => none

/-- `Finish`; the command buffer iterates over the allocators in order. -/
def finish (encoder : CommandEncoder) : CommandEncoder :=
  if encoder.isFinished then
    { encoder with
      deviceErrors :=
        encoder.deviceErrors ++
          [⟨⟨"Command encoding already finished.", [], []⟩, []⟩] }
  else
    let committed := encoder.commitCommands
    let finished :=
      { committed with
        mCurrentEncoder := none
        mTopLevelEncoder := none
        mError := none }
    match encoder.finishError with
    | some error =>
        { finished with
          deviceErrors := finished.deviceErrors ++ [error]
          commandBuffer := some (.error error) }
    | none =>
        { finished with
          commandBuffer := some (.ok committed.mAllocators.flatten) }

/-- One call, unless it reads a pipeline that is not there. -/
def step?
    (device : DeviceBase)
    (encoder : CommandEncoder) : EncoderCall → Option CommandEncoder
  | .topLevel call => encoder.topLevelCall device call
  | .injectValidationError message =>
      some (encoder.injectValidationError message)
  | .beginRenderPass descriptor => some (encoder.beginRenderPass descriptor)
  | .passCall handle call => encoder.passCall device handle call
  | .endPass handle => some (encoder.endPass handle)
  | .releasePass handle => some (encoder.releasePass handle)
  | .finish => some encoder.finish

end CommandEncoder

end Teck.Dawn
