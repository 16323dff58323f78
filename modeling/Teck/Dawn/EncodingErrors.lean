import Teck.Dawn.AcceptedCommands

namespace Teck.Dawn

/-!
# The errors of calls are kept until `Finish`

`callError` says which calls fail and how, from the checks alone.  Whatever the
order of the calls, the error an unfinished encoder keeps is the first of
these, and `Finish` fails with it.
-/

open ResultOrError

/-- The error of a validation, in the context of the call that made it. -/
def errorIn
    {Result : Type}
    (outcome : ResultOrError Result)
    (context : String) : Option ValidationError :=
  match outcome.run with
  | some (.error error) => some (error.appendContext context)
  | _ => none

namespace CommandEncoder

variable {device : DeviceBase} {encoder next final : CommandEncoder}

/-! ## Which calls fail -/

/-- The error of a call on a pass that is current. -/
def passCallError
    (device : DeviceBase)
    (pass : RenderPassEncoder)
    (call : RenderPassCall) : Option ValidationError :=
  match pass.call device call with
  | some (.error error, _) => some (error.appendContext call.context)
  | _ => none

/--
The error of a call that is kept for `Finish`.  Ending a pass again is not:
this error goes to the device at once.
-/
def callError
    (device : DeviceBase)
    (encoder : CommandEncoder) : EncoderCall → Option ValidationError
  | .topLevel call =>
      (encoder.checkCurrentEncoder .commandEncoder).or
        (errorIn (encoder.topLevelCommand device call) call.context)
  | .injectValidationError message =>
      (encoder.checkCurrentEncoder .commandEncoder).or
        (some ⟨message, [], []⟩)
  | .beginRenderPass (.error error) =>
      (encoder.checkCurrentEncoder .commandEncoder).or
        (some (error.appendContext "encoding %s.BeginRenderPass(%s)."))
  | .beginRenderPass (.ok _) =>
      encoder.checkCurrentEncoder .commandEncoder
  | .passCall handle call =>
      encoder.passes[handle]?.bind fun pass =>
        (encoder.checkCurrentEncoder (.renderPass handle)).or
          (passCallError device pass call)
  | .endPass handle =>
      encoder.passes[handle]?.bind fun pass =>
        if pass.mEnded then
          none
        else
          (encoder.checkCurrentEncoder (.renderPass handle)).or
            (errorIn pass.validateEnd "encoding %s.End().")
  | .releasePass handle =>
      encoder.passes[handle]?.bind fun _ =>
        if encoder.mCurrentEncoder ≠ encoder.mTopLevelEncoder ∧
            encoder.mCurrentEncoder = some (.renderPass handle) then
          some
            ⟨"Command buffer recording ended before %s was ended.", [], []⟩
        else
          none
  | .finish => none

/-- The error of the first call that fails, with the debug groups there. -/
def firstError?
    (device : DeviceBase)
    (encoder : CommandEncoder) : List EncoderCall → Option ErrorData
  | [] => none
  | call :: rest =>
      match encoder.callError device call with
      | some error => some (encoder.errorData error)
      | none =>
          (encoder.step? device call).bind fun next =>
            next.firstError? device rest

/-! ## What handling an error changes -/

/-- Handling an error leaves the top level encoder. -/
@[simp] theorem handleError_mTopLevelEncoder
    (encoder : CommandEncoder)
    (error : ValidationError) :
    (encoder.handleError error).mTopLevelEncoder =
      encoder.mTopLevelEncoder :=
  (handleError_fields encoder error).1

/-- Handling an error leaves the command buffer. -/
@[simp] theorem handleError_commandBuffer
    (encoder : CommandEncoder)
    (error : ValidationError) :
    (encoder.handleError error).commandBuffer = encoder.commandBuffer :=
  (handleError_fields encoder error).2.1

/-- Handling an error leaves the current encoder. -/
@[simp] theorem handleError_mCurrentEncoder
    (encoder : CommandEncoder)
    (error : ValidationError) :
    (encoder.handleError error).mCurrentEncoder =
      encoder.mCurrentEncoder := by
  simp only [handleError]
  split <;> rfl

/-- Handling an error leaves the passes. -/
@[simp] theorem handleError_passes
    (encoder : CommandEncoder)
    (error : ValidationError) :
    (encoder.handleError error).passes = encoder.passes := by
  simp only [handleError]
  split <;> rfl

/-! ## One call -/

section Step

variable
  (unfinished : encoder.mTopLevelEncoder = some .commandEncoder)
include unfinished

/-- The first error that is handled stays. -/
theorem mError_handleError
    {changed : CommandEncoder}
    (sameTop : changed.mTopLevelEncoder = encoder.mTopLevelEncoder)
    (sameError : changed.mError = encoder.mError)
    (sameLabels : changed.mDebugGroupLabels = encoder.mDebugGroupLabels)
    (error : ValidationError) :
    (changed.handleError error).mError =
      encoder.mError.or (some (encoder.errorData error)) := by
  have notFinished : ¬ changed.isFinished = true := by
    simp [isFinished, sameTop, unfinished]
  rw [handleError, if_neg notFinished, sameError, errorData, sameLabels]
  rfl

/-- The calls on the encoder itself. -/
theorem mError_topLevelCall
    {call : CommandEncoderCall}
    (stepped : encoder.topLevelCall device call = some next) :
    next.mError =
      encoder.mError.or
        ((encoder.callError device (.topLevel call)).map
          encoder.errorData) := by
  rw [topLevelCall] at stepped
  rw [callError]
  split at stepped
  · rename_i error failed
    rw [failed, ← Option.some.inj stepped]
    exact mError_handleError unfinished rfl rfl rfl error
  · rename_i passed
    obtain ⟨outcome, called, result⟩ := Option.map_eq_some_iff.mp stepped
    subst result
    rw [passed, Option.none_or, errorIn, called]
    cases outcome with
    | error error =>
        exact mError_handleError unfinished rfl rfl rfl _
    | ok command =>
        exact Option.or_none.symm

/-- An injected error is an error. -/
theorem mError_injectValidationError
    (message : String) :
    (encoder.injectValidationError message).mError =
      encoder.mError.or
        ((encoder.callError device (.injectValidationError message)).map
          encoder.errorData) := by
  rw [callError, injectValidationError]
  split
  · rename_i error failed
    rw [failed]
    exact mError_handleError unfinished rfl rfl rfl error
  · rename_i passed
    rw [passed]
    exact mError_handleError unfinished rfl rfl rfl _

/-- Beginning a pass. -/
theorem mError_beginRenderPass
    (descriptor : Except ValidationError RenderPassDescriptor) :
    (encoder.beginRenderPass descriptor).mError =
      encoder.mError.or
        ((encoder.callError device (.beginRenderPass descriptor)).map
          encoder.errorData) := by
  unfold beginRenderPass
  cases checked : encoder.checkCurrentEncoder .commandEncoder with
  | some error =>
      have same :
          encoder.callError device (.beginRenderPass descriptor) =
            some error := by
        cases descriptor <;> rw [callError, checked]
        rfl
      rw [same]
      exact mError_handleError unfinished rfl rfl rfl error
  | none =>
      cases descriptor with
      | error error =>
          rw [callError, checked]
          exact mError_handleError unfinished rfl rfl rfl _
      | ok valid =>
          rw [callError, checked]
          exact Option.or_none.symm

/-- A call on a pass. -/
theorem mError_passCall
    {handle : Nat}
    {call : RenderPassCall}
    (stepped : encoder.passCall device handle call = some next) :
    next.mError =
      encoder.mError.or
        ((encoder.callError device (.passCall handle call)).map
          encoder.errorData) := by
  rw [passCall] at stepped
  rw [callError]
  split at stepped
  · rename_i missing
    rw [missing, ← Option.some.inj stepped]
    exact Option.or_none.symm
  · rename_i pass there
    rw [there, Option.bind_some]
    split at stepped
    · rename_i error failed
      rw [failed, ← Option.some.inj stepped]
      exact mError_handleError unfinished rfl rfl rfl error
    · rename_i passed
      obtain ⟨⟨outcome, after⟩, called, result⟩ :=
        Option.map_eq_some_iff.mp stepped
      subst result
      rw [passed, Option.none_or, passCallError, called]
      cases outcome with
      | error error =>
          exact mError_handleError unfinished (by rfl) (by rfl) (by rfl) _
      | ok commands =>
          exact Option.or_none.symm

/-- Ending a pass. -/
theorem mError_endPass
    (handle : Nat) :
    (encoder.endPass handle).mError =
      encoder.mError.or
        ((encoder.callError device (.endPass handle)).map
          encoder.errorData) := by
  rw [endPass, callError]
  split
  · rename_i missing
    rw [missing]
    exact Option.or_none.symm
  · rename_i pass there
    rw [there, Option.bind_some]
    simp only
    split
    · exact Option.or_none.symm
    · split
      · rename_i error failed
        rw [failed]
        exact
          mError_handleError unfinished (by rfl) (by rfl) (by rfl) error
      · rename_i passed
        rw [passed, Option.none_or, errorIn]
        split
        · rename_i valid
          rw [valid]
          exact Option.or_none.symm
        · rename_i error failed
          rw [failed]
          exact
            mError_handleError unfinished (by rfl) (by rfl) (by rfl) _
        · rename_i impossible
          exact absurd impossible pass.defined_validateEnd

/-- Dropping a pass. -/
theorem mError_releasePass
    (handle : Nat) :
    (encoder.releasePass handle).mError =
      encoder.mError.or
        ((encoder.callError device (.releasePass handle)).map
          encoder.errorData) := by
  rw [releasePass, callError]
  split
  · rename_i missing
    rw [missing]
    exact Option.or_none.symm
  · rename_i pass there
    rw [there, Option.bind_some]
    simp only
    split
    · exact mError_handleError unfinished (by rfl) (by rfl) (by rfl) _
    · exact Option.or_none.symm

/-- After a call, the error that is kept is the one before or the call's. -/
theorem mError_of_step
    {call : EncoderCall}
    (notFinish : call ≠ .finish)
    (stepped : encoder.step? device call = some next) :
    next.mError =
      encoder.mError.or
        ((encoder.callError device call).map encoder.errorData) := by
  cases call with
  | topLevel call =>
      exact mError_topLevelCall unfinished stepped
  | injectValidationError message =>
      exact Option.some.inj stepped ▸
        mError_injectValidationError unfinished message
  | beginRenderPass descriptor =>
      exact Option.some.inj stepped ▸
        mError_beginRenderPass unfinished descriptor
  | passCall handle call =>
      exact mError_passCall unfinished stepped
  | endPass handle =>
      exact Option.some.inj stepped ▸ mError_endPass unfinished handle
  | releasePass handle =>
      exact Option.some.inj stepped ▸ mError_releasePass unfinished handle
  | finish =>
      exact absurd rfl notFinish

end Step

/-- Only the first `Finish` finishes, and only it makes a command buffer. -/
theorem step_frame
    {call : EncoderCall}
    (other : call = .finish → encoder.isFinished = true)
    (stepped : encoder.step? device call = some next) :
    next.mTopLevelEncoder = encoder.mTopLevelEncoder ∧
      next.commandBuffer = encoder.commandBuffer := by
  cases call with
  | topLevel call =>
      rw [step?, topLevelCall] at stepped
      split at stepped
      · obtain rfl := Option.some.inj stepped
        simp
      · obtain ⟨outcome, -, result⟩ := Option.map_eq_some_iff.mp stepped
        subst result
        cases outcome with
        | error error => simp
        | ok command => exact ⟨rfl, rfl⟩
  | injectValidationError message =>
      obtain rfl := Option.some.inj stepped
      unfold injectValidationError
      split <;> simp
  | beginRenderPass descriptor =>
      obtain rfl := Option.some.inj stepped
      unfold beginRenderPass
      split <;> simp [commitCommands]
  | passCall handle call =>
      rw [step?, passCall] at stepped
      split at stepped
      · obtain rfl := Option.some.inj stepped
        exact ⟨rfl, rfl⟩
      · split at stepped
        · obtain rfl := Option.some.inj stepped
          simp
        · obtain ⟨⟨outcome, after⟩, -, result⟩ :=
            Option.map_eq_some_iff.mp stepped
          subst result
          cases outcome with
          | error error => simp
          | ok commands => exact ⟨rfl, rfl⟩
  | endPass handle =>
      obtain rfl := Option.some.inj stepped
      rw [endPass]
      split
      · exact ⟨rfl, rfl⟩
      · simp only
        split
        · exact ⟨rfl, rfl⟩
        · split
          · simp
          · split <;> simp [exitRenderPass, commitCommands]
  | releasePass handle =>
      obtain rfl := Option.some.inj stepped
      rw [releasePass]
      split
      · exact ⟨rfl, rfl⟩
      · simp only
        split <;> simp
  | finish =>
      obtain rfl := Option.some.inj stepped
      simp [finish, other rfl]

/-! ## Runs -/

/-- Without `Finish` the encoder stays unfinished. -/
theorem mTopLevelEncoder_of_run
    {calls : List EncoderCall}
    (unfinished : encoder.mTopLevelEncoder = some .commandEncoder)
    (notFinished : EncoderCall.finish ∉ calls)
    (ran : Runs.run? (step? device) encoder calls = some final) :
    final.mTopLevelEncoder = some .commandEncoder := by
  induction calls generalizing encoder with
  | nil =>
      obtain rfl := Option.some.inj ran
      exact unfinished
  | cons call rest inductionHypothesis =>
      obtain ⟨next, stepped, later⟩ := Runs.run?_cons_eq_some.mp ran
      rw [List.mem_cons, not_or] at notFinished
      have sameTop :=
        (step_frame (fun isFinish => absurd isFinish.symm notFinished.1)
          stepped).1
      exact
        inductionHypothesis (sameTop.trans unfinished) notFinished.2 later

/-- Before `Finish`, the error that is kept is the first one. -/
theorem mError_of_run
    {calls : List EncoderCall}
    (unfinished : encoder.mTopLevelEncoder = some .commandEncoder)
    (notFinished : EncoderCall.finish ∉ calls)
    (ran : Runs.run? (step? device) encoder calls = some final) :
    final.mError = encoder.mError.or (encoder.firstError? device calls) := by
  induction calls generalizing encoder with
  | nil =>
      obtain rfl := Option.some.inj ran
      exact Option.or_none.symm
  | cons call rest inductionHypothesis =>
      obtain ⟨next, stepped, later⟩ := Runs.run?_cons_eq_some.mp ran
      rw [List.mem_cons, not_or] at notFinished
      have notFinish : call ≠ .finish := Ne.symm notFinished.1
      have sameTop :=
        (step_frame (fun isFinish => absurd isFinish notFinish) stepped).1
      rw [inductionHypothesis (sameTop.trans unfinished) notFinished.2
          later,
        mError_of_step unfinished notFinish stepped, Option.or_assoc,
        firstError?, stepped, Option.bind_some]
      cases encoder.callError device call with
      | none => rfl
      | some error => rfl

/-- Whatever happens, `Finish` finishes. -/
theorem isFinished_finish
    (encoder : CommandEncoder) :
    encoder.finish.isFinished = true := by
  rw [finish]
  split
  · assumption
  · simp only
    split <;> rfl

/-- A finished encoder keeps its command buffer. -/
theorem commandBuffer_of_run
    {calls : List EncoderCall}
    (finished : encoder.isFinished = true)
    (ran : Runs.run? (step? device) encoder calls = some final) :
    final.commandBuffer = encoder.commandBuffer := by
  have preserved :
      ∀ {state call next},
        state.isFinished = true ∧
            state.commandBuffer = encoder.commandBuffer →
          step? device state call = some next →
            next.isFinished = true ∧
              next.commandBuffer = encoder.commandBuffer := by
    rintro state call next ⟨stillFinished, same⟩ stepped
    obtain ⟨sameTop, sameBuffer⟩ :=
      step_frame (fun _ => stillFinished) stepped
    rw [isFinished, sameTop]
    exact ⟨stillFinished, sameBuffer.trans same⟩
  exact (Runs.invariant_of_run preserved ⟨finished, rfl⟩ ran).2

/-! ## `Finish` -/

/-- `Finish` returns what was recorded or the error that it finds. -/
theorem commandBuffer_finish
    (unfinished : encoder.mTopLevelEncoder = some .commandEncoder) :
    encoder.finish.commandBuffer =
      match encoder.finishError with
      | some error => some (.error error)
      | none => some (.ok encoder.recorded) := by
  have notFinished : ¬ encoder.isFinished = true := by
    simp [isFinished, unfinished]
  rw [finish, if_neg notFinished]
  cases encoder.finishError with
  | some error =>
      rfl
  | none =>
      rw [← flatten_mAllocators_commitCommands]

/-- An error that was kept is what `Finish` finds. -/
theorem finishError_of_mError
    {error : ErrorData}
    (kept : encoder.mError = some error) :
    encoder.finishError = some error := by
  rw [finishError, kept]

/-- `Finish` finds no error if none was kept and its own checks pass. -/
theorem finishError_eq_none_of
    (noError : encoder.mError = none)
    (atTop : encoder.mCurrentEncoder = encoder.mTopLevelEncoder)
    (scopes :
      ∀ passUsage ∈ encoder.mRenderPassUsages,
        validateSyncScopeResourceUsage passUsage = pure ())
    (closed : encoder.mDebugGroupStackSize = 0) :
    encoder.finishError = none := by
  have valid : encoder.validateFinish = pure () := by
    refine bind_eq_pure.mpr ⟨(), ?_, invalidIf_eq_pure.mpr (by simpa)⟩
    exact
      forM_eq_pure.mpr fun passUsage member =>
        tryContext_eq_pure.mpr (scopes passUsage member)
  rw [finishError, noError]
  simp only [atTop, ne_eq, not_true_eq_false, if_false]
  rw [valid]
  rfl

end CommandEncoder

end Teck.Dawn
