import Teck.Dawn.StateTracker

namespace Teck.Dawn

/-!
# Lazy aspects and the errors for missing ones

`RecomputeLazyAspects` decides which aspects hold, `CheckMissingAspects` walks
over the same state to find an error for one that does not.  The two agree: a
missing aspect always has an error, and nothing undefined is reached.
-/

namespace CommandBufferStateTracker

open ResultOrError

variable {tracker : CommandBufferStateTracker} {pipeline : RenderPipeline}
variable {aspects required : ValidationAspects}

/-- With a pipeline set, reading it is defined. -/
theorem getRenderPipeline_of_eq_some
    (set : tracker.mLastPipeline = some pipeline) :
    tracker.getRenderPipeline = pure pipeline := by
  rw [getRenderPipeline, set]

/-! ## A missing aspect never passes -/

/-- Past the checks of the index buffer lies `DAWN_UNREACHABLE`. -/
theorem checkMissingIndexBuffer_ne_pure :
    tracker.checkMissingIndexBuffer ≠ pure () := by
  intro passed
  obtain ⟨-, read⟩ := invalidIf_bind_eq_pure.mp passed
  obtain ⟨pipeline, -, later⟩ := bind_eq_pure.mp read
  simp only at later
  split at later
  · obtain ⟨-, formats⟩ := invalidIf_bind_eq_pure.mp later
    obtain ⟨-, impossible⟩ := invalidIf_bind_eq_pure.mp formats
    exact undefined_ne_pure impossible
  · exact undefined_ne_pure later

/-- Where no vertex buffer is missing the source asserts. -/
theorem checkMissingVertexBuffers_ne_pure :
    tracker.checkMissingVertexBuffers ≠ pure () := by
  intro passed
  obtain ⟨pipeline, -, later⟩ := bind_eq_pure.mp passed
  simp only at later
  split at later
  · exact validationError_ne_pure later
  · exact undefined_ne_pure later

/-- Past the checks of the bind groups lies `DAWN_UNREACHABLE`. -/
theorem checkMissingBindGroups_ne_pure :
    tracker.checkMissingBindGroups ≠ pure () := by
  intro passed
  obtain ⟨pipeline, -, groups⟩ := bind_eq_pure.mp passed
  obtain ⟨_, -, later⟩ := bind_eq_pure.mp groups
  split at later
  · exact validationError_ne_pure later
  · exact validationError_ne_pure later
  · exact undefined_ne_pure later

/-- Only if nothing is missing is there no error. -/
theorem checkMissingAspects_eq_pure :
    tracker.checkMissingAspects aspects = pure () ↔ aspects = ∅ := by
  rw [checkMissingAspects]
  constructor
  · intro passed
    split at passed
    · obtain ⟨-, missing⟩ := invalidIf_bind_eq_pure.mp passed
      split at missing
      · exact absurd missing checkMissingIndexBuffer_ne_pure
      · split at missing
        · exact absurd missing checkMissingVertexBuffers_ne_pure
        · split at missing
          · exact absurd missing checkMissingBindGroups_ne_pure
          · exact absurd missing undefined_ne_pure
    · rename_i nothing
      exact not_not.mp nothing
  · rintro rfl
    rfl

/-! ## A missing aspect has its error -/

/-- An index buffer that does not hold has an error. -/
theorem defined_checkMissingIndexBuffer
    (set : tracker.mLastPipeline = some pipeline)
    (missing : tracker.lazyAspectHolds pipeline .indexBuffer = false) :
    Defined tracker.checkMissingIndexBuffer := by
  refine defined_invalidIf_bind fun isSet => ?_
  rw [getRenderPipeline_of_eq_some set, pure_bind]
  simp only [Bool.not_eq_false] at isSet
  simp only [lazyAspectHolds, isSet, Bool.true_and, indexFormatMatches,
    Bool.or_eq_false_iff, Bool.not_eq_false', decide_eq_false_iff_not]
    at missing
  rw [if_pos missing.1]
  exact defined_invalidIf_bind fun _ =>
    defined_invalidIf_bind fun same => absurd missing.2 same

/-- Vertex buffers that do not hold have an error. -/
theorem defined_checkMissingVertexBuffers
    (set : tracker.mLastPipeline = some pipeline)
    (missing : tracker.lazyAspectHolds pipeline .vertexBuffers = false) :
    Defined tracker.checkMissingVertexBuffers := by
  rw [checkMissingVertexBuffers, getRenderPipeline_of_eq_some set,
    pure_bind]
  obtain ⟨slot, isUsed, notSet⟩ :=
    Finset.not_subset.mp (of_decide_eq_false missing)
  simp only
  split
  · exact defined_validationError _ _
  · rename_i nothing
    have member :
        slot ∈
          (List.finRange 8).filter fun slot =>
            decide
              (slot ∈ pipeline.vertexBuffersUsed ∧
                slot ∉ tracker.mVertexBuffersUsed) := by
      simp [isUsed, notSet]
    rw [List.getLast?_eq_none_iff.mp nothing] at member
    simp at member

/-- The error for an undersized buffer is not a value. -/
theorem undersizedBuffer_ne_pure
    {group : BindGroup}
    {minBufferSizes : List Nat}
    {i : BindGroupIndex}
    {packedIndex : Nat} :
    undersizedBuffer group minBufferSizes i packedIndex ≠ pure () := by
  rw [undersizedBuffer]
  split
  · exact undefined_ne_pure
  · exact validationError_ne_pure

/-- An undersized buffer has a binding that the error can name. -/
theorem defined_undersizedBuffer
    {group : BindGroup}
    {minBufferSizes : List Nat}
    {packedIndex : Nat}
    (found :
      findFirstUndersizedBuffer group.unverifiedBufferSizes
          minBufferSizes =
        some packedIndex)
    (i : BindGroupIndex) :
    Defined (undersizedBuffer group minBufferSizes i packedIndex) := by
  obtain ⟨inZip, -⟩ := List.findIdx?_eq_some_iff_getElem.mp found
  have inside : packedIndex < group.unverifiedBindings.length := by
    rw [List.length_zip, BindGroup.unverifiedBufferSizes,
      List.length_map] at inZip
    exact Nat.lt_of_lt_of_le inZip (Nat.min_le_left _ _)
  rw [undersizedBuffer, List.getElem?_eq_getElem inside]
  exact defined_validationError _ _

/-- The checks of one group are those of its match, one by one. -/
theorem checkBindGroup_eq_pure
    {bindGroups : BoundGroups}
    {i : BindGroupIndex} :
    checkBindGroup bindGroups pipeline i = pure () ↔
      ∀ requiredBGL, pipeline.layout i = some requiredBGL →
        ∃ bound, bindGroups i = some bound ∧
          bindGroupMatches requiredBGL (pipeline.minBufferSizes i)
            bound = true := by
  rw [checkBindGroup]
  cases pipeline.layout i with
  | none =>
      simp
  | some requiredBGL =>
      cases bindGroups i with
      | none =>
          simp
      | some bound =>
          simp only [-String.reduceAppend, invalidIf_bind_eq_pure,
            Option.some.injEq, forall_eq', exists_eq_left',
            bindGroupMatches, BindGroupLayout.isLayoutEqual,
            Bool.and_eq_true, decide_eq_true_eq, ne_eq, not_not, not_and,
            and_assoc]
          constructor
          · rintro ⟨sameToken, noToken, sameInternal, sizes⟩
            refine ⟨?_, sameInternal, ?_⟩
            · by_cases zero : requiredBGL.pipelineCompatibilityToken = 0
              · rw [zero, noToken zero]
              · exact (sameToken zero).symm
            · split at sizes
              · rename_i found
                simp [found]
              · exact absurd sizes undersizedBuffer_ne_pure
          · rintro ⟨sameToken, sameInternal, sizes⟩
            refine ⟨fun _ => sameToken.symm, fun zero => sameToken ▸ zero,
              sameInternal, ?_⟩
            rw [Option.isNone_iff_eq_none] at sizes
            rw [sizes]

/-- The checks of a group are defined. -/
theorem defined_checkBindGroup
    (bindGroups : BoundGroups)
    (pipeline : RenderPipeline)
    (i : BindGroupIndex) :
    Defined (checkBindGroup bindGroups pipeline i) := by
  rw [checkBindGroup]
  split
  · exact defined_pure ()
  · split
    · exact defined_validationError _ _
    · refine defined_invalidIf_bind fun _ => defined_invalidIf_bind fun _ =>
        defined_invalidIf_bind fun _ => ?_
      split
      · exact defined_pure ()
      · rename_i found
        exact defined_undersizedBuffer found i

/-- The groups match if no check finds an error. -/
theorem bindGroupsMatch_iff
    {bindGroups : BoundGroups} :
    bindGroupsMatch bindGroups pipeline = true ↔
      (∀ i, checkBindGroup bindGroups pipeline i = pure ()) ∧
        findStorageBufferBindingAliasing pipeline.layout bindGroups =
          none := by
  rw [bindGroupsMatch, Bool.and_eq_true, List.all_eq_true,
    Option.isNone_iff_eq_none]
  refine and_congr_left fun _ => ?_
  simp only [List.mem_finRange, true_implies, checkBindGroup_eq_pure]
  refine forall_congr' fun i => ?_
  cases pipeline.layout i with
  | none =>
      simp
  | some requiredBGL =>
      cases bindGroups i with
      | none =>
          simp
      | some bound =>
          simp

/-- Bind groups that do not hold have an error. -/
theorem defined_checkMissingBindGroups
    (set : tracker.mLastPipeline = some pipeline)
    (missing : tracker.lazyAspectHolds pipeline .bindGroups = false) :
    Defined tracker.checkMissingBindGroups := by
  rw [checkMissingBindGroups, getRenderPipeline_of_eq_some set, pure_bind]
  refine Defined.bind
    (defined_forM fun i _ => defined_checkBindGroup _ _ i)
    fun _ passed => ?_
  split
  · exact defined_validationError _ _
  · exact defined_validationError _ _
  · rename_i noAliasing
    have groups := forM_eq_pure.mp passed
    have holds :=
      bindGroupsMatch_iff.mpr
        ⟨fun i => groups i (List.mem_finRange i), noAliasing⟩
    rw [lazyAspectHolds] at missing
    simp [missing] at holds

/-- An error is found for whichever aspects are missing. -/
theorem defined_checkMissingAspects
    (set : tracker.mLastPipeline = some pipeline)
    (missing :
      ∀ aspect ∈ aspects,
        tracker.lazyAspectHolds pipeline aspect = false) :
    Defined (tracker.checkMissingAspects aspects) := by
  rw [checkMissingAspects]
  split
  · rename_i some
    refine defined_invalidIf_bind fun noPipeline => ?_
    split
    · rename_i member
      exact defined_checkMissingIndexBuffer set (missing _ member)
    · split
      · rename_i member
        exact defined_checkMissingVertexBuffers set (missing _ member)
      · split
        · rename_i member
          exact defined_checkMissingBindGroups set (missing _ member)
        · rename_i noIndex noVertex noGroups
          obtain ⟨aspect, member⟩ := Finset.nonempty_iff_ne_empty.mpr some
          cases aspect <;> contradiction
  · simp

/-! ## Validating with a pipeline -/

/-- The tracker with what a validation has just found remembered. -/
def remember
    (tracker : CommandBufferStateTracker)
    (pipeline : RenderPipeline)
    (requiredAspects : ValidationAspects) : CommandBufferStateTracker :=
  { tracker with
    mAspects :=
      CheckedAspects.recompute (tracker.lazyAspectHolds pipeline)
        (requiredAspects \ tracker.mAspects) tracker.mAspects }

/-- What a validation finds missing although it looked again. -/
def missingAspects
    (tracker : CommandBufferStateTracker)
    (pipeline : RenderPipeline)
    (requiredAspects : ValidationAspects) : ValidationAspects :=
  requiredAspects.filter fun aspect =>
    aspect ∉ tracker.mAspects ∧
      tracker.lazyAspectHolds pipeline aspect = false

/-- With a pipeline set, an error is looked for where aspects fail. -/
theorem validateOperation_of_pipeline
    (set : tracker.mLastPipeline = some pipeline)
    (remembered : .pipeline ∈ tracker.mAspects) :
    tracker.validateOperation required =
      (tracker.checkMissingAspects
        (tracker.missingAspects pipeline required)).run.map
        (·, tracker.remember pipeline required) := by
  have found :
      required \ (tracker.remember pipeline required).mAspects =
        tracker.missingAspects pipeline required :=
    CheckedAspects.sdiff_recompute _
  rw [validateOperation]
  split
  · rename_i nothing
    have noneMissing : tracker.missingAspects pipeline required = ∅ := by
      rw [← found, Finset.sdiff_eq_empty_iff_subset]
      exact (Finset.sdiff_eq_empty_iff_subset.mp nothing).trans
        Finset.subset_union_left
    have same : tracker.remember pipeline required = tracker := by
      simp [remember, nothing, CheckedAspects.recompute]
    rw [noneMissing, same, checkMissingAspects_eq_pure.mpr rfl]
    rfl
  · have nonLazy : (required \ tracker.mAspects) \ kLazyAspects = ∅ := by
      ext aspect
      cases aspect <;> simp [kLazyAspects, remembered]
    rw [nonLazy, checkMissingAspects_eq_pure.mpr rfl]
    have recomputed :
        tracker.recomputeLazyAspects (required \ tracker.mAspects) =
          some (tracker.remember pipeline required) := by
      simp [recomputeLazyAspects, set, remember]
    simp only [ExceptT.run_pure]
    show (tracker.recomputeLazyAspects _).bind _ = _
    rw [recomputed, Option.bind_some, found]
    rfl

/-- Before a pipeline is set, this is the error. -/
theorem validateOperation_of_no_pipeline
    (notRemembered : .pipeline ∉ tracker.mAspects)
    (isRequired : .pipeline ∈ required) :
    tracker.validateOperation required =
      some (.error ⟨"No pipeline set.", [], []⟩, tracker) := by
  have missing : .pipeline ∈ required \ tracker.mAspects :=
    Finset.mem_sdiff.mpr ⟨isRequired, notRemembered⟩
  have nonLazy :
      .pipeline ∈ (required \ tracker.mAspects) \ kLazyAspects := by
    simpa [kLazyAspects] using missing
  have failed :
      tracker.checkMissingAspects
          ((required \ tracker.mAspects) \ kLazyAspects) =
        throw ⟨"No pipeline set.", [], []⟩ := by
    rw [checkMissingAspects, if_pos (Finset.ne_empty_of_mem nonLazy),
      invalidIf, if_pos nonLazy]
    rfl
  rw [validateOperation, if_neg (Finset.ne_empty_of_mem missing), failed]
  rfl

end CommandBufferStateTracker

end Teck.Dawn
