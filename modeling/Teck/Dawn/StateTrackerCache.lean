import Teck.Dawn.StateTrackerSpec
import Teck.Library.Runs

namespace Teck.Dawn

/-!
# Remembered aspects do not change a verdict

In every run of calls the tracker remembers only aspects that still hold, so a
validation answers as if it had looked at everything again.  There are two
exceptions: `SetIndexBuffer` forgets nothing, not even the format; and `End`
drops the pipeline but not what was remembered with it.
-/

/-- What a pass asks its tracker. -/
inductive TrackerCall where
  | setRenderPipeline (pipeline : RenderPipeline)
  | unsetBindGroup (index : BindGroupIndex)
  | setBindGroup
      (index : BindGroupIndex)
      (bindgroup : BindGroup)
      (dynamicOffsets : List Nat)
  | setIndexBuffer (format : IndexFormat) (size : Nat)
  | unsetVertexBuffer (slot : VertexBufferSlot)
  | setVertexBuffer (slot : VertexBufferSlot) (size : Nat)
  | «end»
  | validateCanDraw
  | validateCanDrawIndexed

namespace CommandBufferStateTracker

open CheckedAspects

variable {tracker next : CommandBufferStateTracker}
variable {pipeline : RenderPipeline} {required : ValidationAspects}

/-- One call, unless it reads a pipeline that is not there. -/
def step?
    (tracker : CommandBufferStateTracker) :
    TrackerCall → Option CommandBufferStateTracker
  | .setRenderPipeline pipeline => some (tracker.setRenderPipeline pipeline)
  | .unsetBindGroup index => some (tracker.unsetBindGroup index)
  | .setBindGroup index bindgroup dynamicOffsets =>
      some (tracker.setBindGroup index bindgroup dynamicOffsets)
  | .setIndexBuffer format size => some (tracker.setIndexBuffer format size)
  | .unsetVertexBuffer slot => some (tracker.unsetVertexBuffer slot)
  | .setVertexBuffer slot size => some (tracker.setVertexBuffer slot size)
  | .«end» => some tracker.end
  | .validateCanDraw => tracker.validateCanDraw.map Prod.snd
  | .validateCanDrawIndexed => tracker.validateCanDrawIndexed.map Prod.snd

/-- What remembering an aspect stands for, the index format left open. -/
def RememberedHolds
    (pipeline : RenderPipeline)
    (tracker : CommandBufferStateTracker) : ValidationAspect → Prop
  | .indexBuffer => tracker.mIndexBufferSet = true
  | aspect => tracker.lazyAspectHolds pipeline aspect = true

/-- What was remembered holds, and nothing was before there is a pipeline. -/
structure Remembers (tracker : CommandBufferStateTracker) : Prop where
  unset : tracker.mLastPipeline = none → tracker.mAspects = ∅
  set :
    ∀ pipeline, tracker.mLastPipeline = some pipeline →
      .pipeline ∈ tracker.mAspects ∧
        Coherent (RememberedHolds pipeline) tracker tracker.mAspects

/-- A new tracker remembers nothing. -/
theorem remembers_new : new.Remembers where
  unset := fun _ => rfl
  set := by simp [new]

/-- An aspect that is found to hold may be remembered. -/
theorem rememberedHolds_of_lazyAspectHolds
    {aspect : ValidationAspect}
    (holds : tracker.lazyAspectHolds pipeline aspect = true) :
    RememberedHolds pipeline tracker aspect := by
  cases aspect with
  | pipeline => exact holds
  | bindGroups => exact holds
  | vertexBuffers => exact holds
  | indexBuffer => exact (Bool.and_eq_true_iff.mp holds).1

namespace Remembers

/-- A call that forgets one lazy aspect and touches no other. -/
theorem change
    (remembers : tracker.Remembers)
    (aspect : ValidationAspect)
    (samePipeline : next.mLastPipeline = tracker.mLastPipeline)
    (forgets : next.mAspects = tracker.mAspects \ {aspect})
    (lazy : aspect ≠ .pipeline)
    (kept :
      ∀ pipeline other, other ≠ aspect →
        RememberedHolds pipeline tracker other →
          RememberedHolds pipeline next other) :
    next.Remembers where
  unset := by
    intro unset
    rw [forgets, remembers.unset (samePipeline ▸ unset)]
    rfl
  set := by
    intro pipeline set
    obtain ⟨remembered, coherent⟩ :=
      remembers.set pipeline (samePipeline ▸ set)
    rw [forgets]
    constructor
    · simpa [remembered] using lazy.symm
    · refine coherent.change fun other _ unchanged => ?_
      exact kept pipeline other (by simpa using unchanged)

/-- A call that forgets nothing. -/
theorem keep
    (remembers : tracker.Remembers)
    (samePipeline : next.mLastPipeline = tracker.mLastPipeline)
    (sameAspects : next.mAspects = tracker.mAspects)
    (kept :
      ∀ pipeline aspect,
        RememberedHolds pipeline tracker aspect →
          RememberedHolds pipeline next aspect) :
    next.Remembers where
  unset := by
    intro unset
    rw [sameAspects, remembers.unset (samePipeline ▸ unset)]
  set := by
    intro pipeline set
    obtain ⟨remembered, coherent⟩ :=
      remembers.set pipeline (samePipeline ▸ set)
    rw [sameAspects]
    exact
      ⟨remembered, fun aspect member =>
        kept pipeline aspect (coherent aspect member)⟩

/-- Setting a pipeline forgets all that depends on it. -/
theorem setRenderPipeline
    (tracker : CommandBufferStateTracker)
    (pipeline : RenderPipeline) :
    (tracker.setRenderPipeline pipeline).Remembers where
  unset := nofun
  set := by
    intro other same
    obtain rfl : pipeline = other := Option.some.inj same
    constructor
    · simp [CommandBufferStateTracker.setRenderPipeline, kLazyAspects]
    · intro aspect member
      cases aspect with
      | pipeline => rfl
      | bindGroups =>
          simp [CommandBufferStateTracker.setRenderPipeline, kLazyAspects]
            at member
      | vertexBuffers =>
          simp [CommandBufferStateTracker.setRenderPipeline, kLazyAspects]
            at member
      | indexBuffer =>
          simp [CommandBufferStateTracker.setRenderPipeline, kLazyAspects]
            at member

/-- Unsetting a group forgets about the groups. -/
theorem unsetBindGroup
    (remembers : tracker.Remembers)
    (index : BindGroupIndex) :
    (tracker.unsetBindGroup index).Remembers := by
  refine remembers.change .bindGroups rfl rfl nofun ?_
  intro pipeline other different holds
  cases other with
  | bindGroups => contradiction
  | _ => exact holds

/-- Setting a group forgets about the groups. -/
theorem setBindGroup
    (remembers : tracker.Remembers)
    (index : BindGroupIndex)
    (bindgroup : BindGroup)
    (dynamicOffsets : List Nat) :
    (tracker.setBindGroup index bindgroup dynamicOffsets).Remembers := by
  refine remembers.change .bindGroups rfl rfl nofun ?_
  intro pipeline other different holds
  cases other with
  | bindGroups => contradiction
  | _ => exact holds

/-- Once an index buffer is set, one stays set. -/
theorem setIndexBuffer
    (remembers : tracker.Remembers)
    (format : IndexFormat)
    (size : Nat) :
    (tracker.setIndexBuffer format size).Remembers := by
  refine remembers.keep rfl rfl ?_
  intro pipeline aspect holds
  cases aspect with
  | indexBuffer => rfl
  | _ => exact holds

/-- Unsetting a vertex buffer forgets about them. -/
theorem unsetVertexBuffer
    (remembers : tracker.Remembers)
    (slot : VertexBufferSlot) :
    (tracker.unsetVertexBuffer slot).Remembers := by
  refine remembers.change .vertexBuffers rfl rfl nofun ?_
  intro pipeline other different holds
  cases other with
  | vertexBuffers => contradiction
  | _ => exact holds

/-- Setting a vertex buffer takes none away. -/
theorem setVertexBuffer
    (remembers : tracker.Remembers)
    (slot : VertexBufferSlot)
    (size : Nat) :
    (tracker.setVertexBuffer slot size).Remembers := by
  refine remembers.keep rfl rfl ?_
  intro pipeline aspect holds
  cases aspect with
  | vertexBuffers =>
      have isSet := of_decide_eq_true holds
      exact decide_eq_true (isSet.trans (Finset.subset_insert _ _))
  | _ => exact holds

/-- What a validation finds to hold is added. -/
theorem remember
    (remembers : tracker.Remembers)
    (set : tracker.mLastPipeline = some pipeline)
    (required : ValidationAspects) :
    (tracker.remember pipeline required).Remembers where
  unset := by simp [CommandBufferStateTracker.remember, set]
  set := by
    intro other same
    obtain rfl : pipeline = other :=
      Option.some.inj (set.symm.trans same)
    obtain ⟨remembered, coherent⟩ := remembers.set pipeline set
    refine ⟨Finset.mem_union_left _ remembered, ?_⟩
    have recomputed :=
      coherent.recompute
        fun aspect (_ : aspect ∈ required \ tracker.mAspects) holds =>
          rememberedHolds_of_lazyAspectHolds holds
    intro aspect member
    have holds := recomputed aspect member
    cases aspect <;> exact holds

/-- A validation that requires a pipeline always answers. -/
theorem validateOperation
    (remembers : tracker.Remembers)
    (isRequired : .pipeline ∈ required) :
    ∃ verdict next,
      tracker.validateOperation required = some (verdict, next) ∧
        next.Remembers := by
  cases set : tracker.mLastPipeline with
  | none =>
      refine ⟨_, tracker, validateOperation_of_no_pipeline ?_ isRequired,
        remembers⟩
      simp [remembers.unset set]
  | some pipeline =>
      obtain ⟨remembered, -⟩ := remembers.set pipeline set
      have defined :
          ResultOrError.Defined
            (tracker.checkMissingAspects
              (tracker.missingAspects pipeline required)) :=
        defined_checkMissingAspects set
          fun aspect member => (Finset.mem_filter.mp member).2.2
      rw [validateOperation_of_pipeline set remembered]
      match outcome :
          (tracker.checkMissingAspects
            (tracker.missingAspects pipeline required)).run with
      | none =>
          exact absurd outcome defined
      | some verdict =>
          exact ⟨verdict, _, rfl, remembers.remember set required⟩

end Remembers

/-! ## After `End` -/

/-- A pipeline is remembered that `End` has dropped. -/
def Ended (tracker : CommandBufferStateTracker) : Prop :=
  .pipeline ∈ tracker.mAspects ∧ tracker.mLastPipeline = none

instance (tracker : CommandBufferStateTracker) :
    Decidable tracker.Ended :=
  inferInstanceAs (Decidable (_ ∧ _))

/-- `End` leaves a tracker that never had a pipeline as good as new. -/
theorem Remembers.end
    (remembers : tracker.Remembers) :
    tracker.end.Remembers ∨ tracker.end.Ended := by
  cases set : tracker.mLastPipeline with
  | none =>
      exact .inl { unset := fun _ => remembers.unset set, set := nofun }
  | some pipeline =>
      exact .inr ⟨(remembers.set pipeline set).1, rfl⟩

namespace Ended

/-- Only what is not remembered is looked at, and finds no pipeline. -/
theorem validateOperation
    (ended : tracker.Ended)
    (required : ValidationAspects) :
    tracker.validateOperation required =
      if required ⊆ tracker.mAspects then
        some (.ok (), tracker)
      else if tracker.readsPipeline (required \ tracker.mAspects) then
        none
      else
        (tracker.checkMissingAspects
          (required \ tracker.mAspects)).run.map (·, tracker) := by
  have nonLazy : (required \ tracker.mAspects) \ kLazyAspects = ∅ := by
    ext aspect
    cases aspect <;> simp [kLazyAspects, ended.1]
  have passed :
      tracker.checkMissingAspects
          ((required \ tracker.mAspects) \ kLazyAspects) =
        pure () :=
    checkMissingAspects_eq_pure.mpr nonLazy
  have recomputed :
      tracker.recomputeLazyAspects (required \ tracker.mAspects) =
        if tracker.readsPipeline (required \ tracker.mAspects) then none
        else some tracker := by
    rw [recomputeLazyAspects, ended.2]
  simp only [CommandBufferStateTracker.validateOperation,
    Finset.sdiff_eq_empty_iff_subset]
  split
  · rfl
  · rw [passed]
    simp only [ExceptT.run_pure]
    show (tracker.recomputeLazyAspects _).bind _ = _
    rw [recomputed]
    split <;> rfl

/-- A validation that answers leaves the tracker as it is. -/
theorem eq_of_validateOperation
    {verdict : Except ValidationError Unit}
    (ended : tracker.Ended)
    (validated :
      tracker.validateOperation required = some (verdict, next)) :
    next = tracker := by
  rw [ended.validateOperation] at validated
  split at validated
  · exact (Prod.mk.inj (Option.some.inj validated)).2.symm
  · split at validated
    · cases validated
    · obtain ⟨_, -, same⟩ := Option.map_eq_some_iff.mp validated
      exact (Prod.mk.inj same).2.symm

/-- Only a new pipeline takes a tracker out of this state. -/
theorem step
    {call : TrackerCall}
    (ended : tracker.Ended)
    (stepped : tracker.step? call = some next) :
    next.Remembers ∨ next.Ended := by
  have stillRemembered :
      ∀ aspect, aspect ≠ .pipeline →
        .pipeline ∈ tracker.mAspects \ {aspect} := by
    intro aspect lazy
    simpa [ended.1] using lazy.symm
  cases call with
  | setRenderPipeline pipeline =>
      exact .inl
        (Option.some.inj stepped ▸
          Remembers.setRenderPipeline tracker pipeline)
  | unsetBindGroup index =>
      obtain rfl := Option.some.inj stepped
      exact .inr ⟨stillRemembered .bindGroups nofun, ended.2⟩
  | setBindGroup index bindgroup dynamicOffsets =>
      obtain rfl := Option.some.inj stepped
      exact .inr ⟨stillRemembered .bindGroups nofun, ended.2⟩
  | setIndexBuffer format size =>
      exact .inr (Option.some.inj stepped ▸ ended)
  | unsetVertexBuffer slot =>
      obtain rfl := Option.some.inj stepped
      exact .inr ⟨stillRemembered .vertexBuffers nofun, ended.2⟩
  | setVertexBuffer slot size =>
      exact .inr (Option.some.inj stepped ▸ ended)
  | «end» =>
      obtain rfl := Option.some.inj stepped
      exact .inr ⟨ended.1, rfl⟩
  | validateCanDraw =>
      obtain ⟨⟨verdict, after⟩, validated, rfl⟩ :=
        Option.map_eq_some_iff.mp stepped
      exact .inr (ended.eq_of_validateOperation validated ▸ ended)
  | validateCanDrawIndexed =>
      obtain ⟨⟨verdict, after⟩, validated, rfl⟩ :=
        Option.map_eq_some_iff.mp stepped
      exact .inr (ended.eq_of_validateOperation validated ▸ ended)

end Ended

/-- A tracker remembers what holds until it is ended. -/
theorem Remembers.step
    {call : TrackerCall}
    (remembers : tracker.Remembers)
    (stepped : tracker.step? call = some next) :
    next.Remembers ∨ next.Ended := by
  cases call with
  | setRenderPipeline pipeline =>
      exact .inl
        (Option.some.inj stepped ▸ setRenderPipeline tracker pipeline)
  | unsetBindGroup index =>
      exact .inl
        (Option.some.inj stepped ▸ remembers.unsetBindGroup index)
  | setBindGroup index bindgroup dynamicOffsets =>
      exact .inl
        (Option.some.inj stepped ▸
          remembers.setBindGroup index bindgroup dynamicOffsets)
  | setIndexBuffer format size =>
      exact .inl
        (Option.some.inj stepped ▸ remembers.setIndexBuffer format size)
  | unsetVertexBuffer slot =>
      exact .inl
        (Option.some.inj stepped ▸ remembers.unsetVertexBuffer slot)
  | setVertexBuffer slot size =>
      exact .inl
        (Option.some.inj stepped ▸ remembers.setVertexBuffer slot size)
  | «end» =>
      exact Option.some.inj stepped ▸ remembers.end
  | validateCanDraw =>
      obtain ⟨verdict, after, validated, kept⟩ :=
        remembers.validateOperation
          (by simp [kDrawAspects] : .pipeline ∈ kDrawAspects)
      rw [step?, validateCanDraw, validated] at stepped
      exact .inl (Option.some.inj stepped ▸ kept)
  | validateCanDrawIndexed =>
      obtain ⟨verdict, after, validated, kept⟩ :=
        remembers.validateOperation
          (by simp [kDrawIndexedAspects] : .pipeline ∈ kDrawIndexedAspects)
      rw [step?, validateCanDrawIndexed, validated] at stepped
      exact .inl (Option.some.inj stepped ▸ kept)

/-- After any calls the tracker remembers what holds, or was ended. -/
theorem remembers_or_ended_of_run
    {calls : List TrackerCall}
    (ran : Runs.run? step? new calls = some tracker) :
    tracker.Remembers ∨ tracker.Ended := by
  have preserved :
      ∀ {state call next},
        state.Remembers ∨ state.Ended →
          step? state call = some next →
          next.Remembers ∨ next.Ended := by
    rintro state call next (remembers | ended) stepped
    · exact remembers.step stepped
    · exact ended.step stepped
  exact Runs.invariant_of_run preserved (.inl remembers_new) ran

/-! ## Against a tracker that forgets -/

/-- The tracker with no lazy aspect remembered. -/
def forget
    (tracker : CommandBufferStateTracker) : CommandBufferStateTracker :=
  { tracker with mAspects := tracker.mAspects \ kLazyAspects }

/-- What a validation answers. -/
def verdict
    (tracker : CommandBufferStateTracker)
    (required : ValidationAspects) : Option (Except ValidationError Unit) :=
  (tracker.validateOperation required).map Prod.fst

/-- An index format was remembered as valid and is not any more. -/
def StaleIndexFormat (tracker : CommandBufferStateTracker) : Prop :=
  .indexBuffer ∈ tracker.mAspects ∧
    (tracker.mLastPipeline.all
      (indexFormatMatches tracker.mIndexFormat)) = false

instance (tracker : CommandBufferStateTracker) :
    Decidable tracker.StaleIndexFormat :=
  inferInstanceAs (Decidable (_ ∧ _))

/-- With a pipeline set, the answer is the error for what is missing. -/
theorem verdict_of_pipeline
    (set : tracker.mLastPipeline = some pipeline)
    (remembered : .pipeline ∈ tracker.mAspects) :
    tracker.verdict required =
      (tracker.checkMissingAspects
        (tracker.missingAspects pipeline required)).run := by
  rw [verdict, validateOperation_of_pipeline set remembered, Option.map_map]
  exact Option.map_id'

/-- A forgetful tracker finds missing whatever does not hold. -/
theorem missingAspects_forget :
    tracker.forget.missingAspects pipeline required =
      required.filter fun aspect =>
        tracker.lazyAspectHolds pipeline aspect = false := by
  refine Finset.filter_congr fun aspect _ => ?_
  have sameHolds :
      tracker.forget.lazyAspectHolds pipeline aspect =
        tracker.lazyAspectHolds pipeline aspect := by
    cases aspect <;> rfl
  rw [sameHolds]
  refine ⟨And.right, fun failed => ⟨?_, failed⟩⟩
  cases aspect with
  | pipeline => simp [lazyAspectHolds] at failed
  | _ => simp [forget, kLazyAspects]

/-- Without a memory, whatever fails is missing. -/
theorem verdict_forget_of_pipeline
    (set : tracker.mLastPipeline = some pipeline)
    (remembered : .pipeline ∈ tracker.mAspects) :
    tracker.forget.verdict required =
      (tracker.checkMissingAspects
        (required.filter fun aspect =>
          tracker.lazyAspectHolds pipeline aspect = false)).run := by
  have stillRemembered : .pipeline ∈ tracker.forget.mAspects := by
    simp [forget, kLazyAspects, remembered]
  rw [← missingAspects_forget]
  exact verdict_of_pipeline set stillRemembered

/-- What is missing with and without what was remembered. -/
theorem Remembers.missingAspects
    (remembers : tracker.Remembers)
    (set : tracker.mLastPipeline = some pipeline)
    (fresh :
      .indexBuffer ∈ required →
        .indexBuffer ∈ tracker.mAspects →
          indexFormatMatches tracker.mIndexFormat pipeline = true) :
    tracker.missingAspects pipeline required =
      required.filter fun aspect =>
        tracker.lazyAspectHolds pipeline aspect = false := by
  obtain ⟨-, coherent⟩ := remembers.set pipeline set
  refine Finset.filter_congr fun aspect isRequired => ?_
  refine ⟨And.right, fun failed => ⟨fun known => ?_, failed⟩⟩
  have holds := coherent aspect known
  cases aspect with
  | indexBuffer =>
      have isSet : tracker.mIndexBufferSet = true := holds
      simp [lazyAspectHolds, isSet, fresh isRequired known] at failed
  | _ => exact absurd (failed.symm.trans holds) Bool.false_ne_true

/-- With a stale format the index buffer is not looked at. -/
theorem Remembers.missingAspects_of_stale
    (remembers : tracker.Remembers)
    (set : tracker.mLastPipeline = some pipeline)
    (known : .indexBuffer ∈ tracker.mAspects) :
    tracker.missingAspects pipeline kDrawIndexedAspects =
      kDrawAspects.filter fun aspect =>
        tracker.lazyAspectHolds pipeline aspect = false := by
  have draw :
      tracker.missingAspects pipeline kDrawAspects =
        kDrawAspects.filter fun aspect =>
          tracker.lazyAspectHolds pipeline aspect = false :=
    remembers.missingAspects set (by simp [kDrawAspects])
  rw [← draw]
  ext aspect
  cases aspect <;>
    simp [CommandBufferStateTracker.missingAspects, kDrawAspects,
      kDrawIndexedAspects, known]

/-- A tracker without a memory finds the index format to be wrong. -/
theorem verdict_indexed_of_stale
    (set : tracker.mLastPipeline = some pipeline)
    (remembered : .pipeline ∈ tracker.mAspects)
    (differs : indexFormatMatches tracker.mIndexFormat pipeline = false) :
    ∃ error,
      tracker.forget.verdict kDrawIndexedAspects = some (.error error) := by
  rw [verdict_forget_of_pipeline set remembered]
  have missing :
      .indexBuffer ∈
        kDrawIndexedAspects.filter fun aspect =>
          tracker.lazyAspectHolds pipeline aspect = false := by
    simp [kDrawIndexedAspects, lazyAspectHolds, differs]
  have defined :=
    defined_checkMissingAspects set
      fun aspect (member : aspect ∈ kDrawIndexedAspects.filter _) =>
        (Finset.mem_filter.mp member).2
  rcases ResultOrError.cases_run
    (tracker.checkMissingAspects
      (kDrawIndexedAspects.filter fun aspect =>
        tracker.lazyAspectHolds pipeline aspect = false)) with
    undefinedOutcome | ⟨error, failed⟩ | ⟨result, passed⟩
  · exact absurd undefinedOutcome defined
  · exact ⟨error, congrArg ExceptT.run failed⟩
  · rw [checkMissingAspects_eq_pure.mp passed] at missing
    simp at missing

/-- Without a pipeline nothing was remembered. -/
theorem Remembers.forget_of_unset
    (remembers : tracker.Remembers)
    (unset : tracker.mLastPipeline = none) :
    tracker.forget = tracker := by
  have nothing := remembers.unset unset
  rcases tracker with ⟨mAspects⟩
  obtain rfl : mAspects = ∅ := nothing
  rfl

/-- Before `End`, the memory changes a verdict only for a stale format. -/
theorem Remembers.verdict_eq_forget
    (remembers : tracker.Remembers) :
    tracker.verdict kDrawAspects = tracker.forget.verdict kDrawAspects ∧
      (¬ tracker.StaleIndexFormat →
        tracker.verdict kDrawIndexedAspects =
          tracker.forget.verdict kDrawIndexedAspects) ∧
      (tracker.StaleIndexFormat →
        tracker.verdict kDrawIndexedAspects =
            tracker.forget.verdict kDrawAspects ∧
          ∃ error,
            tracker.forget.verdict kDrawIndexedAspects =
              some (.error error)) := by
  cases set : tracker.mLastPipeline with
  | none =>
      rw [remembers.forget_of_unset set]
      refine ⟨rfl, fun _ => rfl, ?_⟩
      rintro ⟨-, differs⟩
      simp [set] at differs
  | some pipeline =>
      obtain ⟨remembered, -⟩ := remembers.set pipeline set
      refine ⟨?_, ?_, ?_⟩
      · rw [verdict_of_pipeline set remembered,
          verdict_forget_of_pipeline set remembered,
          remembers.missingAspects set (by simp [kDrawAspects])]
      · intro notStale
        rw [verdict_of_pipeline set remembered,
          verdict_forget_of_pipeline set remembered,
          remembers.missingAspects set]
        intro _ known
        by_contra differs
        exact notStale ⟨known, by simpa [set] using differs⟩
      · rintro ⟨known, differs⟩
        rw [set, Option.all_some] at differs
        refine ⟨?_, verdict_indexed_of_stale set remembered differs⟩
        rw [verdict_of_pipeline set remembered,
          verdict_forget_of_pipeline set remembered,
          remembers.missingAspects_of_stale set known]

namespace Ended

/-- An ended tracker has nothing to remember once it forgets. -/
theorem forget
    (ended : tracker.Ended) :
    tracker.forget.Ended := by
  refine ⟨?_, ended.2⟩
  simp [CommandBufferStateTracker.forget, kLazyAspects, ended.1]

/-- What an ended tracker answers: what it remembers, and no more. -/
theorem verdict
    (ended : tracker.Ended)
    (required : ValidationAspects) :
    tracker.verdict required =
      if required ⊆ tracker.mAspects then
        some (.ok ())
      else if tracker.readsPipeline (required \ tracker.mAspects) then
        none
      else
        (tracker.checkMissingAspects
          (required \ tracker.mAspects)).run := by
  rw [CommandBufferStateTracker.verdict, ended.validateOperation]
  split
  · rfl
  · split
    · rfl
    · rw [Option.map_map]
      exact Option.map_id'

/-- A draw with an aspect missing reads the pipeline that was dropped. -/
theorem verdict_draw
    (ended : tracker.Ended) :
    tracker.verdict kDrawAspects =
      if kDrawAspects ⊆ tracker.mAspects then some (.ok ()) else none := by
  rw [ended.verdict]
  split
  · rfl
  · rename_i missing
    obtain ⟨aspect, isRequired, unknown⟩ := Finset.not_subset.mp missing
    have reads :
        tracker.readsPipeline (kDrawAspects \ tracker.mAspects) = true := by
      have member := Finset.mem_sdiff.mpr ⟨isRequired, unknown⟩
      cases aspect with
      | pipeline => exact absurd ended.1 unknown
      | bindGroups => simp [readsPipeline, member]
      | vertexBuffers => simp [readsPipeline, member]
      | indexBuffer => simp [kDrawAspects] at isRequired
    rw [if_pos reads]

/-- An indexed draw may still find that there is no index buffer. -/
theorem verdict_indexed
    (ended : tracker.Ended) :
    tracker.verdict kDrawIndexedAspects =
      if kDrawIndexedAspects ⊆ tracker.mAspects then
        some (.ok ())
      else if
          kDrawAspects ⊆ tracker.mAspects ∧
            tracker.mIndexBufferSet = false then
        some (.error ⟨"Index buffer was not set.", [], []⟩)
      else
        none := by
  rw [ended.verdict]
  split
  · rfl
  · rename_i missing
    by_cases rest : kDrawAspects ⊆ tracker.mAspects
    · -- Only the index buffer is missing.
      have noIndex : .indexBuffer ∉ tracker.mAspects := by
        intro known
        refine missing fun aspect isRequired => ?_
        cases aspect with
        | indexBuffer => exact known
        | _ => exact rest (by simp [kDrawAspects])
      have onlyIndex :
          kDrawIndexedAspects \ tracker.mAspects = {.indexBuffer} := by
        ext aspect
        cases aspect with
        | indexBuffer => simp [kDrawIndexedAspects, noIndex]
        | _ =>
            refine iff_of_false (fun member => ?_) (by simp)
            exact
              (Finset.mem_sdiff.mp member).2 (rest (by simp [kDrawAspects]))
      rw [onlyIndex]
      cases isSet : tracker.mIndexBufferSet with
      | false =>
          rw [if_neg (by simp [readsPipeline, isSet]),
            if_pos ⟨rest, rfl⟩]
          rw [checkMissingAspects, if_pos (Finset.singleton_ne_empty _),
            invalidIf, if_neg (by simp), if_pos (by simp),
            checkMissingIndexBuffer, invalidIf, if_pos isSet]
          rfl
      | true =>
          rw [if_pos (by simp [readsPipeline, isSet]), if_neg (by simp)]
    · obtain ⟨aspect, isRequired, unknown⟩ := Finset.not_subset.mp rest
      have reads :
          tracker.readsPipeline
              (kDrawIndexedAspects \ tracker.mAspects) =
            true := by
        cases aspect with
        | pipeline => exact absurd ended.1 unknown
        | bindGroups =>
            simp [readsPipeline, kDrawIndexedAspects, unknown]
        | vertexBuffers =>
            simp [readsPipeline, kDrawIndexedAspects, unknown]
        | indexBuffer => simp [kDrawAspects] at isRequired
      rw [if_pos reads, if_neg fun both => rest both.1]

end Ended

/--
After any calls, validation answers what a tracker without a memory would, its
errors included.  An index format that became stale is the exception: an
indexed draw is then judged like a draw, where a tracker without a memory
always finds an error.  After `End` a tracker without a memory reads a null
pipeline; one with a memory accepts what it remembers in full and reads it too
otherwise, unless only an index buffer is missing that was never set.
-/
theorem verdict_eq_verdict_forget
    {calls : List TrackerCall}
    (ran : Runs.run? step? new calls = some tracker) :
    (¬ tracker.Ended →
      tracker.verdict kDrawAspects = tracker.forget.verdict kDrawAspects ∧
        (¬ tracker.StaleIndexFormat →
          tracker.verdict kDrawIndexedAspects =
            tracker.forget.verdict kDrawIndexedAspects) ∧
        (tracker.StaleIndexFormat →
          tracker.verdict kDrawIndexedAspects =
              tracker.forget.verdict kDrawAspects ∧
            ∃ error,
              tracker.forget.verdict kDrawIndexedAspects =
                some (.error error))) ∧
      (tracker.Ended →
        tracker.forget.verdict kDrawAspects = none ∧
          tracker.forget.verdict kDrawIndexedAspects = none ∧
          tracker.verdict kDrawAspects =
            (if kDrawAspects ⊆ tracker.mAspects then some (.ok ())
              else none) ∧
          tracker.verdict kDrawIndexedAspects =
            if kDrawIndexedAspects ⊆ tracker.mAspects then
              some (.ok ())
            else if
                kDrawAspects ⊆ tracker.mAspects ∧
                  tracker.mIndexBufferSet = false then
              some (.error ⟨"Index buffer was not set.", [], []⟩)
            else
              none) := by
  refine ⟨fun notEnded => ?_, fun ended => ?_⟩
  · have remembers :=
      (remembers_or_ended_of_run ran).resolve_right notEnded
    exact remembers.verdict_eq_forget
  · have lacks :
        ∀ required : ValidationAspects,
          .bindGroups ∈ required → ¬ required ⊆ tracker.forget.mAspects := by
      intro required isRequired inside
      have known := inside isRequired
      simp [forget, kLazyAspects] at known
    refine ⟨?_, ?_, ended.verdict_draw, ended.verdict_indexed⟩
    · rw [ended.forget.verdict_draw,
        if_neg (lacks _ (by simp [kDrawAspects]))]
    · rw [ended.forget.verdict_indexed,
        if_neg (lacks _ (by simp [kDrawIndexedAspects])),
        if_neg fun both => lacks _ (by simp [kDrawAspects]) both.1]

/-- A line strip with indices of sixteen bits, without bind groups. -/
def stripPipeline : RenderPipeline where
  object := ⟨0, false⟩
  attachmentState := 0
  writesDepth := true
  writesStencil := false
  primitiveTopology := .LineStrip
  stripIndexFormat := .Uint16
  vertexBuffer := fun slot =>
    if slot = 0 then some ⟨20, .Vertex, [⟨0, 8⟩, ⟨8, 12⟩]⟩ else none
  layout := fun _ => none
  minBufferSizes := fun _ => []

/-- The format of the index buffer changes after an indexed draw. -/
theorem verdict_eq_verdict_forget_formatChange :
    ∃ tracker,
      Runs.run? step? new
            [ .setRenderPipeline stripPipeline, .setVertexBuffer 0 80,
              .setIndexBuffer .Uint16 8, .validateCanDrawIndexed,
              .setIndexBuffer .Uint32 8 ] =
          some tracker ∧
        tracker.verdict kDrawIndexedAspects = some (.ok ()) ∧
        ∃ error,
          tracker.forget.verdict kDrawIndexedAspects =
            some (.error error) := by
  have ran :
      (Runs.run? step? new
          [ .setRenderPipeline stripPipeline, .setVertexBuffer 0 80,
            .setIndexBuffer .Uint16 8, .validateCanDrawIndexed,
            .setIndexBuffer .Uint32 8 ]).map
          (fun tracker =>
            (decide (¬ tracker.Ended ∧ tracker.StaleIndexFormat),
              tracker.verdict kDrawIndexedAspects)) =
        some (true, some (.ok ())) := by
    decide +kernel
  obtain ⟨tracker, reached, observed⟩ := Option.map_eq_some_iff.mp ran
  obtain ⟨running, accepted⟩ := Prod.mk.inj observed
  obtain ⟨notEnded, stale⟩ := of_decide_eq_true running
  obtain ⟨-, -, whenStale⟩ := (verdict_eq_verdict_forget reached).1 notEnded
  exact ⟨tracker, reached, accepted, (whenStale stale).2⟩

/-- After a draw and `End`, the draw is remembered without its pipeline. -/
example :
    (Runs.run? step? new
        [ .setRenderPipeline stripPipeline, .setVertexBuffer 0 80,
          .validateCanDraw, .«end» ]).map
        (fun tracker =>
          (decide tracker.Ended, tracker.verdict kDrawAspects,
            tracker.forget.verdict kDrawAspects)) =
      some (true, some (.ok ()), none) := by
  decide +kernel

end CommandBufferStateTracker

end Teck.Dawn
