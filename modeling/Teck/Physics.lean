import Teck.Registry

namespace Teck

/-!
# The physics system

`tsPhysics2d::Update` visits the view and adds each entity's velocity to its
position, one entity after the other.  `Registry.drift` is the motion this is
meant to compute: every entity with both components moves by a multiple of its
velocity at once, and nothing else changes.  One update is one unit of drift,
whatever order the view enumerates.
-/

variable {K : Type}

namespace TsPhysics2d

/-- The loop body of `Update`: `transform.Position += physics.Velocity`. -/
def visit [Add K]
    (registry : Registry K)
    (entity : Entity) : Registry K :=
  match registry.physics entity with
  | some physics =>
      registry.patchTransform
        (fun _ transform =>
          { transform with
            position := transform.position + physics.velocity })
        entity
  | none => registry

/-- `tsPhysics2d::Update` over the enumeration its view produces. -/
def update [Add K]
    (registry : Registry K)
    (view : Enumeration registry.physicsView) : Registry K :=
  view.order.foldl visit registry

end TsPhysics2d

namespace TcTransform2d

/-- A transform after so many rounds of motion. -/
def advance [AddMonoid K]
    (rounds : Nat)
    (physics : TcPhysics2d K)
    (transform : TcTransform2d K) : TcTransform2d K :=
  { transform with
    position := transform.position + rounds • physics.velocity }

/-- No rounds do not move. -/
@[simp] theorem advance_zero [AddMonoid K]
    (physics : TcPhysics2d K)
    (transform : TcTransform2d K) :
    advance 0 physics transform = transform := by
  simp [advance]

/-- One round adds the velocity once. -/
theorem advance_one [AddMonoid K]
    (physics : TcPhysics2d K) :
    advance 1 physics =
      fun transform =>
        { transform with
          position := transform.position + physics.velocity } := by
  funext transform
  rw [advance, one_nsmul]

/-- Rounds add up. -/
theorem advance_advance [AddMonoid K]
    (first second : Nat)
    (physics : TcPhysics2d K)
    (transform : TcTransform2d K) :
    advance second physics (advance first physics transform) =
      advance (first + second) physics transform := by
  simp [advance, add_assoc, add_nsmul]

end TcTransform2d

namespace Registry

variable [AddMonoid K]

/-- The motion of one entity, still if it holds no `tcPhysics2d`. -/
def motion
    (rounds : Nat)
    (registry : Registry K)
    (entity : Entity) : TcTransform2d K → TcTransform2d K :=
  match registry.physics entity with
  | some physics => TcTransform2d.advance rounds physics
  | none => id

/-- All entities move for the given number of rounds at once. -/
def drift
    (rounds : Nat)
    (registry : Registry K) : Registry K :=
  { registry with
    transforms := fun entity =>
      (registry.transforms entity).map (registry.motion rounds entity)
    transformsAlive := by
      intro entity held
      exact registry.transformsAlive entity (by simpa using held) }

section Drift

variable (rounds : Nat) (registry : Registry K)

/-- Drifting keeps the velocities. -/
@[simp] theorem drift_physics :
    (registry.drift rounds).physics = registry.physics :=
  rfl

end Drift

/-- What has a velocity is advanced. -/
theorem drift_transforms_of_physics
    {registry : Registry K}
    {entity : Entity}
    {physics : TcPhysics2d K}
    (moves : registry.physics entity = some physics)
    (rounds : Nat) :
    (registry.drift rounds).transforms entity =
      (registry.transforms entity).map
        (TcTransform2d.advance rounds physics) := by
  simp [drift, motion, moves]

/-- What has no velocity stays where it is. -/
theorem drift_transforms_of_still
    {registry : Registry K}
    {entity : Entity}
    (still : registry.physics entity = none)
    (rounds : Nat) :
    (registry.drift rounds).transforms entity =
      registry.transforms entity := by
  simp [drift, motion, still]

/-- No rounds change no registry. -/
@[simp] theorem drift_zero (registry : Registry K) :
    registry.drift 0 = registry := by
  refine ext_components rfl ?_ rfl rfl
  funext entity
  cases moves : registry.physics entity with
  | none =>
      exact drift_transforms_of_still moves 0
  | some physics =>
      rw [drift_transforms_of_physics moves]
      cases registry.transforms entity <;> simp

/-- Drifts add up. -/
theorem drift_drift
    (first second : Nat)
    (registry : Registry K) :
    (registry.drift first).drift second =
      registry.drift (first + second) := by
  refine ext_components rfl ?_ rfl rfl
  funext entity
  cases moves : registry.physics entity with
  | none =>
      rw [drift_transforms_of_still (by simpa using moves),
        drift_transforms_of_still moves,
        drift_transforms_of_still moves]
  | some physics =>
      rw [drift_transforms_of_physics (by simpa using moves),
        drift_transforms_of_physics moves,
        drift_transforms_of_physics moves, Option.map_map]
      congr 1
      funext transform
      exact TcTransform2d.advance_advance first second physics transform

end Registry

namespace TsPhysics2d

variable [AddMonoid K]

/-- One turn of the loop patches the transform of its entity. -/
theorem visit_eq_patchTransform
    (registry : Registry K)
    (entity : Entity) :
    visit registry entity =
      registry.patchTransform (registry.motion 1) entity := by
  unfold visit
  cases moves : registry.physics entity with
  | none =>
      refine Registry.ext_components rfl ?_ rfl rfl
      funext query
      by_cases isEntity : query = entity
      · subst isEntity
        simp [Enumeration.adjust, Registry.motion, moves]
      · simp [Enumeration.adjust, isEntity]
  | some physics =>
      refine Registry.ext_components rfl ?_ rfl rfl
      funext query
      by_cases isEntity : query = entity
      · subst isEntity
        simp [Enumeration.adjust, Registry.motion, moves,
          TcTransform2d.advance_one]
      · simp [Enumeration.adjust, isEntity]

/-- The loop touches transforms only, and adjusts each entity it visits. -/
theorem foldl_visit
    (registry : Registry K)
    (entities : List Entity) :
    (entities.foldl visit registry).alive = registry.alive ∧
      (entities.foldl visit registry).rects = registry.rects ∧
      (entities.foldl visit registry).physics = registry.physics ∧
      (entities.foldl visit registry).transforms =
        entities.foldl
          (Enumeration.adjust
            fun entity => Option.map (registry.motion 1 entity))
          registry.transforms := by
  induction entities generalizing registry with
  | nil =>
      simp
  | cons entity rest inductionHypothesis =>
      have sameMotion :
          (visit registry entity).motion 1 = registry.motion 1 := by
        rw [visit_eq_patchTransform]
        rfl
      have visited := inductionHypothesis (visit registry entity)
      rw [sameMotion] at visited
      simpa [visit_eq_patchTransform] using visited

/-- One update is one round of drift, in whatever order the view enumerates. -/
theorem update_eq_drift
    (registry : Registry K)
    (view : Enumeration registry.physicsView) :
    update registry view = registry.drift 1 := by
  obtain ⟨sameAlive, sameRects, samePhysics, transforms⟩ :=
    foldl_visit registry view.order
  refine Registry.ext_components sameAlive ?_ sameRects samePhysics
  rw [update, transforms, view.foldl_adjust_order]
  funext entity
  by_cases viewed : entity ∈ registry.physicsView
  · simp [viewed, Registry.drift]
  · rw [if_neg viewed]
    rw [Registry.mem_physicsView, not_and_or] at viewed
    rcases viewed with still | placeless
    · rw [Registry.drift_transforms_of_still (by simpa using still)]
    · have absent : registry.transforms entity = none := by
        simpa using placeless
      simp [Registry.drift, absent]

end TsPhysics2d

end Teck
