import Teck.Components
import Teck.Library.Enumeration

namespace Teck

/-!
# The entity registry

EnTT is an external package, so only its documented contract appears here.  An
entity identifier is a 32-bit value whose low twenty bits name a slot; two live
identifiers never share a slot.  Each component type is a partial function on
identifiers.  A view enumerates, in an order of the library's choosing, each
live entity that holds all of the view's component types exactly once.
-/

/-- `entt::entity`. -/
abbrev Entity := UInt32

/-- The slot of an identifier: its low twenty bits. -/
def Entity.slot (entity : Entity) : Nat := entity.toNat % 2 ^ 20

/-- The content of `entt::registry`. -/
structure Registry (K : Type) where
  alive : Finset Entity
  transforms : Entity → Option (TcTransform2d K)
  rects : Entity → Option (TcRect K)
  physics : Entity → Option (TcPhysics2d K)
  slotsDistinct : Set.InjOn Entity.slot alive
  transformsAlive : ∀ entity, (transforms entity).isSome → entity ∈ alive
  rectsAlive : ∀ entity, (rects entity).isSome → entity ∈ alive
  physicsAlive : ∀ entity, (physics entity).isSome → entity ∈ alive

namespace Registry

variable {K : Type}

/-- A registry without entities. -/
def empty : Registry K where
  alive := ∅
  transforms := fun _ => none
  rects := fun _ => none
  physics := fun _ => none
  slotsDistinct := by simp
  transformsAlive := by simp
  rectsAlive := by simp
  physicsAlive := by simp

/-- Registries with the same entities and components are the same. -/
theorem ext_components
    {first second : Registry K}
    (sameAlive : first.alive = second.alive)
    (sameTransforms : first.transforms = second.transforms)
    (sameRects : first.rects = second.rects)
    (samePhysics : first.physics = second.physics) :
    first = second := by
  cases first
  cases second
  simp_all

/-- Members of `view<tcPhysics2d, tcTransform2d>`. -/
def physicsView (registry : Registry K) : Finset Entity :=
  registry.alive.filter fun entity =>
    (registry.physics entity).isSome ∧ (registry.transforms entity).isSome

/-- Members of `view<tcTransform2d, tcRect>`. -/
def rectView (registry : Registry K) : Finset Entity :=
  registry.alive.filter fun entity =>
    (registry.transforms entity).isSome ∧ (registry.rects entity).isSome

/-- An entity is in the view if it holds both components. -/
@[simp] theorem mem_physicsView
    {registry : Registry K}
    {entity : Entity} :
    entity ∈ registry.physicsView ↔
      (registry.physics entity).isSome ∧
        (registry.transforms entity).isSome := by
  simp only [physicsView, Finset.mem_filter, and_iff_right_iff_imp]
  intro holdsBoth
  apply registry.transformsAlive
  exact holdsBoth.2

/-- An entity is in the view if it holds both components. -/
@[simp] theorem mem_rectView
    {registry : Registry K}
    {entity : Entity} :
    entity ∈ registry.rectView ↔
      (registry.transforms entity).isSome ∧
        (registry.rects entity).isSome := by
  simp only [rectView, Finset.mem_filter, and_iff_right_iff_imp]
  intro holdsBoth
  apply registry.transformsAlive
  exact holdsBoth.1

/-- Identifiers have twenty bits for their slots. -/
theorem card_alive_le (registry : Registry K) :
    registry.alive.card ≤ 2 ^ 20 := by
  have slotsBounded :
      ∀ entity ∈ registry.alive,
        entity.slot ∈ Finset.range (2 ^ 20) := by
    intro entity _
    exact Finset.mem_range.mpr (Nat.mod_lt _ (by decide))
  simpa using
    Finset.card_le_card_of_injOn Entity.slot
      slotsBounded registry.slotsDistinct

/-- No more entities are in the view than there are. -/
theorem card_rectView_le (registry : Registry K) :
    registry.rectView.card ≤ 2 ^ 20 :=
  (Finset.card_filter_le _ _).trans registry.card_alive_le

/-- Change one entity's `tcTransform2d` in place, if it holds one. -/
def patchTransform
    (registry : Registry K)
    (change : Entity → TcTransform2d K → TcTransform2d K)
    (entity : Entity) : Registry K :=
  { registry with
    transforms :=
      Enumeration.adjust
        (fun owner => Option.map (change owner))
        registry.transforms entity
    transformsAlive := by
      intro query held
      apply registry.transformsAlive query
      by_cases isEntity : query = entity
      · subst isEntity
        simpa [Enumeration.adjust] using held
      · simpa [Enumeration.adjust, isEntity] using held }

section Patch

variable
  (registry : Registry K)
  (change : Entity → TcTransform2d K → TcTransform2d K)
  (entity : Entity)

/-- Patching a transform keeps the entities. -/
@[simp] theorem patchTransform_alive :
    (registry.patchTransform change entity).alive = registry.alive :=
  rfl

/-- Patching a transform keeps the rectangles. -/
@[simp] theorem patchTransform_rects :
    (registry.patchTransform change entity).rects = registry.rects :=
  rfl

/-- Patching a transform keeps the velocities. -/
@[simp] theorem patchTransform_physics :
    (registry.patchTransform change entity).physics = registry.physics :=
  rfl

/-- Patching adjusts the transform of one entity. -/
@[simp] theorem patchTransform_transforms :
    (registry.patchTransform change entity).transforms =
      Enumeration.adjust
        (fun owner => Option.map (change owner))
        registry.transforms entity :=
  rfl

end Patch

end Registry

end Teck
