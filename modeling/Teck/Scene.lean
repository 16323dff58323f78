import Teck.MainLoopRun
import Teck.PointStreamRun

namespace Teck

/-!
# The shipped scene

`tkScene::BeginPlay` creates a hundred entities with a transform, a rectangle
and a velocity each.  The identifiers are chosen by the registry and the
velocities by `rand`, so both are fixed from outside.  The main loop keeps the
number of entities, so the render system never meets a frame that its buffer is
too small for.
-/

variable {K : Type}

namespace Registry

/-- No live entity has the slot of the identifier. -/
def Free
    (registry : Registry K)
    (entity : Entity) : Prop :=
  ∀ owner ∈ registry.alive, owner.slot ≠ entity.slot

instance
    (registry : Registry K)
    (entity : Entity) :
    Decidable (registry.Free entity) :=
  inferInstanceAs (Decidable (∀ owner ∈ registry.alive, _ ≠ _))

/-- A free identifier is not in use. -/
theorem Free.not_mem
    {registry : Registry K}
    {entity : Entity}
    (free : registry.Free entity) :
    entity ∉ registry.alive :=
  fun member => free entity member rfl

/-- A component emplaced on a new entity is held by a live one. -/
theorem mem_insert_of_update
    {Component : Type}
    {pool : Entity → Option Component}
    {alive : Finset Entity}
    (poolAlive : ∀ owner, (pool owner).isSome → owner ∈ alive)
    (entity : Entity)
    (component : Component)
    (query : Entity)
    (held : (Function.update pool entity (some component) query).isSome) :
    query ∈ insert entity alive := by
  by_cases isEntity : query = entity
  · simp [isEntity]
  · rw [Function.update_of_ne isEntity] at held
    exact Finset.mem_insert_of_mem (poolAlive query held)

/-- `create` of a free identifier and the three `emplace` calls on it. -/
def spawn
    (registry : Registry K)
    (entity : Entity)
    (free : registry.Free entity)
    (transform : TcTransform2d K)
    (rect : TcRect K)
    (physics : TcPhysics2d K) : Registry K where
  alive := insert entity registry.alive
  transforms := Function.update registry.transforms entity (some transform)
  rects := Function.update registry.rects entity (some rect)
  physics := Function.update registry.physics entity (some physics)
  slotsDistinct := by
    rw [Finset.coe_insert, Set.injOn_insert (by simpa using free.not_mem)]
    refine ⟨registry.slotsDistinct, ?_⟩
    rintro ⟨owner, member, sameSlot⟩
    exact free owner member sameSlot
  transformsAlive :=
    mem_insert_of_update registry.transformsAlive entity transform
  rectsAlive := mem_insert_of_update registry.rectsAlive entity rect
  physicsAlive := mem_insert_of_update registry.physicsAlive entity physics

end Registry

/-- How `entt::registry::create` chooses identifiers while slots are left. -/
structure EntitySource (K : Type) where
  choose : Registry K → Entity
  free :
    ∀ registry : Registry K,
      registry.alive.card < 2 ^ 20 - 1 →
      registry.Free (choose registry)

/-- While slots are left, some identifier is free. -/
theorem Registry.exists_free
    (registry : Registry K)
    (room : registry.alive.card < 2 ^ 20) :
    ∃ entity, registry.Free entity := by
  have fewer :
      (registry.alive.image Entity.slot).card <
        (Finset.range (2 ^ 20)).card := by
    rw [Finset.card_range]
    exact lt_of_le_of_lt Finset.card_image_le room
  rcases Finset.exists_mem_notMem_of_card_lt_card fewer with
    ⟨slot, inRange, unused⟩
  refine ⟨UInt32.ofNat slot, ?_⟩
  intro owner member sameSlot
  apply unused
  refine Finset.mem_image.mpr ⟨owner, member, sameSlot.trans ?_⟩
  have below := Finset.mem_range.mp inRange
  rw [Entity.slot, UInt32.toNat_ofNat']
  omega

/-- An `EntitySource` that takes any free identifier. -/
noncomputable instance : Inhabited (EntitySource K) :=
  ⟨{ choose := fun registry =>
      Classical.epsilon fun entity => registry.Free entity
     free := fun registry room =>
      Classical.epsilon_spec
        (registry.exists_free (by omega)) }⟩

namespace TkScene

variable [Zero K] [One K]

/-- `tcTransform2d` at the origin, with its other defaults. -/
def transform : TcTransform2d K where
  position := ⟨0, 0⟩
  angle := 0
  scale := 1

/-- `tcRect` with the given number for both dimensions. -/
def rect (dimension : K) : TcRect K where
  type := .rect
  dimensions := ⟨dimension, dimension⟩

/-- The body of the loop of `BeginPlay`. -/
def spawnNext
    (source : EntitySource K)
    (dimension : K)
    (velocity : Nat → V2 K)
    (registry : Registry K)
    (i : Nat) : Registry K :=
  if free : registry.Free (source.choose registry) then
    registry.spawn (source.choose registry) free transform (rect dimension)
      { velocity := velocity i, angularVelocity := 0 }
  else
    registry

/-- `tkScene::BeginPlay`; the source writes `.1f` for the dimension. -/
def beginPlay
    (source : EntitySource K)
    (dimension : K)
    (velocity : Nat → V2 K)
    (registry : Registry K) : Registry K :=
  (List.range 100).foldl (spawnNext source dimension velocity) registry

/-- So many entities, each furnished by a round of the loop. -/
structure Furnished
    (dimension : K)
    (velocity : Nat → V2 K)
    (count : Nat)
    (registry : Registry K) : Prop where
  card : registry.alive.card = count
  components :
    ∀ entity ∈ registry.alive,
      registry.transforms entity = some transform ∧
        registry.rects entity = some (rect dimension) ∧
        ∃ i < count,
          registry.physics entity =
            some { velocity := velocity i, angularVelocity := 0 }

section Furnishing

variable
  {source : EntitySource K} {dimension : K} {velocity : Nat → V2 K}

/-- Nothing is furnished yet. -/
theorem furnished_empty :
    Furnished dimension velocity 0 Registry.empty where
  card := rfl
  components := by
    intro entity member
    exact (Finset.notMem_empty entity member).elim

/-- A round furnishes one more entity and leaves the others alone. -/
theorem Furnished.spawnNext
    {count : Nat}
    {registry : Registry K}
    (furnished : Furnished dimension velocity count registry)
    (room : count < 2 ^ 20 - 1) :
    Furnished dimension velocity (count + 1)
      (spawnNext source dimension velocity registry count) := by
  have free : registry.Free (source.choose registry) :=
    source.free registry (furnished.card ▸ room)
  rw [TkScene.spawnNext, dif_pos free]
  refine ⟨?_, ?_⟩
  · simp [Registry.spawn, Finset.card_insert_of_notMem free.not_mem,
      furnished.card]
  · intro entity member
    rcases Finset.mem_insert.mp member with isNew | wasAlive
    · subst isNew
      refine ⟨?_, ?_, count, Nat.lt_succ_self count, ?_⟩ <;>
        simp [Registry.spawn]
    · have differs : entity ≠ source.choose registry := by
        intro same
        apply free.not_mem
        exact same ▸ wasAlive
      rcases furnished.components entity wasAlive with
        ⟨placed, shaped, i, below, moves⟩
      refine ⟨?_, ?_, i, Nat.lt_succ_of_lt below, ?_⟩
      · simpa [Registry.spawn, differs] using placed
      · simpa [Registry.spawn, differs] using shaped
      · simpa [Registry.spawn, differs] using moves

/-- So many rounds furnish so many entities. -/
theorem furnished_foldl
    {count : Nat}
    (room : count ≤ 2 ^ 20 - 1) :
    Furnished dimension velocity count
      ((List.range count).foldl
        (TkScene.spawnNext source dimension velocity) Registry.empty) := by
  induction count with
  | zero =>
      exact furnished_empty
  | succ count inductionHypothesis =>
      have fewer : count < 2 ^ 20 - 1 := by
        omega
      have before := inductionHypothesis fewer.le
      rw [List.range_succ, List.foldl_append, List.foldl_cons,
        List.foldl_nil]
      exact before.spawnNext fewer

/-- `BeginPlay` furnishes a hundred entities. -/
theorem furnished_beginPlay
    (source : EntitySource K)
    (dimension : K)
    (velocity : Nat → V2 K) :
    Furnished dimension velocity 100
      (beginPlay source dimension velocity Registry.empty) :=
  furnished_foldl (by decide)

end Furnishing

/-- Each furnished entity has a rectangle and a place. -/
theorem Furnished.card_rectView
    {dimension : K}
    {velocity : Nat → V2 K}
    {count : Nat}
    {registry : Registry K}
    (furnished : Furnished dimension velocity count registry) :
    registry.rectView.card = count := by
  have everyone : registry.rectView = registry.alive := by
    apply Finset.filter_true_of_mem
    intro entity member
    rcases furnished.components entity member with ⟨placed, shaped, -⟩
    simp [placed, shaped]
  rw [everyone, furnished.card]

end TkScene

section Run

variable [AddCommGroup K] [One K]

/-- Drift moves furnished entities and keeps them in the view. -/
theorem TkScene.Furnished.drift
    {dimension : K}
    {velocity : Nat → V2 K}
    {count : Nat}
    {registry : Registry K}
    (furnished : Furnished dimension velocity count registry)
    (rounds : Nat) :
    (registry.drift rounds).rectView.card = count ∧
      ∀ entity ∈ registry.alive, ∃ i < count,
        (registry.drift rounds).transforms entity =
          some { transform with position := rounds • velocity i } := by
  constructor
  · have sameView :
        (registry.drift rounds).rectView = registry.rectView := by
      ext entity
      simp [Registry.drift]
    rw [sameView, furnished.card_rectView]
  · intro entity member
    rcases furnished.components entity member with
      ⟨placed, -, i, below, moves⟩
    have fromOrigin :
        (⟨0, 0⟩ : V2 K) + rounds • velocity i = rounds • velocity i :=
      zero_add _
    refine ⟨i, below, ?_⟩
    rw [Registry.drift_transforms_of_physics moves, placed,
      Option.map_some, TcTransform2d.advance, TkScene.transform, fromOrigin]

/--
Whatever `BeginPlay` furnishes, the main loop keeps the entities, moves each
from the origin by its velocity once for every round made, and meets only
frames that fit the point buffer if they are few enough.
-/
theorem mainLoop_keeps_furnished
    {dimension : K}
    {velocity : Nat → V2 K}
    {count : Nat}
    {beginPlay : Registry K → Registry K}
    (furnished :
      TkScene.Furnished dimension velocity count
        (beginPlay Registry.empty))
    (few : count ≤ 83333)
    {environment : Environment K}
    {call : Nat}
    {state : LoopState K}
    (reached :
      Loop.after (mainLoopTurn environment) call
          (LoopState.start (Engine.create.init beginPlay)) =
        some state) :
    state.engine.registry.rectView.card = count ∧
      (∀ entity ∈ state.engine.registry.alive, ∃ i < count,
        state.engine.registry.transforms entity =
          some
            { TkScene.transform with position := call • velocity i }) ∧
      ∀ history view,
        WithinCapacity (TsRender2d.setupBuffers.renderAll history)
          { registry := state.engine.registry, view := view } := by
  have registryShape :
      state.engine.registry = (beginPlay Registry.empty).drift call := by
    rw [(eq_before_of_after (Engine.initialised_init [] beginPlay)
      reached).1]
    rfl
  rcases furnished.drift call with ⟨card, moved⟩
  rw [← registryShape] at card moved
  refine ⟨card, ?_, ?_⟩
  · intro entity member
    rw [registryShape] at member
    exact moved entity member
  · intro history view
    exact WithinCapacity.of_card_le history (le_of_eq_of_le card few)

/-- The hundred entities of the scene never overflow the point buffer. -/
theorem mainLoop_keeps_scene
    (environment : Environment K)
    (source : EntitySource K)
    (dimension : K)
    (velocity : Nat → V2 K)
    {call : Nat}
    {state : LoopState K}
    (reached :
      Loop.after (mainLoopTurn environment) call
          (LoopState.start
            (Engine.create.init
              (TkScene.beginPlay source dimension velocity))) =
        some state)
    (history : List (Frame K))
    (view : Enumeration state.engine.registry.rectView) :
    WithinCapacity (TsRender2d.setupBuffers.renderAll history)
      { registry := state.engine.registry, view := view } := by
  have furnished :=
    TkScene.furnished_beginPlay source dimension velocity
  have hundred : 100 ≤ 83333 := by
    decide
  exact (mainLoop_keeps_furnished furnished hundred reached).2.2
    history view

end Run

end Teck
