import Mathlib.Algebra.Group.Int.Defs
import Teck.PointStream

namespace Teck

/-!
# What every frame uploads

Whatever frames came before, `Render` leaves exactly the stream of the current
frame's rectangles, and its three GPU calls agree on the size of that stream.
The size is six elements for each rectangle, while `SetupBuffers` made room for
five.
-/

variable {K : Type}

namespace TsRender2d

/-- An entity with both components pushes its outline and a separator. -/
theorem pushEntity_elements [AddCommMagma K] [Neg K]
    {registry : Registry K}
    {entity : Entity}
    {transform : TcTransform2d K}
    {rect : TcRect K}
    (placed : registry.transforms entity = some transform)
    (shaped : registry.rects entity = some rect)
    (data : PointData K) :
    pushEntity registry data entity =
      { data with
        elements :=
          data.elements ++
            pointStream [(transform, rect)] } := by
  simp [pushEntity, placed, shaped, PointData.pushBack, pointStream,
    outline, V2.add_swap _ transform.position]

/-- An entity without both components pushes nothing. -/
theorem pushEntity_of_missing [Add K] [Neg K]
    {registry : Registry K}
    {entity : Entity}
    (missing :
      ((registry.transforms entity).bind fun transform =>
        (registry.rects entity).map fun rect => (transform, rect)) = none)
    (data : PointData K) :
    pushEntity registry data entity = data := by
  unfold pushEntity
  cases placed : registry.transforms entity with
  | none =>
      rfl
  | some transform =>
      cases shaped : registry.rects entity with
      | none =>
          rfl
      | some rect =>
          simp [placed, shaped] at missing

variable [AddCommMagma K] [Neg K]

/-- The loop of `Render` pushes the stream of its entities. -/
theorem foldl_pushEntity
    (registry : Registry K)
    (entities : List Entity)
    (data : PointData K) :
    entities.foldl (pushEntity registry) data =
      { data with
        elements :=
          data.elements ++
            pointStream
              (entities.filterMap fun entity =>
                (registry.transforms entity).bind fun transform =>
                  (registry.rects entity).map
                    fun rect => (transform, rect)) } := by
  induction entities generalizing data with
  | nil =>
      simp [pointStream]
  | cons entity rest inductionHypothesis =>
      rw [List.foldl_cons, inductionHypothesis, List.filterMap_cons]
      cases delivered :
          (registry.transforms entity).bind fun transform =>
            (registry.rects entity).map fun rect => (transform, rect) with
      | none =>
          rw [pushEntity_of_missing delivered]
      | some rectangle =>
          obtain ⟨transform, placed, shapedMap⟩ :=
            Option.bind_eq_some_iff.mp delivered
          obtain ⟨rect, shaped, rfl⟩ := Option.map_eq_some_iff.mp shapedMap
          rw [pushEntity_elements placed shaped]
          simp [pointStream]

/-- `Render` leaves the stream of the frame it was given and nothing else. -/
theorem render_elements
    (system : TsRender2d K)
    (frame : Frame K) :
    (system.render frame.registry frame.view).1.mPointData.elements =
      pointStream frame.rectangles := by
  simp [render, foldl_pushEntity, PointData.clear, PointData.reserve,
    Frame.rectangles]

/-- A frame leaves at least the capacity it asked for. -/
theorem reserved_render
    (system : TsRender2d K)
    (frame : Frame K) :
    (system.render frame.registry frame.view).1.mPointData.reserved =
      max system.mPointData.reserved (100000 * 6) := by
  simp [render, foldl_pushEntity, PointData.clear, PointData.reserve]

/-- Six elements for each entity of the view. -/
theorem size_render
    (system : TsRender2d K)
    (frame : Frame K) :
    (system.render frame.registry frame.view).1.mPointData.size =
      frame.registry.rectView.card * 6 := by
  rw [PointData.size, render_elements, length_pointStream,
    Frame.length_rectangles]

/-- The three calls name the same number of elements. -/
theorem render_calls
    (system : TsRender2d K)
    (frame : Frame K) :
    let count := frame.registry.rectView.card * 6
    (system.render frame.registry frame.view).2 =
      { writes :=
          [⟨system.mPointBuffer.memory.size, 0, count * sizeofV2⟩]
        passCalls :=
          [.setVertexBuffer 0 0 (some (count * sizeofV2)),
            .draw count] } := by
  intro count
  have counted := system.size_render frame
  have drawable : toU32 count = count := by
    have bounded := frame.registry.card_rectView_le
    exact Nat.mod_eq_of_lt (by omega)
  simp only [render] at counted ⊢
  rw [counted, drawable]

/-- What a history of frames keeps: the buffer and the reserved capacity. -/
structure Ready (system : TsRender2d K) : Prop where
  buffer :
    system.mPointBuffer =
      (setupBuffers : TsRender2d K).mPointBuffer
  reserved : system.mPointData.reserved ≤ 100000 * 6

/-- Every history keeps the buffer and reserves no more than one frame does. -/
theorem ready_renderAll
    (history : List (Frame K)) :
    (renderAll (setupBuffers : TsRender2d K) history).Ready := by
  have fromAny :
      ∀ system : TsRender2d K, system.Ready →
        (system.renderAll history).Ready := by
    induction history with
    | nil =>
        intro system ready
        exact ready
    | cons frame rest inductionHypothesis =>
        intro system ready
        refine inductionHypothesis _ ⟨ready.buffer, ?_⟩
        rw [reserved_render]
        exact max_le ready.reserved le_rfl
  exact fromAny setupBuffers ⟨rfl, Nat.zero_le _⟩

/-- After every history a frame has the capacity that it asked for. -/
theorem reserved_render_renderAll
    (history : List (Frame K))
    (frame : Frame K) :
    ((setupBuffers.renderAll history).render
        frame.registry frame.view).1.mPointData.reserved =
      100000 * 6 := by
  rw [reserved_render]
  exact max_eq_right (ready_renderAll history).reserved

end TsRender2d

variable [AddCommMagma K] [Neg K]

/--
The stream law: after any history of frames, `Render` leaves exactly one
closed outline with a separator for each entity that holds both components, in
the view's order, which has each of them once.  Its calls upload, bind and draw the same elements, and without the
separators they are the points that `AddRect` accumulates from the same
rectangles.
-/
theorem render_streams_current_rectangles
    (history : List (Frame K))
    (frame : Frame K) :
    let rendered :=
      (TsRender2d.setupBuffers.renderAll history).render
        frame.registry frame.view
    (∀ entity,
        entity ∈ frame.view.order ↔
          (frame.registry.transforms entity).isSome ∧
            (frame.registry.rects entity).isSome) ∧
      frame.view.order.Nodup ∧
      List.Forall₂ frame.Delivers frame.view.order frame.rectangles ∧
      rendered.1.mPointData.elements =
        frame.rectangles.flatMap (fun rectangle =>
          (outline rectangle.1.position rectangle.2.dimensions).map .point ++
            [.restart]) ∧
      (∃ target bytes count,
        rendered.2 =
            { writes := [⟨target, 0, bytes⟩]
              passCalls :=
                [.setVertexBuffer 0 0 (some bytes), .draw count] } ∧
          count * sizeofV2 = bytes ∧
          count = rendered.1.mPointData.elements.length) ∧
      rendered.1.mPointData.elements.filterMap PointElement.position? =
        frame.rectangles.foldl
          (fun mPositionData rectangle =>
            TkRenderer.addRect mPositionData rectangle.2
              rectangle.1.position)
          [] := by
  intro rendered
  let system := TsRender2d.setupBuffers.renderAll history
  have elements : rendered.1.mPointData.elements =
      pointStream frame.rectangles :=
    system.render_elements frame
  refine ⟨?_, frame.view.nodup, ?_, ?_, ?_, ?_⟩
  · intro entity
    rw [frame.view.mem_order, Registry.mem_rectView]
  · exact frame.forall₂_delivers
  · rw [elements, pointStream, Delimited.encode, List.flatMap_map]
  · refine ⟨_, _, _, system.render_calls frame, rfl, ?_⟩
    exact (system.size_render frame).symm
  · rw [elements, filterMap_pointStream, TkRenderer.foldl_addRect,
      List.nil_append]

section Pair

/-- Two entities with rectangles, and a third one without. -/
def pairRegistry : Registry Int where
  alive := {0, 1, 2}
  transforms := fun entity =>
    if entity = 0 then some ⟨⟨0, 0⟩, 0, 1⟩
    else if entity = 1 then some ⟨⟨10, 5⟩, 0, 1⟩
    else if entity = 2 then some ⟨⟨7, 7⟩, 0, 1⟩
    else none
  rects := fun entity =>
    if entity = 0 then some ⟨.rect, ⟨1, 2⟩⟩
    else if entity = 1 then some ⟨.rect, ⟨3, 4⟩⟩
    else none
  physics := fun _ => none
  slotsDistinct := by
    intro first firstAlive second secondAlive
    simp only [Finset.coe_insert, Finset.coe_singleton,
      Set.mem_insert_iff, Set.mem_singleton_iff] at firstAlive secondAlive
    rcases firstAlive with rfl | rfl | rfl <;>
      rcases secondAlive with rfl | rfl | rfl <;>
        decide
  transformsAlive := by
    intro entity held
    by_contra absent
    simp_all
  rectsAlive := by
    intro entity held
    by_contra absent
    simp_all
  physicsAlive := by simp

/-- The view of the two entities, the later one first. -/
def pairView : Enumeration pairRegistry.rectView where
  order := [1, 0]
  nodup := by decide
  mem_order := by
    intro entity
    rw [Registry.mem_rectView]
    by_cases isFirst : entity = 0
    · simp [pairRegistry, isFirst]
    · by_cases isSecond : entity = 1
      · simp [pairRegistry, isSecond]
      · simp [pairRegistry, isFirst, isSecond]

/--
A frame of two rectangles after an empty one and one with the same
rectangles: two outlines with their separators, and nothing else.
-/
theorem render_streams_current_rectangles_pair :
    ((TsRender2d.setupBuffers.renderAll
        [⟨Registry.empty, default⟩, ⟨pairRegistry, pairView⟩]).render
          pairRegistry pairView).1.mPointData.elements =
      [.point ⟨7, 1⟩, .point ⟨13, 1⟩, .point ⟨13, 9⟩, .point ⟨7, 9⟩,
        .point ⟨7, 1⟩, .restart,
        .point ⟨-1, -2⟩, .point ⟨1, -2⟩, .point ⟨1, 2⟩, .point ⟨-1, 2⟩,
        .point ⟨-1, -2⟩, .restart] := by
  have streamed :=
    render_streams_current_rectangles
      [⟨Registry.empty, default⟩, ⟨pairRegistry, pairView⟩]
      ⟨pairRegistry, pairView⟩
  exact streamed.2.2.2.1.trans (by decide)

end Pair

/--
The capacity law at one frame: what the frame writes and binds lies inside the
buffer, and the list fits into the capacity it reserves.
-/
structure WithinCapacity
    (system : TsRender2d K)
    (frame : Frame K) : Prop where
  upload :
    ∀ write ∈ (system.render frame.registry frame.view).2.writes,
      write.Fits
  binding :
    ∀ slot offset size,
      PassCall.setVertexBuffer slot offset (some size) ∈
          (system.render frame.registry frame.view).2.passCalls →
      offset + size ≤ system.mPointBuffer.memory.size
  reserved :
    (system.render frame.registry frame.view).1.mPointData.size ≤
      (system.render frame.registry frame.view).1.mPointData.reserved

/-- The buffer keeps the size that `SetupBuffers` gave it. -/
theorem size_mPointBuffer_renderAll
    (history : List (Frame K)) :
    ((TsRender2d.setupBuffers : TsRender2d K).renderAll
        history).mPointBuffer.memory.size =
      sizeofV2 * 5 * 100000 := by
  rw [(TsRender2d.ready_renderAll history).buffer]
  rfl

/-- Six elements for each entity overflow a buffer of five too soon. -/
theorem WithinCapacity.card_le
    {history : List (Frame K)}
    {frame : Frame K}
    (within :
      WithinCapacity (TsRender2d.setupBuffers.renderAll history) frame) :
    frame.registry.rectView.card ≤ 83333 := by
  have fits :=
    within.upload _ (by
      rw [TsRender2d.render_calls]
      exact List.mem_singleton.mpr rfl)
  simp only [QueueWrite.Fits, size_mPointBuffer_renderAll] at fits
  unfold sizeofV2 at fits
  omega

/-- 83333 entities upload and bind at most 3999984 of the 4000000 bytes. -/
theorem WithinCapacity.of_card_le
    (history : List (Frame K))
    {frame : Frame K}
    (few : frame.registry.rectView.card ≤ 83333) :
    WithinCapacity (TsRender2d.setupBuffers.renderAll history) frame where
  upload := by
    intro write member
    rw [TsRender2d.render_calls, List.mem_singleton] at member
    subst member
    simp only [QueueWrite.Fits, size_mPointBuffer_renderAll]
    unfold sizeofV2
    omega
  binding := by
    intro slot offset size member
    rw [TsRender2d.render_calls] at member
    simp only [List.mem_cons, PassCall.setVertexBuffer.injEq,
      Option.some.injEq, reduceCtorEq, List.not_mem_nil,
      or_false] at member
    rw [size_mPointBuffer_renderAll, member.2.1, member.2.2]
    unfold sizeofV2
    omega
  reserved := by
    rw [TsRender2d.size_render, TsRender2d.reserved_render_renderAll]
    omega

/--
After every history of frames, a frame keeps the capacity law exactly when at
most 83333 of its entities hold both components.
-/
theorem withinCapacity_iff
    (history : List (Frame K))
    (frame : Frame K) :
    WithinCapacity (TsRender2d.setupBuffers.renderAll history) frame ↔
      frame.registry.rectView.card ≤ 83333 :=
  ⟨WithinCapacity.card_le, WithinCapacity.of_card_le history⟩

section Crowd

/-- The entities 0, ..., `count - 1`, each with a unit rectangle. -/
def crowd (count : Nat) (few : count ≤ 2 ^ 20) : Registry Int where
  alive := (Finset.range count).image UInt32.ofNat
  transforms := fun entity =>
    if entity.toNat < count then some ⟨⟨0, 0⟩, 0, 1⟩ else none
  rects := fun entity =>
    if entity.toNat < count then some ⟨.rect, ⟨1, 1⟩⟩ else none
  physics := fun _ => none
  slotsDistinct := by
    intro first firstAlive second secondAlive sameSlot
    simp only [Finset.coe_image, Finset.coe_range, Set.mem_image,
      Set.mem_Iio] at firstAlive secondAlive
    rcases firstAlive with ⟨firstIndex, firstBelow, rfl⟩
    rcases secondAlive with ⟨secondIndex, secondBelow, rfl⟩
    simp only [Entity.slot, UInt32.toNat_ofNat'] at sameSlot
    congr 1
    omega
  transformsAlive := by
    intro entity held
    have below : entity.toNat < count := by
      by_contra outside
      simp [outside] at held
    exact Finset.mem_image.mpr
      ⟨entity.toNat, Finset.mem_range.mpr below, by simp⟩
  rectsAlive := by
    intro entity held
    have below : entity.toNat < count := by
      by_contra outside
      simp [outside] at held
    exact Finset.mem_image.mpr
      ⟨entity.toNat, Finset.mem_range.mpr below, by simp⟩
  physicsAlive := by simp

/-- Every entity of the crowd is in the view. -/
theorem card_rectView_crowd
    (count : Nat)
    (few : count ≤ 2 ^ 20) :
    (crowd count few).rectView.card = count := by
  have everyone :
      (crowd count few).rectView =
        (Finset.range count).image UInt32.ofNat := by
    ext entity
    simp only [Registry.mem_rectView, Finset.mem_image, Finset.mem_range]
    constructor
    · rintro ⟨held, -⟩
      have below : entity.toNat < count := by
        by_contra outside
        simp [crowd, outside] at held
      exact ⟨entity.toNat, below, by simp⟩
    · rintro ⟨index, below, rfl⟩
      have same : (UInt32.ofNat index).toNat = index := by
        simp only [UInt32.toNat_ofNat']
        omega
      simp [crowd, below, same]
  rw [everyone, Finset.card_image_of_injOn, Finset.card_range]
  intro first firstBelow second secondBelow same
  simp only [Finset.coe_range, Set.mem_Iio] at firstBelow secondBelow
  have sameValue := congrArg UInt32.toNat same
  simp only [UInt32.toNat_ofNat'] at sameValue
  omega

/-- 83334 entities are far fewer than 100000 and overflow the buffer. -/
theorem not_withinCapacity_crowd :
    (crowd 83334 (by decide)).rectView.card ≤ 100000 ∧
      ¬ WithinCapacity (TsRender2d.setupBuffers.renderAll [])
        { registry := crowd 83334 (by decide), view := default } := by
  refine ⟨by rw [card_rectView_crowd]; decide, ?_⟩
  intro within
  have few := within.card_le
  rw [card_rectView_crowd] at few
  omega

end Crowd

end Teck
