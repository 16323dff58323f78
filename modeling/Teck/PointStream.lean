import Teck.GpuQueue
import Teck.Registry
import Teck.Library.Delimited

namespace Teck

/-!
# The point stream of the 2d render system

`tsRender2d::Render` rebuilds its point list in every frame: five outline
points and one separator for each entity of its view.  The separator is read
from the bytes of `restartIndex` and its neighbours, so it is kept abstract.
`tkRenderer::AddRect` builds the same outline by other means and accumulates it
without separators.
-/

variable {K : Type}

/-- A point of an outline, or the separator behind it. -/
inductive PointElement (K : Type) where
  | point (position : V2 K)
  | restart
  deriving DecidableEq, Repr

/-- The point, if it is none of the separators. -/
def PointElement.position? : PointElement K → Option (V2 K)
  | .point position => some position
  | .restart => none

/-- A `tkDArray` with the capacity that `reserve` calls guarantee. -/
structure PointData (K : Type) where
  elements : List (PointElement K)
  reserved : Nat

namespace PointData

/-- `clear` drops the elements and keeps the capacity. -/
def clear (data : PointData K) : PointData K :=
  { data with elements := [] }

/-- `reserve` only ever raises the capacity. -/
def reserve (data : PointData K) (capacity : Nat) : PointData K :=
  { data with reserved := max data.reserved capacity }

/-- `push_back`. -/
def pushBack (data : PointData K) (element : PointElement K) : PointData K :=
  { data with elements := data.elements ++ [element] }

/-- `size()`. -/
def size (data : PointData K) : Nat := data.elements.length

end PointData

/-- What a frame asks of the GPU queue and of its render pass. -/
structure FrameCalls where
  writes : List QueueWrite
  passCalls : List PassCall
  deriving DecidableEq, Repr

/-- The state of `tsRender2d` that its frames use. -/
structure TsRender2d (K : Type) where
  mPointBuffer : GpuBuffer
  mPointData : PointData K

namespace TsRender2d

/-- `tsRender2d::SetupBuffers` on a new system. -/
def setupBuffers : TsRender2d K where
  mPointBuffer :=
    createBuffer
      { label := none
        size := sizeofV2 * 5 * 100000
        usage := { vertex := true, copyDst := true }
        mappedAtCreation := false }
  mPointData := { elements := [], reserved := 0 }

/-- The loop body of `Render`: six elements for one entity of the view. -/
def pushEntity [Add K] [Neg K]
    (registry : Registry K)
    (data : PointData K)
    (entity : Entity) : PointData K :=
  match registry.transforms entity, registry.rects entity with
  | some t, some r =>
      (((((data.pushBack
          (.point (⟨-r.dimensions.x, -r.dimensions.y⟩ + t.position))).pushBack
          (.point (⟨r.dimensions.x, -r.dimensions.y⟩ + t.position))).pushBack
          (.point (⟨r.dimensions.x, r.dimensions.y⟩ + t.position))).pushBack
          (.point (⟨-r.dimensions.x, r.dimensions.y⟩ + t.position))).pushBack
          (.point (⟨-r.dimensions.x, -r.dimensions.y⟩ + t.position))).pushBack
          .restart
  | _, _ => data

/-- `tsRender2d::Render`: the system it leaves behind and its GPU calls. -/
def render [Add K] [Neg K]
    (system : TsRender2d K)
    (registry : Registry K)
    (view : Enumeration registry.rectView) :
    TsRender2d K × FrameCalls :=
  let cleared := system.mPointData.clear.reserve (100000 * 6)
  let filled := view.order.foldl (pushEntity registry) cleared
  let bytes := filled.size * sizeofV2
  ({ system with mPointData := filled },
    { writes := [⟨system.mPointBuffer.memory.size, 0, bytes⟩]
      passCalls :=
        [.setVertexBuffer 0 0 (some bytes), .draw (toU32 filled.size)] })

end TsRender2d

/-- `tkRenderer::AddRect`, as a function of `mPositionData`. -/
def TkRenderer.addRect [Add K] [Neg K]
    (mPositionData : List (V2 K))
    (rect : TcRect K)
    (pos : V2 K) : List (V2 K) :=
  let topLeft := pos + ⟨-rect.dimensions.x, -rect.dimensions.y⟩
  let topRight := pos + ⟨rect.dimensions.x, -rect.dimensions.y⟩
  let bottomRight := pos + ⟨rect.dimensions.x, rect.dimensions.y⟩
  let bottomLeft := pos + ⟨-rect.dimensions.x, rect.dimensions.y⟩
  mPositionData ++ [topLeft, topRight, bottomRight, bottomLeft, topLeft]

/-- A registry at some frame with the enumeration its view produces there. -/
structure Frame (K : Type) where
  registry : Registry K
  view : Enumeration registry.rectView

/-- The components of the frame's entities, in the order of the view. -/
def Frame.rectangles (frame : Frame K) : List (TcTransform2d K × TcRect K) :=
  frame.view.order.filterMap fun entity =>
    (frame.registry.transforms entity).bind fun transform =>
      (frame.registry.rects entity).map fun rect => (transform, rect)

/-- The system after a history of frames. -/
def TsRender2d.renderAll [Add K] [Neg K]
    (system : TsRender2d K)
    (history : List (Frame K)) : TsRender2d K :=
  history.foldl
    (fun current frame => (current.render frame.registry frame.view).1)
    system

/-- The closed outline of a rectangle: five points, the first one twice. -/
def outline [Add K] [Neg K]
    (position dimensions : V2 K) : List (V2 K) :=
  [ position + ⟨-dimensions.x, -dimensions.y⟩,
    position + ⟨dimensions.x, -dimensions.y⟩,
    position + ⟨dimensions.x, dimensions.y⟩,
    position + ⟨-dimensions.x, dimensions.y⟩,
    position + ⟨-dimensions.x, -dimensions.y⟩ ]

/-- The stream a list of rectangles stands for. -/
def pointStream [Add K] [Neg K]
    (rectangles : List (TcTransform2d K × TcRect K)) :
    List (PointElement K) :=
  Delimited.encode .restart
    (rectangles.map fun rectangle =>
      (outline rectangle.1.position rectangle.2.dimensions).map .point)

/-- A pair of components is delivered for an entity that holds them. -/
def Frame.Delivers
    (frame : Frame K)
    (entity : Entity)
    (rectangle : TcTransform2d K × TcRect K) : Prop :=
  frame.registry.transforms entity = some rectangle.1 ∧
    frame.registry.rects entity = some rectangle.2

/-- Each entity of the view brings its own components. -/
theorem Frame.forall₂_delivers (frame : Frame K) :
    List.Forall₂ frame.Delivers frame.view.order frame.rectangles := by
  have ofMembers :
      ∀ entities : List Entity,
        (∀ entity ∈ entities, entity ∈ frame.registry.rectView) →
        List.Forall₂ frame.Delivers entities
          (entities.filterMap fun entity =>
            (frame.registry.transforms entity).bind fun transform =>
              (frame.registry.rects entity).map
                fun rect => (transform, rect)) := by
    intro entities viewed
    induction entities with
    | nil =>
        exact .nil
    | cons entity rest inductionHypothesis =>
        obtain ⟨placed, shaped⟩ :=
          Registry.mem_rectView.mp (viewed entity (by simp))
        obtain ⟨transform, transformShape⟩ :=
          Option.isSome_iff_exists.mp placed
        obtain ⟨rect, rectShape⟩ := Option.isSome_iff_exists.mp shaped
        have later :=
          inductionHypothesis
            (fun other member => viewed other (by simp [member]))
        simpa [transformShape, rectShape, Frame.Delivers] using later
  exact ofMembers frame.view.order
    fun entity member => (frame.view.mem_order entity).mp member

/-- One rectangle for each entity that holds both components. -/
theorem Frame.length_rectangles (frame : Frame K) :
    frame.rectangles.length = frame.registry.rectView.card := by
  rw [← frame.view.length_order]
  exact frame.forall₂_delivers.length_eq.symm

section Stream

variable [Add K] [Neg K]

/-- Six elements for each rectangle. -/
theorem length_pointStream
    (rectangles : List (TcTransform2d K × TcRect K)) :
    (pointStream rectangles).length = rectangles.length * 6 := by
  have uniform :
      ∀ block ∈ rectangles.map
          (fun rectangle =>
            (outline rectangle.1.position rectangle.2.dimensions).map
              PointElement.point),
        block.length = 5 := by
    intro block member
    obtain ⟨rectangle, -, rfl⟩ := List.mem_map.mp member
    rfl
  rw [pointStream, Delimited.length_encode uniform, List.length_map]

/-- Without the separators the outlines are left. -/
theorem filterMap_pointStream
    (rectangles : List (TcTransform2d K × TcRect K)) :
    (pointStream rectangles).filterMap PointElement.position? =
      rectangles.flatMap fun rectangle =>
        outline rectangle.1.position rectangle.2.dimensions := by
  rw [pointStream, Delimited.filterMap_encode rfl, List.flatMap_map]
  rfl

/-- `AddRect` adds the same outline. -/
theorem TkRenderer.addRect_eq_append
    (mPositionData : List (V2 K))
    (rect : TcRect K)
    (pos : V2 K) :
    TkRenderer.addRect mPositionData rect pos =
      mPositionData ++ outline pos rect.dimensions :=
  rfl

/-- Calls of `AddRect` accumulate the outlines. -/
theorem TkRenderer.foldl_addRect
    (rectangles : List (TcTransform2d K × TcRect K))
    (mPositionData : List (V2 K)) :
    rectangles.foldl
        (fun data rectangle =>
          TkRenderer.addRect data rectangle.2 rectangle.1.position)
        mPositionData =
      mPositionData ++
        rectangles.flatMap fun rectangle =>
          outline rectangle.1.position rectangle.2.dimensions := by
  induction rectangles generalizing mPositionData with
  | nil =>
      simp
  | cons rectangle rest inductionHypothesis =>
      rw [List.foldl_cons, inductionHypothesis,
        TkRenderer.addRect_eq_append, List.flatMap_cons,
        List.append_assoc]

end Stream

end Teck
