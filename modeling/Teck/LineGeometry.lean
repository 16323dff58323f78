import Teck.Def
import Teck.Library.Delimited
import Teck.Library.Loop

namespace Teck

/-!
# The generated line geometry

`tkRenderer::Init` fills four vertex lists and four index lists: each turn of
its inner loop pushes the corners of one rectangle and the five indices of its
closed outline, followed by the restart index.  The loop counter is a `u32`,
the stored indices are `u16`.
-/

/-- A vertex of the line pipeline. -/
structure Vertex where
  position : V2 Float32
  color : V3 Float32

/-- The corner `v2(x, y) * (f32)i / 1000.f` in white. -/
def corner (x y : Float32) (i : UInt32) : Vertex where
  position := ((⟨x, y⟩ : V2 Float32).scale i.toFloat32).divide 1000.0
  color := ⟨1.0, 1.0, 1.0⟩

/-- The four corners that `Init` pushes for one rectangle. -/
def quad (i : UInt32) : List Vertex :=
  [corner (-0.5) (-0.5) i, corner 0.5 (-0.5) i,
    corner 0.5 0.5 i, corner (-0.5) 0.5 i]

/-- The primitive restart value of a `Uint16` strip. -/
def restartIndex : UInt16 := 0xFFFF

/-- The lists `vertices[i]` and `indices[i]`. -/
structure LineList where
  vertices : List Vertex
  indices : List UInt16

namespace LineList

/-- A list before the loop. -/
def empty : LineList where
  vertices := []
  indices := []

/-- The body of the inner loop of `Init`. -/
def pushQuad (i j : UInt32) (lists : LineList) : LineList where
  vertices := lists.vertices ++ quad i
  indices :=
    lists.indices ++
      [toU16 j, toU16 (j + 1), toU16 (j + 2), toU16 (j + 3), toU16 j,
        restartIndex]

end LineList

/-- The state of the inner loop: its counter and the lists it fills. -/
structure InitLoop where
  j : UInt32
  lists : LineList

/-- The loop of `Init` before its first turn. -/
def InitLoop.start : InitLoop where
  j := 0
  lists := .empty

/-- One evaluation of `for (u32 j = 0; j < bound; j += 4)` with its body. -/
def initTurn
    (i bound : UInt32)
    (state : InitLoop) : InitLoop ⊕ LineList :=
  if state.j < bound then
    .inl
      { j := state.j + 4
        lists := state.lists.pushQuad i state.j }
  else
    .inr state.lists

/-- The list of so many rectangles. -/
def lineList (i : UInt32) : Nat → LineList
  | 0 => .empty
  | rectangles + 1 =>
      (lineList i rectangles).pushQuad i (UInt32.ofNat (4 * rectangles))

/-- The closed outline of a rectangle, as indices that are not stored yet. -/
def closedQuad (rectangle : Nat) : List Nat :=
  [4 * rectangle, 4 * rectangle + 1, 4 * rectangle + 2,
    4 * rectangle + 3, 4 * rectangle]

/-- What `indices[i]` stores for a rectangle, before the restart index. -/
def storedQuad (rectangle : Nat) : List UInt16 :=
  (closedQuad rectangle).map UInt16.ofNat

/-- A loop bounded by `4 * rectangles` stops after that many rectangles. -/
theorem initLoop_returns
    (i : UInt32)
    {rectangles : Nat}
    (bounded : 4 * rectangles < 2 ^ 32) :
    Loop.Returns (initTurn i (UInt32.ofNat (4 * rectangles)))
      InitLoop.start (lineList i rectangles) := by
  let states : Nat → InitLoop := fun count =>
    { j := UInt32.ofNat (4 * count), lists := lineList i count }
  have continued :
      ∀ count < rectangles,
        initTurn i (UInt32.ofNat (4 * rectangles)) (states count) =
          .inl (states (count + 1)) := by
    intro count below
    have inside :
        UInt32.ofNat (4 * count) < UInt32.ofNat (4 * rectangles) := by
      rw [UInt32.lt_iff_toNat_lt, UInt32.toNat_ofNat', UInt32.toNat_ofNat']
      omega
    have nextCounter :
        UInt32.ofNat (4 * count) + 4 = UInt32.ofNat (4 * (count + 1)) := by
      simp [Nat.mul_add, UInt32.ofNat_add]
    simp only [initTurn, states, inside, ↓reduceIte, nextCounter, lineList]
  exact Loop.Returns.of_after (Loop.after_of_states continued)
    (by simp [initTurn, states])

/-- The stored indices are the encoded outlines, one after the other. -/
theorem indices_lineList
    (i : UInt32)
    (rectangles : Nat) :
    (lineList i rectangles).indices =
      Delimited.encode restartIndex
        ((List.range rectangles).map storedQuad) := by
  induction rectangles with
  | zero =>
      rfl
  | succ rectangles inductionHypothesis =>
      simp [lineList, LineList.pushQuad, inductionHypothesis,
        List.range_succ, storedQuad, closedQuad, toU16]

/-- The vertices are those of the rectangles, one after the other. -/
theorem vertices_lineList
    (i : UInt32)
    (rectangles : Nat) :
    (lineList i rectangles).vertices =
      (List.replicate rectangles (quad i)).flatten := by
  induction rectangles with
  | zero =>
      rfl
  | succ rectangles inductionHypothesis =>
      simp [lineList, LineList.pushQuad, inductionHypothesis,
        List.replicate_succ']

/-- Four vertices for each rectangle. -/
@[simp] theorem length_vertices_lineList
    (i : UInt32)
    (rectangles : Nat) :
    (lineList i rectangles).vertices.length = 4 * rectangles := by
  simp [vertices_lineList, quad, Nat.mul_comm]

/-- Five indices and the restart value for each rectangle. -/
@[simp] theorem length_indices_lineList
    (i : UInt32)
    (rectangles : Nat) :
    (lineList i rectangles).indices.length = 6 * rectangles := by
  have uniform :
      ∀ block ∈ (List.range rectangles).map storedQuad,
        block.length = 5 := by
    intro block member
    obtain ⟨rectangle, -, rfl⟩ := List.mem_map.mp member
    rfl
  rw [indices_lineList, Delimited.length_encode uniform]
  simp [Nat.mul_comm]

end Teck
