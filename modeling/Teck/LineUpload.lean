import Teck.LineBuffers

namespace Teck

/-!
# What the upload would have to do, and what it does

The geometry reaches the screen if every write fits its buffer, the buffers
hold the generated lists and the draw covers the indices.  The setup functions
take the number of lists for the number of elements: whatever was generated,
the vertex buffer has room for four vertices and is written four times its
size, the index buffer has room for four indices, and four indices are drawn.
-/

/-- Every write that was made lies inside its buffer. -/
def LineBuffers.WritesFit (state : LineBuffers) : Prop :=
  ∀ write ∈ state.writes, write.Fits

/-- The buffers start with the bytes of all vertices and all indices. -/
structure LineBuffers.HoldsGeometry (state : LineBuffers) : Prop where
  vertices :
    state.lists.allVertices.flatMap Vertex.toBytes <+:
      state.mLineVertexBuffer.memory.bytes
  indices :
    state.lists.allIndices.flatMap u16Bytes <+:
      state.mLineIndexBuffer.memory.bytes

/-- Every draw covers the indices held and names vertices held. -/
structure LineBuffers.DrawsGeometry (state : LineBuffers) : Prop where
  bound :
    ∀ offset size,
      .setIndexBuffer offset size ∈ state.passCalls →
      offset = 0 ∧
        size = state.lists.allIndices.length * sizeofU16
  counted :
    ∀ indexCount instances firstIndex baseVertex firstInstance,
      .drawIndexed indexCount instances firstIndex baseVertex
          firstInstance ∈ state.passCalls →
      firstIndex = 0 ∧ indexCount = state.lists.allIndices.length
  inRange :
    ∀ offset size indexCount instances firstIndex firstInstance,
      .setIndexBuffer offset size ∈ state.passCalls →
      .drawIndexed indexCount instances firstIndex 0
          firstInstance ∈ state.passCalls →
      ∀ index ∈ state.drawnIndices offset size indexCount firstIndex,
        index ≠ restartIndex →
        index.toNat <
          state.mLineVertexBuffer.memory.size / sizeofVertex

/--
The upload law: the writes of setup and of the first frame fit, setup leaves
the geometry in the buffers, and the frame draws it.
-/
structure UploadsAndDraws
    (lists : LineLists)
    (memory : RawMemory) : Prop where
  writesFit : (LineBuffers.setupAndRender lists memory).WritesFit
  holdsGeometry : (LineBuffers.setup lists memory).HoldsGeometry
  drawsGeometry : (LineBuffers.setupAndRender lists memory).DrawsGeometry

namespace LineBuffers

/-- The first write fills the buffer, the other three are past its end. -/
theorem setupLineVertexBuffer_eq
    (memory : RawMemory)
    (state : LineBuffers) :
    state.setupLineVertexBuffer memory =
      { state with
        mLineVertexBuffer :=
          writeBuffer (createBuffer (lineVertexDescriptor state.lists)) 0
            (bytesAt memory.verticesData 80)
        writes :=
          state.writes ++
            [⟨80, 0, 80⟩, ⟨80, 80, 80⟩, ⟨80, 160, 80⟩, ⟨80, 240, 80⟩] } := by
  let filled : GpuBuffer :=
    writeBuffer (createBuffer (lineVertexDescriptor state.lists)) 0
      (bytesAt memory.verticesData 80)
  have filledSize : filled.memory.size = 80 :=
    size_writeBuffer _ _ _
  have rejected :
      ∀ offset, 0 < offset →
        writeBuffer filled offset (bytesAt memory.verticesData 80) =
          filled := by
    intro offset positive
    apply writeBuffer_of_not_fits
    rw [ByteBuffer.Fits, filledSize, length_bytesAt]
    omega
  have size : (lineVertexDescriptor state.lists).size = 80 := rfl
  simp [setupLineVertexBuffer, size, List.range_succ, writeVertexBuffer,
    filled, rejected]

/-- The calls of setup and the first frame do not depend on the geometry. -/
theorem setupAndRender_calls
    (lists : LineLists)
    (memory : RawMemory) :
    (setupAndRender lists memory).writes =
        [⟨80, 0, 80⟩, ⟨80, 80, 80⟩, ⟨80, 160, 80⟩, ⟨80, 240, 80⟩,
          ⟨8, 0, 8⟩, ⟨192, 0, 192⟩] ∧
      (setupAndRender lists memory).passCalls =
        [.setVertexBuffer 0 0 none, .setIndexBuffer 0 8,
          .drawIndexed 4 1 0 0 0] := by
  have listCount : lists.indices.size = 4 := rfl
  simp [setupAndRender, render, setup, setupMVPUniformsBuffer,
    setupLineIndexBuffer, setupLineVertexBuffer_eq, unset, listCount,
    mvpUniformsDescriptor, sizeofMVPUniforms, sizeofU16, toU32,
    lineIndexDescriptor]

/-- The vertex buffer ends up with bytes of the list objects. -/
theorem vertexBytes_setup
    (lists : LineLists)
    (memory : RawMemory) :
    (setup lists memory).mLineVertexBuffer.memory.bytes =
      bytesAt memory.verticesData 80 := by
  let created := createBuffer (lineVertexDescriptor lists)
  have valid :
      ValidWriteBuffer created 0
        (bytesAt memory.verticesData 80).length := by
    rw [length_bytesAt]
    exact ⟨rfl, rfl, Nat.le_refl 80, rfl⟩
  have written :
      (writeBuffer created 0
          (bytesAt memory.verticesData 80)).memory.bytes =
        bytesAt memory.verticesData 80 := by
    rw [writeBuffer, if_pos valid]
    exact ByteBuffer.bytes_write_whole (length_bytesAt _ _)
  simpa [setup, setupLineVertexBuffer_eq, setupLineIndexBuffer,
    setupMVPUniformsBuffer, unset] using written

/-- The index buffer has room for the four list objects counted as indices. -/
theorem size_mLineIndexBuffer_setup
    (lists : LineLists)
    (memory : RawMemory) :
    (setup lists memory).mLineIndexBuffer.memory.size = 8 :=
  size_writeBuffer _ _ _

/-- The setup functions keep the lists. -/
@[simp] theorem lists_setup
    (lists : LineLists)
    (memory : RawMemory) :
    (setup lists memory).lists = lists := by
  simp [setup, setupLineVertexBuffer_eq, setupLineIndexBuffer,
    setupMVPUniformsBuffer, unset]

/-- A frame keeps the lists. -/
@[simp] theorem lists_setupAndRender
    (lists : LineLists)
    (memory : RawMemory) :
    (setupAndRender lists memory).lists = lists := by
  simp [setupAndRender, render]

/-- Whatever was generated, the second vertex write is outside its buffer. -/
theorem not_writesFit
    (lists : LineLists)
    (memory : RawMemory) :
    ¬ (setupAndRender lists memory).WritesFit := by
  intro fits
  have second :=
    fits ⟨80, 80, 80⟩ (by simp [(setupAndRender_calls lists memory).1])
  exact absurd second (by simp [QueueWrite.Fits])

end LineBuffers

/-- The index lists are made of sixes. -/
theorem six_dvd_length_allIndices (rectangles : Fin 4 → Nat) :
    6 ∣ (initLists rectangles).allIndices.length := by
  rw [LineLists.allIndices, List.length_flatten]
  apply List.dvd_sum
  intro length member
  obtain ⟨list, inLists, rfl⟩ := List.mem_map.mp member
  simp only [initLists, Vector.toList_ofFn, List.mem_ofFn] at inLists
  rcases inLists with ⟨i, rfl⟩
  exact ⟨rectangles i, length_indices_lineList _ _⟩

/-- Four indices never cover whole rectangles. -/
theorem LineBuffers.not_drawsGeometry
    (rectangles : Fin 4 → Nat)
    (memory : RawMemory) :
    ¬ (setupAndRender (initLists rectangles) memory).DrawsGeometry := by
  intro draws
  have calls := (setupAndRender_calls (initLists rectangles) memory).2
  have counted :
      4 =
        (setupAndRender (initLists rectangles)
          memory).lists.allIndices.length :=
    (draws.counted 4 1 0 0 0 (by simp [calls])).2
  rw [lists_setupAndRender] at counted
  obtain ⟨count, whole⟩ := six_dvd_length_allIndices rectangles
  omega

/-- Two bytes for each index. -/
@[simp] theorem length_flatMap_u16Bytes (indices : List UInt16) :
    (indices.flatMap u16Bytes).length = indices.length * sizeofU16 := by
  induction indices with
  | nil =>
      rfl
  | cons index rest inductionHypothesis =>
      simp only [List.flatMap_cons, List.length_append,
        inductionHypothesis, List.length_cons, Nat.succ_mul]
      exact Nat.add_comm 2 _

/-- The geometry is held exactly when none was generated. -/
theorem LineBuffers.holdsGeometry_iff
    (rectangles : Fin 4 → Nat)
    (memory : RawMemory) :
    (setup (initLists rectangles) memory).HoldsGeometry ↔
      ∀ i, rectangles i = 0 := by
  constructor
  · intro holds
    have room := holds.indices.length_le
    rw [length_flatMap_u16Bytes, lists_setup,
      ByteBuffer.length_bytes, size_mLineIndexBuffer_setup] at room
    have noIndex : (initLists rectangles).allIndices.length = 0 := by
      obtain ⟨count, whole⟩ := six_dvd_length_allIndices rectangles
      unfold sizeofU16 at room
      omega
    intro i
    have listEmpty :
        (lineList (UInt32.ofNat i) (rectangles i)).indices = [] := by
      have allEmpty := List.flatten_eq_nil_iff.mp
        (List.length_eq_zero_iff.mp noIndex)
      exact allEmpty _ (by simp [initLists])
    have count := length_indices_lineList (UInt32.ofNat i) (rectangles i)
    rw [listEmpty, List.length_nil] at count
    omega
  · intro nothing
    have emptyLists :
        ∀ i : Fin 4,
          lineList (UInt32.ofNat i) (rectangles i) = LineList.empty := by
      intro i
      rw [nothing i, lineList]
    have noVertices : (initLists rectangles).allVertices = [] := by
      simp [LineLists.allVertices, initLists, emptyLists, LineList.empty]
    have noIndices : (initLists rectangles).allIndices = [] := by
      simp [LineLists.allIndices, initLists, emptyLists, LineList.empty]
    exact
      { vertices := by simp [noVertices]
        indices := by simp [noIndices] }

/-- Whatever the loops of `Init` generated, the upload law fails. -/
theorem not_uploadsAndDraws
    (rectangles : Fin 4 → Nat)
    (memory : RawMemory) :
    ¬ UploadsAndDraws (initLists rectangles) memory :=
  fun law => LineBuffers.not_writesFit _ memory law.writesFit

/-- What `Init` generates, 250000 rectangles per list, fails all parts. -/
theorem not_uploadsAndDraws_init :
    let lists := initLists fun _ => 250000
    let memory : RawMemory := ⟨fun _ => 0, fun _ => 0, fun _ => 0⟩
    ¬ (LineBuffers.setupAndRender lists memory).WritesFit ∧
      ¬ (LineBuffers.setup lists memory).HoldsGeometry ∧
      ¬ (LineBuffers.setupAndRender lists memory).DrawsGeometry ∧
      ¬ UploadsAndDraws lists memory := by
  intro lists memory
  have writesFail := LineBuffers.not_writesFit lists memory
  refine ⟨writesFail, ?_, LineBuffers.not_drawsGeometry _ memory,
    fun law => writesFail law.writesFit⟩
  rw [LineBuffers.holdsGeometry_iff]
  intro nothing
  exact absurd (nothing 0) (by decide)

end Teck
