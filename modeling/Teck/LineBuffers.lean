import Mathlib.Algebra.BigOperators.Ring.List
import Mathlib.Algebra.Ring.Nat
import Teck.GpuQueue
import Teck.LineGeometry

namespace Teck

/-!
# Uploading and drawing the line geometry

`SetupLineVertexBuffer`, `SetupLineIndexBuffer` and the line part of `Render`,
with every queue write, binding and draw they make.  `vertices` and `indices`
are containers of four lists: their `size()` is the number of lists, and the
memory behind their `data()` is that of the list objects, whose bytes the
language leaves open.
-/

/-- `sizeof(Vertex)`: five `f32` fields without padding. -/
def sizeofVertex : Nat := 20

/-- `sizeof(MVPUniforms)`: three matrices of sixteen `f32`. -/
def sizeofMVPUniforms : Nat := 192

/-- The bytes of a `u16`, lowest first. -/
def u16Bytes (value : UInt16) : List UInt8 :=
  [value.toUInt8, (value >>> 8).toUInt8]

/-- The bytes of a 32-bit value, lowest first. -/
def u32Bytes (value : UInt32) : List UInt8 :=
  u16Bytes value.toUInt16 ++ u16Bytes (value >>> 16).toUInt16

/-- A vertex as it lies in memory. -/
def Vertex.toBytes (vertex : Vertex) : List UInt8 :=
  [ vertex.position.x, vertex.position.y,
    vertex.color.x, vertex.color.y, vertex.color.z ].flatMap
      fun coordinate => u32Bytes coordinate.toBits

/-- Read consecutive `u16` values; an odd last byte is dropped. -/
def readU16s : List UInt8 → List UInt16
  | low :: high :: rest =>
      (low.toUInt16 ||| (high.toUInt16 <<< 8)) :: readU16s rest
  | _ => []

/-- The four vertex lists and the four index lists of the renderer. -/
structure LineLists where
  vertices : Vector (List Vertex) 4
  indices : Vector (List UInt16) 4

/-- What the loops of `Init` produce for a number of rectangles in each list. -/
def initLists (rectangles : Fin 4 → Nat) : LineLists where
  vertices :=
    Vector.ofFn fun i => (lineList (UInt32.ofNat i) (rectangles i)).vertices
  indices :=
    Vector.ofFn fun i => (lineList (UInt32.ofNat i) (rectangles i)).indices

namespace LineLists

/-- The vertices that the code means to upload. -/
def allVertices (lists : LineLists) : List Vertex :=
  lists.vertices.toList.flatten

/-- The indices that the code means to upload. -/
def allIndices (lists : LineLists) : List UInt16 :=
  lists.indices.toList.flatten

end LineLists

/-- The bytes in memory behind the pointers that are uploaded from. -/
structure RawMemory where
  verticesData : Nat → UInt8
  indicesData : Nat → UInt8
  mvpUniforms : Nat → UInt8

/-- So many bytes from a pointer on. -/
def bytesAt (pointer : Nat → UInt8) (size : Nat) : List UInt8 :=
  (List.range size).map pointer

/-- As many bytes are read as were asked for. -/
@[simp] theorem length_bytesAt (pointer : Nat → UInt8) (size : Nat) :
    (bytesAt pointer size).length = size := by
  simp [bytesAt]

/-- The line buffers of `tkRenderer` and the calls made on them. -/
structure LineBuffers where
  lists : LineLists
  mLineVertexBuffer : GpuBuffer
  mLineIndexBuffer : GpuBuffer
  wMVPUniformsBuffer : GpuBuffer
  writes : List QueueWrite
  passCalls : List PassCall

/--
The descriptor of `SetupLineVertexBuffer`; `size()` is that of the outer
array.
-/
def lineVertexDescriptor (lists : LineLists) : BufferDescriptor where
  label := some "Line Vertex Buffer"
  size := lists.vertices.size * sizeofVertex
  usage := { copyDst := true, vertex := true }
  mappedAtCreation := false

/--
The descriptor of `SetupLineIndexBuffer`; `size()` is that of the outer array.
-/
def lineIndexDescriptor (lists : LineLists) : BufferDescriptor where
  label := some "Line Index Buffer"
  size := lists.indices.size * sizeofU16
  usage := { copyDst := true, index := true }
  mappedAtCreation := false

/-- The descriptor of `SetupMVPUniformsBuffer`. -/
def mvpUniformsDescriptor : BufferDescriptor where
  label := some "MVP Uniforms Buffer"
  size := sizeofMVPUniforms
  usage := { copyDst := true, uniform := true }
  mappedAtCreation := false

namespace LineBuffers

/-- The buffers before setup, which are null handles. -/
def unset (lists : LineLists) : LineBuffers :=
  let null : GpuBuffer :=
    { label := none, usage := {}, memory := ByteBuffer.create 0 }
  { lists := lists
    mLineVertexBuffer := null
    mLineIndexBuffer := null
    wMVPUniformsBuffer := null
    writes := []
    passCalls := [] }

/-- One of the writes of `SetupLineVertexBuffer`. -/
def writeVertexBuffer
    (state : LineBuffers)
    (offset : Nat)
    (data : List UInt8) : LineBuffers :=
  { state with
    mLineVertexBuffer := writeBuffer state.mLineVertexBuffer offset data
    writes :=
      state.writes ++
        [⟨state.mLineVertexBuffer.memory.size, offset, data.length⟩] }

/--
`SetupLineVertexBuffer`: four writes of what `data()` of the outer array
points to.
-/
def setupLineVertexBuffer
    (memory : RawMemory)
    (state : LineBuffers) : LineBuffers :=
  let bufferDesc := lineVertexDescriptor state.lists
  let created :=
    { state with mLineVertexBuffer := createBuffer bufferDesc }
  (List.range 4).foldl
    (fun current i =>
      current.writeVertexBuffer (i * bufferDesc.size)
        (bytesAt memory.verticesData bufferDesc.size))
    created

/--
`SetupLineIndexBuffer`: one write of what `data()` of the outer array points
to.
-/
def setupLineIndexBuffer
    (memory : RawMemory)
    (state : LineBuffers) : LineBuffers :=
  let bufferDesc := lineIndexDescriptor state.lists
  let data := bytesAt memory.indicesData bufferDesc.size
  { state with
    mLineIndexBuffer := writeBuffer (createBuffer bufferDesc) 0 data
    writes := state.writes ++ [⟨bufferDesc.size, 0, data.length⟩] }

/-- `SetupMVPUniformsBuffer`, which writes nothing. -/
def setupMVPUniformsBuffer (state : LineBuffers) : LineBuffers :=
  { state with wMVPUniformsBuffer := createBuffer mvpUniformsDescriptor }

/-- The buffer calls of one `tkRenderer::Render`. -/
def render
    (memory : RawMemory)
    (state : LineBuffers) : LineBuffers :=
  let data := bytesAt memory.mvpUniforms sizeofMVPUniforms
  { state with
    wMVPUniformsBuffer := writeBuffer state.wMVPUniformsBuffer 0 data
    writes :=
      state.writes ++
        [⟨state.wMVPUniformsBuffer.memory.size, 0, data.length⟩]
    passCalls :=
      state.passCalls ++
        [ .setVertexBuffer 0 0 none,
          .setIndexBuffer 0 (state.lists.indices.size * sizeofU16),
          .drawIndexed (toU32 state.lists.indices.size) 1 0 0 0 ] }

/-- The three setup steps on given lists, in the order of `InitGraphics`. -/
def setup (lists : LineLists) (memory : RawMemory) : LineBuffers :=
  (((unset lists).setupLineVertexBuffer memory).setupLineIndexBuffer
    memory).setupMVPUniformsBuffer

/-- All setup functions and one frame. -/
def setupAndRender (lists : LineLists) (memory : RawMemory) : LineBuffers :=
  (setup lists memory).render memory

/-- The indices a draw reads from a bound range of the index buffer. -/
def drawnIndices
    (state : LineBuffers)
    (offset size indexCount firstIndex : Nat) : List UInt16 :=
  let bound :=
    (state.mLineIndexBuffer.memory.bytes.drop offset).take size
  ((readU16s bound).drop firstIndex).take indexCount

end LineBuffers

end Teck
