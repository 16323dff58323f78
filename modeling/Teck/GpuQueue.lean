import Teck.Def
import Teck.Library.ByteBuffer

namespace Teck

/-!
# Buffers and queue writes

The part of the graphics library that the renderer's buffers rely on: creating
a buffer from its descriptor and the checks a queue write has to pass before it
reaches the buffer.  The checks are those of `ValidateWriteBuffer` in the
vendored library; a write that fails one leaves the buffer unchanged.
-/

/-- The `wgpu::BufferUsage` flags that the calls look at. -/
structure BufferUsage where
  copyDst : Bool := false
  vertex : Bool := false
  index : Bool := false
  uniform : Bool := false
  copySrc : Bool := false
  deriving DecidableEq, Repr

/-- What a buffer is created with. -/
structure BufferDescriptor where
  label : Option String
  size : Nat
  usage : BufferUsage
  mappedAtCreation : Bool
  deriving DecidableEq, Repr

/-- A created `wgpu::Buffer`. -/
structure GpuBuffer where
  label : Option String
  usage : BufferUsage
  memory : ByteBuffer
  deriving DecidableEq

/-- A new buffer has zeros in it. -/
def createBuffer (descriptor : BufferDescriptor) : GpuBuffer where
  label := descriptor.label
  usage := descriptor.usage
  memory := ByteBuffer.create descriptor.size

/-- The checks of `ValidateWriteBuffer`, in the order of the source. -/
def ValidWriteBuffer
    (buffer : GpuBuffer)
    (bufferOffset size : Nat) : Prop :=
  bufferOffset % 4 = 0 ∧
    size % 4 = 0 ∧
    buffer.memory.Fits bufferOffset size ∧
    buffer.usage.copyDst = true

instance
    (buffer : GpuBuffer)
    (bufferOffset size : Nat) :
    Decidable (ValidWriteBuffer buffer bufferOffset size) :=
  inferInstanceAs (Decidable (_ ∧ _ ∧ _ ∧ _))

/-- `Queue::WriteBuffer`: a write that validation refuses changes nothing. -/
def writeBuffer
    (buffer : GpuBuffer)
    (bufferOffset : Nat)
    (data : List UInt8) : GpuBuffer :=
  if ValidWriteBuffer buffer bufferOffset data.length then
    { buffer with memory := buffer.memory.write bufferOffset data }
  else
    buffer

/-- A call of `WriteBuffer`, with the size its target was created with. -/
structure QueueWrite where
  bufferSize : Nat
  offset : Nat
  size : Nat
  deriving DecidableEq, Repr

/-- The write lies inside its buffer. -/
def QueueWrite.Fits (write : QueueWrite) : Prop :=
  write.offset + write.size ≤ write.bufferSize

/--
The calls a render pass records about buffers and draws, with the arguments
that follow the buffer and the format.  A binding without a size covers the
rest of the buffer.
-/
inductive PassCall where
  | setVertexBuffer (slot offset : Nat) (size : Option Nat)
  | setIndexBuffer (offset size : Nat)
  | draw (vertexCount : Nat)
  | drawIndexed
      (indexCount instanceCount firstIndex : Nat)
      (baseVertex : Int)
      (firstInstance : Nat)
  deriving DecidableEq, Repr

/-- A buffer has the size it was asked for. -/
@[simp] theorem size_createBuffer (descriptor : BufferDescriptor) :
    (createBuffer descriptor).memory.size = descriptor.size :=
  rfl

/-- A write does not change the size of a buffer. -/
@[simp] theorem size_writeBuffer
    (buffer : GpuBuffer)
    (bufferOffset : Nat)
    (data : List UInt8) :
    (writeBuffer buffer bufferOffset data).memory.size =
      buffer.memory.size := by
  unfold writeBuffer
  split
  · simp
  · rfl

/-- A write does not change what a buffer may be used for. -/
@[simp] theorem usage_writeBuffer
    (buffer : GpuBuffer)
    (bufferOffset : Nat)
    (data : List UInt8) :
    (writeBuffer buffer bufferOffset data).usage = buffer.usage := by
  unfold writeBuffer
  split <;> rfl

/-- Writing nothing changes nothing. -/
@[simp] theorem writeBuffer_nil
    (buffer : GpuBuffer)
    (bufferOffset : Nat) :
    writeBuffer buffer bufferOffset [] = buffer := by
  unfold writeBuffer
  split <;> simp

/-- A write that does not fit changes nothing. -/
theorem writeBuffer_of_not_fits
    {buffer : GpuBuffer}
    {bufferOffset : Nat}
    {data : List UInt8}
    (outside : ¬ buffer.memory.Fits bufferOffset data.length) :
    writeBuffer buffer bufferOffset data = buffer := by
  have invalid : ¬ ValidWriteBuffer buffer bufferOffset data.length :=
    fun valid => outside valid.2.2.1
  simp [writeBuffer, invalid]

end Teck
