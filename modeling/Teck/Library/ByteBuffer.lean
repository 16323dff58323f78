import Mathlib.Data.List.Basic

/-!
# Byte buffers of fixed size

A buffer is created with a size and keeps it.  A write that fits replaces the
bytes it covers and nothing else; a write that does not fit is rejected and
leaves the buffer as it was.
-/

/-- A buffer of fixed size. -/
structure ByteBuffer where
  size : Nat
  bytes : List UInt8
  length_bytes : bytes.length = size
  deriving DecidableEq

namespace ByteBuffer

/-- A buffer of zeros. -/
def create (size : Nat) : ByteBuffer where
  size := size
  bytes := List.replicate size 0
  length_bytes := by simp

/-- So many bytes from the offset on lie inside the buffer. -/
def Fits
    (buffer : ByteBuffer)
    (offset length : Nat) : Prop :=
  offset + length ≤ buffer.size

instance
    (buffer : ByteBuffer)
    (offset length : Nat) :
    Decidable (buffer.Fits offset length) :=
  inferInstanceAs (Decidable (offset + length ≤ buffer.size))

/-- Replace the bytes of a range, or reject a range that does not fit. -/
def write
    (buffer : ByteBuffer)
    (offset : Nat)
    (data : List UInt8) : ByteBuffer :=
  if fits : buffer.Fits offset data.length then
    { size := buffer.size
      bytes :=
        buffer.bytes.take offset ++ data ++
          buffer.bytes.drop (offset + data.length)
      length_bytes := by
        have inside : offset + data.length ≤ buffer.bytes.length :=
          buffer.length_bytes ▸ fits
        simp only [List.length_append, List.length_take,
          List.length_drop]
        have sameLength := buffer.length_bytes
        omega }
  else
    buffer

/-- Writing keeps the size. -/
@[simp] theorem size_write
    (buffer : ByteBuffer)
    (offset : Nat)
    (data : List UInt8) :
    (buffer.write offset data).size = buffer.size := by
  unfold write
  split <;> rfl

/-- The bytes of a range; fewer where the range leaves the buffer. -/
def read
    (buffer : ByteBuffer)
    (offset length : Nat) : List UInt8 :=
  (buffer.bytes.drop offset).take length

/-- A write that fits replaces just its own bytes. -/
theorem bytes_write_of_fits
    {buffer : ByteBuffer}
    {offset : Nat}
    {data : List UInt8}
    (fits : buffer.Fits offset data.length) :
    (buffer.write offset data).bytes =
      buffer.bytes.take offset ++ data ++
        buffer.bytes.drop (offset + data.length) := by
  simp [write, fits]

/-- What was written can be read. -/
theorem read_write_self
    {buffer : ByteBuffer}
    {offset : Nat}
    {data : List UInt8}
    (fits : buffer.Fits offset data.length) :
    (buffer.write offset data).read offset data.length = data := by
  have inside : offset ≤ buffer.bytes.length := by
    rw [buffer.length_bytes]
    exact Nat.le_trans (Nat.le_add_right _ _) fits
  have length : (buffer.bytes.take offset).length = offset :=
    List.length_take_of_le inside
  rw [read, bytes_write_of_fits fits, List.append_assoc,
    List.drop_left' length, List.take_left' rfl]

/-- A write leaves every range alone that it does not meet. -/
theorem read_write_of_disjoint
    {buffer : ByteBuffer}
    {offset start length : Nat}
    {data : List UInt8}
    (apart : start + length ≤ offset ∨ offset + data.length ≤ start) :
    (buffer.write offset data).read start length =
      buffer.read start length := by
  by_cases fits : buffer.Fits offset data.length
  · have inside : offset ≤ buffer.bytes.length := by
      rw [buffer.length_bytes]
      exact Nat.le_trans (Nat.le_add_right _ _) fits
    have frontLength : (buffer.bytes.take offset).length = offset :=
      List.length_take_of_le inside
    apply List.ext_getElem?
    intro index
    simp only [read, bytes_write_of_fits fits, List.getElem?_take,
      List.getElem?_drop, List.append_assoc]
    split
    · rcases apart with before | after
      · rw [List.getElem?_append_left (by omega),
          List.getElem?_take_of_lt (by omega)]
      · rw [List.getElem?_append_right (by omega), frontLength,
          List.getElem?_append_right (by omega), List.getElem?_drop]
        congr 1
        omega
    · rfl
  · rw [write, dif_neg fits]

/-- Writing nothing changes nothing. -/
@[simp] theorem write_nil
    (buffer : ByteBuffer)
    (offset : Nat) :
    buffer.write offset [] = buffer := by
  unfold write
  split <;> simp

/-- A buffer filled by one write from its start holds exactly that data. -/
theorem bytes_write_whole
    {buffer : ByteBuffer}
    {data : List UInt8}
    (whole : data.length = buffer.size) :
    (buffer.write 0 data).bytes = data := by
  have fits : buffer.Fits 0 data.length := by
    simp [Fits, whole]
  have nothingLeft : buffer.bytes.drop data.length = [] := by
    simp [whole, buffer.length_bytes]
  simp [write, fits, nothingLeft]

end ByteBuffer
