import Teck.Dawn.Alignment
import Teck.Library.ByteBuffer

namespace Teck.Dawn

/-!
# The command allocator and iterator

`CommandAllocator` of the vendored library records commands in blocks of raw
memory: an id, padding, the command itself, padding, the next id.  A block ends
with a tag in place of an id.  `CommandIterator` walks over the blocks and
finds the commands by repeating the same alignment steps.

Pointers are addresses.  What `operator new` answers is an argument of the
allocation, an address or a failure; the placeholder of an empty allocator is a
block of four bytes that is never handed out.
-/

/-- The identifier that ends the commands of a block. -/
def kEndOfBlock : UInt32 := 0xFFFFFFFF

/-- The id of the records that `AllocateData` makes. -/
def kAdditionalData : UInt32 := 0xFFFFFFFE

/-- The largest alignment of a command. -/
def kMaxSupportedAlignment : Nat := 8

/-- Two ids and the padding before the command and before the next id. -/
def kWorstCaseAdditionalSize : Nat := 4 + kMaxSupportedAlignment + 4 + 4

/-- The size of the first block that is asked for. -/
def kDefaultBaseAllocationSize : Nat := 2048

/-- The bytes of an id in memory, lowest first. -/
def idBytes (id : UInt32) : List UInt8 :=
  [id.toNat, id.toNat / 2 ^ 8, id.toNat / 2 ^ 16, id.toNat / 2 ^ 24].map
    UInt8.ofNat

/-- An identifier from its four bytes, lowest first. -/
def readIdBytes : List UInt8 → Option UInt32
  | [first, second, third, fourth] =>
      some
        (UInt32.ofNat
          (first.toNat + second.toNat * 2 ^ 8 + third.toNat * 2 ^ 16 +
            fourth.toNat * 2 ^ 24))
  | _ => none

/-- A block of memory at an address aligned for an id. -/
structure Block where
  base : Nat
  memory : ByteBuffer
  aligned : 4 ∣ base
  inWord : base + memory.size + kMaxSupportedAlignment ≤ 2 ^ 64

namespace Block

/-- The first address behind a block. -/
def limit (block : Block) : Nat :=
  block.base + block.memory.size

/-- The bytes at an address of the block. -/
def read
    (block : Block)
    (address length : Nat) : List UInt8 :=
  block.memory.read (address - block.base) length

/-- The identifier at an address of the block. -/
def readId? (block : Block) (address : Nat) : Option UInt32 :=
  readIdBytes (block.read address 4)

/-- Write at an address of the block. -/
def write
    (block : Block)
    (address : Nat)
    (data : List UInt8) : Block where
  base := block.base
  memory := block.memory.write (address - block.base) data
  aligned := block.aligned
  inWord := by simpa using block.inWord

/-- A new block; no address out of line or out of memory is ever returned. -/
def new? (base size : Nat) : Option Block :=
  if placed : 4 ∣ base ∧ base + size + kMaxSupportedAlignment ≤ 2 ^ 64 then
    some
      { base := base
        memory := ByteBuffer.create size
        aligned := placed.1
        inWord := placed.2 }
  else
    none

end Block

/-- The blocks before the one that `mCurrentPtr` points into are apart. -/
structure CommandAllocator where
  earlier : List Block
  current : Block
  onPlaceholder : Bool
  mCurrentPtr : Nat
  mLastAllocationSize : Nat

namespace CommandAllocator

/-- An allocator with its placeholder space at some address. -/
def new (mPlaceholderSpace : Block) : CommandAllocator where
  earlier := []
  current := mPlaceholderSpace
  onPlaceholder := true
  mCurrentPtr := mPlaceholderSpace.base
  mLastAllocationSize := kDefaultBaseAllocationSize

/-- What is left of the current block. -/
def remainingSize (allocator : CommandAllocator) : Nat :=
  allocator.current.limit - allocator.mCurrentPtr

/-- The current block has room for the command and for what may follow it. -/
def HasRoom
    (allocator : CommandAllocator)
    (commandSize : Nat) : Prop :=
  allocator.remainingSize ≥ kWorstCaseAdditionalSize ∧
    allocator.remainingSize - kWorstCaseAdditionalSize ≥ commandSize

instance
    (allocator : CommandAllocator)
    (commandSize : Nat) :
    Decidable (allocator.HasRoom commandSize) :=
  inferInstanceAs (Decidable (_ ∧ _))

/-- Write to the current block. -/
def write
    (allocator : CommandAllocator)
    (address : Nat)
    (data : List UInt8) : CommandAllocator :=
  { allocator with current := allocator.current.write address data }

/-- The good case of `Allocate`: the id and the address of the command. -/
def place
    (allocator : CommandAllocator)
    (commandId : UInt32)
    (commandSize commandAlignment : Nat) : Nat × CommandAllocator :=
  let commandAlloc := align (allocator.mCurrentPtr + 4) commandAlignment
  ( commandAlloc,
    { allocator.write allocator.mCurrentPtr (idBytes commandId) with
      mCurrentPtr := align (commandAlloc + commandSize) 4 } )

/-- `*reinterpret_cast<uint32_t*>(mCurrentPtr) = kEndOfBlock` -/
def tagEnd (allocator : CommandAllocator) : CommandAllocator :=
  allocator.write allocator.mCurrentPtr (idBytes kEndOfBlock)

/-- `GetNewBlock`, with the address that `new (std::nothrow)` returned. -/
def getNewBlock
    (allocator : CommandAllocator)
    (address : Option Nat)
    (minimumSize : Nat) : Bool × CommandAllocator :=
  let mLastAllocationSize :=
    max minimumSize (min (allocator.mLastAllocationSize * 2 % 2 ^ 64) 16384)
  match address.bind fun base => Block.new? base mLastAllocationSize with
  | none => (false, { allocator with mLastAllocationSize })
  | some block =>
      ( true,
        { earlier :=
            if allocator.onPlaceholder then []
            else allocator.earlier ++ [allocator.current]
          current := block
          onPlaceholder := false
          mCurrentPtr := align block.base 4
          mLastAllocationSize } )

/-- `AllocateInNewBlock` up to its call of `Allocate`. -/
def requestNewBlock
    (allocator : CommandAllocator)
    (address : Option Nat)
    (commandSize : Nat) : Bool × CommandAllocator :=
  let tagged := allocator.tagEnd
  let requestedBlockSize :=
    (commandSize + kWorstCaseAdditionalSize) % 2 ^ 64
  -- The computation of the request could overflow.
  if requestedBlockSize ≤ commandSize then
    (false, tagged)
  else
    tagged.getNewBlock address requestedBlockSize

/-- `Allocate`; the addresses answer the calls of `new` it makes in turn. -/
def allocate
    (commandId : UInt32)
    (commandSize commandAlignment : Nat) :
    List (Option Nat) → CommandAllocator → Option Nat × CommandAllocator
  | addresses, allocator =>
      if allocator.HasRoom commandSize then
        let placed := allocator.place commandId commandSize commandAlignment
        (some placed.1, placed.2)
      else
        match addresses with
        | [] => (none, (allocator.requestNewBlock none commandSize).2)
        | address :: rest =>
            match allocator.requestNewBlock address commandSize with
            | (false, next) => (none, next)
            | (true, next) =>
                allocate commandId commandSize commandAlignment rest next

/-- `AcquireBlocks`: the blocks, the last of them tagged. -/
def acquireBlocks (allocator : CommandAllocator) : List Block :=
  if allocator.onPlaceholder then []
  else allocator.earlier ++ [allocator.tagEnd.current]

end CommandAllocator

/-- A command to record: its id, and the bytes its writer puts there. -/
structure Command where
  commandId : UInt32
  alignment : Nat
  data : List UInt8
  deriving DecidableEq, Repr

/-- What the templates of `Allocate` and `AllocateData` assert statically. -/
structure Command.Valid (command : Command) : Prop where
  id : command.commandId ≠ kEndOfBlock
  alignment : ∃ exponent, command.alignment = 2 ^ exponent
  supported : command.alignment ≤ kMaxSupportedAlignment
  size : command.data.length < 2 ^ 64

namespace CommandAllocator

/-- Allocate a command and fill it in, unless the allocation fails. -/
def record
    (allocator : CommandAllocator)
    (addresses : List (Option Nat))
    (command : Command) : Bool × CommandAllocator :=
  match
    allocate command.commandId command.data.length command.alignment
      addresses allocator with
  | (some address, next) => (true, next.write address command.data)
  | (none, next) => (false, next)

/-- Record commands one after the other; the ones that succeed are kept. -/
def recordAll :
    CommandAllocator → List (List (Option Nat) × Command) →
      List Command × CommandAllocator
  | allocator, [] => ([], allocator)
  | allocator, (addresses, command) :: rest =>
      match allocator.record addresses command with
      | (false, next) => recordAll next rest
      | (true, next) =>
          let later := recordAll next rest
          (command :: later.1, later.2)

end CommandAllocator

/-! ## The iterator -/

/-- The blocks that were acquired, and how far they have been read. -/
structure CommandIterator where
  mBlocks : List Block
  mCurrentBlock : Nat
  mCurrentPtr : Nat

namespace CommandIterator

/-- `Reset`; without blocks the pointer is that of `mEndOfBlock`. -/
def reset (mBlocks : List Block) : CommandIterator where
  mBlocks := mBlocks
  mCurrentBlock := 0
  mCurrentPtr :=
    match mBlocks with
    | [] => 0
    | first :: _ => align first.base 4

/-- `AcquireCommandBlocks` -/
def acquireCommandBlocks
    (allocators : List CommandAllocator) : CommandIterator :=
  reset (allocators.flatMap CommandAllocator.acquireBlocks)

/--
`NextCommandId` and `NextCommandIdInNewBlock` from the current block on.  The
result is undefined where an id would be read past the end of a block.
-/
def nextIdFrom (iterator : CommandIterator) :
    Nat → Nat → List Block → Option (Option UInt32 × CommandIterator)
  | _, _, [] => some (none, reset iterator.mBlocks)
  | index, pointer, block :: rest =>
      let idPtr := align pointer 4
      match block.readId? idPtr with
      | none => none
      | some id =>
          if id ≠ kEndOfBlock then
            some
              ( some id,
                { iterator with
                  mCurrentBlock := index
                  mCurrentPtr := idPtr + 4 } )
          else
            match rest with
            | [] => some (none, reset iterator.mBlocks)
            | next :: _ =>
                nextIdFrom iterator (index + 1) (align next.base 4) rest

/-- `CommandIterator::NextCommandId`. -/
def nextCommandId (iterator : CommandIterator) :
    Option (Option UInt32 × CommandIterator) :=
  iterator.nextIdFrom iterator.mCurrentBlock iterator.mCurrentPtr
    (iterator.mBlocks.drop iterator.mCurrentBlock)

/-- `NextCommand`, with the bytes its result points to. -/
def nextCommand
    (iterator : CommandIterator)
    (commandSize commandAlignment : Nat) :
    Option (List UInt8 × CommandIterator) :=
  iterator.mBlocks[iterator.mCurrentBlock]?.map fun block =>
    let commandPtr := align iterator.mCurrentPtr commandAlignment
    ( block.read commandPtr commandSize,
      { iterator with mCurrentPtr := commandPtr + commandSize } )

/-- An id and the command after it, of the size its reader expects. -/
def nextIdAndCommand
    (iterator : CommandIterator)
    (commandSize commandAlignment : Nat) :
    Option ((UInt32 × List UInt8) × CommandIterator) :=
  match iterator.nextCommandId with
  | some (some id, found) =>
      (found.nextCommand commandSize commandAlignment).map
        fun (data, next) => ((id, data), next)
  | _ => none

/-- Read commands of expected sizes and alignments one after the other. -/
def readAll :
    CommandIterator → List (Nat × Nat) →
      Option (List (UInt32 × List UInt8) × CommandIterator)
  | iterator, [] => some ([], iterator)
  | iterator, (commandSize, commandAlignment) :: rest =>
      (iterator.nextIdAndCommand commandSize commandAlignment).bind
        fun (command, next) =>
          (readAll next rest).map fun (commands, final) =>
            (command :: commands, final)

end CommandIterator

end Teck.Dawn
