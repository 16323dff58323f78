import Mathlib.Data.List.Forall2
import Teck.Dawn.CommandAllocator

namespace Teck.Dawn

/-!
# What the command allocator keeps in its blocks

`Laid` describes the bytes of a block between two ids: each command behind its
id, at the address both sides compute.  Recording only writes past what is laid
out, so the layout stays, also across a failed allocation.
-/

/-- An identifier has four bytes. -/
@[simp] theorem length_idBytes (id : UInt32) : (idBytes id).length = 4 :=
  rfl

/-- Identifiers are read as they were written. -/
@[simp] theorem readIdBytes_idBytes (id : UInt32) :
    readIdBytes (idBytes id) = some id := by
  have small := id.toNat_lt
  simp only [idBytes, List.map_cons, List.map_nil, readIdBytes,
    UInt8.toNat_ofNat', Option.some.injEq]
  apply UInt32.toNat.inj
  rw [UInt32.toNat_ofNat_of_lt']
  · omega
  · show _ < 2 ^ 32
    omega

namespace Block

variable {block : Block} {address start length : Nat} {data : List UInt8}

/-- Writing does not move a block. -/
@[simp] theorem base_write : (block.write address data).base = block.base :=
  rfl

/-- Writing does not extend a block. -/
@[simp] theorem limit_write :
    (block.write address data).limit = block.limit := by
  simp [limit, write]

/-- What was written to a block can be read. -/
theorem read_write_self
    (low : block.base ≤ address)
    (high : address + data.length ≤ block.limit) :
    (block.write address data).read address data.length = data := by
  apply ByteBuffer.read_write_self
  rw [limit] at high
  rw [ByteBuffer.Fits]
  omega

/-- What ends before the written bytes is read as before. -/
theorem read_write_of_le
    (low : block.base ≤ start)
    (before : start + length ≤ address) :
    (block.write address data).read start length =
      block.read start length := by
  refine ByteBuffer.read_write_of_disjoint (.inl ?_)
  rw [base_write]
  omega

/-- An identifier that was written can be read. -/
theorem readId?_write_self
    {id : UInt32}
    (low : block.base ≤ address)
    (high : address + 4 ≤ block.limit) :
    (block.write address (idBytes id)).readId? address = some id := by
  have bytes :
      (block.write address (idBytes id)).read address
          (idBytes id).length =
        idBytes id :=
    read_write_self low high
  rw [readId?]
  simpa using congrArg readIdBytes bytes

/-- An identifier before the written bytes is read as before. -/
theorem readId?_write_of_le
    (low : block.base ≤ start)
    (before : start + 4 ≤ address) :
    (block.write address data).readId? start = block.readId? start := by
  rw [readId?, read_write_of_le low before, readId?]

/-- Aligning an address of a block stays inside a word. -/
theorem limit_lt (block : Block) : block.limit + 7 < 2 ^ 64 := by
  have inWord := block.inWord
  rw [kMaxSupportedAlignment] at inWord
  rw [limit]
  omega

/-- Every address of a block can be aligned for a command. -/
theorem alignable
    {exponent : Nat}
    (supported : 2 ^ exponent ≤ kMaxSupportedAlignment)
    (inside : address ≤ block.limit) :
    Alignable address (2 ^ exponent) where
  powerOfTwo := ⟨exponent, rfl⟩
  noOverflow := by
    have limit := block.limit_lt
    rw [kMaxSupportedAlignment] at supported
    omega

/-- A new block has the size that was asked for. -/
theorem size_of_new?
    {base size : Nat}
    (placed : new? base size = some block) :
    block.memory.size = size := by
  rw [new?] at placed
  split at placed
  · obtain rfl := Option.some.inj placed
    rfl
  · simp at placed

/-- Every address of a block can be aligned for an identifier. -/
theorem alignable_id
    (block : Block)
    (inside : address ≤ block.limit) :
    Alignable address 4 := by
  have four : Alignable address (2 ^ 2) :=
    block.alignable (by simp [kMaxSupportedAlignment]) inside
  exact four

/-- Blocks start aligned for an identifier. -/
theorem align_base (block : Block) : align block.base 4 = block.base :=
  (block.alignable_id (Nat.le_add_right _ _)).align_eq_self block.aligned

end Block

/-- Commands laid out in a block between the addresses of two ids. -/
def Laid (block : Block) : Nat → List Command → Nat → Prop
  | start, [], stop => start = stop
  | start, command :: rest, stop =>
      let commandAlloc := align (start + 4) command.alignment
      let behind := commandAlloc + command.data.length
      (start + 4 ≤ commandAlloc ∧ behind ≤ align behind 4) ∧
        block.readId? start = some command.commandId ∧
        block.read commandAlloc command.data.length = command.data ∧
        Laid block (align behind 4) rest stop

namespace Laid

variable {block : Block} {start middle stop : Nat}
variable {commands : List Command}

/-- Commands lie at ascending addresses. -/
theorem le
    (laid : Laid block start commands stop) :
    start ≤ stop := by
  induction commands generalizing start with
  | nil =>
      exact Nat.le_of_eq laid
  | cons command rest inductionHypothesis =>
      obtain ⟨⟨afterId, afterData⟩, -, -, later⟩ := laid
      have reached := inductionHypothesis later
      omega

/-- Writing past what is laid out leaves it alone. -/
theorem write
    {address : Nat}
    {data : List UInt8}
    (laid : Laid block start commands stop)
    (low : block.base ≤ start)
    (past : stop ≤ address) :
    Laid (block.write address data) start commands stop := by
  induction commands generalizing start with
  | nil =>
      exact laid
  | cons command rest inductionHypothesis =>
      obtain ⟨⟨afterId, afterData⟩, id, bytes, later⟩ := laid
      have reached := later.le
      refine ⟨⟨afterId, afterData⟩, ?_, ?_,
        inductionHypothesis later (by omega)⟩
      · rw [Block.readId?_write_of_le low (by omega), id]
      · rw [Block.read_write_of_le (by omega) (by omega), bytes]

/-- One more command behind those laid out. -/
theorem snoc
    {command : Command}
    (laid : Laid block start commands middle)
    (last : Laid block middle [command] stop) :
    Laid block start (commands ++ [command]) stop := by
  induction commands generalizing start with
  | nil =>
      have same : start = middle := laid
      exact same ▸ last
  | cons first rest inductionHypothesis =>
      obtain ⟨order, id, bytes, later⟩ := laid
      exact ⟨order, id, bytes, inductionHypothesis later⟩

end Laid

/-- A finished block: commands, and the tag behind them. -/
def Holds (block : Block) (commands : List Command) : Prop :=
  ∃ stop,
    Laid block block.base commands stop ∧
      4 ∣ stop ∧
      block.readId? stop = some kEndOfBlock

namespace CommandAllocator

/-- The allocator holds these commands, oldest first. -/
structure Recorded
    (allocator : CommandAllocator)
    (commands : List Command) : Prop where
  low : allocator.current.base ≤ allocator.mCurrentPtr
  high : allocator.mCurrentPtr + 4 ≤ allocator.current.limit
  aligned : 4 ∣ allocator.mCurrentPtr
  valid : ∀ command ∈ commands, command.Valid
  layout :
    ∃ done last,
      commands = done.flatten ++ last ∧
        List.Forall₂ Holds allocator.earlier done ∧
        Laid allocator.current allocator.current.base last
          allocator.mCurrentPtr
  unused :
    allocator.onPlaceholder = true →
      allocator.earlier = [] ∧
        allocator.mCurrentPtr = allocator.current.base ∧
        allocator.current.memory.size = 4

variable {allocator next : CommandAllocator} {address : Option Nat}
variable {minimumSize : Nat}

/--
A new block follows the current one, which is kept unless it is the
placeholder.
-/
theorem getNewBlock_shape
    (got : allocator.getNewBlock address minimumSize = (true, next)) :
    next.earlier =
        (if allocator.onPlaceholder then []
        else allocator.earlier ++ [allocator.current]) ∧
      next.onPlaceholder = false := by
  rw [getNewBlock] at got
  split at got
  · simp at got
  · simp only [Prod.mk.injEq, true_and] at got
    exact got ▸ ⟨rfl, rfl⟩

/-- Recording goes on at the start of a block that is large enough. -/
theorem getNewBlock_room
    (got : allocator.getNewBlock address minimumSize = (true, next)) :
    next.mCurrentPtr = next.current.base ∧
      minimumSize ≤ next.current.memory.size := by
  rw [getNewBlock] at got
  split at got
  · simp at got
  · rename_i block provided
    simp only [Prod.mk.injEq, true_and] at got
    obtain ⟨base, -, placed⟩ := Option.bind_eq_some_iff.mp provided
    subst got
    refine ⟨block.align_base, ?_⟩
    rw [Block.size_of_new? placed]
    exact Nat.le_max_left _ _

/-- A new allocator has recorded nothing. -/
theorem recorded_new
    {mPlaceholderSpace : Block}
    (room : mPlaceholderSpace.memory.size = 4) :
    (new mPlaceholderSpace).Recorded [] where
  low := Nat.le_refl _
  high := by
    simp [new, Block.limit, room]
  aligned := mPlaceholderSpace.aligned
  valid := by simp
  layout := ⟨[], [], rfl, .nil, rfl⟩
  unused := fun _ => ⟨rfl, rfl, room⟩

namespace Recorded

variable {commands : List Command}

/-- Nothing is recorded on the placeholder. -/
theorem nil_of_onPlaceholder
    (recorded : allocator.Recorded commands)
    (unused : allocator.onPlaceholder = true) :
    commands = [] := by
  obtain ⟨noneEarlier, atStart, -⟩ := recorded.unused unused
  obtain ⟨done, last, shape, earlier, laid⟩ := recorded.layout
  rw [noneEarlier] at earlier
  cases earlier
  cases last with
  | nil =>
      simpa using shape
  | cons command rest =>
      obtain ⟨⟨afterId, afterData⟩, -, -, later⟩ := laid
      have reached := later.le
      omega

/-- Writing at the current pointer or past it loses no command. -/
theorem write
    {address : Nat}
    {data : List UInt8}
    (recorded : allocator.Recorded commands)
    (past : allocator.mCurrentPtr ≤ address) :
    (allocator.write address data).Recorded commands := by
  obtain ⟨done, last, shape, earlier, laid⟩ := recorded.layout
  exact
    { low := recorded.low
      high := by
        simpa [CommandAllocator.write] using recorded.high
      aligned := recorded.aligned
      valid := recorded.valid
      layout :=
        ⟨done, last, shape, earlier, laid.write (Nat.le_refl _) past⟩
      unused := fun unused => by
        simpa [CommandAllocator.write, Block.write]
          using recorded.unused unused }

/-- The tag at the end is no command. -/
theorem tagEnd
    (recorded : allocator.Recorded commands) :
    allocator.tagEnd.Recorded commands :=
  recorded.write (Nat.le_refl _)

/-- The tag at the end can be read. -/
theorem readId?_tagEnd
    (recorded : allocator.Recorded commands) :
    allocator.tagEnd.current.readId? allocator.mCurrentPtr =
      some kEndOfBlock :=
  Block.readId?_write_self recorded.low recorded.high

/-- A new block takes the place of the current one, which is finished. -/
theorem getNewBlock
    (recorded : allocator.Recorded commands)
    (room : 4 ≤ minimumSize)
    (got :
      allocator.tagEnd.getNewBlock address minimumSize = (true, next)) :
    next.Recorded commands := by
  have finished := recorded.readId?_tagEnd
  have atEnd : allocator.tagEnd.mCurrentPtr = allocator.mCurrentPtr := rfl
  have tagged := recorded.tagEnd
  rw [← atEnd] at finished
  generalize allocator.tagEnd = tag at *
  obtain ⟨start, enough⟩ := getNewBlock_room got
  obtain ⟨isEarlier, used⟩ := getNewBlock_shape got
  exact
    { low := Nat.le_of_eq start.symm
      high := by
        simp only [start, Block.limit]
        omega
      aligned := start ▸ next.current.aligned
      valid := tagged.valid
      layout := by
        rw [isEarlier]
        by_cases unused : tag.onPlaceholder = true
        · have nothing := tagged.nil_of_onPlaceholder unused
          exact ⟨[], [], nothing, by simp [unused], start.symm⟩
        · obtain ⟨done, last, shape, earlier, laid⟩ := tagged.layout
          refine ⟨done ++ [last], [], by simp [shape], ?_, start.symm⟩
          simp only [unused]
          exact List.rel_append earlier
            (.cons ⟨_, laid, tagged.aligned, finished⟩ .nil)
      unused := by simp [used] }

/-- The data of a valid command can be aligned behind its identifier. -/
theorem alignable_command
    {command : Command}
    (recorded : allocator.Recorded commands)
    (valid : command.Valid) :
    Alignable (allocator.mCurrentPtr + 4) command.alignment := by
  obtain ⟨exponent, shape⟩ := valid.alignment
  have supported := valid.supported
  rw [shape] at supported ⊢
  exact Block.alignable supported recorded.high

/-- Placing a command where there is room, and filling it in. -/
theorem place
    {command : Command}
    (recorded : allocator.Recorded commands)
    (valid : command.Valid)
    (room : allocator.HasRoom command.data.length) :
    let placed :=
      allocator.place command.commandId command.data.length
        command.alignment
    (placed.2.write placed.1 command.data).Recorded
      (commands ++ [command]) := by
  intro placed
  have low := recorded.low
  have high := recorded.high
  have alignable := recorded.alignable_command valid
  have afterId := alignable.le_align
  have near := alignable.align_lt
  have supported := valid.supported
  obtain ⟨enough, fits⟩ := room
  rw [remainingSize] at enough fits
  rw [kWorstCaseAdditionalSize, kMaxSupportedAlignment] at enough fits
  rw [kMaxSupportedAlignment] at supported
  have atCommand :
      placed.1 = align (allocator.mCurrentPtr + 4) command.alignment :=
    rfl
  have atNext :
      placed.2.mCurrentPtr = align (placed.1 + command.data.length) 4 :=
    rfl
  rw [← atCommand] at afterId near
  have behind :
      Alignable (placed.1 + command.data.length) 4 :=
    allocator.current.alignable_id (by omega)
  have afterData := behind.le_align
  have nearNext := behind.align_lt
  rw [← atNext] at afterData nearNext
  obtain ⟨done, last, shape, earlier, laid⟩ := recorded.layout
  let filled :=
    (allocator.current.write allocator.mCurrentPtr
      (idBytes command.commandId)).write placed.1 command.data
  have filledId :
      filled.readId? allocator.mCurrentPtr = some command.commandId := by
    refine (Block.readId?_write_of_le ?_ afterId).trans
      (Block.readId?_write_self low high)
    rwa [Block.base_write]
  have filledData :
      filled.read placed.1 command.data.length = command.data :=
    Block.read_write_self (by rw [Block.base_write]; omega)
      (by rw [Block.limit_write]; omega)
  have kept :
      Laid filled allocator.current.base last allocator.mCurrentPtr :=
    (laid.write (Nat.le_refl _) (Nat.le_refl _)).write (Nat.le_refl _)
      (by omega)
  exact
    { low := by
        show allocator.current.base ≤ placed.2.mCurrentPtr
        omega
      high := by
        show placed.2.mCurrentPtr + 4 ≤ filled.limit
        simp only [filled, Block.limit_write]
        omega
      aligned := behind.dvd_align
      valid := by
        intro other member
        rcases List.mem_append.mp member with old | new
        · exact recorded.valid other old
        · exact List.mem_singleton.mp new ▸ valid
      layout := by
        refine ⟨done, last ++ [command], ?_, earlier, ?_⟩
        · rw [shape, List.append_assoc]
        · exact kept.snoc
            ⟨⟨afterId, afterData⟩, filledId, filledData, rfl⟩
      unused := by
        intro unused
        obtain ⟨-, atStart, size⟩ := recorded.unused unused
        rw [Block.limit, size] at enough
        omega }

/-- A block that cannot be had loses no command. -/
theorem getNewBlock_failed
    (recorded : allocator.Recorded commands)
    (failed :
      allocator.tagEnd.getNewBlock address minimumSize = (false, next)) :
    next.Recorded commands := by
  have tagged := recorded.tagEnd
  rw [CommandAllocator.getNewBlock] at failed
  split at failed
  · simp only [Prod.mk.injEq, true_and] at failed
    subst failed
    exact { tagged with }
  · simp at failed

/-- Asking for a new block, whatever comes of it. -/
theorem requestNewBlock
    {commandSize : Nat}
    (recorded : allocator.Recorded commands)
    (inWord : commandSize < 2 ^ 64)
    (address : Option Nat) :
    (allocator.requestNewBlock address commandSize).2.Recorded
      commands := by
  rw [CommandAllocator.requestNewBlock]
  split
  · exact recorded.tagEnd
  · rename_i noOverflow
    rw [kWorstCaseAdditionalSize, kMaxSupportedAlignment] at noOverflow ⊢
    match outcome :
        allocator.tagEnd.getNewBlock address
          ((commandSize + (4 + 8 + 4 + 4)) % 2 ^ 64) with
    | (false, next) =>
        exact recorded.getNewBlock_failed outcome
    | (true, next) =>
        exact recorded.getNewBlock (by omega) outcome

end Recorded

/-- What an allocation leaves behind once its result is filled in. -/
def Extends
    (commands : List Command)
    (command : Command) : Option Nat × CommandAllocator → Prop
  | (some address, next) =>
      (next.write address command.data).Recorded (commands ++ [command])
  | (none, next) => next.Recorded commands

/-- `Allocate` loses no command, and what it returns can be filled in. -/
theorem Recorded.allocate
    {commands : List Command}
    {command : Command}
    (recorded : allocator.Recorded commands)
    (valid : command.Valid)
    (addresses : List (Option Nat)) :
    Extends commands command
      (CommandAllocator.allocate command.commandId command.data.length
        command.alignment addresses allocator) := by
  induction addresses generalizing allocator with
  | nil =>
      rw [CommandAllocator.allocate]
      split
      · rename_i room
        exact recorded.place valid room
      · exact recorded.requestNewBlock valid.size none
  | cons address rest inductionHypothesis =>
      have requested := recorded.requestNewBlock valid.size address
      rw [CommandAllocator.allocate]
      split
      · rename_i room
        exact recorded.place valid room
      · split
        · rename_i next failed
          rwa [failed] at requested
        · rename_i next got
          rw [got] at requested
          exact inductionHypothesis requested

/-- A failed attempt records nothing, a successful one its command. -/
theorem Recorded.recordAll
    {commands : List Command}
    {attempts : List (List (Option Nat) × Command)}
    (recorded : allocator.Recorded commands)
    (valid : ∀ attempt ∈ attempts, attempt.2.Valid) :
    (allocator.recordAll attempts).2.Recorded
      (commands ++ (allocator.recordAll attempts).1) := by
  induction attempts generalizing allocator commands with
  | nil =>
      simpa [CommandAllocator.recordAll] using recorded
  | cons attempt rest inductionHypothesis =>
      obtain ⟨addresses, command⟩ := attempt
      have laterValid : ∀ attempt ∈ rest, attempt.2.Valid :=
        fun attempt member => valid attempt (List.mem_cons_of_mem _ member)
      have extended :=
        recorded.allocate (valid _ (List.mem_cons_self ..)) addresses
      rw [CommandAllocator.recordAll, record]
      split
      · rename_i next failed
        split at failed
        · simp at failed
        · rename_i left refused
          simp only [Prod.mk.injEq, true_and] at failed
          rw [refused, Extends, failed] at extended
          exact inductionHypothesis extended laterValid
      · rename_i next succeeded
        split at succeeded
        · rename_i address left allocated
          simp only [Prod.mk.injEq, true_and] at succeeded
          rw [allocated, Extends, succeeded] at extended
          simpa using inductionHypothesis extended laterValid
        · simp at succeeded

/-- The blocks acquired hold what was recorded. -/
theorem Recorded.acquireBlocks
    {commands : List Command}
    (recorded : allocator.Recorded commands) :
    ∃ done,
      commands = done.flatten ∧
        List.Forall₂ Holds allocator.acquireBlocks done := by
  rw [CommandAllocator.acquireBlocks]
  split
  · rename_i unused
    exact ⟨[], recorded.nil_of_onPlaceholder unused, .nil⟩
  · obtain ⟨done, last, shape, earlier, laid⟩ :=
      recorded.tagEnd.layout
    refine ⟨done ++ [last], by simp [shape], List.rel_append earlier ?_⟩
    exact .cons ⟨_, laid, recorded.aligned, recorded.readId?_tagEnd⟩ .nil

/-- At this address `new` can place any block asked for a command. -/
def Provides (base commandSize : Nat) : Prop :=
  4 ∣ base ∧
    base + max (commandSize + kWorstCaseAdditionalSize) 16384 +
        kMaxSupportedAlignment ≤
      2 ^ 64

/-- Memory that is provided makes a new block. -/
theorem getNewBlock_of_provides
    {base commandSize : Nat}
    (provides : Provides base commandSize) :
    ∃ next,
      allocator.getNewBlock (some base)
          (commandSize + kWorstCaseAdditionalSize) =
        (true, next) := by
  obtain ⟨aligned, room⟩ := provides
  rw [getNewBlock, Option.bind_some, Block.new?, dif_pos]
  · exact ⟨_, rfl⟩
  · refine ⟨aligned, Nat.le_trans ?_ room⟩
    have doubled :=
      Nat.min_le_right (allocator.mLastAllocationSize * 2 % 2 ^ 64) 16384
    omega

/-- `AllocateInNewBlock` never needs a second block. -/
theorem allocate_of_provides
    {base commandSize : Nat}
    (provides : Provides base commandSize)
    (commandId : UInt32)
    (commandAlignment : Nat)
    (allocator : CommandAllocator) :
    ∃ address next,
      allocate commandId commandSize commandAlignment [some base]
          allocator =
        (some address, next) := by
  have inWord :
      (commandSize + kWorstCaseAdditionalSize) % 2 ^ 64 =
        commandSize + kWorstCaseAdditionalSize := by
    apply Nat.mod_eq_of_lt
    have room := provides.2
    rw [kMaxSupportedAlignment] at room
    omega
  rw [allocate]
  split
  · exact ⟨_, _, rfl⟩
  · obtain ⟨next, got⟩ :=
      allocator.tagEnd.getNewBlock_of_provides provides
    have requested :
        allocator.requestNewBlock (some base) commandSize =
          (true, next) := by
      rw [requestNewBlock, inWord, if_neg, got]
      simp [kWorstCaseAdditionalSize]
    obtain ⟨atBase, enough⟩ := getNewBlock_room got
    have room : next.HasRoom commandSize := by
      rw [HasRoom, remainingSize, Block.limit, atBase]
      omega
    rw [requested]
    simp only [allocate, if_pos room]
    exact ⟨_, _, rfl⟩

end CommandAllocator

end Teck.Dawn
