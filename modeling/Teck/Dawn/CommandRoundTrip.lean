import Teck.Dawn.CommandRecording

namespace Teck.Dawn

/-!
# Recorded commands are iterated unchanged

The iterator takes the same alignment steps as the allocator, so it finds each
id and each command where they were recorded, block by block.
-/

/-- From the id at an address on, some blocks hold these commands. -/
def Reads
    (blocks : List Block)
    (idPtr : Nat)
    (commands : List Command) : Prop :=
  ∃ block rest here stop done,
    blocks = block :: rest ∧
      Laid block idPtr here stop ∧
      block.readId? stop = some kEndOfBlock ∧
      List.Forall₂ Holds rest done ∧
      commands = here ++ done.flatten

/-- The first block is read and then the others. -/
theorem reads_of_holds
    {block : Block}
    {rest : List Block}
    {here : List Command}
    {done : List (List Command)}
    (holds : Holds block here)
    (later : List.Forall₂ Holds rest done) :
    Reads (block :: rest) (align (align block.base 4) 4)
      (here ++ done.flatten) := by
  obtain ⟨stop, laid, -, tagged⟩ := holds
  rw [block.align_base, block.align_base]
  exact ⟨block, rest, here, stop, done, rfl, laid, tagged, later, rfl⟩

namespace CommandIterator

variable {iterator : CommandIterator} {blocks : List Block}
variable {index pointer : Nat}

/-- An identifier of a command is handed out. -/
theorem nextIdFrom_of_id
    {block : Block}
    {rest : List Block}
    {id : UInt32}
    (found : block.readId? (align pointer 4) = some id)
    (notEnd : id ≠ kEndOfBlock) :
    iterator.nextIdFrom index pointer (block :: rest) =
      some
        ( some id,
          { iterator with
            mCurrentBlock := index
            mCurrentPtr := align pointer 4 + 4 } ) := by
  cases rest <;> simp [nextIdFrom, found, notEnd]

/-- The tag of the last block ends the commands, and the iterator is reset. -/
theorem nextIdFrom_of_last
    {block : Block}
    (tagged : block.readId? (align pointer 4) = some kEndOfBlock) :
    iterator.nextIdFrom index pointer [block] =
      some (none, reset iterator.mBlocks) := by
  simp [nextIdFrom, tagged]

/-- The tag of another block leads to the next one. -/
theorem nextIdFrom_of_tag
    {block next : Block}
    {rest : List Block}
    (tagged : block.readId? (align pointer 4) = some kEndOfBlock) :
    iterator.nextIdFrom index pointer (block :: next :: rest) =
      iterator.nextIdFrom (index + 1) (align next.base 4)
        (next :: rest) := by
  simp [nextIdFrom, tagged]

/-- Without commands left the iteration ends and starts over. -/
theorem nextIdFrom_of_reads_nil
    (reads : Reads blocks (align pointer 4) []) :
    iterator.nextIdFrom index pointer blocks =
      some (none, reset iterator.mBlocks) := by
  induction blocks generalizing index pointer with
  | nil =>
      rfl
  | cons block rest inductionHypothesis =>
      obtain ⟨_, _, here, stop, done, ⟨⟩, laid, tagged, later, nothing⟩ :=
        reads
      obtain ⟨rfl, noneLater⟩ := List.append_eq_nil_iff.mp nothing.symm
      have atStop : align pointer 4 = stop := laid
      rw [← atStop] at tagged
      cases later with
      | nil =>
          exact nextIdFrom_of_last tagged
      | @cons next inNext rest done holds later =>
          obtain ⟨rfl, noneAfter⟩ :=
            List.append_eq_nil_iff.mp
              (by simpa using noneLater : inNext ++ done.flatten = [])
          have nextReads := reads_of_holds holds later
          rw [List.nil_append, noneAfter] at nextReads
          rw [nextIdFrom_of_tag tagged]
          exact inductionHypothesis nextReads

/-- The next id is found, in this block or in a later one. -/
theorem nextIdFrom_of_reads_cons
    {command : Command}
    {commands : List Command}
    (index : Nat)
    (reads : Reads blocks (align pointer 4) (command :: commands))
    (valid : command.Valid) :
    ∃ skipped block rest idPtr,
      blocks = skipped ++ block :: rest ∧
        iterator.nextIdFrom index pointer blocks =
          some
            ( some command.commandId,
              { iterator with
                mCurrentBlock := index + skipped.length
                mCurrentPtr := idPtr + 4 } ) ∧
        block.read (align (idPtr + 4) command.alignment)
            command.data.length =
          command.data ∧
        Reads (block :: rest)
          (align
            (align (idPtr + 4) command.alignment + command.data.length) 4)
          commands := by
  induction blocks generalizing index pointer with
  | nil =>
      obtain ⟨_, _, _, _, _, shape, -⟩ := reads
      simp at shape
  | cons block rest inductionHypothesis =>
      obtain ⟨_, _, here, stop, done, ⟨⟩, laid, tagged, later, shape⟩ :=
        reads
      cases here with
      | cons first others =>
          obtain ⟨rfl, rfl⟩ := List.cons.inj shape
          obtain ⟨-, id, bytes, behind⟩ := laid
          exact ⟨[], block, rest, align pointer 4, rfl,
            nextIdFrom_of_id id valid.id, bytes, block, rest, others, stop,
            done, rfl, behind, tagged, later, rfl⟩
      | nil =>
          have atStop : align pointer 4 = stop := laid
          cases later with
          | nil =>
              simp at shape
          | @cons next inNext others done holds later =>
              have nextReads := reads_of_holds holds later
              rw [List.nil_append, List.flatten_cons] at shape
              rw [← shape] at nextReads
              obtain ⟨skipped, found, after, idPtr, split, result, bytes,
                remaining⟩ :=
                inductionHypothesis (index + 1) nextReads
              refine ⟨block :: skipped, found, after, idPtr, ?_, ?_, bytes,
                remaining⟩
              · rw [split, List.cons_append]
              · rw [nextIdFrom_of_tag (atStop ▸ tagged), result,
                  List.length_cons, Nat.add_right_comm, Nat.add_assoc]

/-- What is left to iterate; an iterator without blocks has nothing left. -/
def Positioned
    (iterator : CommandIterator)
    (commands : List Command) : Prop :=
  Reads (iterator.mBlocks.drop iterator.mCurrentBlock)
      (align iterator.mCurrentPtr 4) commands ∨
    (iterator.mBlocks = [] ∧ commands = [])

/-- A reset iterator stands before all commands. -/
theorem positioned_reset
    {done : List (List Command)}
    (holds : List.Forall₂ Holds blocks done) :
    (reset blocks).Positioned done.flatten := by
  cases holds with
  | nil =>
      exact .inr ⟨rfl, rfl⟩
  | cons holdsFirst later =>
      exact .inl (reads_of_holds holdsFirst later)

/-- Behind the last command comes the end. -/
theorem Positioned.nextCommandId_nil
    (positioned : iterator.Positioned []) :
    iterator.nextCommandId = some (none, reset iterator.mBlocks) := by
  rcases positioned with reads | ⟨noBlocks, -⟩
  · exact nextIdFrom_of_reads_nil reads
  · simp [nextCommandId, nextIdFrom, noBlocks]

/-- One id and its command are read, and the rest is left to iterate. -/
theorem Positioned.nextIdAndCommand
    {command : Command}
    {commands : List Command}
    (positioned : iterator.Positioned (command :: commands))
    (valid : command.Valid) :
    ∃ next,
      iterator.nextIdAndCommand command.data.length command.alignment =
          some ((command.commandId, command.data), next) ∧
        next.mBlocks = iterator.mBlocks ∧
        next.Positioned commands := by
  rcases positioned with reads | ⟨-, impossible⟩
  · obtain ⟨skipped, block, rest, idPtr, split, found, bytes, remaining⟩ :=
      nextIdFrom_of_reads_cons iterator.mCurrentBlock reads valid
    have fromHere :
        iterator.mBlocks.drop
            (iterator.mCurrentBlock + skipped.length) =
          block :: rest := by
      rw [← List.drop_drop, split, List.drop_left]
    have there :
        iterator.mBlocks[iterator.mCurrentBlock + skipped.length]? =
          some block := by
      rw [← List.head?_drop, fromHere, List.head?_cons]
    refine
      ⟨{ iterator with
          mCurrentBlock := iterator.mCurrentBlock + skipped.length
          mCurrentPtr :=
            align (idPtr + 4) command.alignment +
              command.data.length },
        ?_, rfl, ?_⟩
    · rw [CommandIterator.nextIdAndCommand, nextCommandId, found]
      simp [nextCommand, there, bytes]
    · exact .inl (fromHere ▸ remaining)
  · simp at impossible

/--
From its position on an iterator reads what was recorded, and then the end.
-/
theorem Positioned.readAll
    {commands : List Command}
    (positioned : iterator.Positioned commands)
    (valid : ∀ command ∈ commands, command.Valid) :
    ∃ final,
      iterator.readAll
            (commands.map fun command =>
              (command.data.length, command.alignment)) =
          some
            ( commands.map fun command =>
                (command.commandId, command.data),
              final ) ∧
        final.nextCommandId = some (none, reset iterator.mBlocks) := by
  induction commands generalizing iterator with
  | nil =>
      exact ⟨iterator, rfl, positioned.nextCommandId_nil⟩
  | cons command rest inductionHypothesis =>
      obtain ⟨next, result, sameBlocks, left⟩ :=
        positioned.nextIdAndCommand (valid _ (List.mem_cons_self ..))
      obtain ⟨final, later, ended⟩ :=
        inductionHypothesis left
          fun command member => valid _ (List.mem_cons_of_mem _ member)
      refine ⟨final, ?_, sameBlocks ▸ ended⟩
      simp [CommandIterator.readAll, result, later]

end CommandIterator

namespace CommandAllocator

/-- The commands recorded, and the blocks that hold them. -/
theorem holds_of_recordAll
    {recordings : List (Block × List (List (Option Nat) × Command))}
    (placeholders :
      ∀ recording ∈ recordings, recording.1.memory.size = 4)
    (valid :
      ∀ recording ∈ recordings, ∀ attempt ∈ recording.2,
        attempt.2.Valid) :
    let recorded :=
      recordings.map fun (mPlaceholderSpace, attempts) =>
        (new mPlaceholderSpace).recordAll attempts
    ∃ done,
      recorded.flatMap Prod.fst = done.flatten ∧
        List.Forall₂ Holds
          ((recorded.map Prod.snd).flatMap CommandAllocator.acquireBlocks)
          done ∧
        ∀ command ∈ recorded.flatMap Prod.fst, command.Valid := by
  induction recordings with
  | nil =>
      exact ⟨[], rfl, .nil, by simp⟩
  | cons recording rest inductionHypothesis =>
      obtain ⟨mPlaceholderSpace, attempts⟩ := recording
      have first :=
        (recorded_new (placeholders _ (List.mem_cons_self ..))).recordAll
          (valid _ (List.mem_cons_self ..))
      rw [List.nil_append] at first
      obtain ⟨done, shape, holds⟩ := first.acquireBlocks
      obtain ⟨laterDone, laterShape, laterHolds, laterValid⟩ :=
        inductionHypothesis
          (fun recording member =>
            placeholders recording (List.mem_cons_of_mem _ member))
          (fun recording member =>
            valid recording (List.mem_cons_of_mem _ member))
      refine ⟨done ++ laterDone, ?_, List.rel_append holds laterHolds, ?_⟩
      · rw [List.map_cons, List.flatMap_cons, List.flatten_append, shape,
          laterShape]
      · intro command member
        rw [List.map_cons, List.flatMap_cons] at member
        rcases List.mem_append.mp member with here | there
        · exact first.valid command here
        · exact laterValid command there

end CommandAllocator

/--
Whatever `new` answers, the commands whose allocation succeeded are iterated in
order with the bytes they were filled with, over all allocators acquired; then
the iteration ends and is ready to start over.
-/
theorem CommandIterator.iterates_what_was_recorded
    {recordings : List (Block × List (List (Option Nat) × Command))}
    (placeholders :
      ∀ recording ∈ recordings, recording.1.memory.size = 4)
    (valid :
      ∀ recording ∈ recordings, ∀ attempt ∈ recording.2,
        attempt.2.Valid) :
    let recorded :=
      recordings.map fun (mPlaceholderSpace, attempts) =>
        (CommandAllocator.new mPlaceholderSpace).recordAll attempts
    let commands := recorded.flatMap Prod.fst
    let iterator := acquireCommandBlocks (recorded.map Prod.snd)
    ∃ final,
      iterator.readAll
            (commands.map fun command =>
              (command.data.length, command.alignment)) =
          some
            ( commands.map fun command =>
                (command.commandId, command.data),
              final ) ∧
        final.nextCommandId = some (none, iterator) := by
  intro recorded commands iterator
  obtain ⟨done, shape, holds, commandsValid⟩ :=
    CommandAllocator.holds_of_recordAll placeholders valid
  have positioned := positioned_reset holds
  rw [← shape] at positioned
  exact positioned.readAll commandsValid

/-- A placeholder, and three attempts of which the second fails. -/
private def threeAttempts :
    Block × List (List (Option Nat) × Command) :=
  ( ⟨64, ByteBuffer.create 4, by decide, by decide⟩,
    [ ([some 4096], ⟨7, 1, [1, 2, 3]⟩),
      ([none], ⟨8, 4, List.replicate 5000 0⟩),
      ([some 16384], ⟨kAdditionalData, 8, [8, 7, 6, 5, 4, 3, 2, 1]⟩) ] )

/-- Three recordings, of which one cannot be completed. -/
theorem CommandIterator.iterates_what_was_recorded_threeAttempts :
    let recorded :=
      (CommandAllocator.new threeAttempts.1).recordAll threeAttempts.2
    ∃ final,
      (acquireCommandBlocks [recorded.2]).readAll [(3, 1), (8, 8)] =
          some
            ( [ (7, [1, 2, 3]),
                (kAdditionalData, [8, 7, 6, 5, 4, 3, 2, 1]) ],
              final ) ∧
        final.nextCommandId =
          some (none, acquireCommandBlocks [recorded.2]) := by
  have kept :
      ((CommandAllocator.new threeAttempts.1).recordAll
          threeAttempts.2).1 =
        [ ⟨7, 1, [1, 2, 3]⟩,
          ⟨kAdditionalData, 8, [8, 7, 6, 5, 4, 3, 2, 1]⟩ ] := by
    decide +kernel
  have valid :
      ∀ recording ∈ [threeAttempts], ∀ attempt ∈ recording.2,
        attempt.2.Valid := by
    rw [List.forall_mem_singleton, threeAttempts, List.forall_mem_cons,
      List.forall_mem_cons, List.forall_mem_singleton]
    refine ⟨⟨?_, ⟨0, rfl⟩, ?_, ?_⟩, ⟨?_, ⟨2, rfl⟩, ?_, ?_⟩,
      ⟨?_, ⟨3, rfl⟩, ?_, ?_⟩⟩ <;>
      decide +kernel
  have iterated :=
    iterates_what_was_recorded
      (List.forall_mem_singleton.mpr rfl) valid
  simp only [List.map_cons, List.map_nil, List.flatMap_cons,
    List.flatMap_nil, List.append_nil, kept] at iterated
  exact iterated

end Teck.Dawn
