import Mathlib.Data.List.Basic

namespace Delimited

/-!
# Lists of blocks closed by a delimiter

One list of items can carry a list of blocks when a reserved item closes each
block: index streams with a restart value, text cut into lines, and point
streams with separators all have this shape.  `encode` writes blocks,
`decode` cuts a list back into blocks, and the two round trips say what is
lost: `decode` inverts `encode` exactly when no block holds the delimiter, and
`encode` after `decode` only supplies a missing final delimiter.
-/

variable {α β : Type*}

/-- Close every block by one delimiter and concatenate the results. -/
def encode
    (delimiter : α)
    (blocks : List (List α)) : List α :=
  blocks.flatMap fun block => block ++ [delimiter]

/-- No block, no delimiter. -/
@[simp] theorem encode_nil
    (delimiter : α) :
    encode delimiter [] = [] :=
  rfl

/-- Each block is followed by its delimiter. -/
@[simp] theorem encode_cons
    (delimiter : α)
    (block : List α)
    (blocks : List (List α)) :
    encode delimiter (block :: blocks) =
      block ++ delimiter :: encode delimiter blocks := by
  simp [encode]

/-- Encodings of consecutive blocks follow each other. -/
@[simp] theorem encode_append
    (delimiter : α)
    (first second : List (List α)) :
    encode delimiter (first ++ second) =
      encode delimiter first ++ encode delimiter second := by
  simp [encode]

/-- Blocks of one length and their delimiters. -/
theorem length_encode
    {delimiter : α}
    {blocks : List (List α)}
    {blockLength : Nat}
    (uniform : ∀ block ∈ blocks, block.length = blockLength) :
    (encode delimiter blocks).length =
      blocks.length * (blockLength + 1) := by
  induction blocks with
  | nil =>
      simp
  | cons block rest inductionHypothesis =>
      have headLength : block.length = blockLength :=
        uniform block (by simp)
      have tailLength :=
        inductionHypothesis
          (fun later member => uniform later (by simp [member]))
      simp only [encode_cons, List.length_append,
        List.length_cons, headLength, tailLength, Nat.succ_mul]
      omega

/-- Extracting drops the delimiters and works inside the blocks. -/
theorem filterMap_encode
    {extract : α → Option β}
    {delimiter : α}
    (dropped : extract delimiter = none)
    (blocks : List (List α)) :
    (encode delimiter blocks).filterMap extract =
      blocks.flatMap (List.filterMap extract) := by
  induction blocks with
  | nil =>
      rfl
  | cons block rest inductionHypothesis =>
      simp [dropped, inductionHypothesis]

/-- Complete a list by one delimiter unless it is empty or already closed. -/
def terminate [DecidableEq α]
    (delimiter : α)
    (items : List α) : List α :=
  if items = [] ∨ items.getLast? = some delimiter then
    items
  else
    items ++ [delimiter]

/-- An empty text has no last line to terminate. -/
@[simp] theorem terminate_nil [DecidableEq α]
    (delimiter : α) :
    terminate delimiter [] = [] := by
  simp [terminate]

/-- Only the end of a text is terminated. -/
theorem terminate_cons [DecidableEq α]
    {delimiter item : α}
    {rest : List α}
    (nonempty : rest ≠ []) :
    terminate delimiter (item :: rest) =
      item :: terminate delimiter rest := by
  have sameLast : (item :: rest).getLast? = rest.getLast? := by
    rw [List.getLast?_cons]
    cases lastShape : rest.getLast? with
    | none =>
        exact (nonempty (List.getLast?_eq_none_iff.mp lastShape)).elim
    | some last =>
        simp
  unfold terminate
  rw [sameLast]
  by_cases closed : rest.getLast? = some delimiter
  · simp [closed]
  · simp [closed, nonempty]

/-- Terminating adds one delimiter at most. -/
theorem length_terminate_le [DecidableEq α]
    (delimiter : α)
    (items : List α) :
    (terminate delimiter items).length ≤ items.length + 1 := by
  unfold terminate
  split <;> simp

/-- Cut a list after each delimiter; a last block may lack its delimiter. -/
def decode [DecidableEq α]
    (delimiter : α) : List α → List (List α)
  | [] => []
  | item :: rest =>
      if item = delimiter then
        [] :: decode delimiter rest
      else
        match decode delimiter rest with
        | [] => [[item]]
        | block :: later => (item :: block) :: later

section Decoding

variable [DecidableEq α] {delimiter : α}

/-- An empty text has no block. -/
@[simp] theorem decode_nil :
    decode delimiter [] = [] :=
  rfl

/-- A delimiter in front is an empty block. -/
@[simp] theorem decode_delimiter_cons
    (rest : List α) :
    decode delimiter (delimiter :: rest) =
      [] :: decode delimiter rest := by
  simp [decode]

/-- Only an empty text has no block. -/
theorem decode_eq_nil_iff
    {items : List α} :
    decode delimiter items = [] ↔ items = [] := by
  cases items with
  | nil =>
      simp
  | cons item rest =>
      simp only [decode, reduceCtorEq, iff_false]
      split
      · simp
      · split <;> simp

/-- A block without the delimiter is cut off at the delimiter closing it. -/
theorem decode_append_delimiter
    {block : List α}
    (absent : delimiter ∉ block)
    (rest : List α) :
    decode delimiter (block ++ delimiter :: rest) =
      block :: decode delimiter rest := by
  induction block with
  | nil =>
      simp
  | cons item block inductionHypothesis =>
      have itemDiffers : item ≠ delimiter := by
        intro same
        apply absent
        simp [same]
      have tailAbsent : delimiter ∉ block := by
        intro member
        apply absent
        simp [member]
      simp [decode, itemDiffers, inductionHypothesis tailAbsent]

/-- A text without delimiters is one block. -/
theorem decode_of_not_mem
    {block : List α}
    (nonempty : block ≠ [])
    (absent : delimiter ∉ block) :
    decode delimiter block = [block] := by
  induction block with
  | nil =>
      exact (nonempty rfl).elim
  | cons item block inductionHypothesis =>
      have itemDiffers : item ≠ delimiter := by
        intro same
        apply absent
        simp [same]
      have tailAbsent : delimiter ∉ block := by
        intro member
        apply absent
        simp [member]
      by_cases tailEmpty : block = []
      · subst tailEmpty
        simp [decode, itemDiffers]
      · simp [decode, itemDiffers,
          inductionHypothesis tailEmpty tailAbsent]

/-- Decoded blocks never hold the delimiter, whatever was decoded. -/
theorem not_mem_of_mem_decode
    {items block : List α}
    (member : block ∈ decode delimiter items) :
    delimiter ∉ block := by
  induction items generalizing block with
  | nil =>
      simp at member
  | cons item rest inductionHypothesis =>
      by_cases itemCloses : item = delimiter
      · subst itemCloses
        rw [decode_delimiter_cons, List.mem_cons] at member
        rcases member with isEmpty | inRest
        · simp [isEmpty]
        · exact inductionHypothesis inRest
      · simp only [decode, itemCloses, ↓reduceIte] at member
        cases restShape : decode delimiter rest with
        | nil =>
            rw [restShape, List.mem_singleton] at member
            subst member
            simpa using Ne.symm itemCloses
        | cons first later =>
            rw [restShape, List.mem_cons] at member
            rcases member with isFirst | inLater
            · subst isFirst
              have firstClean : delimiter ∉ first :=
                inductionHypothesis (by simp [restShape])
              simpa [Ne.symm itemCloses] using firstClean
            · exact inductionHypothesis (by simp [restShape, inLater])

/-- Blocks without the delimiter survive the round trip. -/
theorem decode_encode
    {blocks : List (List α)}
    (absent : ∀ block ∈ blocks, delimiter ∉ block) :
    decode delimiter (encode delimiter blocks) = blocks := by
  induction blocks with
  | nil =>
      rfl
  | cons block rest inductionHypothesis =>
      have tailTrip :=
        inductionHypothesis
          (fun later member => absent later (by simp [member]))
      rw [encode_cons,
        decode_append_delimiter (absent block (by simp)), tailTrip]

/-- Re-encoding the blocks of a list only supplies a missing last delimiter. -/
theorem encode_decode
    (delimiter : α)
    (items : List α) :
    encode delimiter (decode delimiter items) =
      terminate delimiter items := by
  induction items with
  | nil =>
      simp
  | cons item rest inductionHypothesis =>
      by_cases restEmpty : rest = []
      · subst restEmpty
        by_cases itemCloses : item = delimiter
        · simp [itemCloses, terminate]
        · simp [decode, itemCloses, terminate]
      · rw [terminate_cons restEmpty, ← inductionHypothesis]
        by_cases itemCloses : item = delimiter
        · simp [itemCloses]
        · cases restShape : decode delimiter rest with
          | nil =>
              exact (restEmpty (decode_eq_nil_iff.mp restShape)).elim
          | cons block later =>
              simp [decode, itemCloses, restShape]

/-- A block that is terminated already is left as it is. -/
theorem terminate_append_delimiter
    {block : List α}
    (absent : delimiter ∉ block)
    (rest : List α) :
    terminate delimiter (block ++ delimiter :: rest) =
      block ++ delimiter :: terminate delimiter rest := by
  rw [← encode_decode, ← encode_decode, decode_append_delimiter absent,
    encode_cons]

/-- A single block that is not terminated gets its delimiter. -/
theorem terminate_of_not_mem
    {block : List α}
    (nonempty : block ≠ [])
    (absent : delimiter ∉ block) :
    terminate delimiter block = block ++ [delimiter] := by
  rw [← encode_decode, decode_of_not_mem nonempty absent, encode_cons,
    encode_nil]

end Decoding

end Delimited
