import Mathlib.Data.List.TakeWhile
import Teck.Library.Delimited
import Teck.Library.Runs
import Teck.Reader

namespace Teck

/-!
# What a sequence of reads returns

All calls share one static reader.  Between calls its stream is closed, but the
state bits and the memory of earlier calls remain.  None of them reaches a
later result: opening clears the bits, a failed opening makes the line loop
stop at once, and the memory is replaced by the call itself.
-/

/-- What opening a path for reading text delivers. -/
def deliveredText
    (fs : FileSystem)
    (path : StdString) : Option StdString :=
  fs.deliver { input := true } (cStr (literal "../res/" ++ path))

/-- A text whose last line is closed. -/
def norm (content : StdString) : StdString :=
  Delimited.terminate newline content

/-- What `Read` makes of a path. -/
def normText
    (fs : FileSystem)
    (path : StdString) : StdString :=
  match deliveredText fs path with
  | some content => norm content
  | none => []

/-- What a call of `ReadTextFile` returns, as a function of its path. -/
def textFileLaw
    (fs : FileSystem)
    (path : StdString) : StdString :=
  cStr (normText fs path)

/-! ## The line loop -/

/-- On a stream that is not good the loop ends at once. -/
theorem readLoop_of_not_good
    {file : FStream}
    (failed : file.good = false)
    (line content : StdString) :
    readLoop file line content = ({ file with failbit := true }, content) := by
  rw [readLoop]
  simp [getline, failed]

/-- The line loop closes every line it reads, the last one too. -/
theorem readLoop_of_good
    {file : FStream}
    (good : file.good = true)
    (line content : StdString) :
    (readLoop file line content).2 = content ++ norm file.rest ∧
      (readLoop file line content).1.isOpen = file.isOpen := by
  fun_induction readLoop file line content with
  | case1 file line content extracted failed =>
      -- Extraction fails on a good stream only at the end of the file.
      obtain ⟨-, -, lastLine⟩ := extractLine_spec file.rest
      simp only [extracted, getline, good, ↓reduceIte,
        Bool.and_eq_true, List.isEmpty_iff] at failed ⊢
      have nothingLeft : file.rest = [] := by
        rw [(lastLine failed.1).1, failed.2]
      simp [nothingLeft, norm]
  | case2 file line content extracted succeeded inductionHypothesis =>
      obtain ⟨absent, closedLine, lastLine⟩ := extractLine_spec file.rest
      simp only [extracted, getline, good, ↓reduceIte]
        at succeeded inductionHypothesis ⊢
      cases atEnd : (extractLine file.rest).2.2 with
      | false =>
          simp only [atEnd, FStream.good] at inductionHypothesis
          obtain ⟨loopRead, keptOpen⟩ := inductionHypothesis (by simp)
          have restNorm :
              norm file.rest =
                (extractLine file.rest).1 ++
                  newline :: norm (extractLine file.rest).2.1 := by
            conv => lhs; rw [closedLine atEnd]
            exact Delimited.terminate_append_delimiter absent _
          refine ⟨?_, keptOpen⟩
          rw [loopRead, restNorm]
          simp
      | true =>
          -- The next extraction meets `eofbit` and fails.
          have nonempty : (extractLine file.rest).1 ≠ [] := by
            simpa [atEnd] using succeeded
          have restNorm :
              norm file.rest = (extractLine file.rest).1 ++ [newline] := by
            conv => lhs; rw [(lastLine atEnd).1]
            exact Delimited.terminate_of_not_mem nonempty absent
          rw [readLoop_of_not_good (by simp [FStream.good]), restNorm]
          exact ⟨rfl, rfl⟩

/-! ## Strings and the buffer behind a `const char*` -/

/-- The text behind a `const char*` holds no terminator. -/
theorem nul_not_mem_cStr (bytes : StdString) : nul ∉ cStr bytes := by
  intro member
  simpa using List.mem_takeWhile_imp member

/-- The terminator ends a text that holds none. -/
theorem cStr_append_nul
    {text : StdString}
    (absent : nul ∉ text) :
    cStr (text ++ [nul]) = text := by
  unfold cStr
  rw [List.takeWhile_append_of_pos]
  · simp
  · intro char member
    exact decide_eq_true (fun isNul => absent (isNul ▸ member))

/-- What `Read` makes of a file is at most one newline longer. -/
theorem length_normText_le
    (fs : FileSystem)
    (path : StdString) :
    (normText fs path).length ≤ 2 ^ 31 - 2 := by
  unfold normText
  cases delivered : deliveredText fs path with
  | none =>
      simp
  | some content =>
      have short := fs.bounded _ _ _ delivered
      have closed := Delimited.length_terminate_le newline content
      simp only [norm]
      omega

namespace TkReader

/-- Up to the length bound the memory gets the text and its terminator. -/
theorem setMemory_of_length_le
    (reader : TkReader)
    {memory : StdString}
    (short : memory.length ≤ 2 ^ 31 - 2) :
    reader.setMemory memory =
      .ok { reader with m_Memory := some (cStr memory ++ [nul]) } := by
  have textShort : (cStr memory).length ≤ 2 ^ 31 - 2 :=
    le_trans (List.takeWhile_sublist _).length_le short
  have exactLength :
      (Int32.ofNat ((cStr memory).length + 1)).toInt =
        (cStr memory).length + 1 := by
    rw [Int32.toInt_ofNat_of_lt (by omega)]
    rfl
  have cleared :
      { reader.clearMemory with m_Memory := some (cStr memory ++ [nul]) } =
        { reader with m_Memory := some (cStr memory ++ [nul]) } := by
    unfold clearMemory
    split <;> rfl
  unfold setMemory
  dsimp only
  rw [exactLength, if_neg (by omega), if_neg (by omega), cleared]

/-! ## One call -/

/-- The static text reader between two calls. -/
structure Idle (reader : TkReader) : Prop where
  fileType : reader.m_Type = .file
  readMode : reader.m_Mode = .read
  textFormat : reader.m_Format = .text
  closed : reader.m_File.isOpen = false

/-- Before the first call the static reader is idle. -/
theorem idle_textFileReader : Idle textFileReader where
  fileType := rfl
  readMode := rfl
  textFormat := rfl
  closed := rfl

/--
Opening while idle delivers the file, or sets `failbit` on what was there.
-/
theorem Idle.openFile_m_File
    {reader : TkReader}
    (idle : Idle reader)
    (fs : FileSystem)
    (path : StdString) :
    (reader.openFile fs path).2.m_File =
      match deliveredText fs path with
      | some content =>
          { isOpen := true, rest := content, eofbit := false, failbit := false }
      | none => { reader.m_File with failbit := true } := by
  have flags : reader.openFlags = { input := true } := by
    simp [openFlags, idle.readMode, idle.textFormat]
  have opened :
      (reader.openFile fs path).2.m_File =
        reader.m_File.openPath fs (literal "../res/" ++ path)
          reader.openFlags := by
    unfold openFile
    rw [if_neg (by simp [idle.fileType])]
    dsimp only
    split <;> rfl
  rw [opened, flags, FStream.openPath, if_neg (by simp [idle.closed])]
  rfl

/-- Opening changes only the stream and what was printed. -/
theorem openFile_frame
    (fs : FileSystem)
    (path : StdString)
    (reader : TkReader) :
    ∃ file printed,
      (reader.openFile fs path).2 =
        { reader with m_File := file, printed := printed } := by
  unfold openFile
  split
  · exact ⟨reader.m_File, _, rfl⟩
  · dsimp only
    split
    · exact ⟨_, reader.printed, rfl⟩
    · exact ⟨_, _, rfl⟩

/-- After opening, `Read` returns the text of the path and goes idle again. -/
theorem Idle.read_openFile
    {reader : TkReader}
    (idle : Idle reader)
    (fs : FileSystem)
    (path : StdString) :
    (reader.openFile fs path).2.read.1 = normText fs path ∧
      Idle (reader.openFile fs path).2.read.2 := by
  have stream := idle.openFile_m_File fs path
  obtain ⟨file, printed, frame⟩ := openFile_frame fs path reader
  rw [frame] at stream ⊢
  have isFile : ¬ reader.m_Type ≠ .file := by
    simp [idle.fileType]
  unfold read normText
  simp only [if_neg isFile]
  cases delivered : deliveredText fs path with
  | none =>
      simp only [delivered] at stream
      have failed : file.good = false := by
        simp [stream, FStream.good]
      have stillClosed : file.isOpen = false := by
        simp [stream, idle.closed]
      rw [readLoop_of_not_good failed]
      refine ⟨rfl, ?_⟩
      simp only [close, if_neg isFile, stillClosed, Bool.not_false,
        ↓reduceIte]
      exact { idle with closed := rfl }
  | some content =>
      simp only [delivered] at stream
      have good : file.good = true := by
        simp [stream, FStream.good]
      obtain ⟨loopRead, keptOpen⟩ := readLoop_of_good good [] []
      refine ⟨by rw [loopRead, stream]; rfl, ?_⟩
      have stillOpen : (readLoop file [] []).1.isOpen = true := by
        rw [keptOpen, stream]
      simp only [close, if_neg isFile, stillOpen, Bool.not_true,
        Bool.false_eq_true, ↓reduceIte]
      exact { idle with closed := rfl }

/-- `ReadCStr` returns what was read, up to its first NUL. -/
theorem readCStr_of_length_le
    {reader : TkReader}
    {content : StdString}
    (short : content.length ≤ 2 ^ 31 - 2)
    (contentRead : reader.read.1 = content) :
    reader.readCStr =
      .ok (some (cStr content),
        { reader.read.2 with m_Memory := some (cStr content ++ [nul]) }) := by
  unfold readCStr
  simp only [contentRead, reader.read.2.setMemory_of_length_le short]
  simp [getMemory, cStr_append_nul (nul_not_mem_cStr _)]

/-- One call returns the text its own path determines. -/
theorem Idle.readTextFile
    {reader : TkReader}
    (idle : Idle reader)
    (fs : FileSystem)
    (path : StdString) :
    ∃ next,
      TkReader.readTextFile fs reader path =
          .ok (some (textFileLaw fs path), next) ∧
        Idle next ∧
        next.m_Memory = some (textFileLaw fs path ++ [nul]) := by
  obtain ⟨content, readIdle⟩ := idle.read_openFile fs path
  have returned := readCStr_of_length_le (length_normText_le fs path) content
  exact ⟨_, returned,
    ⟨readIdle.fileType, readIdle.readMode, readIdle.textFormat,
      readIdle.closed⟩,
    rfl⟩

end TkReader

/-! ## Any history of calls -/

/--
Every call of `ReadTextFile` returns what its own path determines, whatever
was read before, and leaves the shared stream closed and exactly the returned
text with its terminator in the memory.
-/
theorem readTextFile_history_independent
    (fs : FileSystem)
    (history : List StdString)
    (path : StdString) :
    ∃ reader next,
      Runs.runCalls (TkReader.readTextFile fs)
          TkReader.textFileReader history =
        .ok (history.map (some ∘ textFileLaw fs), reader) ∧
      reader.readTextFile fs path =
        .ok (some (textFileLaw fs path), next) ∧
      next.m_File.isOpen = false ∧
      next.m_Memory = some (textFileLaw fs path ++ [nul]) := by
  have lawful :
      ∀ {state : TkReader}, state.Idle →
        ∀ argument, ∃ next,
          state.readTextFile fs argument =
              .ok ((some ∘ textFileLaw fs) argument, next) ∧
            next.Idle := by
    intro state idle argument
    obtain ⟨next, called, nextIdle, -⟩ := idle.readTextFile fs argument
    exact ⟨next, called, nextIdle⟩
  obtain ⟨reader, called, idle⟩ :=
    Runs.runCalls_of_law lawful TkReader.idle_textFileReader history
  obtain ⟨next, last, nextIdle, memory⟩ := idle.readTextFile fs path
  exact ⟨reader, next, called, last, nextIdle.closed, memory⟩

/-- A folder with a file whose last line is open and one that holds a NUL. -/
def twoFiles : FileSystem where
  deliver := fun _ path =>
    if path = literal "../res/open" then
      some [97, 10, 98]
    else if path = literal "../res/nul" then
      some [99, nul, 100, newline]
    else
      none
  bounded := by
    intro flags path content delivered
    split at delivered
    · cases delivered
      decide
    · split at delivered
      · cases delivered
        decide
      · cases delivered

/-- A missing file, a closed last line, a text cut at its NUL, and again. -/
theorem readTextFile_history_independent_twoFiles :
    ∃ reader next,
      Runs.runCalls (TkReader.readTextFile twoFiles)
          TkReader.textFileReader
          [literal "missing", literal "open", literal "nul"] =
        .ok ([some [], some [97, 10, 98, 10], some [99]], reader) ∧
      reader.readTextFile twoFiles (literal "missing") =
        .ok (some [], next) ∧
      next.m_File.isOpen = false ∧
      next.m_Memory = some [nul] := by
  have missing : textFileLaw twoFiles (literal "missing") = [] := by
    decide +kernel
  have lastLineOpen :
      textFileLaw twoFiles (literal "open") = [97, 10, 98, 10] := by
    decide +kernel
  have cutAtNul : textFileLaw twoFiles (literal "nul") = [99] := by
    decide +kernel
  have independent :=
    readTextFile_history_independent twoFiles
      [literal "missing", literal "open", literal "nul"]
      (literal "missing")
  simpa [missing, lastLineOpen, cutAtNul] using independent

end Teck
