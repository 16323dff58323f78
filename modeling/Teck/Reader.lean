import Mathlib.Algebra.Group.Nat.Defs
import Mathlib.Data.List.Basic

namespace Teck

/-!
# The file reader

`tkReader` with the stream and string functions it calls.  A stream carries the
part of the file that is still to be read and the two state bits that reading
can set; opening a file clears them, failing to open one sets `failbit`.  What
the file system delivers for a path is fixed from outside.
-/

/-- The bytes of a `std::string` or of the text behind a `const char*`. -/
abbrev StdString := List UInt8

/-- The bytes of a string literal. -/
def literal (text : String) : StdString := text.toUTF8.toList

/-- The delimiter of `std::getline`. -/
def newline : UInt8 := 10

/-- The terminator of a `const char*`. -/
def nul : UInt8 := 0

/-- The text that a `const char*` to these bytes stands for. -/
def cStr (bytes : StdString) : StdString := bytes.takeWhile (· ≠ nul)

/-- `EReaderType`. -/
inductive EReaderType where
  | file
  | memory
  deriving DecidableEq, Repr

/-- `EReaderMode`. -/
inductive EReaderMode where
  | read
  | write
  | all
  deriving DecidableEq, Repr

/-- `EReaderFormat`. -/
inductive EReaderFormat where
  | binary
  | text
  deriving DecidableEq, Repr

/-- The flags a stream is opened with. -/
structure OpenFlags where
  input : Bool := false
  output : Bool := false
  binary : Bool := false
  deriving DecidableEq, Repr

/--
What opening a path under some flags delivers: nothing, or the characters of
the stream.  Files are short enough for the `i32` length of `SetMemory`.
-/
structure FileSystem where
  deliver : OpenFlags → StdString → Option StdString
  bounded :
    ∀ flags path content,
      deliver flags path = some content →
      content.length ≤ 2 ^ 31 - 3

/-- A `std::fstream`; closing it keeps the state bits. -/
structure FStream where
  isOpen : Bool
  rest : StdString
  eofbit : Bool
  failbit : Bool
  deriving DecidableEq, Repr

namespace FStream

/-- A stream that was never opened. -/
def closed : FStream where
  isOpen := false
  rest := []
  eofbit := false
  failbit := false

/-- A stream is good while neither bit is set. -/
def good (file : FStream) : Bool := !file.eofbit && !file.failbit

/--
`std::fstream::open`: an open stream or a missing file only sets `failbit`.
-/
def openPath
    (fs : FileSystem)
    (path : StdString)
    (flags : OpenFlags)
    (file : FStream) : FStream :=
  if file.isOpen then
    { file with failbit := true }
  else
    match fs.deliver flags (cStr path) with
    | some content =>
        { isOpen := true, rest := content, eofbit := false, failbit := false }
    | none => { file with failbit := true }

/-- `std::fstream::close`. -/
def close (file : FStream) : FStream :=
  { file with isOpen := false, rest := [] }

end FStream

/--
The characters up to the delimiter, those after it, and whether the end was
reached before a delimiter.
-/
def extractLine : StdString → StdString × StdString × Bool
  | [] => ([], [], true)
  | char :: rest =>
      if char = newline then
        ([], rest, false)
      else
        let later := extractLine rest
        (char :: later.1, later.2.1, later.2.2)

/--
`std::getline`.  A stream that is not good only gets its `failbit` set; the end
of the file sets `eofbit`, and `failbit` too if nothing was extracted.
-/
def getline (file : FStream) (line : StdString) : FStream × StdString :=
  if file.good then
    let extracted := extractLine file.rest
    ({ file with
        rest := extracted.2.1
        eofbit := extracted.2.2
        failbit := extracted.2.2 && extracted.1.isEmpty },
      extracted.1)
  else
    ({ file with failbit := true }, line)

/-- Extracting a line splits off a line without the delimiter. -/
theorem extractLine_spec (chars : StdString) :
    newline ∉ (extractLine chars).1 ∧
      ((extractLine chars).2.2 = false →
        chars =
          (extractLine chars).1 ++ newline :: (extractLine chars).2.1) ∧
      ((extractLine chars).2.2 = true →
        chars = (extractLine chars).1 ∧ (extractLine chars).2.1 = []) := by
  induction chars with
  | nil =>
      simp [extractLine]
  | cons char rest inductionHypothesis =>
      rcases inductionHypothesis with ⟨absent, closedLine, lastLine⟩
      by_cases ends : char = newline
      · simp [extractLine, ends]
      · simp only [extractLine, ends, ↓reduceIte, List.mem_cons, not_or]
        refine ⟨⟨Ne.symm ends, absent⟩, ?_, ?_⟩
        · intro isClosed
          rw [List.cons_append, ← closedLine isClosed]
        · intro isLast
          exact ⟨congrArg (char :: ·) (lastLine isLast).1,
            (lastLine isLast).2⟩

/-- A successful extraction leaves less to read. -/
theorem getline_rest_length_lt
    {file : FStream}
    {line : StdString}
    (succeeded : (getline file line).1.failbit = false) :
    (getline file line).1.rest.length < file.rest.length := by
  unfold getline at succeeded ⊢
  split at succeeded
  · rename_i good
    rw [if_pos good]
    obtain ⟨-, closedLine, lastLine⟩ := extractLine_spec file.rest
    cases atEnd : (extractLine file.rest).2.2 with
    | false =>
        have shape := congrArg List.length (closedLine atEnd)
        simp only [List.length_append, List.length_cons] at shape
        dsimp only
        omega
    | true =>
        obtain ⟨shape, nothingLeft⟩ := lastLine atEnd
        have nonempty : (extractLine file.rest).1 ≠ [] := by
          simpa [atEnd] using succeeded
        rw [← shape] at nonempty
        simpa [nothingLeft] using List.length_pos_iff.mpr nonempty
  · exact absurd succeeded (by simp)

/-- The loop of `tkReader::Read`. -/
def readLoop
    (file : FStream)
    (line content : StdString) : FStream × StdString :=
  let extracted := getline file line
  if extracted.1.failbit then
    (extracted.1, content)
  else
    readLoop extracted.1 extracted.2
      (content ++ (extracted.2 ++ [newline]))
termination_by file.rest.length
decreasing_by
  rename_i succeeded
  exact getline_rest_length_lt (by simpa using succeeded)

/-- A `tkReader` and what it has printed. -/
structure TkReader where
  m_Type : EReaderType
  m_Mode : EReaderMode
  m_Format : EReaderFormat
  m_Memory : Option StdString
  m_File : FStream
  printed : List StdString
  deriving DecidableEq, Repr

/-- How `SetMemory` can fail: in its allocation or in its copy. -/
inductive ReaderFault where
  | badArrayNewLength
  | invalidParameter
  deriving DecidableEq, Repr

namespace TkReader

/-- The static reader that `ReadTextFile` shares between calls. -/
def textFileReader : TkReader where
  m_Type := .file
  m_Mode := .read
  m_Format := .text
  m_Memory := none
  m_File := .closed
  printed := []

/-- The flags for mode and format. -/
def openFlags (reader : TkReader) : OpenFlags where
  input := reader.m_Mode = .read || reader.m_Mode = .all
  output := reader.m_Mode = .write || reader.m_Mode = .all
  binary := reader.m_Format = .binary

/-- A message on the standard output. -/
def print (reader : TkReader) (message : StdString) : TkReader :=
  { reader with printed := reader.printed ++ [message] }

/-- `tkReader::Open`.  The message names another folder than the call. -/
def openFile
    (fs : FileSystem)
    (path : StdString)
    (reader : TkReader) : Bool × TkReader :=
  if reader.m_Type ≠ .file then
    (false, reader.print (literal "Reader::Open: Reader type is not File\n"))
  else
    let opened :=
      { reader with
        m_File :=
          reader.m_File.openPath fs (literal "../res/" ++ path)
            reader.openFlags }
    if opened.m_File.isOpen then
      (true, opened)
    else
      (false,
        opened.print
          (literal "Reader::Open: Failed to open file " ++
            cStr (literal "res/" ++ path) ++ literal "\n"))

/-- `tkReader::Close`. -/
def close (reader : TkReader) : TkReader :=
  if reader.m_Type ≠ .file then
    reader.print (literal "Reader::Close: Reader type is not File\n")
  else if !reader.m_File.isOpen then
    reader
  else
    { reader with m_File := reader.m_File.close }

/-- `tkReader::Read`: all lines, each with a newline, and then the close. -/
def read (reader : TkReader) : StdString × TkReader :=
  if reader.m_Type ≠ .file then
    ([], reader.print (literal "Reader::Read: Reader type is not File\n"))
  else
    let looped := readLoop reader.m_File [] []
    (looped.2, { reader with m_File := looped.1 }.close)

/-- `tkReader::IsMemoryValid`. -/
def isMemoryValid (reader : TkReader) : Bool := reader.m_Memory.isSome

/-- `tkReader::ClearMemory`. -/
def clearMemory (reader : TkReader) : TkReader :=
  if reader.isMemoryValid then { reader with m_Memory := none } else reader

/--
`tkReader::SetMemory`: allocate `len` characters and copy with `strcpy_s`,
which rejects a destination that the text and its terminator do not fit into.
-/
def setMemory
    (memory : StdString)
    (reader : TkReader) : Except ReaderFault TkReader :=
  let text := cStr memory
  let len := Int32.ofNat (text.length + 1)
  if len.toInt < 0 then
    .error .badArrayNewLength
  else if len.toInt ≤ text.length then
    .error .invalidParameter
  else
    .ok { reader.clearMemory with m_Memory := some (text ++ [nul]) }

/-- `tkReader::GetMemory`, as the text behind the pointer. -/
def getMemory (reader : TkReader) : Option StdString :=
  reader.m_Memory.map cStr

/-- `tkReader::ReadCStr`: what was read is kept in the memory. -/
def readCStr
    (reader : TkReader) :
    Except ReaderFault (Option StdString × TkReader) :=
  let content := reader.read
  match content.2.setMemory content.1 with
  | .error fault => .error fault
  | .ok filled => .ok (filled.getMemory, filled)

/-- `tkReader::ReadTextFile` on the static reader; `Open`'s answer is unused. -/
def readTextFile
    (fs : FileSystem)
    (reader : TkReader)
    (path : StdString) :
    Except ReaderFault (Option StdString × TkReader) :=
  (reader.openFile fs path).2.readCStr

end TkReader

end Teck
