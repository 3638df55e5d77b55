-- SUMMARY: Reading the files that a command names: what the system finds at a path, and what a reader makes of it.
import Corkboard.Failure
import Corkboard.Json.Text

/-!
# Reading files

A command asks for files by their paths. What stands at a path is for the system to say, and what
is wrong with a text that holds no record is for the parser to say. Both are given to the reader.
-/

namespace Corkboard

/-- What a parser says about a text that holds no such value. It may say nothing. -/
abbrev ParserWords : Type 1 := (α : Type) → Decoder α → String → Option String

/-- How to get the text of a file by its path, and what the parser says about a text. -/
structure FileReader where
  text : String → Except Failure String
  words : ParserWords

instance : CoeFun FileReader fun _ => String → Except Failure String := ⟨FileReader.text⟩

/-- Reads a file that holds a record as JSON text. -/
def FileReader.record {α : Type} (read : FileReader) (decode : Decoder α) (path : String) :
    Except Failure α := do
  let text ← read path
  match decode.ofText? text with
  | some a => return a
  | none => .error (.malformed ⟨path, read.words α decode text⟩)

/-- A file that can be read gives a record exactly if its text does. -/
theorem FileReader.record_of_text {α : Type} (read : FileReader) (decode : Decoder α)
    {path text : String} (h : read path = .ok text) :
    read.record decode path =
      match decode.ofText? text with
      | some a => .ok a
      | none => .error (.malformed ⟨path, read.words α decode text⟩) := by
  rw [FileReader.record, h]
  rfl

-- ---------------------------------------------------------------------------
-- Files of the system
-- ---------------------------------------------------------------------------

/-- What stands at a path. -/
inductive Found where
  | nothing
  | fault (f : ReadFault)
  | bytes (b : ByteArray)

/-- What the system finds at each path, and what the parser says about the texts. -/
structure Files where
  find : String → Found
  words : ParserWords

/-- The reader of these files. Only a file of UTF-8 has a text. -/
def Files.reader (files : Files) : FileReader where
  text path :=
    match files.find path with
    | .nothing => .error (.noFile path)
    | .fault f => .error (.unreadable f)
    | .bytes b =>
      match String.fromUTF8? b with
      | some text => .ok text
      | none => .error (.unreadable .notUtf8)
  words := files.words

end Corkboard
