-- SUMMARY: A tree of files and folders, and finding a file in it by its path.
import Corkboard.Command.Reader
import Corkboard.Text.Pieces

/-!
# Files and folders

A path is followed part by part, from the root if it starts with a slash, and from the working
directory otherwise. Every part but the last must name a folder, and so must a part in front of a
slash at the end. There are no links.
-/

namespace Corkboard

/-- A file or a folder. -/
inductive Entry where
  | file (bytes : ByteArray)
  | folder (entries : List (String × Entry))

/-- All files and folders, with the way from the root to the working directory. -/
structure FileSystem where
  root : List (String × Entry)
  directory : List String

namespace FileSystem

/-- The longest name that a file can have, in bytes. -/
def longestName : Nat := 255

/-- The longest path that the system takes, in bytes. -/
def longestPath : Nat := 4095

/-- Follows a path from an entry. The folders around the entry stand in `around`, the innermost
    first. The folder around the root is the root itself. -/
def follow : List String → List Entry → Entry → Found
  | [], _, .file bytes => .bytes bytes
  | [], _, .folder _ => .fault .isDirectory
  | _ :: _, _, .file _ => .fault .notDirectory
  | part :: rest, around, .folder entries =>
    if part.isEmpty || part == "." then follow rest around (.folder entries)
    else if part == ".." then
      match around with
      | outer :: more => follow rest more outer
      | [] => follow rest [] (.folder entries)
    else if longestName < part.utf8ByteSize then .fault .nameTooLong
    else
      match entries.lookup part with
      | some entry => follow rest (.folder entries :: around) entry
      | none => .nothing

/-- What stands at a path. -/
def find (s : FileSystem) (path : String) : Found :=
  if longestPath < path.utf8ByteSize then .fault .nameTooLong
  else
    match path.toList with
    | [] => .nothing
    | '/' :: rest => follow ((Text.pieces '/' rest).map String.ofList) [] (.folder s.root)
    | text =>
      follow (s.directory ++ (Text.pieces '/' text).map String.ofList) [] (.folder s.root)

end FileSystem

/-- The entries of a working directory. -/
abbrev Workspace : Type := List (String × Entry)

namespace Workspace

/-- The files of a system that holds nothing but the working directory. -/
def files (w : Workspace) (words : ParserWords) : Files :=
  ⟨FileSystem.find ⟨[("workspace", .folder w)], ["workspace"]⟩, words⟩

/-- Reads the texts of these files. What a parser would say about them is not known. -/
def readText (w : Workspace) : FileReader :=
  (w.files fun _ _ _ => none).reader

end Workspace
end Corkboard
