-- SUMMARY: What can go wrong, and the message for each cause.

/-!
# Failures

Every failure has a cause. The wording of all messages is here.
-/

namespace Corkboard

/-- Why the system could not read an existing file. -/
inductive ReadFault where
  | isDirectory
  | notDirectory
  | nameTooLong
  | notUtf8
  | other (reason : String)
  deriving DecidableEq, Repr

/-- The words for a fault. -/
def ReadFault.message : ReadFault → String
  | isDirectory => "Is a directory (os error 21)"
  | notDirectory => "Not a directory (os error 20)"
  | nameTooLong => "File name too long (os error 36)"
  | notUtf8 => "stream did not contain valid UTF-8"
  | other reason => reason

/-- What is wrong with a file that holds no record of the right form. -/
structure Complaint where
  path : String
  /-- What the parser says about the text, where this is known. -/
  words : Option String
  deriving DecidableEq, Repr

/-- The path comes first, and what the parser says behind it. -/
def Complaint.message (c : Complaint) : String :=
  match c.words with
  | some words => c.path ++ ": " ++ words
  | none => c.path

/-- Why a request fails. -/
inductive Failure where
  /-- There is no such file. -/
  | noFile (path : String)
  /-- The board has no template with this id. -/
  | noProperty (id : String)
  /-- The file exists and cannot be read. -/
  | unreadable (fault : ReadFault)
  /-- The content of the file is no record of the right form. -/
  | malformed (complaint : Complaint)
  /-- No filter condition has this name. -/
  | noCondition (name : String)
  /-- No filter operation has this name. -/
  | noOperation (name : String)
  deriving DecidableEq, Repr

/-- The message for a failure. A fault of the system is named twice, as the failure and as its
    cause. -/
def Failure.message : Failure → String
  | noFile path => "Not found: " ++ path
  | noProperty id => "Not found: Card property " ++ id
  | unreadable fault => "IO error: " ++ fault.message ++ ": " ++ fault.message
  | malformed complaint => "Serialization error: " ++ complaint.message
  | noCondition name => "Validation error: Invalid filter condition " ++ name
  | noOperation name => "Validation error: Invalid filter operation " ++ name

end Corkboard
