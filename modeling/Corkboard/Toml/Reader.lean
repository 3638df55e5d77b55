-- SUMMARY: Reading a TOML document.
import Corkboard.Toml.Document
import Corkboard.Toml.Number

/-!
# Reading TOML

A document is a row of lines. A line is empty, opens a table, or defines an entry; a comment
may stand at its end. Values are nested no deeper than a fixed limit.
-/

namespace Corkboard.Toml

open Scanner

-- ---------------------------------------------------------------------------
-- Values
-- ---------------------------------------------------------------------------

/-- Drops blanks, line ends and comments. -/
def dropTrivia (inComment : Bool) : List Char → List Char
  | [] => []
  | c :: rest =>
    if c == '\n' then dropTrivia false rest
    else if inComment then if isText c then dropTrivia true rest else c :: rest
    else if isSpace c then dropTrivia false rest
    else if c == '#' then dropTrivia true rest
    else c :: rest

/-- Blanks, line ends and comments, which may be none. -/
def trivia : Scanner Unit := fun text => some ((), dropTrivia false text)

/-- The items of an array after its opening bracket. A comma may follow the last one. -/
def arrayRest (item : Scanner Item) : Scanner Item := do
  trivia
  let items ← many (do
    let i ← item
    trivia
    let comma ← accept [',']
    trivia
    return (i, comma))
  exactly [']']
  -- Only the last item may lack its comma.
  if items.dropLast.all (·.2) then return .array (items.map (·.1)) else fail

/-- The entries of a table after its opening brace. -/
def tableRest (item : Scanner Item) : Scanner Item := do
  spaces
  let entries ← optional (separated (exactly [',']) (do
    let path ← key
    exactly ['=']
    spaces
    let i ← item
    spaces
    return (path, i)))
  exactly ['\x7d']
  match Entries.ofInline? (entries.getD []) with
  | some table => return .table .inline table
  | none => fail

/-- A value without parts, with this character in front. -/
def simple : Option Char → Scanner Item
  | some '"' | some '\x27' => return .string (← quoted)
  | some 't' => do exactly "true".toList; return .bool true
  | some 'f' => do exactly "false".toList; return .bool false
  | _ => do numeric; return .number

/-- A value, inside which arrays and tables may be nested `depth` levels deep. Its first
    character says which kind it is. -/
def item : Nat → Scanner Item
  | 0 => do
    match ← peek? with
    | some '[' | some '\x7b' => fail
    | first => simple first
  | depth + 1 => do
    match ← peek? with
    | some '[' => exactly ['[']; arrayRest (item depth)
    | some '\x7b' => exactly ['\x7b']; tableRest (item depth)
    | first => simple first

-- ---------------------------------------------------------------------------
-- Lines
-- ---------------------------------------------------------------------------

/-- The end of a line: blanks, maybe a comment, and a line end or the end of the text. -/
def lineEnd : Scanner Unit := do
  spaces
  if ← accept ['#'] then
    let _ ← takeWhile isText
  if ← atEnd then return
  exactly ['\n']

/-- What a line defines. -/
def statement : Scanner Statement := do
  if ← accept ['[', '['] then
    let path ← key
    exactly [']', ']']
    return .row path
  else if ← accept ['['] then
    let path ← key
    exactly [']']
    return .header path
  else
    let path ← key
    exactly ['=']
    spaces
    return .entry path (← item (nestingLimit - 1))

/-- One line, empty or not. -/
def line : Scanner (Option Statement) := do
  spaces
  match ← peek? with
  | some '#' | some '\n' => lineEnd; return none
  | none => return none
  | _ =>
    let s ← statement
    lineEnd
    return some s

/-- The text without a byte order mark in front. -/
def dropMark : List Char → List Char
  | '\uFEFF' :: rest => rest
  | text => text

/-- The entries of a document. -/
def ofText? (text : String) : Option Entries :=
  match many line (unifyLines (dropMark text.toList)) with
  | some (lines, []) => Entries.ofStatements? (lines.filterMap id)
  | _ => none

end Corkboard.Toml
