-- SUMMARY: Strings and keys of TOML: four kinds of quotes, escapes, and dotted keys.
import Corkboard.Json.Quoted
import Corkboard.Toml.Scanner

/-!
# Strings and keys

A basic string has escapes, a literal string has none. Each may stand between single quotes on
one line or between triple quotes over several lines. A quote or two may stand right before
closing triple quotes.

All texts here have plain line ends; `unifyLines` makes them so.
-/

namespace Corkboard.Toml

/-- The text with each pair of carriage return and line feed made one line feed. -/
def unifyLines : List Char → List Char
  | '\r' :: '\n' :: rest => '\n' :: unifyLines rest
  | c :: rest => c :: unifyLines rest
  | [] => []

/-- Blanks within a line. -/
def isSpace (c : Char) : Bool := c == ' ' || c == '\t'

/-- Characters that may stand in strings and comments: the tab, and all but the controls of
    ASCII. -/
def isText (c : Char) : Bool := c == '\t' || (0x20 ≤ c.toNat && c.toNat != 0x7F)

-- ---------------------------------------------------------------------------
-- Escapes
-- ---------------------------------------------------------------------------

/-- The character of an escape with one letter. -/
def escape? : Char → Option Char
  | 'b' => some '\x08'
  | 't' => some '\t'
  | 'n' => some '\n'
  | 'f' => some '\x0c'
  | 'r' => some '\r'
  | '"' => some '"'
  | '\\' => some '\\'
  | _ => none

/-- The character with this code in hexadecimal digits. A surrogate is no character. -/
def charOfHex? (digits : List Char) : Option Char := do
  let n ← digits.foldlM (fun n d => (Json.Quoted.hexDigit? d).map (n * 16 + ·)) 0
  if h : n.isValidChar then some (Char.ofNatAux n h) else none

-- ---------------------------------------------------------------------------
-- Strings
-- ---------------------------------------------------------------------------

/-- The rest of a basic string on one line. -/
def basicRest : List Char → Option (List Char × List Char)
  | [] => none
  | '"' :: rest => some ([], rest)
  | '\\' :: 'u' :: a :: b :: c :: d :: rest => do
    let x ← charOfHex? [a, b, c, d]
    let (s, after) ← basicRest rest
    return (x :: s, after)
  | '\\' :: 'U' :: a :: b :: c :: d :: e :: f :: g :: h :: rest => do
    let x ← charOfHex? [a, b, c, d, e, f, g, h]
    let (s, after) ← basicRest rest
    return (x :: s, after)
  | '\\' :: e :: rest => do
    let x ← escape? e
    let (s, after) ← basicRest rest
    return (x :: s, after)
  | c :: rest =>
    if c = '\\' ∨ !isText c then none
    else do
      let (s, after) ← basicRest rest
      return (c :: s, after)

/-- Whether nothing but blanks stands in front of the next line end. -/
def endsLine (text : List Char) : Bool :=
  (text.dropWhile isSpace).head? == some '\n'

/-- The rest of a basic string over several lines. A backslash at the end of a line drops the
    line end and all blanks after it; while they are dropped, `skipping` is true. -/
def basicLinesRest (skipping : Bool) : List Char → Option (List Char × List Char)
  | [] => none
  | '"' :: '"' :: '"' :: '"' :: '"' :: rest => some (['"', '"'], rest)
  | '"' :: '"' :: '"' :: '"' :: rest => some (['"'], rest)
  | '"' :: '"' :: '"' :: rest => some ([], rest)
  | '\\' :: 'u' :: a :: b :: c :: d :: rest => do
    let x ← charOfHex? [a, b, c, d]
    let (s, after) ← basicLinesRest false rest
    return (x :: s, after)
  | '\\' :: 'U' :: a :: b :: c :: d :: e :: f :: g :: h :: rest => do
    let x ← charOfHex? [a, b, c, d, e, f, g, h]
    let (s, after) ← basicLinesRest false rest
    return (x :: s, after)
  | '\\' :: e :: rest =>
    if endsLine (e :: rest) then basicLinesRest true rest
    else do
      let x ← escape? e
      let (s, after) ← basicLinesRest false rest
      return (x :: s, after)
  | c :: rest =>
    if skipping && (isSpace c || c == '\n') then basicLinesRest true rest
    else if c = '\\' ∨ !(isText c || c == '\n') then none
    else do
      let (s, after) ← basicLinesRest false rest
      return (c :: s, after)

/-- The rest of a literal string on one line. -/
def literalRest : List Char → Option (List Char × List Char)
  | [] => none
  | '\x27' :: rest => some ([], rest)
  | c :: rest =>
    if !isText c then none
    else do
      let (s, after) ← literalRest rest
      return (c :: s, after)

/-- The rest of a literal string over several lines. -/
def literalLinesRest : List Char → Option (List Char × List Char)
  | [] => none
  | '\x27' :: '\x27' :: '\x27' :: '\x27' :: '\x27' :: rest => some (['\x27', '\x27'], rest)
  | '\x27' :: '\x27' :: '\x27' :: '\x27' :: rest => some (['\x27'], rest)
  | '\x27' :: '\x27' :: '\x27' :: rest => some ([], rest)
  | c :: rest =>
    if !(isText c || c == '\n') then none
    else do
      let (s, after) ← literalLinesRest rest
      return (c :: s, after)

/-- A line end right after opening triple quotes does not count. -/
def dropFirstLineEnd : List Char → List Char
  | '\n' :: rest => rest
  | text => text

/-- A string between quotes of one kind, on one line. -/
def quotedLine : Scanner String := fun text =>
  match text with
  | '"' :: rest => (basicRest rest).map fun (s, after) => (String.ofList s, after)
  | '\x27' :: rest => (literalRest rest).map fun (s, after) => (String.ofList s, after)
  | _ => none

/-- A string between quotes of any kind. -/
def quoted : Scanner String := fun text =>
  match text with
  | '"' :: '"' :: '"' :: rest =>
    (basicLinesRest false (dropFirstLineEnd rest)).map fun (s, after) => (String.ofList s, after)
  | '\x27' :: '\x27' :: '\x27' :: rest =>
    (literalLinesRest (dropFirstLineEnd rest)).map fun (s, after) => (String.ofList s, after)
  | _ => quotedLine text

-- ---------------------------------------------------------------------------
-- Keys
-- ---------------------------------------------------------------------------

/-- Blanks, which may be none. -/
def spaces : Scanner Unit := do
  let _ ← Scanner.takeWhile isSpace

/-- Whether `c` may stand in a key without quotes. -/
def isBareKey (c : Char) : Bool := c.isAlphanum || c == '_' || c == '-'

/-- One part of a key: bare, or between quotes. -/
def keyPart : Scanner String := do
  let bare ← Scanner.takeWhile isBareKey
  if bare.isEmpty then quotedLine else return String.ofList bare

/-- How many parts a key may have. Values are nested less deeply than this. -/
def nestingLimit : Nat := 80

/-- A key: its parts with points between them, and blanks around each. -/
def key : Scanner (List String) := do
  let parts ← Scanner.separated (Scanner.exactly ['.']) (do
    spaces
    let part ← keyPart
    spaces
    return part)
  if nestingLimit < parts.length then Scanner.fail else return parts

end Corkboard.Toml
