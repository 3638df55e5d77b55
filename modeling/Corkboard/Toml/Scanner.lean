-- SUMMARY: Scanners: small readers that take characters off the front of a text.

/-!
# Scanners

A scanner reads something off the front of a text and leaves the rest, or it fails. A choice
between two scanners starts the second where the first one started.
-/

namespace Corkboard.Toml

/-- Reads a value off the front of a text. -/
abbrev Scanner (α : Type) : Type := StateT (List Char) Option α

namespace Scanner

variable {α : Type}

/-- Refuses the text. -/
def fail : Scanner α := fun _ => none

/-- The next character, which stays. -/
def peek? : Scanner (Option Char) := fun text => some (text.head?, text)

/-- Whether the text ends here. -/
def atEnd : Scanner Bool := fun text => some (text.isEmpty, text)

/-- Reads exactly this text. -/
def exactly (expected : List Char) : Scanner Unit := fun text =>
  if expected.isPrefixOf text then some ((), text.drop expected.length) else none

/-- Reads this text if it stands here, and says so. -/
def accept (expected : List Char) : Scanner Bool := fun text =>
  if expected.isPrefixOf text then some (true, text.drop expected.length) else some (false, text)

/-- Reads the characters in front that pass a test. -/
def takeWhile (test : Char → Bool) : Scanner (List Char) := fun text =>
  some (text.takeWhile test, text.dropWhile test)

/-- Reads one character that passes a test. -/
def satisfy (test : Char → Bool) : Scanner Char
  | [] => none
  | c :: rest => if test c then some (c, rest) else none

/-- Reads as many characters as `count` says, all of which pass a test. -/
def exactCount (count : Nat) (test : Char → Bool) : Scanner (List Char) := fun text =>
  let taken := text.take count
  if taken.length = count ∧ taken.all test then some (taken, text.drop count) else none

/-- Repeats `p` while it succeeds and takes something, `fuel` times at most. -/
def manyUpTo (p : Scanner α) : Nat → List Char → List α × List Char
  | 0, text => ([], text)
  | fuel + 1, text =>
    match p text with
    | some (a, rest) =>
      if rest.length < text.length then
        let (more, after) := manyUpTo p fuel rest
        (a :: more, after)
      else ([], text)
    | none => ([], text)

/-- Repeats `p` as long as it succeeds and takes something. -/
def many (p : Scanner α) : Scanner (List α) := fun text =>
  some (manyUpTo p text.length text)

/-- Reads one `item` or more, with `sep` between them. -/
def separated (sep : Scanner Unit) (item : Scanner α) : Scanner (List α) := do
  let first ← item
  let more ← many (do sep; item)
  return first :: more

end Scanner
end Corkboard.Toml
