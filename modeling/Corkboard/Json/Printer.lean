-- SUMMARY: The two written forms of a JSON value: compact, and indented by two blanks a level.
import Corkboard.Json.Basic
import Corkboard.Json.Quoted

/-!
# Printing

The compact form has no blanks. The indented form has one item or entry a line, with two
blanks for each level around it. Empty arrays and objects have one form.
-/

namespace Corkboard.Json

/-- A number with point or exponent, as digits and exponent. -/
def writeDecimal (d : Decimal) : List Char :=
  (if d.negative then ['-'] else []) ++ Nat.toDigits 10 d.digits ++ 'e' :: Decimal.ofInt d.exponent

/-- A value without parts. An unusable value has no written form of its own. -/
def writeScalar : Json → List Char
  | .bool true => "true".toList
  | .bool false => "false".toList
  | .integer i => Decimal.ofInt i
  | .decimal d => writeDecimal d
  | .string s => Quoted.write s
  | _ => "null".toList

mutual
/-- The compact form. -/
def writeCompact : Json → List Char
  | .array items => '[' :: writeItems items ++ [']']
  | .object entries => '\x7b' :: writeEntries entries ++ ['\x7d']
  | value => writeScalar value

/-- The items with commas between them. -/
def writeItems : List Json → List Char
  | [] => []
  | item :: rest => writeCompact item ++ writeMoreItems rest

/-- The items, each after a comma. -/
def writeMoreItems : List Json → List Char
  | [] => []
  | item :: rest => ',' :: writeCompact item ++ writeMoreItems rest

/-- The entries with commas between them. -/
def writeEntries : List (String × Json) → List Char
  | [] => []
  | (key, value) :: rest =>
    Quoted.write key ++ ':' :: writeCompact value ++ writeMoreEntries rest

/-- The entries, each after a comma. -/
def writeMoreEntries : List (String × Json) → List Char
  | [] => []
  | (key, value) :: rest =>
    ',' :: Quoted.write key ++ ':' :: writeCompact value ++ writeMoreEntries rest
end

/-- A new line with two blanks for each level. -/
def newLine (level : Nat) : List Char :=
  '\n' :: List.replicate (2 * level) ' '

mutual
/-- The indented form inside `level` arrays and objects. -/
def writeIndented (level : Nat) : Json → List Char
  | .array [] => "[]".toList
  | .array (item :: rest) =>
    '[' :: newLine (level + 1) ++ writeIndented (level + 1) item ++
      writeIndentedItems (level + 1) rest ++ newLine level ++ [']']
  | .object [] => "\x7b\x7d".toList
  | .object ((key, value) :: rest) =>
    '\x7b' :: newLine (level + 1) ++ Quoted.write key ++ ": ".toList ++
      writeIndented (level + 1) value ++ writeIndentedEntries (level + 1) rest ++
      newLine level ++ ['\x7d']
  | value => writeScalar value

/-- The items, each after a comma and on a line of its own. -/
def writeIndentedItems (level : Nat) : List Json → List Char
  | [] => []
  | item :: rest =>
    ',' :: newLine level ++ writeIndented level item ++ writeIndentedItems level rest

/-- The entries, each after a comma and on a line of its own. -/
def writeIndentedEntries (level : Nat) : List (String × Json) → List Char
  | [] => []
  | (key, value) :: rest =>
    ',' :: newLine level ++ Quoted.write key ++ ": ".toList ++ writeIndented level value ++
      writeIndentedEntries level rest
end

/-- The compact form as a text. -/
def compact (value : Json) : String :=
  String.ofList (writeCompact value)

/-- The indented form as a text. -/
def indented (value : Json) : String :=
  String.ofList (writeIndented 0 value)

end Corkboard.Json
