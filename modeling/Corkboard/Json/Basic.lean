-- SUMMARY: JSON values as trees, with their nesting depth.
import Corkboard.Decimal

/-!
# JSON values

A tree keeps the entries of an object in the order of the text, repeated keys included. The
reader of a record decides what a repeated key means.

Some well-formed JSON denotes nothing a program can hold: a text with half of a surrogate
pair, or a number past the range of a double. Such a value is `unusable`. It is harmless where
nobody looks at it, and an error everywhere else.
-/

namespace Corkboard

/-- A JSON value. A number is an `integer` if it is written without point and exponent, and is
    not `-0`; every other number is a `decimal`. -/
inductive Json where
  | null
  | bool (b : Bool)
  | integer (i : Int)
  | decimal (d : Decimal)
  | string (s : String)
  | array (items : List Json)
  | object (entries : List (String × Json))
  | unusable
  deriving Inhabited

namespace Json

mutual
/-- Whether the value and all values inside it denote something. -/
def usable : Json → Bool
  | .array items => usableItems items
  | .object entries => usableEntries entries
  | .unusable => false
  | _ => true

/-- Whether all items are usable. -/
def usableItems : List Json → Bool
  | [] => true
  | item :: rest => usable item && usableItems rest

/-- Whether the values of all entries are usable. -/
def usableEntries : List (String × Json) → Bool
  | [] => true
  | (_, value) :: rest => usable value && usableEntries rest
end

mutual
/-- How many arrays and objects stand around the innermost value, the value itself included. -/
def depth : Json → Nat
  | .array items => depthItems items + 1
  | .object entries => depthEntries entries + 1
  | _ => 0

/-- The largest depth among the items. -/
def depthItems : List Json → Nat
  | [] => 0
  | item :: rest => max (depth item) (depthItems rest)

/-- The largest depth among the values of the entries. -/
def depthEntries : List (String × Json) → Nat
  | [] => 0
  | (_, value) :: rest => max (depth value) (depthEntries rest)
end

end Json
end Corkboard
