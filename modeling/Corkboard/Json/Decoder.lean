-- SUMMARY: Reading typed values and records from JSON trees, and writing records as trees.
import Corkboard.Json.Basic
import Corkboard.KeyMap

/-!
# Decoders

A decoder reads a typed value from a tree. It is given how many arrays and objects it may
still enter, so that a text that is nested too deeply is refused. It never looks at a value
that it does not need, and such a value is not counted.

There is no conversion between types: a number is no text, and a decimal is no integer.
-/

namespace Corkboard

/-- Reads a value of type `α` from a tree, when so many arrays and objects may be entered. -/
abbrev Decoder (α : Type) : Type := Nat → Json → Option α

/-- How many arrays and objects may stand around a value that is read. -/
def nestingLimit : Nat := 127

namespace Decoder

variable {α : Type}

-- ---------------------------------------------------------------------------
-- Values
-- ---------------------------------------------------------------------------

/-- A text. -/
def string : Decoder String
  | _, .string s => some s
  | _, _ => none

/-- A truth value. -/
def bool : Decoder Bool
  | _, .bool b => some b
  | _, _ => none

/-- An integer of 64 bits. -/
def int64 : Decoder Int64
  | _, .integer i =>
    if -0x8000000000000000 ≤ i ∧ i < 0x8000000000000000 then some (Int64.ofInt i) else none
  | _, _ => none

/-- An integer of 32 bits. -/
def int32 : Decoder Int32
  | _, .integer i =>
    if -0x80000000 ≤ i ∧ i < 0x80000000 then some (Int32.ofInt i) else none
  | _, _ => none

/-- A natural number of 64 bits. -/
def nat64 : Decoder Nat
  | _, .integer i =>
    if 0 ≤ i ∧ i < 0x10000000000000000 then some i.toNat else none
  | _, _ => none

/-- A list of values, written as an array. -/
def list (item : Decoder α) : Decoder (List α)
  | n + 1, .array items => items.mapM (item n)
  | _, _ => none

/-- A map, written as an object. Every value must be readable, and the last value of a key
    wins. -/
def keyMap (value : Decoder α) : Decoder (KeyMap α)
  | n + 1, .object entries =>
    (entries.mapM fun e => (value n e.2).map (e.1, ·)).map KeyMap.ofList
  | _, _ => none

/-- A named constant, written as its name or as an object with its name over null. -/
def named (ofName? : String → Option α) : Decoder α
  | _, .string s => ofName? s
  | _ + 1, .object [(s, .null)] => ofName? s
  | _, _ => none

-- ---------------------------------------------------------------------------
-- Records
-- ---------------------------------------------------------------------------

/-- The value of a field from its name. A known name may not occur twice. -/
def byName? (names : List String) (entries : List (String × Json)) :
    Option (List (Option Json)) :=
  if names.all fun name => (entries.filter (·.1 == name)).length ≤ 1 then
    some (names.map fun name => entries.lookup name)
  else
    none

/-- The value of a field from its place. Fields at the end may be missing. -/
def byPlace? (names : List String) (items : List Json) : Option (List (Option Json)) :=
  if items.length ≤ names.length then
    some (items.map some ++ List.replicate (names.length - items.length) none)
  else
    none

/-- The values of the fields of a record, in the order of their names. An object gives them
    by name and may have other entries; an array gives them by place. -/
def fields? (names : List String) : Json → Option (List (Option Json))
  | .object entries => byName? names entries
  | .array items => byPlace? names items
  | _ => none

/-- A record with the named fields. `read` is given the values of the fields. -/
def record (names : List String) (read : Nat → List (Option Json) → Option α) : Decoder α
  | n + 1, value => do read n (← fields? names value)
  | 0, _ => none

/-- A field that must be there. -/
def required (value : Decoder α) (n : Nat) (field : Option Json) : Option α :=
  field.bind (value n)

/-- A field that takes a default where it is absent. -/
def orDefault (default : α) (value : Decoder α) (n : Nat) : Option Json → Option α
  | none => some default
  | some v => value n v

/-- A field that may be absent or null. -/
def optional (value : Decoder α) (n : Nat) : Option Json → Option (Option α)
  | none => some none
  | some .null => some none
  | some v => (value n v).map some

end Decoder

namespace Json

/-- The entries of the fields that are there. -/
def presentEntries : List String → List (Option Json) → List (String × Json)
  | name :: names, some value :: values => (name, value) :: presentEntries names values
  | _ :: names, none :: values => presentEntries names values
  | _, _ => []

/-- A record as an object: its fields under their names, without the fields that are `none`. -/
def ofFields (names : List String) (values : List (Option Json)) : Json :=
  .object (presentEntries names values)

/-- A list of values as an array. -/
def ofList {α : Type} (item : α → Json) (items : List α) : Json :=
  .array (items.map item)

/-- A map as an object, its keys in ascending order. -/
def ofKeyMap {α : Type} (value : α → Json) (m : KeyMap α) : Json :=
  .object (m.entries.map fun (k, v) => (k, value v))

end Json

end Corkboard
