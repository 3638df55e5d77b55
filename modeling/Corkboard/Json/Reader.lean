-- SUMMARY: The JSON value that a row of tokens denotes.
import Corkboard.Json.Token

/-!
# Reading

The tokens are read one by one. The state says what may come next, and keeps the arrays and
objects that are still open, the innermost first. An object with a key that denotes no text is
unusable.
-/

namespace Corkboard.Json

/-- An array or object that is still open. Its parts so far stand in reverse, and an object
    waits for the value of its last key. -/
inductive Frame where
  | array (items : List Json)
  | object (entries : List (Option String × Json)) (key : Option String)

/-- What may come next. -/
inductive State where
  /-- A value. -/
  | value (around : List Frame)
  /-- The first item of an array, or its end. -/
  | firstItem (around : List Frame)
  /-- The first key of an object, or its end. -/
  | firstKey (around : List Frame)
  /-- A key after a comma. -/
  | key (entries : List (Option String × Json)) (around : List Frame)
  /-- The colon after a key. -/
  | colon (entries : List (Option String × Json)) (key : Option String) (around : List Frame)
  /-- A comma or an end, after a whole value. -/
  | done (value : Json) (around : List Frame)

/-- The entries with their keys, if every key denotes a text. -/
def namedEntries? : List (Option String × Json) → Option (List (String × Json))
  | [] => some []
  | (key, value) :: rest => do
    return (← key, value) :: (← namedEntries? rest)

/-- The object of its entries in the order of the text. -/
def objectOf (entries : List (Option String × Json)) : Json :=
  match namedEntries? entries with
  | some entries => .object entries
  | none => .unusable

/-- The text of a token as a value. -/
def stringOf : Option String → Json
  | some s => .string s
  | none => .unusable

namespace State

/-- Starts a value. -/
def openValue (around : List Frame) : Token → Option State
  | .openBrace => some (.firstKey around)
  | .openBracket => some (.firstItem around)
  | .scalar v => some (.done v around)
  | .string text => some (.done (stringOf text) around)
  | _ => none

/-- Goes on after a whole value in the innermost open array or object. -/
def closeValue (v : Json) : List Frame → Token → Option State
  | .array items :: around, .comma => some (.value (.array (v :: items) :: around))
  | .array items :: around, .closeBracket =>
    some (.done (.array (v :: items).reverse) around)
  | .object entries name :: around, .comma => some (.key ((name, v) :: entries) around)
  | .object entries name :: around, .closeBrace =>
    some (.done (objectOf ((name, v) :: entries).reverse) around)
  | _, _ => none

/-- One token further. -/
def step : State → Token → Option State
  | .value around, token => openValue around token
  | .firstItem around, .closeBracket => some (.done (.array []) around)
  | .firstItem around, token => openValue (.array [] :: around) token
  | .firstKey around, .closeBrace => some (.done (.object []) around)
  | .firstKey around, .string name => some (.colon [] name around)
  | .key entries around, .string name => some (.colon entries name around)
  | .colon entries name around, .colon => some (.value (.object entries name :: around))
  | .done v around, token => closeValue v around token
  | _, _ => none

/-- All tokens of the row. -/
def run : State → List Token → Option State
  | state, [] => some state
  | state, token :: rest => do run (← state.step token) rest

end State

/-- The value of a whole row of tokens. -/
def ofTokens? (tokens : List Token) : Option Json :=
  match State.run (.value []) tokens with
  | some (.done value []) => some value
  | _ => none

/-- The value of a JSON text. Nothing but blanks may stand around the value. -/
def ofText? (text : String) : Option Json := do
  ofTokens? (← Token.scan? text.toList)

end Corkboard.Json
