-- SUMMARY: Columns of cards, and a view of a board as visible and hidden columns.
import Corkboard.Card
import Corkboard.Property.Template

/-!
# Columns

A board can show its cards in columns, by the value of one property. A column has a choice as
its heading, and cards in the order of the board. Some columns are visible and some are hidden.
-/

namespace Corkboard.Grouping

open Property (Choice Template)

/-- Cards with the same value. -/
structure Column where
  heading : Choice
  cards : List Card
  deriving DecidableEq

/-- The columns of a board. -/
structure Columns where
  visible : List Column
  hidden : List Column
  deriving DecidableEq

/-- The columns, the visible ones first. -/
def Columns.all (c : Columns) : List Column := c.visible ++ c.hidden

/-- How many cards stand in the columns. A card in two columns counts twice. -/
def Columns.cardCount (c : Columns) : Nat :=
  (c.all.flatMap (·.cards)).length

/-- The heading of the cards without a value. -/
def emptyHeading (template : Template) : Choice := ⟨"", "No " ++ template.name, ""⟩

-- ---------------------------------------------------------------------------
-- Written form
-- ---------------------------------------------------------------------------

namespace Column

def fieldNames : List String := ["option", "cards"]

def toJson (c : Column) : Json :=
  .ofFields fieldNames [some c.heading.toJson, some (.ofList Card.toJson c.cards)]

def ofJson : Decoder Column :=
  .record fieldNames fun n fields =>
    match fields with
    | [heading, cards] => do
      return {
        heading := ← Choice.ofJson.required n heading
        cards := ← (Decoder.list Card.ofJson).required n cards }
    | _ => none

end Column

namespace Columns

def fieldNames : List String := ["visible", "hidden"]

def toJson (c : Columns) : Json :=
  .ofFields fieldNames
    [some (.ofList Column.toJson c.visible), some (.ofList Column.toJson c.hidden)]

def ofJson : Decoder Columns :=
  .record fieldNames fun n fields =>
    match fields with
    | [visible, hidden] => do
      return {
        visible := ← (Decoder.list Column.ofJson).required n visible
        hidden := ← (Decoder.list Column.ofJson).required n hidden }
    | _ => none

end Columns

end Corkboard.Grouping
