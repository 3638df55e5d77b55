-- SUMMARY: Columns by the values that occur: one column for each distinct value, in order of first occurrence.
import Corkboard.Grouping.Basic
import Corkboard.LinkedCards

/-!
# Columns by value

For people, for lists and for links nobody has listed the possible values. Each card gives the
heading of its column, and a column is made for each heading id when the first card with it
comes. A column is hidden if its id is listed as hidden.
-/

namespace Corkboard.Grouping

open Property (Choice Template Value)

-- ---------------------------------------------------------------------------
-- Collecting
-- ---------------------------------------------------------------------------

/-- Puts a card at the end of the column with the id of its heading, or makes a new last
    column. -/
def addCard (heading : Choice) (card : Card) : List Column → List Column
  | [] => [⟨heading, [card]⟩]
  | column :: rest =>
    if column.heading.id = heading.id then
      { column with cards := column.cards ++ [card] } :: rest
    else column :: addCard heading card rest

/-- The columns of the cards, in order of first occurrence. -/
def collect (headingOf : Card → Choice) (cards : List Card) : List Column :=
  cards.foldl (fun columns card => addCard (headingOf card) card columns) []

/-- The columns of the cards, parted by the list of hidden ids. -/
def byValue (headingOf : Card → Choice) (hidden : List String) (cards : List Card) : Columns :=
  let columns := collect headingOf cards
  ⟨columns.filter fun c => !hidden.contains c.heading.id,
    columns.filter fun c => hidden.contains c.heading.id⟩

-- ---------------------------------------------------------------------------
-- Headings
-- ---------------------------------------------------------------------------

/-- Drops each item that equals the item right after it. -/
def dropRepeated : List String → List String
  | a :: b :: rest => if a = b then dropRepeated (b :: rest) else a :: dropRepeated (b :: rest)
  | short => short

/-- The items of the stored value, in ascending order and without repetition. -/
def sortedEntries (template : Template) (card : Card) : List String :=
  let entries := ((card.property? template.id).map Value.entries).getD []
  dropRepeated (entries.mergeSort (· ≤ ·))

/-- The id of a person, which is also the label. The names of people are not known here. -/
def personHeading (id : String) : Choice := ⟨id, id, ""⟩

/-- The heading for a property with one person: the stored value on one line. -/
def storedPerson (template : Template) (card : Card) : Choice :=
  personHeading (((card.property? template.id).map Value.display).getD "")

/-- The heading for a property with several people. -/
def people (template : Template) (card : Card) : Choice :=
  match sortedEntries template card with
  | [] => emptyHeading template
  | entries => personHeading (String.intercalate "," entries)

/-- The heading for links. The id has the links in ascending order of their ids, and the label
    has the titles in that order. -/
def links (template : Template) (card : Card) : Choice :=
  let text := ((card.property? template.id).bind Value.asText?).getD ""
  match (LinkedCards.parse text).cards.mergeSort fun a b => a.id ≤ b.id with
  | [] => emptyHeading template
  | cards =>
    ⟨String.intercalate "," (cards.map LinkedCard.entry),
      String.intercalate ", " (cards.map (·.title)), ""⟩

/-- The heading for several choices: their labels, and the color of the first one that the
    template still has. A choice that it no longer has is shown by its id. -/
def choices (template : Template) (card : Card) : Choice :=
  match sortedEntries template card with
  | [] => emptyHeading template
  | entries =>
    let found := entries.map template.findChoice?
    ⟨String.intercalate "," entries,
      String.intercalate ", " (entries.map fun id =>
        ((template.findChoice? id).map (·.label)).getD id),
      ((found.findSome? id).map (·.color)).getD ""⟩

end Corkboard.Grouping
