-- SUMMARY: Columns by the choices of a template, in an order that the caller gives.
import Corkboard.Grouping.Basic

/-!
# Columns by choice

For a property with choices the caller lists the choice ids to show, and those to hide. A choice
that is in neither list is shown after the listed ones. The empty id stands for the cards
without a value; if the caller does not place it, its column comes first. An id in a list that
names no choice has no column.
-/

namespace Corkboard.Grouping

open Property (Choice Template Value)

/-- The choice id that a card stores. A list is no choice, and neither is the empty text. -/
def choiceId? (template : Template) (card : Card) : Option String :=
  ((card.property? template.id).bind Value.asText?).filter (!·.isEmpty)

/-- Whether the card has no value, or one that names no choice of the template. -/
def isUnassigned (template : Template) (card : Card) : Bool :=
  (choiceId? template card).all fun id => (template.findChoice? id).isNone

/-- The column of a listed id, if it has one. -/
def columnOf? (template : Template) (cards : List Card) (id : String) : Option Column :=
  if id.isEmpty then some ⟨emptyHeading template, cards.filter (isUnassigned template)⟩
  else
    (template.findChoice? id).map fun choice =>
      ⟨choice, cards.filter fun card => choiceId? template card == some id⟩

/-- The choice ids of the template that are in neither list. -/
def unlisted (template : Template) (visible hidden : List String) : List String :=
  (template.choices.map (·.id)).filter fun id => !visible.contains id && !hidden.contains id

/-- All ids to show. The empty id is put in front if it has no place yet. -/
def shownIds (template : Template) (visible hidden : List String) : List String :=
  let shown := visible ++ unlisted template visible hidden
  if (shown ++ hidden).contains "" then shown else "" :: shown

/-- The columns of the listed choices. -/
def byChoice (template : Template) (visible hidden : List String) (cards : List Card) : Columns :=
  ⟨(shownIds template visible hidden).filterMap (columnOf? template cards),
    hidden.filterMap (columnOf? template cards)⟩

end Corkboard.Grouping
