-- SUMMARY: The columns of a board by one of its templates.
import Corkboard.Grouping.ByChoice
import Corkboard.Grouping.ByValue

/-!
# The columns of a board

The kind of the template decides how columns are made: by the values that occur, or by the
choices of the template.
-/

namespace Corkboard.Grouping

open Property (Choice Template)

/-- How a card gives its heading, for the kinds whose columns follow the values. -/
def headingOf? (template : Template) : Option (Card → Choice) :=
  match template.kind with
  | .createdBy => some fun card => personHeading card.createdBy
  | .updatedBy => some fun card => personHeading card.modifiedBy
  | .person => some (storedPerson template)
  | .multiPerson => some (people template)
  | .card => some (links template)
  | .multiSelect => some (choices template)
  | _ => none

/-- The columns of the cards. Where columns follow the values, the list of visible ids has no
    effect. -/
def columns (template : Template) (visible hidden : List String) (cards : List Card) : Columns :=
  match headingOf? template with
  | some headingOf => byValue headingOf hidden cards
  | none => byChoice template visible hidden cards

end Corkboard.Grouping
