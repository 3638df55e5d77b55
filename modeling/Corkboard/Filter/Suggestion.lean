-- SUMMARY: Property values that make a new card meet a filter.
import Corkboard.Board
import Corkboard.Filter.Verdict

/-!
# Suggestions

A card that is made while a filter is active should not vanish at once. For each clause of the
filter a value is suggested, where the clause tells one. Groups inside the filter are not
considered. A filter that needs only one of its parts is served by its first clause.
-/

namespace Corkboard.Filter

open Property (Template Value)

/-- A value that satisfies the clause. Only a property of the board can be set, and who made or
    changed the card cannot be chosen. -/
def Clause.suggestion? (c : Clause) (templates : List Template) : Option String :=
  match Template.find? templates c.propertyId with
  | none => none
  | some t =>
    match t.kind, c.condition with
    | .createdBy, _ => none
    | .updatedBy, _ => none
    | _, .includes => c.values.head?
    | .select, .isNotEmpty => t.choices.head?.map (·.id)
    | _, _ => none

/-- The clauses for which a value is suggested. -/
def Group.suggestible (g : Group) : List Clause :=
  match g.operation with
  | .and => g.clauses
  | .or => g.clauses.take 1

/-- The suggested values by property. A later clause overrides an earlier one, and an empty
    value is no suggestion. -/
def Group.suggestions (g : Group) (templates : List Template) : KeyMap String :=
  .ofList <| g.suggestible.filterMap fun c =>
    ((c.suggestion? templates).filter (!·.isEmpty)).map (c.propertyId, ·)

/-- A new card on the board with the suggested values. Without a filter it has none. -/
def suggestedCard (board : Board) (filter : Option Group) (id title : String) (now : Int64) :
    Card :=
  let values := (filter.map (·.suggestions board.templates)).getD .empty
  values.entries.foldl (fun card e => card.setProperty e.1 (.text e.2))
    (Card.new id board.id title now)

end Corkboard.Filter
