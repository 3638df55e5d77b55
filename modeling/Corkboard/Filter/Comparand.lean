-- SUMMARY: What a clause compares with: the value of a card under a property id, after the lookups that stand in for missing values.
import Corkboard.Card
import Corkboard.DateSpan
import Corkboard.LinkedCards
import Corkboard.Property.Template
import Corkboard.Text.Lowercase

/-!
# Comparands

A clause names a property by id. The id `title` stands for the title of the card, in lower
case. Every other id stands for the stored value, as it is.

Where no value is set, the four kinds that describe the card itself fall back to the card: who
made or changed it, and when. A date is read from the stored text, and links are read from
it for the kind `card`.
-/

namespace Corkboard.Filter

open Property (Kind Template Value)

/-- The property id that stands for the title. -/
def titleId : String := "title"

/-- The two sides of a stored value that conditions look at: the value itself, and what it
    means as a date or as links. -/
structure Comparand where
  value : Option Value
  date : Option DateSpan
  links : Option (List String)
  deriving DecidableEq

/-- The text of a value, which is empty for a list and for no value. -/
def textOf (value : Option Value) : String :=
  (value.bind Value.asText?).getD ""

/-- Whether there is a value that counts as one. -/
def isSet (value : Option Value) : Bool :=
  value.any Value.isSet

theorem isSet_text_iff {s : String} : isSet (some (.text s)) ↔ s ≠ "" := by
  simp [isSet, Value.isSet]

/-- The decimal text of a time. -/
def stampText (millis : Int64) : String :=
  String.ofList (Decimal.ofInt millis.toInt)

namespace Comparand

/-- The title or the stored value. -/
def storedValue (propertyId : String) (card : Card) : Option Value :=
  if propertyId = titleId then some (.text (Text.lowercase card.title))
  else card.property? propertyId

/-- The text of the card itself that stands in for a missing value. -/
def substitute? (kind : Option Kind) (card : Card) : Option String :=
  match kind with
  | some .createdBy => some card.createdBy
  | some .updatedBy => some card.modifiedBy
  | some .createdTime => some (stampText card.createdAt)
  | some .updatedTime => some (stampText card.updatedAt)
  | _ => none

/-- The value after the lookups on the card. -/
def valueOf (kind : Option Kind) (stored : Option Value) (card : Card) : Option Value :=
  if isSet stored then stored
  else
    match substitute? kind card with
    | some s => some (.text s)
    | none => stored

/-- Nothing stands in for a value that is set. -/
theorem valueOf_of_isSet {stored : Option Value} (hset : isSet stored) (kind : Option Kind)
    (card : Card) : valueOf kind stored card = stored := by
  rw [valueOf, if_pos hset]

/-- The text that is read as a date, for the kinds that have one. A timestamp has one only if no
    value is stored. -/
def dateText? (kind : Option Kind) (stored : Option Value) (card : Card) : Option String :=
  match kind with
  | some .date => some (textOf stored)
  | some .createdTime => if isSet stored then none else some (stampText card.createdAt)
  | some .updatedTime => if isSet stored then none else some (stampText card.updatedAt)
  | _ => none

/-- The date, for the kinds that have one. -/
def dateOf (kind : Option Kind) (stored : Option Value) (card : Card) : Option DateSpan :=
  (dateText? kind stored card).map .parse

theorem dateOf_of_isSet {kind : Option Kind} {stored : Option Value} (hset : isSet stored)
    (hkind : kind ≠ some .date) (card : Card) : dateOf kind stored card = none := by
  cases kind with
  | none => rfl
  | some kind => cases kind <;> simp_all [dateOf, dateText?]

/-- The ids of the linked cards, for the kind that has them. -/
def linksOf (kind : Option Kind) (value : Option Value) : Option (List String) :=
  if kind = some .card then some (LinkedCards.parse (textOf value)).cardIds else none

/-- What a clause on `propertyId` compares with, when the property is of this kind. -/
def ofCard (propertyId : String) (kind : Option Kind) (card : Card) : Comparand :=
  let stored := storedValue propertyId card
  let value := valueOf kind stored card
  ⟨value, dateOf kind stored card, linksOf kind value⟩

/-- Whether nothing is stored: no links for the kind that has links, and otherwise no value
    or one of size zero. -/
def isEmpty (c : Comparand) : Bool :=
  match c.links with
  | some ids => ids.isEmpty
  | none => c.value.all Value.isEmpty

/-- Whether one of the candidates is among the links, or is the value or an item of it. -/
def includesAny (c : Comparand) (candidates : List String) : Bool :=
  match c.links, c.value with
  | some ids, _ => candidates.any ids.contains
  | none, some value => candidates.any value.includes
  | none, none => false

/-- Whether the text satisfies a test, or any item of a list does. No value is the empty
    text. -/
def matchesText (c : Comparand) (test : String → Bool) : Bool :=
  match c.value with
  | some (.list items) => items.any test
  | some (.text s) => test s
  | none => test ""

end Comparand
end Corkboard.Filter
