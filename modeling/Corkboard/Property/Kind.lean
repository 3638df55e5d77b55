-- SUMMARY: The kinds of card properties, and their names.
import Corkboard.Json.Decoder

/-!
# Kinds of properties

The kind of a property says what its values mean. A name that is not in the list is the kind
`unknown`, so that a board with a newer kind can still be read.
-/

namespace Corkboard.Property

/-- What the values of a property mean. -/
inductive Kind where
  | text
  | number
  | select
  | multiSelect
  | date
  | person
  | multiPerson
  | checkbox
  | url
  | email
  | phone
  | createdTime
  | createdBy
  | updatedTime
  | updatedBy
  | card
  | file
  | unknown
  deriving DecidableEq, Repr, Inhabited

namespace Kind

/-- The written name. -/
def name : Kind → String
  | text => "text"
  | number => "number"
  | select => "select"
  | multiSelect => "multiSelect"
  | date => "date"
  | person => "person"
  | multiPerson => "multiPerson"
  | checkbox => "checkbox"
  | url => "url"
  | email => "email"
  | phone => "phone"
  | createdTime => "createdTime"
  | createdBy => "createdBy"
  | updatedTime => "updatedTime"
  | updatedBy => "updatedBy"
  | card => "card"
  | file => "file"
  | unknown => "unknown"

/-- Every kind that has a name of its own. -/
def known : List Kind :=
  [text, number, select, multiSelect, date, person, multiPerson, checkbox, url, email, phone,
    createdTime, createdBy, updatedTime, updatedBy, card, file]

/-- The kind of a name. -/
def ofName (s : String) : Kind :=
  (known.find? (·.name == s)).getD unknown

@[simp] theorem ofName_name (k : Kind) : ofName k.name = k := by
  cases k <;> decide

/-- Whether the property stands for a time at which the card was made or changed. -/
def isTimestamp : Kind → Bool
  | createdTime | updatedTime => true
  | _ => false

def toJson (k : Kind) : Json := .string k.name

def ofJson : Decoder Kind := Decoder.named fun s => some (ofName s)

end Kind
end Corkboard.Property
