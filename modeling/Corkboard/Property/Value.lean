-- SUMMARY: Stored values of card properties: a text or a list of texts.
import Corkboard.Json.Decoder

/-!
# Property values

A card stores one text for a property, or a list of texts for the kinds that take more than
one value. The empty text is the same as no value, but a list counts as a value even when it
is empty.
-/

namespace Corkboard.Property

/-- A stored value. -/
inductive Value where
  | text (s : String)
  | list (items : List String)
  deriving DecidableEq, Repr, Inhabited

namespace Value

/-- Whether the value counts as a value at all. -/
def isSet : Value → Bool
  | text s => !s.isEmpty
  | list _ => true

/-- The length in bytes of a text, and the number of items of a list. -/
def size : Value → Nat
  | text s => s.utf8ByteSize
  | list items => items.length

/-- Whether the value has size zero. -/
def isEmpty (v : Value) : Bool := v.size == 0

/-- The text, if the value is one. -/
def asText? : Value → Option String
  | text s => some s
  | list _ => none

/-- Whether `candidate` is the text or an item of the list. -/
def includes (v : Value) (candidate : String) : Bool :=
  match v with
  | text s => s == candidate
  | list items => items.contains candidate

/-- The items that are not empty. A text is a list of one item. -/
def entries : Value → List String
  | text s => [s].filter (!·.isEmpty)
  | list items => items.filter (!·.isEmpty)

/-- The value on one line: the items of a list with commas between them. -/
def display : Value → String
  | text s => s
  | list items => String.intercalate "," items

def toJson : Value → Json
  | text s => .string s
  | list items => .ofList .string items

def ofJson : Decoder Value
  | _, .string s => some (text s)
  | n, value => (Decoder.string.list n value).map list

end Value
end Corkboard.Property
