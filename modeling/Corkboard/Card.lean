-- SUMMARY: Cards and the values they store for the templates of their board.
import Corkboard.Property.Value

/-!
# Cards

A card belongs to a board and stores a value for some of the board's templates, under the
template's id. In the written form these values stand one level down, under `fields`.
-/

namespace Corkboard

open Property (Value)

/-- A card. Times are in milliseconds since 1970, and zero is no time. -/
structure Card where
  id : String
  boardId : String
  title : String
  createdBy : String
  modifiedBy : String
  createdAt : Int64
  updatedAt : Int64
  properties : KeyMap Value
  deriving DecidableEq

namespace Card

/-- A new card with this id and time of creation. -/
def new (id boardId title : String) (now : Int64) : Card where
  id := id
  boardId := boardId
  title := title
  createdBy := ""
  modifiedBy := ""
  createdAt := now
  updatedAt := now
  properties := .empty

/-- The stored value for a template. -/
def property? (c : Card) (templateId : String) : Option Value :=
  c.properties.get? templateId

/-- The card with a value stored for a template. -/
def setProperty (c : Card) (templateId : String) (value : Value) : Card :=
  { c with properties := c.properties.insert templateId value }

@[simp] theorem property?_setProperty (c : Card) (templateId id : String) (value : Value) :
    (c.setProperty templateId value).property? id =
      if id = templateId then some value else c.property? id := by
  simp [property?, setProperty]

-- ---------------------------------------------------------------------------
-- Written form
-- ---------------------------------------------------------------------------

/-- The name of the only entry under `fields`. -/
def storedNames : List String := ["properties"]

/-- The values of a card, one level down. -/
def storedToJson (properties : KeyMap Value) : Json :=
  .ofFields storedNames [some (.ofKeyMap Value.toJson properties)]

def storedOfJson : Decoder (KeyMap Value) :=
  .record storedNames fun n fields =>
    match fields with
    | [properties] => (Decoder.keyMap Value.ofJson).orDefault .empty n properties
    | _ => none

def fieldNames : List String :=
  ["id", "boardId", "title", "createdBy", "modifiedBy", "createAt", "updateAt", "fields"]

def toJson (c : Card) : Json :=
  .ofFields fieldNames
    [some (.string c.id), some (.string c.boardId), some (.string c.title),
      some (.string c.createdBy), some (.string c.modifiedBy), some (.integer c.createdAt.toInt),
      some (.integer c.updatedAt.toInt), some (storedToJson c.properties)]

def ofJson : Decoder Card :=
  .record fieldNames fun n fields =>
    match fields with
    | [id, boardId, title, createdBy, modifiedBy, createdAt, updatedAt, stored] => do
      return {
        id := ← Decoder.string.required n id
        boardId := ← Decoder.string.orDefault "" n boardId
        title := ← Decoder.string.orDefault "" n title
        createdBy := ← Decoder.string.orDefault "" n createdBy
        modifiedBy := ← Decoder.string.orDefault "" n modifiedBy
        createdAt := ← Decoder.int64.orDefault 0 n createdAt
        updatedAt := ← Decoder.int64.orDefault 0 n updatedAt
        properties := ← storedOfJson.orDefault .empty n stored }
    | _ => none

end Card
end Corkboard
