-- SUMMARY: Links to cards of another board as cards store them, in the current and in the old format.
import Corkboard.Json.Decoder
import Corkboard.Text.Pieces

/-!
# Linked cards

A card may link to cards of another board. The current format is `board|card:title,card:title`
with any number of cards. The old format is `board:card:title` with exactly one card. Only the
current format is written.

Nothing is escaped. A text that fits neither format has a board and no cards.
-/

namespace Corkboard

/-- A link to one card. The title is a copy from the time of linking. -/
structure LinkedCard where
  id : String
  title : String
  deriving DecidableEq, Repr

/-- Links to cards of one board. -/
structure LinkedCards where
  boardId : String
  cards : List LinkedCard
  deriving DecidableEq, Repr

namespace LinkedCard

/-- The title of a link that was stored without one. -/
def untitled : String := "Untitled"

/-- Reads one entry of the current format. -/
def ofEntry (entry : List Char) : LinkedCard :=
  match Text.cutAt ':' entry with
  | some (id, []) => ⟨String.ofList id, untitled⟩
  | some (id, title) => ⟨String.ofList id, String.ofList title⟩
  | none => ⟨String.ofList entry, untitled⟩

/-- Writes one entry of the current format. -/
def entry (c : LinkedCard) : String := c.id ++ ":" ++ c.title

@[simp] theorem toList_entry (c : LinkedCard) :
    c.entry.toList = c.id.toList ++ ':' :: c.title.toList := by
  simp [entry]

def fieldNames : List String := ["id", "title"]

def toJson (c : LinkedCard) : Json :=
  .ofFields fieldNames [some (.string c.id), some (.string c.title)]

def ofJson : Decoder LinkedCard :=
  .record fieldNames fun n fields =>
    match fields with
    | [id, title] => do
      return { id := ← Decoder.string.required n id, title := ← Decoder.string.required n title }
    | _ => none

end LinkedCard

namespace LinkedCards

/-- No board and no cards. -/
def empty : LinkedCards := ⟨"", []⟩

/-- The cards of the current format, after the bar. Entries without an id are dropped. -/
def cardsOf (text : List Char) : List LinkedCard :=
  (((Text.pieces ',' text).filter (!·.isEmpty)).map LinkedCard.ofEntry).filter (!·.id.isEmpty)

/-- Reads the old format, which needs all three parts for its card. -/
def parseOld (text : List Char) : LinkedCards :=
  match Text.cutAt ':' text with
  | none => ⟨String.ofList text, []⟩
  | some (board, rest) =>
    match Text.cutAt ':' rest with
    | none => ⟨String.ofList board, []⟩
    | some (id, title) => ⟨String.ofList board, [⟨String.ofList id, String.ofList title⟩]⟩

/-- Reads a stored value. The bar tells the current format from the old one. -/
def parse (text : String) : LinkedCards :=
  match Text.cutAt '|' text.toList with
  | some (board, cards) => ⟨String.ofList board, cardsOf cards⟩
  | none => parseOld text.toList

/-- The text a card stores: nothing without a board. -/
def stored (l : LinkedCards) : String :=
  if l.boardId.isEmpty then ""
  else l.boardId ++ "|" ++ String.intercalate "," (l.cards.map LinkedCard.entry)

/-- The ids of the linked cards, in stored order. -/
def cardIds (l : LinkedCards) : List String := l.cards.map (·.id)

/-- Whether no card is linked. -/
def isEmpty (l : LinkedCards) : Bool := l.cards.isEmpty

@[simp] theorem parse_empty : parse "" = empty := by
  simp [parse, parseOld, Text.cutAt, empty]

theorem stored_of_no_board {l : LinkedCards} (h : l.boardId = "") : l.stored = "" := by
  simp [stored, h]

theorem toList_stored {l : LinkedCards} (h : l.boardId ≠ "") :
    l.stored.toList =
      l.boardId.toList ++ '|' ::
        List.intercalate [','] (l.cards.map fun c => c.entry.toList) := by
  simp [stored, h, String.toList_intercalate, Function.comp_def]

def fieldNames : List String := ["boardId", "selectedCards"]

def toJson (l : LinkedCards) : Json :=
  .ofFields fieldNames [some (.string l.boardId), some (.ofList LinkedCard.toJson l.cards)]

def ofJson : Decoder LinkedCards :=
  .record fieldNames fun n fields =>
    match fields with
    | [boardId, cards] => do
      return {
        boardId := ← Decoder.string.required n boardId
        cards := ← (Decoder.list LinkedCard.ofJson).required n cards }
    | _ => none

end LinkedCards
end Corkboard
