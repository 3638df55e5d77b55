-- SUMMARY: What a run tells its log, event by event.
import Corkboard.Command.Run

/-!
# Events

A run tells what it does while it does it: which files it has read, what it has noticed in them, and
that it fails. The events have an order, and what is not looked at is not told. Which of them are
written down, and how, is for the log.
-/

namespace Corkboard

open Property (Template Value)

/-- Something that a run tells. The board ids that differ and the missing template are warnings, and
    all else is detail. -/
inductive Event where
  /-- The text of a file has been read. The size is in bytes. -/
  | fileRead (path : String) (size : Nat)
  /-- The two versions of a board have different ids. -/
  | idsDiffer (old new : String)
  /-- Other templates, or the same in another order. All of them go into the patch. -/
  | templatesMoved (count : Nat)
  | patchesMade (board : String) (isEmpty : Bool)
  /-- A text that should be a date is none. -/
  | dateUnread (text : String) (words : Option String)
  | cardsSelected (total selected : Nat)
  /-- A filter names a property that the board does not have. -/
  | templateMissing (property : String)
  /-- A list names a choice that the template does not have. -/
  | choiceMissing (choice : String)
  | commandFailed (cause : Failure)
  deriving DecidableEq, Repr

/-- What is told while a file is read. -/
def FileReader.told (read : FileReader) (path : String) : List Event :=
  match read path with
  | .ok text => [.fileRead path text.utf8ByteSize]
  | .error _ => []

/-- What is told while a record is read, and behind it, if there is one. -/
def FileReader.events {α : Type} (read : FileReader) (decode : Decoder α) (path : String)
    (next : α → List Event) : List Event :=
  read.told path ++
    match read.record decode path with
    | .ok a => next a
    | .error _ => []

-- ---------------------------------------------------------------------------
-- Work on what has been read
-- ---------------------------------------------------------------------------

/-- What is told while the patches between two versions are made. -/
def Edit.events (before after : Board) : List Event :=
  let moved := after.templates.map (·.id) ≠ before.templates.map (·.id)
  (if moved then [.templatesMoved after.templates.length] else []) ++
    [.patchesMade after.id (Patch.between before after).isEmpty]

namespace Filter

/-- What is told of the text of a date. -/
def dateEvents (words : ParserWords) (text : String) : List Event :=
  match DateSpan.read? text with
  | some _ => []
  | none => [.dateUnread text (words DateSpan DateSpan.ofJson text)]

/-- What is told while a card is held against a clause. A clause without values looks at the card
    as well. -/
def Clause.events (words : ParserWords) (templates : List Template) (card : Card) (c : Clause) :
    List Event :=
  let stored := Comparand.storedValue c.propertyId card
  ((Comparand.dateText? (c.kind? templates) stored card).map (dateEvents words)).getD []

mutual
/-- What is told while a card is held against a node. An `and` is decided by the first part that is
    not met, and an `or` by the first that is. -/
def Node.events (words : ParserWords) (templates : List Template) (card : Card) :
    Node → List Event
  | .clause c => c.events words templates card
  | .group .and nodes => Node.eventsUntil words templates card false nodes
  | .group .or nodes => Node.eventsUntil words templates card true nodes

/-- What is told of nodes up to the first with this verdict. -/
def Node.eventsUntil (words : ParserWords) (templates : List Template) (card : Card)
    (verdict : Bool) : List Node → List Event
  | [] => []
  | node :: rest =>
    node.events words templates card ++
      if node.isMet templates card = verdict then []
      else Node.eventsUntil words templates card verdict rest
end

/-- What is told while cards are selected. -/
def Group.selectionEvents (g : Group) (words : ParserWords) (templates : List Template)
    (cards : List Card) : List Event :=
  cards.flatMap (g.toNode.events words templates) ++
    [.cardsSelected cards.length (g.select templates cards).length]

/-- What is told while values are suggested. -/
def Group.suggestionEvents (g : Group) (templates : List Template) : List Event :=
  (g.suggestible.filter fun c => (Template.find? templates c.propertyId).isNone).map
    fun c => .templateMissing c.propertyId

end Filter

/-- What is told while columns are made. -/
def Grouping.events (template : Template) (visible hidden : List String) : List Event :=
  match headingOf? template with
  | some _ => []
  | none =>
    ((shownIds template visible hidden ++ hidden).filter fun id =>
      (columnOf? template [] id).isNone).map .choiceMissing

-- ---------------------------------------------------------------------------
-- Commands
-- ---------------------------------------------------------------------------

namespace Command

/-- What a command tells before it ends. -/
def progress (read : FileReader) : Command → List Event
  | diff old new =>
    read.events Board.ofJson old fun before =>
      read.events Board.ofJson new fun after =>
        (if before.id = after.id then [] else [.idsDiffer before.id after.id]) ++
          Edit.events before after
  | filter board cards criteria =>
    read.events Board.ofJson board fun board =>
      read.events (.list Card.ofJson) cards fun cards =>
        read.events Filter.Group.ofJson criteria fun group =>
          group.selectionEvents read.words board.templates cards
  | suggest board criteria =>
    read.events Board.ofJson board fun board =>
      read.events Filter.Group.ofJson criteria fun group => group.suggestionEvents board.templates
  | group board cards property visible hidden =>
    read.events Board.ofJson board fun board =>
      read.events (.list Card.ofJson) cards fun _ =>
        match board.findTemplate? property with
        | none => []
        | some template => Grouping.events template visible hidden

/-- All that a command tells. A failure comes last. -/
def events (read : FileReader) (command : Command) : List Event :=
  command.progress read ++
    match command.result read with
    | .ok _ => []
    | .error cause => [.commandFailed cause]

end Command
end Corkboard
