-- SUMMARY: The schema of a board: templates of card properties with their choices.
import Corkboard.Property.Kind

/-!
# Templates

A board has an ordered list of templates, one for each card property. A template of a select
kind lists the choices a card may take. The choices have an order for display, but two
templates with the same choices in another order say the same.
-/

namespace Corkboard.Property

-- ---------------------------------------------------------------------------
-- Choices
-- ---------------------------------------------------------------------------

/-- One choice of a select property. Cards store its `id`. -/
structure Choice where
  id : String
  label : String
  color : String
  deriving DecidableEq, Repr, Inhabited

namespace Choice

def fieldNames : List String := ["id", "value", "color"]

def toJson (c : Choice) : Json :=
  .ofFields fieldNames [some (.string c.id), some (.string c.label), some (.string c.color)]

def ofJson : Decoder Choice :=
  .record fieldNames fun n fields =>
    match fields with
    | [id, label, color] => do
      return {
        id := ← Decoder.string.required n id
        label := ← Decoder.string.required n label
        color := ← Decoder.string.orDefault "" n color }
    | _ => none

end Choice

-- ---------------------------------------------------------------------------
-- Templates
-- ---------------------------------------------------------------------------

/-- The schema of one card property. The `index` is a note on where the template stands in
    the list of its board. -/
structure Template where
  id : String
  name : String
  kind : Kind
  choices : List Choice
  index : Option Nat
  deriving DecidableEq, Repr, Inhabited

namespace Template

/-- The first choice with this id. -/
def findChoice? (t : Template) (id : String) : Option Choice :=
  t.choices.find? (·.id == id)

/-- The template with a note that it stands at `index`. -/
def withIndex (t : Template) (index : Nat) : Template :=
  { t with index := some index }

/-- Whether two templates say the same. Each choice of the first is looked up by its id in the
    second, so the order of the choices does not count. -/
def sameAs (a b : Template) : Bool :=
  a.id == b.id && a.name == b.name && a.kind == b.kind && a.index == b.index &&
    a.choices.length == b.choices.length &&
    a.choices.all fun c => b.findChoice? c.id == some c

/-- The first template with this id. -/
def find? (templates : List Template) (id : String) : Option Template :=
  List.find? (·.id == id) templates

def fieldNames : List String := ["id", "name", "type", "options", "index"]

def toJson (t : Template) : Json :=
  .ofFields fieldNames
    [some (.string t.id), some (.string t.name), some t.kind.toJson,
      some (.ofList Choice.toJson t.choices), t.index.map fun i => .integer i]

def ofJson : Decoder Template :=
  .record fieldNames fun n fields =>
    match fields with
    | [id, name, kind, choices, index] => do
      return {
        id := ← Decoder.string.required n id
        name := ← Decoder.string.required n name
        kind := ← Kind.ofJson.required n kind
        choices := ← (Decoder.list Choice.ofJson).orDefault [] n choices
        index := ← Decoder.nat64.optional n index }
    | _ => none

end Template
end Corkboard.Property
