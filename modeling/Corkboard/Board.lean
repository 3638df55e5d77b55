-- SUMMARY: Boards: their details, their properties and the templates of their cards.
import Corkboard.Property.Template
import Corkboard.Property.Value

/-!
# Boards

A board has an id, a number of plain details, a map of properties of its own, and the ordered
list of templates that its cards share. The details are kept apart from the rest, because an
edit replaces a detail as a whole, whereas maps and templates are edited entry by entry.
-/

namespace Corkboard

open Property (Template Value)

-- ---------------------------------------------------------------------------
-- Access and roles
-- ---------------------------------------------------------------------------

/-- Who can see a board. -/
inductive Access where
  | everyone
  | members
  deriving DecidableEq, Repr, Inhabited

namespace Access

def name : Access → String
  | everyone => "O"
  | members => "P"

def ofName? (s : String) : Option Access :=
  [everyone, members].find? (·.name == s)

def toJson (a : Access) : Json := .string a.name

def ofJson : Decoder Access := Decoder.named ofName?

end Access

/-- What a member may do at least. `unset` leaves it to the server. -/
inductive Role where
  | viewer
  | commenter
  | editor
  | admin
  | unset
  deriving DecidableEq, Repr, Inhabited

namespace Role

def name : Role → String
  | viewer => "viewer"
  | commenter => "commenter"
  | editor => "editor"
  | admin => "admin"
  | unset => ""

def ofName? (s : String) : Option Role :=
  [viewer, commenter, editor, admin, unset].find? (·.name == s)

def toJson (r : Role) : Json := .string r.name

def ofJson : Decoder Role := Decoder.named ofName?

end Role

-- ---------------------------------------------------------------------------
-- Boards
-- ---------------------------------------------------------------------------

/-- The details of a board. Times are in milliseconds since 1970, and zero is no time. -/
structure Details where
  teamId : String
  channelId : String
  createdBy : String
  modifiedBy : String
  access : Access
  minimumRole : Role
  title : String
  description : String
  icon : String
  showDescription : Bool
  isTemplate : Bool
  templateVersion : Int32
  createdAt : Int64
  updatedAt : Int64
  deletedAt : Int64
  deriving DecidableEq

/-- The details of a board nobody has filled in. -/
def Details.blank : Details where
  teamId := ""
  channelId := ""
  createdBy := ""
  modifiedBy := ""
  access := .members
  minimumRole := .unset
  title := ""
  description := ""
  icon := ""
  showDescription := false
  isTemplate := false
  templateVersion := 0
  createdAt := 0
  updatedAt := 0
  deletedAt := 0

/-- A board. -/
structure Board where
  id : String
  details : Details
  properties : KeyMap Value
  templates : List Template
  deriving DecidableEq

namespace Board

/-- A new board with this id, title and time of creation. -/
def new (id title : String) (now : Int64) (templates : List Template) : Board where
  id := id
  details := { Details.blank with title := title, createdAt := now, updatedAt := now }
  properties := .empty
  templates := templates

/-- The template with this id. -/
def findTemplate? (b : Board) (id : String) : Option Template :=
  Template.find? b.templates id

def fieldNames : List String :=
  ["id", "teamId", "channelId", "createdBy", "modifiedBy", "type", "minimumRole", "title",
    "description", "icon", "showDescription", "isTemplate", "templateVersion", "properties",
    "cardProperties", "createAt", "updateAt", "deleteAt"]

def toJson (b : Board) : Json :=
  let d := b.details
  .ofFields fieldNames
    [some (.string b.id), some (.string d.teamId), some (.string d.channelId),
      some (.string d.createdBy), some (.string d.modifiedBy), some d.access.toJson,
      some d.minimumRole.toJson, some (.string d.title), some (.string d.description),
      some (.string d.icon), some (.bool d.showDescription), some (.bool d.isTemplate),
      some (.integer d.templateVersion.toInt), some (.ofKeyMap Value.toJson b.properties),
      some (.ofList Template.toJson b.templates), some (.integer d.createdAt.toInt),
      some (.integer d.updatedAt.toInt), some (.integer d.deletedAt.toInt)]

def ofJson : Decoder Board :=
  .record fieldNames fun n fields =>
    match fields with
    | [id, teamId, channelId, createdBy, modifiedBy, access, minimumRole, title, description,
        icon, showDescription, isTemplate, templateVersion, properties, templates, createdAt,
        updatedAt, deletedAt] => do
      return {
        id := ← Decoder.string.required n id
        details := {
          teamId := ← Decoder.string.orDefault "" n teamId
          channelId := ← Decoder.string.orDefault "" n channelId
          createdBy := ← Decoder.string.orDefault "" n createdBy
          modifiedBy := ← Decoder.string.orDefault "" n modifiedBy
          access := ← Access.ofJson.orDefault .members n access
          minimumRole := ← Role.ofJson.orDefault .unset n minimumRole
          title := ← Decoder.string.orDefault "" n title
          description := ← Decoder.string.orDefault "" n description
          icon := ← Decoder.string.orDefault "" n icon
          showDescription := ← Decoder.bool.orDefault false n showDescription
          isTemplate := ← Decoder.bool.orDefault false n isTemplate
          templateVersion := ← Decoder.int32.orDefault 0 n templateVersion
          createdAt := ← Decoder.int64.orDefault 0 n createdAt
          updatedAt := ← Decoder.int64.orDefault 0 n updatedAt
          deletedAt := ← Decoder.int64.orDefault 0 n deletedAt }
        properties := ← (Decoder.keyMap Value.ofJson).orDefault .empty n properties
        templates := ← (Decoder.list Template.ofJson).orDefault [] n templates }
    | _ => none

end Board
end Corkboard
