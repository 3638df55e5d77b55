-- SUMMARY: Patches: partial updates of a board.
import Corkboard.Board

/-!
# Patches

A patch says what to change in a board. A detail that it does not name stays as it is. For the
properties and the templates it lists what to update and what to delete.
-/

namespace Corkboard

open Property (Template Value)

/-- New values for some of the details of a board. -/
structure DetailChanges where
  teamId : Option String
  channelId : Option String
  createdBy : Option String
  modifiedBy : Option String
  access : Option Access
  minimumRole : Option Role
  title : Option String
  description : Option String
  icon : Option String
  showDescription : Option Bool
  isTemplate : Option Bool
  templateVersion : Option Int32
  createdAt : Option Int64
  updatedAt : Option Int64
  deletedAt : Option Int64
  deriving DecidableEq

/-- No change. -/
def DetailChanges.none : DetailChanges where
  teamId := .none
  channelId := .none
  createdBy := .none
  modifiedBy := .none
  access := .none
  minimumRole := .none
  title := .none
  description := .none
  icon := .none
  showDescription := .none
  isTemplate := .none
  templateVersion := .none
  createdAt := .none
  updatedAt := .none
  deletedAt := .none

/-- A partial update of a board. -/
structure Patch where
  details : DetailChanges
  updatedProperties : KeyMap Value
  deletedProperties : List String
  updatedTemplates : List Template
  deletedTemplates : List String
  deriving DecidableEq

namespace Patch

/-- The patch that changes nothing. -/
def empty : Patch := ⟨.none, .empty, [], [], []⟩

/-- Whether the patch names nothing at all. -/
def isEmpty (p : Patch) : Bool := decide (p = empty)

def fieldNames : List String :=
  ["teamId", "channelId", "createdBy", "modifiedBy", "type", "minimumRole", "title",
    "description", "icon", "showDescription", "isTemplate", "templateVersion", "createAt",
    "updateAt", "deleteAt", "updatedProperties", "deletedProperties", "updatedCardProperties",
    "deletedCardProperties"]

def toJson (p : Patch) : Json :=
  let d := p.details
  .ofFields fieldNames
    [d.teamId.map .string, d.channelId.map .string, d.createdBy.map .string,
      d.modifiedBy.map .string, d.access.map Access.toJson, d.minimumRole.map Role.toJson,
      d.title.map .string, d.description.map .string, d.icon.map .string,
      d.showDescription.map .bool, d.isTemplate.map .bool,
      d.templateVersion.map fun i => .integer i.toInt,
      d.createdAt.map fun i => .integer i.toInt, d.updatedAt.map fun i => .integer i.toInt,
      d.deletedAt.map fun i => .integer i.toInt,
      some (.ofKeyMap Value.toJson p.updatedProperties),
      some (.ofList .string p.deletedProperties),
      some (.ofList Template.toJson p.updatedTemplates),
      some (.ofList .string p.deletedTemplates)]

def ofJson : Decoder Patch :=
  .record fieldNames fun n fields =>
    match fields with
    | [teamId, channelId, createdBy, modifiedBy, access, minimumRole, title, description, icon,
        showDescription, isTemplate, templateVersion, createdAt, updatedAt, deletedAt,
        updatedProperties, deletedProperties, updatedTemplates, deletedTemplates] => do
      return {
        details := {
          teamId := ← Decoder.string.optional n teamId
          channelId := ← Decoder.string.optional n channelId
          createdBy := ← Decoder.string.optional n createdBy
          modifiedBy := ← Decoder.string.optional n modifiedBy
          access := ← Access.ofJson.optional n access
          minimumRole := ← Role.ofJson.optional n minimumRole
          title := ← Decoder.string.optional n title
          description := ← Decoder.string.optional n description
          icon := ← Decoder.string.optional n icon
          showDescription := ← Decoder.bool.optional n showDescription
          isTemplate := ← Decoder.bool.optional n isTemplate
          templateVersion := ← Decoder.int32.optional n templateVersion
          createdAt := ← Decoder.int64.optional n createdAt
          updatedAt := ← Decoder.int64.optional n updatedAt
          deletedAt := ← Decoder.int64.optional n deletedAt }
        updatedProperties :=
          ← (Decoder.keyMap Value.ofJson).orDefault .empty n updatedProperties
        deletedProperties := ← Decoder.string.list.orDefault [] n deletedProperties
        updatedTemplates := ← (Decoder.list Template.ofJson).orDefault [] n updatedTemplates
        deletedTemplates := ← Decoder.string.list.orDefault [] n deletedTemplates }
    | _ => none

end Patch
end Corkboard
