-- SUMMARY: The patches between two versions of a board, forward and back.
import Corkboard.Patch.Apply

/-!
# Differences

For an edit of a board there are two patches: one that leads to the new version, and one that
leads back. Each carries no more than it needs. The templates are an exception: if the
sequence of their ids changes in any way, all of them are carried with their positions.
-/

namespace Corkboard

open Property (Template Value)

/-- The new value, if it is another one. -/
def changed? {α : Type} [DecidableEq α] (before after : α) : Option α :=
  if before = after then none else some after

/-- The details that differ, with their new values. -/
def DetailChanges.between (before after : Details) : DetailChanges where
  teamId := changed? before.teamId after.teamId
  channelId := changed? before.channelId after.channelId
  createdBy := changed? before.createdBy after.createdBy
  modifiedBy := changed? before.modifiedBy after.modifiedBy
  access := changed? before.access after.access
  minimumRole := changed? before.minimumRole after.minimumRole
  title := changed? before.title after.title
  description := changed? before.description after.description
  icon := changed? before.icon after.icon
  showDescription := changed? before.showDescription after.showDescription
  isTemplate := changed? before.isTemplate after.isTemplate
  templateVersion := changed? before.templateVersion after.templateVersion
  createdAt := changed? before.createdAt after.createdAt
  updatedAt := changed? before.updatedAt after.updatedAt
  deletedAt := changed? before.deletedAt after.deletedAt

namespace Patch

/-- The keys that only the first map has, in ascending order. -/
def missingKeys (before after : KeyMap Value) : List String :=
  before.keys.filter fun key => !after.contains key

/-- The entries of the second map that the first map does not have. -/
def changedEntries (before after : KeyMap Value) : KeyMap Value :=
  after.filter fun key value => before.get? key != some value

/-- The ids that only the first list has, in its order. -/
def missingIds (before after : List Template) : List String :=
  (before.map (·.id)).filter fun id => !(after.map (·.id)).contains id

/-- The templates with a note of their positions, the first one at `position`. -/
def indexed (position : Nat) : List Template → List Template
  | [] => []
  | t :: rest => t.withIndex position :: indexed (position + 1) rest

/-- The templates of `after` that `before` does not have or has otherwise, with a note of their
    positions, the first one at `position`. -/
def changedTemplates (before : List Template) (position : Nat) : List Template → List Template
  | [] => []
  | t :: rest =>
    let more := changedTemplates before (position + 1) rest
    if (Template.find? before t.id).any t.sameAs then more else t.withIndex position :: more

/-- The templates that a patch from `before` to `after` carries. -/
def templateUpdates (before after : List Template) : List Template :=
  if after.map (·.id) = before.map (·.id) then changedTemplates before 0 after
  else indexed 0 after

/-- The patch that changes only templates. -/
def betweenTemplates (before after : List Template) : Patch :=
  { empty with
    updatedTemplates := templateUpdates before after
    deletedTemplates := missingIds before after }

/-- The patch from one version of a board to another. -/
def between (before after : Board) : Patch where
  details := .between before.details after.details
  updatedProperties := changedEntries before.properties after.properties
  deletedProperties := missingKeys before.properties after.properties
  updatedTemplates := templateUpdates before.templates after.templates
  deletedTemplates := missingIds before.templates after.templates

end Patch
end Corkboard
