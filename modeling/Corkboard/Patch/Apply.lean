-- SUMMARY: Applying a patch to a board.
import Corkboard.Patch.Basic

/-!
# Applying patches

Details are replaced one by one. Deletions come before updates, so what is both deleted and
updated is there afterwards. An updated template takes the place of the template with its id,
or comes last. After that the updated templates with an index are moved to it, in ascending
order of the indices. This keeps most of the earlier moves undisturbed by later ones, but not all
of them.
-/

namespace Corkboard

open Property (Template)

/-- The details with the new values. -/
def DetailChanges.applyTo (c : DetailChanges) (d : Details) : Details where
  teamId := c.teamId.getD d.teamId
  channelId := c.channelId.getD d.channelId
  createdBy := c.createdBy.getD d.createdBy
  modifiedBy := c.modifiedBy.getD d.modifiedBy
  access := c.access.getD d.access
  minimumRole := c.minimumRole.getD d.minimumRole
  title := c.title.getD d.title
  description := c.description.getD d.description
  icon := c.icon.getD d.icon
  showDescription := c.showDescription.getD d.showDescription
  isTemplate := c.isTemplate.getD d.isTemplate
  templateVersion := c.templateVersion.getD d.templateVersion
  createdAt := c.createdAt.getD d.createdAt
  updatedAt := c.updatedAt.getD d.updatedAt
  deletedAt := c.deletedAt.getD d.deletedAt

namespace Patch

/-- Puts a template in the place of the first one with its id, or at the end. -/
def putTemplate (templates : List Template) (t : Template) : List Template :=
  match templates with
  | [] => [t]
  | u :: rest => if u.id = t.id then t :: rest else u :: putTemplate rest t

/-- Moves the first template with this id to a position, or to the end if the list is
    shorter. -/
def moveTemplate (templates : List Template) (id : String) (position : Nat) : List Template :=
  match templates.find? (·.id == id) with
  | none => templates
  | some t =>
    let rest := templates.eraseP (·.id == id)
    rest.insertIdx (min position rest.length) t

/-- The positions that updated templates ask for, in ascending order. Templates that ask for
    the same position keep their order. -/
def placements (updated : List Template) : List (Nat × String) :=
  (updated.filterMap fun t => t.index.map (·, t.id)).mergeSort fun a b => a.1 ≤ b.1

/-- The templates after the deletions, the updates and the moves. -/
def editTemplates (updated : List Template) (deleted : List String) (templates : List Template) :
    List Template :=
  let kept := templates.filter fun t => !deleted.contains t.id
  let merged := updated.foldl putTemplate kept
  (placements updated).foldl (fun ts (position, id) => moveTemplate ts id position) merged

/-- The board after the patch. Its id stays. -/
def applyTo (p : Patch) (b : Board) : Board where
  id := b.id
  details := p.details.applyTo b.details
  properties := (b.properties.eraseAll p.deletedProperties).insertAll p.updatedProperties.entries
  templates := editTemplates p.updatedTemplates p.deletedTemplates b.templates

end Patch
end Corkboard
