-- SUMMARY: An editor over one board, with undo and redo.
import Corkboard.Patch.Diff

/-!
# Editing with undo

The editor keeps the current board and two stacks of edits. An edit is remembered as its two
patches. Undoing and redoing apply these patches to the board as it is now, and move the edit
from one stack to the other.
-/

namespace Corkboard

/-- The two patches of an edit. -/
structure Edit where
  update : Patch
  undo : Patch
  deriving DecidableEq

/-- The edit from one version of a board to another. -/
def Edit.between (before after : Board) : Edit :=
  ⟨.between before after, .between after before⟩

/-- The edit that changes only the templates. -/
def Edit.betweenTemplates (before after : List Property.Template) : Edit :=
  ⟨.betweenTemplates before after, .betweenTemplates after before⟩

def Edit.fieldNames : List String := ["update", "undo"]

def Edit.toJson (e : Edit) : Json :=
  .ofFields fieldNames [some e.update.toJson, some e.undo.toJson]

def Edit.ofJson : Decoder Edit :=
  .record fieldNames fun n fields =>
    match fields with
    | [update, undo] => do
      return { update := ← Patch.ofJson.required n update, undo := ← Patch.ofJson.required n undo }
    | _ => none

/-- A board under edit. The last edit of each stack stands in front. -/
structure Editor where
  board : Board
  undoStack : List Edit
  redoStack : List Edit

namespace Editor

/-- An editor that has just opened a board. -/
def start (board : Board) : Editor := ⟨board, [], []⟩

/-- Edits the board to look like `target`. What was undone before can no longer be redone. -/
def edit (e : Editor) (target : Board) : Editor :=
  let step := Edit.between e.board target
  ⟨step.update.applyTo e.board, step :: e.undoStack, []⟩

/-- Takes back the last edit, if there is one. -/
def undo? (e : Editor) : Option Editor :=
  match e.undoStack with
  | [] => none
  | step :: rest => some ⟨step.undo.applyTo e.board, rest, step :: e.redoStack⟩

/-- Makes the last edit again that was taken back, if there is one. -/
def redo? (e : Editor) : Option Editor :=
  match e.redoStack with
  | [] => none
  | step :: rest => some ⟨step.update.applyTo e.board, step :: e.undoStack, rest⟩

/-- Applies a patch from elsewhere. It is no edit of this editor, so the stacks stay. -/
def applyPatch (e : Editor) (patch : Patch) : Editor :=
  { e with board := patch.applyTo e.board }

end Editor
end Corkboard
