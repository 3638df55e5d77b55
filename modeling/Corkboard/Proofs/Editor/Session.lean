-- SUMMARY: Undoing and redoing over whole sessions: each undo gives back the board from before its edit, and each redo the board from after it.
import Corkboard.Proofs.Patch.Content

/-!
# Sessions

A session is a run of an editor together with a record of each edit: the board before it and the
board after it. The editor itself does not keep these boards. It keeps patches, and applies them
to boards that carry other notes of positions than the ones the patches were made for.
-/

namespace Corkboard

open Property (Template)

namespace Editor

/-! ## Runs of an editor -/

/-- What the user of an editor can do. -/
inductive Action where
  | edit (target : Board)
  | undo
  | redo

/-- One action. Without an edit to take back or to make again, nothing happens. -/
def act (e : Editor) : Action → Editor
  | .edit target => e.edit target
  | .undo => e.undo?.getD e
  | .redo => e.redo?.getD e

/-- The actions one after the other. -/
def run (e : Editor) (actions : List Action) : Editor := actions.foldl act e

end Editor

/-! ## Sessions -/

/-- One edit with the boards before and after it. -/
structure Episode where
  edit : Edit
  before : Board
  after : Board

/-- An editor with the episodes that can be undone, and the ones that can be redone. The last one
    of each stands in front. -/
structure Session where
  editor : Editor
  done : List Episode
  undone : List Episode

namespace Session

open Editor (Action)

/-- A session that has just begun. -/
def start (board : Board) : Session := ⟨.start board, [], []⟩

/-- One action of the editor. An edit is recorded with the boards before and after it, and an
    undo or a redo moves the record. -/
def act (s : Session) (action : Action) : Session :=
  let editor := s.editor.act action
  match action, s.done, s.undone with
  | .edit target, done, _ =>
    ⟨editor, ⟨.between s.editor.board target, s.editor.board, editor.board⟩ :: done, []⟩
  | .undo, episode :: done, undone => ⟨editor, done, episode :: undone⟩
  | .redo, done, episode :: undone => ⟨editor, episode :: done, undone⟩
  | _, done, undone => ⟨editor, done, undone⟩

/-- The actions one after the other. -/
def run (s : Session) (actions : List Action) : Session := actions.foldl act s

theorem editor_act (s : Session) (action : Action) :
    (s.act action).editor = s.editor.act action := by
  unfold act
  split <;> rfl

/-- The records have no influence on the editor. -/
theorem editor_run (s : Session) (actions : List Action) :
    (s.run actions).editor = s.editor.run actions := by
  induction actions generalizing s with
  | nil => rfl
  | cons action actions ih =>
    rw [run, List.foldl_cons, ← run, ih, editor_act]
    rfl

end Session

/-! ## What holds in a session -/

/-- The two patches of an episode lead from each of its boards to the other. -/
structure Episode.Reversible (e : Episode) : Prop where
  distinct_before : e.before.Distinct
  distinct_after : e.after.Distinct
  update : (e.edit.update.applyTo e.before).content = e.after.content
  undo : (e.edit.undo.applyTo e.after).content = e.before.content

theorem Episode.reversible_between {board target : Board} (hboard : board.Distinct)
    (htarget : target.Distinct) :
    Episode.Reversible
      ⟨.between board target, board, (Edit.between board target).update.applyTo board⟩ where
  distinct_before := hboard
  distinct_after := Patch.distinct_applyTo_between hboard htarget
  update := rfl
  undo := Patch.content_undo_update hboard htarget

/-- The episodes lead on from a board one after the other. Each is entered at one of its boards
    and left at the other. -/
def Leads (enter leave : Episode → Board) (board : Board) : List Episode → Prop
  | [] => True
  | e :: rest => e.Reversible ∧ board.content = (enter e).content ∧ Leads enter leave (leave e) rest

/-- Where the episodes lead depends only on the content of the board. -/
theorem Leads.of_content_eq {enter leave : Episode → Board} {b c : Board}
    {episodes : List Episode} (hb : Leads enter leave b episodes) (h : b.content = c.content) :
    Leads enter leave c episodes := by
  cases episodes with
  | nil => trivial
  | cons e rest =>
    obtain ⟨he, henter, hrest⟩ := hb
    exact ⟨he, h.symm.trans henter, hrest⟩

namespace Session

open Editor (Action)

/-- The records belong to the stacks of the editor. From its board the ones to be undone lead
    back, and the ones to be redone lead on. -/
structure Consistent (s : Session) : Prop where
  distinct : s.editor.board.Distinct
  undoStack : s.editor.undoStack = s.done.map (·.edit)
  redoStack : s.editor.redoStack = s.undone.map (·.edit)
  back : Leads (·.after) (·.before) s.editor.board s.done
  on : Leads (·.before) (·.after) s.editor.board s.undone

theorem consistent_start {board : Board} (h : board.Distinct) : (start board).Consistent :=
  ⟨h, rfl, rfl, trivial, trivial⟩

namespace Consistent

variable {s : Session} (h : s.Consistent)
include h

/-- Undoing the last episode gives the board from before it. -/
theorem undo_eq {e : Episode} {rest : List Episode} (hdone : s.done = e :: rest) :
    ∃ board, s.editor.undo? = some ⟨board, rest.map (·.edit), e.edit :: s.editor.redoStack⟩ ∧
      board.content = e.before.content := by
  have hstack := h.undoStack
  have hback := h.back
  rw [hdone] at hstack hback
  obtain ⟨he, hafter, -⟩ := hback
  refine ⟨e.edit.undo.applyTo s.editor.board, ?_, ?_⟩
  · rw [Editor.undo?, hstack]
    rfl
  · exact (Patch.content_applyTo _ hafter).trans he.undo

/-- Redoing the last episode that was undone gives the board from after it. -/
theorem redo_eq {e : Episode} {rest : List Episode} (hundone : s.undone = e :: rest) :
    ∃ board, s.editor.redo? = some ⟨board, e.edit :: s.editor.undoStack, rest.map (·.edit)⟩ ∧
      board.content = e.after.content := by
  have hstack := h.redoStack
  have hon := h.on
  rw [hundone] at hstack hon
  obtain ⟨he, hbefore, -⟩ := hon
  refine ⟨e.edit.update.applyTo s.editor.board, ?_, ?_⟩
  · rw [Editor.redo?, hstack]
    rfl
  · exact (Patch.content_applyTo _ hbefore).trans he.update

theorem act_edit {target : Board} (htarget : target.Distinct) :
    (s.act (.edit target)).Consistent where
  distinct := Patch.distinct_applyTo_between h.distinct htarget
  undoStack := congrArg _ h.undoStack
  redoStack := rfl
  back := ⟨Episode.reversible_between h.distinct htarget, rfl, h.back⟩
  on := trivial

theorem act_undo : (s.act .undo).Consistent := by
  obtain ⟨editor, done, undone⟩ := s
  cases done with
  | nil =>
    have hnone : editor.undo? = none := by
      rw [Editor.undo?, h.undoStack]
      rfl
    have hact : act ⟨editor, [], undone⟩ .undo = ⟨editor, [], undone⟩ := by
      simp [act, Editor.act, hnone]
    rw [hact]
    exact h
  | cons e rest =>
    obtain ⟨board, hundo, hboard⟩ := h.undo_eq rfl
    have hact : act ⟨editor, e :: rest, undone⟩ .undo =
        ⟨⟨board, rest.map (·.edit), e.edit :: editor.redoStack⟩, rest, e :: undone⟩ := by
      simp [act, Editor.act, hundo]
    obtain ⟨he, hafter, hrest⟩ := h.back
    rw [hact]
    exact {
      distinct := he.distinct_before.of_content_eq hboard.symm
      undoStack := rfl
      redoStack := congrArg _ h.redoStack
      back := hrest.of_content_eq hboard.symm
      on := ⟨he, hboard, h.on.of_content_eq hafter⟩ }

theorem act_redo : (s.act .redo).Consistent := by
  obtain ⟨editor, done, undone⟩ := s
  cases undone with
  | nil =>
    have hnone : editor.redo? = none := by
      rw [Editor.redo?, h.redoStack]
      rfl
    have hact : act ⟨editor, done, []⟩ .redo = ⟨editor, done, []⟩ := by
      simp [act, Editor.act, hnone]
    rw [hact]
    exact h
  | cons e rest =>
    obtain ⟨board, hredo, hboard⟩ := h.redo_eq rfl
    have hact : act ⟨editor, done, e :: rest⟩ .redo =
        ⟨⟨board, e.edit :: editor.undoStack, rest.map (·.edit)⟩, e :: done, rest⟩ := by
      simp [act, Editor.act, hredo]
    obtain ⟨he, hbefore, hrest⟩ := h.on
    rw [hact]
    exact {
      distinct := he.distinct_after.of_content_eq hboard.symm
      undoStack := congrArg _ h.undoStack
      redoStack := rfl
      back := ⟨he, hboard, h.back.of_content_eq hbefore⟩
      on := hrest.of_content_eq hboard.symm }

theorem run {actions : List Action}
    (htargets : ∀ target, .edit target ∈ actions → target.Distinct) :
    (s.run actions).Consistent := by
  induction actions generalizing s with
  | nil => exact h
  | cons action actions ih =>
    have hact : (s.act action).Consistent := by
      cases action with
      | edit target => exact h.act_edit (htargets target (by simp))
      | undo => exact h.act_undo
      | redo => exact h.act_redo
    exact ih hact fun target htarget => htargets target (by simp [htarget])

end Consistent

/-- In every session the stacks of the editor hold the recorded edits. Undoing the last of them
    gives the content that the board had before this edit, and redoing gives the content that it
    had after it. -/
theorem undo_redo_restore_boards (board : Board) (actions : List Action)
    (hboard : board.Distinct)
    (htargets : ∀ target, .edit target ∈ actions → target.Distinct) :
    let s := (Session.start board).run actions
    s.editor = (Editor.start board).run actions ∧
      s.editor.undoStack = s.done.map (·.edit) ∧ s.editor.redoStack = s.undone.map (·.edit) ∧
      (∀ e rest, s.done = e :: rest → ∃ editor, s.editor.undo? = some editor ∧
        editor.board.content = e.before.content) ∧
      ∀ e rest, s.undone = e :: rest → ∃ editor, s.editor.redo? = some editor ∧
        editor.board.content = e.after.content := by
  intro s
  have h : s.Consistent := (consistent_start hboard).run htargets
  refine ⟨editor_run _ actions, h.undoStack, h.redoStack, fun e rest hdone => ?_,
    fun e rest hundone => ?_⟩
  · obtain ⟨b, hundo, hb⟩ := h.undo_eq hdone
    exact ⟨_, hundo, hb⟩
  · obtain ⟨b, hredo, hb⟩ := h.redo_eq hundone
    exact ⟨_, hredo, hb⟩

/-- Two templates change places, and one of them gets its choices in another order. After an undo
    and a redo the edit can be undone once more. -/
theorem undo_restores_swapped :
    let choice (id : String) : Property.Choice := ⟨id, id, ""⟩
    let status (ids : List String) : Template := ⟨"status", "Status", .select, ids.map choice, none⟩
    let owner : Template := ⟨"owner", "Owner", .person, [], none⟩
    let board := Board.new "b" "Board" 0 [status ["open", "closed"], owner]
    let target := Board.new "b" "Board" 0 [owner, status ["closed", "open"]]
    board.Distinct ∧ target.Distinct ∧
      ∃ editor, ((Editor.start board).run [.edit target, .undo, .redo]).undo? = some editor ∧
        editor.board.content = board.content := by
  intro choice status owner board target
  have hboard : board.Distinct := ⟨by decide, by decide⟩
  have htarget : target.Distinct := ⟨by decide, by decide⟩
  have htargets : ∀ b, .edit b ∈ [.edit target, .undo, Action.redo] → b.Distinct := by
    intro b hb
    obtain rfl : b = target := by simpa using hb
    exact htarget
  obtain ⟨heditor, -, -, hundo, -⟩ := undo_redo_restore_boards board _ hboard htargets
  refine ⟨hboard, htarget, ?_⟩
  rw [← heditor]
  exact hundo _ _ rfl

end Session
end Corkboard
