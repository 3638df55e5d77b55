-- SUMMARY: In every run of an editor the template ids stay distinct, and a template that notes a position stands there.
import Corkboard.Proofs.Editor.Session

/-!
# Notes of positions

A patch leaves notes of positions on the templates that it sends. Templates move on, go and come
back with later patches, and an undo or a redo applies a patch that was made long ago. No note gets
stale all the same: the patches on both stacks fit the order of ids in which they will find the
board, and a patch that finds this order notes every position right.

The choices of a template have no part in this, so they need not be distinct here.
-/

namespace Corkboard

open Property (Template)

/-- The ids of the templates are distinct, and every note of a position is right. -/
structure Board.WellNoted (b : Board) : Prop where
  ids : (b.templates.map (·.id)).Nodup
  notes : ∀ (i : Nat) (t : Template), b.templates[i]? = some t →
    t.index = none ∨ t.index = some i

/-! ## One patch -/

namespace Patch

theorem index_of_getElem?_indexed {ts : List Template} {i : Nat} {t : Template}
    (ht : (indexed 0 ts)[i]? = some t) : t.index = some i := by
  rw [indexed_eq_mapIdx, List.getElem?_mapIdx, Option.map_eq_some_iff] at ht
  obtain ⟨u, -, rfl⟩ := ht
  simp [Template.withIndex]

/-- A patch between two versions notes the right positions on a board with the ids of the first
    one. What it does not send stays where it stands. -/
theorem index_of_getElem?_editTemplates {before after ts : List Template}
    (hbefore : (before.map (·.id)).Nodup) (hafter : (after.map (·.id)).Nodup)
    (hids : ts.map (·.id) = before.map (·.id))
    (hnotes : ∀ (i : Nat) (t : Template), ts[i]? = some t → t.index = none ∨ t.index = some i)
    {i : Nat} {t : Template}
    (ht : (editTemplates (templateUpdates before after) (missingIds before after) ts)[i]? =
      some t) : t.index = none ∨ t.index = some i := by
  by_cases heq : after.map (·.id) = before.map (·.id)
  · have hsame : ts.map (·.id) = after.map (·.id) := hids.trans heq.symm
    have hts : (ts.map (·.id)).Nodup := hids ▸ hbefore
    rw [editTemplates_of_ids_eq ts heq] at ht
    obtain ⟨u, hu, -⟩ :=
      Template.getElem?_of_ids_eq (ids_editTemplates_changed before hsame hts).symm ht
    obtain ⟨s, hs, -⟩ := Template.getElem?_of_ids_eq hsame.symm hu
    rw [getElem?_editTemplates_changed before hsame hts hs hu, Option.some_inj] at ht
    split at ht
    case isTrue => exact ht ▸ hnotes i u hu
    case isFalse =>
      subst ht
      exact .inr rfl
  · rw [editTemplates_of_ids_ne hafter hbefore hids heq] at ht
    exact .inr (index_of_getElem?_indexed ht)

theorem wellNoted_applyTo_between {before after b : Board}
    (hbefore : (before.templates.map (·.id)).Nodup)
    (hafter : (after.templates.map (·.id)).Nodup) (hb : b.WellNoted)
    (hids : b.templates.map (·.id) = before.templates.map (·.id)) :
    ((Patch.between before after).applyTo b).WellNoted ∧
      ((Patch.between before after).applyTo b).templates.map (·.id) =
        after.templates.map (·.id) := by
  have hreached : ((Patch.between before after).applyTo b).templates.map (·.id) =
      after.templates.map (·.id) := ids_editTemplates_between hbefore hafter hids
  refine ⟨⟨hreached ▸ hafter, fun i t ht => ?_⟩, hreached⟩
  exact index_of_getElem?_editTemplates hbefore hafter hids hb.notes ht

end Patch

/-! ## Edits and stacks -/

/-- The edit was made from a board with the ids `source` to one with the ids `target`. -/
inductive Edit.Links : Edit → List String → List String → Prop where
  | between {before after : Board} (hbefore : (before.templates.map (·.id)).Nodup)
      (hafter : (after.templates.map (·.id)).Nodup) :
      Links (.between before after) (before.templates.map (·.id)) (after.templates.map (·.id))

namespace Edit.Links

variable {e : Edit} {source target : List String} {b : Board}

theorem update (h : e.Links source target) (hb : b.WellNoted)
    (hids : b.templates.map (·.id) = source) :
    (e.update.applyTo b).WellNoted ∧ (e.update.applyTo b).templates.map (·.id) = target := by
  cases h with
  | between hbefore hafter => exact Patch.wellNoted_applyTo_between hbefore hafter hb hids

theorem undo (h : e.Links source target) (hb : b.WellNoted)
    (hids : b.templates.map (·.id) = target) :
    (e.undo.applyTo b).WellNoted ∧ (e.undo.applyTo b).templates.map (·.id) = source := by
  cases h with
  | between hbefore hafter => exact Patch.wellNoted_applyTo_between hafter hbefore hb hids

end Edit.Links

/-- The edits can be passed one after the other, the first one from the order `ids`. Each is entered
    and left at the two orders that `pass` names for it. -/
def Passable (pass : Edit → List String → List String → Prop) (ids : List String) :
    List Edit → Prop
  | [] => True
  | e :: rest => ∃ next, pass e ids next ∧ Passable pass next rest

/-! ## Runs -/

namespace Editor

/-- The board is well noted, the edits to be undone lead back from the order of its ids, and the
    edits to be redone lead on from it. -/
structure WellKept (e : Editor) : Prop where
  board : e.board.WellNoted
  back : Passable (fun edit ids next => edit.Links next ids) (e.board.templates.map (·.id))
    e.undoStack
  on : Passable Edit.Links (e.board.templates.map (·.id)) e.redoStack

theorem wellKept_start {board : Board} (h : board.WellNoted) : (start board).WellKept :=
  ⟨h, trivial, trivial⟩

namespace WellKept

variable {e : Editor} (h : e.WellKept)
include h

theorem edit {target : Board} (htarget : (target.templates.map (·.id)).Nodup) :
    (e.edit target).WellKept := by
  have hlinks : (Edit.between e.board target).Links _ _ := .between h.board.ids htarget
  obtain ⟨hboard, hids⟩ := hlinks.update h.board rfl
  exact {
    board := hboard
    back := ⟨_, hids ▸ hlinks, h.back⟩
    on := trivial }

theorem undo? {e' : Editor} (hundo : e.undo? = some e') : e'.WellKept := by
  obtain ⟨board, undoStack, redoStack⟩ := e
  cases undoStack with
  | nil => cases hundo
  | cons step rest =>
    obtain ⟨next, hlinks, hrest⟩ := h.back
    obtain ⟨hboard, hids⟩ := hlinks.undo h.board rfl
    obtain rfl := Option.some.inj hundo
    exact {
      board := hboard
      back := hids ▸ hrest
      on := ⟨_, hids ▸ hlinks, h.on⟩ }

theorem redo? {e' : Editor} (hredo : e.redo? = some e') : e'.WellKept := by
  obtain ⟨board, undoStack, redoStack⟩ := e
  cases redoStack with
  | nil => cases hredo
  | cons step rest =>
    obtain ⟨next, hlinks, hrest⟩ := h.on
    obtain ⟨hboard, hids⟩ := hlinks.update h.board rfl
    obtain rfl := Option.some.inj hredo
    exact {
      board := hboard
      back := ⟨_, hids ▸ hlinks, h.back⟩
      on := hids ▸ hrest }

theorem act {action : Action}
    (htarget : ∀ target, action = .edit target → (target.templates.map (·.id)).Nodup) :
    (e.act action).WellKept := by
  cases action with
  | edit target => exact h.edit (htarget target rfl)
  | undo =>
    rw [Editor.act]
    cases hundo : e.undo? with
    | none => exact h
    | some e' => exact h.undo? hundo
  | redo =>
    rw [Editor.act]
    cases hredo : e.redo? with
    | none => exact h
    | some e' => exact h.redo? hredo

theorem run {actions : List Action}
    (htargets : ∀ target, .edit target ∈ actions → (target.templates.map (·.id)).Nodup) :
    (e.run actions).WellKept := by
  induction actions generalizing e with
  | nil => exact h
  | cons action actions ih =>
    have hact : (e.act action).WellKept :=
      h.act fun target haction => htargets target (haction ▸ List.mem_cons_self ..)
    exact ih hact fun target htarget => htargets target (List.mem_cons_of_mem _ htarget)

end WellKept

/-- Every board that an editor reaches has distinct template ids, and each of its templates stands
    at the position that it notes, if it notes one. The boards to edit to may note what they like. -/
theorem run_wellNoted (board : Board) (actions : List Action) (hboard : board.WellNoted)
    (htargets : ∀ target, .edit target ∈ actions → (target.templates.map (·.id)).Nodup) :
    ((Editor.start board).run actions).board.WellNoted :=
  ((wellKept_start hboard).run htargets).board

/-- A template goes and another one moves up, both versions with stale notes, and after that a name
    is changed. Both edits are taken back, and one of them is made again. -/
theorem run_wellNoted_stale_targets :
    let plan : Template := ⟨"plan", "Plan", .text, [], none⟩
    let owner : Template := ⟨"owner", "Owner", .person, [], some 1⟩
    let due : Template := ⟨"due", "Due", .date, [], none⟩
    let board := Board.new "b" "Board" 0 [plan, owner, due]
    let shorter := Board.new "b" "Board" 0 [due.withIndex 2, plan.withIndex 7]
    let renamed := Board.new "b" "Board" 0
      [due.withIndex 5, { plan.withIndex 0 with name := "Goal" }]
    board.WellNoted ∧
      ((Editor.start board).run
        [.edit shorter, .edit renamed, .undo, .undo, .redo]).board.WellNoted := by
  intro plan owner due board shorter renamed
  have hboard : board.WellNoted := by
    refine ⟨by decide, fun i t ht => ?_⟩
    match i, ht with
    | 0, ht | 2, ht => exact .inl (Option.some.inj ht ▸ rfl)
    | 1, ht => exact .inr (Option.some.inj ht ▸ rfl)
  refine ⟨hboard, run_wellNoted board _ hboard fun target htarget => ?_⟩
  obtain rfl | rfl : target = shorter ∨ target = renamed := by simpa using htarget
  · decide
  · decide

end Editor
end Corkboard
